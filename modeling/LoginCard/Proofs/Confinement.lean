import LoginCard.Proofs.Footprint
import LoginCard.Proofs.Runs

/-!
# What a run does to the files

Of all files a run writes at most the one that it keeps its language in, and of all directories it
makes at most those on the way there. A run that keeps its language nowhere touches no file, and
neither does one that finds a current choice and is not switched.
-/

namespace LoginCard

open FileTree (Spares)

/-- To save languages to a file touches that file, with the directories on the way to it. -/
theorem Choice.saveAll_spares (s : FileStorage) (ls : List Language) :
    Spares (s.files.ancestorsOf s.path) [s.files.placeOf s.path] s.files
      (saveAll s ls).1.files := by
  induction ls generalizing s with
  | nil => exact .refl _ _ s.files
  | cons l ls ih =>
    have saved : (saveOrWarn s l).1 = (Storage.set s key (current l).encode).after :=
      after_saveOrWarn s l
    have first := FileStorage.set_spares s key (current l).encode
    have rest := ih (Storage.set s key (current l).encode).after
    rw [FileStorage.path_set, first.placeOf, first.ancestorsOf] at rest
    show Spares _ _ s.files (saveAll (saveOrWarn s l).1 ls).1.files
    rw [saved]
    exact first.trans rest

namespace Program

section Runs

variable (a : Arguments) (s : Surroundings)

/-- The file that a run keeps its language in, unless it is told to keep it nowhere: the one that it
is told, or else the one that its configuration names, or else the one where users keep it. -/
theorem storagePath_eq_named (persists : a.noPersist = false) :
    storagePath a s =
      (a.storage.or ((configPath a s).bind fun config =>
        (ConfigFile.load s.files config).1.storagePath)).or
        (Config.defaultStoragePath s.dataDirectory) := by
  have configured : (loadConfig a s).1.storagePath =
      ((configPath a s).bind fun config => (ConfigFile.load s.files config).1.storagePath).or
        (Config.defaultStoragePath s.dataDirectory) := by
    unfold loadConfig configPath Config.loadDefault
    cases a.config with
    | some config => rfl
    | none => cases Config.defaultPath s.configDirectory <;> rfl
  rw [storagePath_eq, persists, configured, Option.or_assoc]
  rfl

/-- A run switches to no language if there is no such route, or none is requested that there is. -/
theorem switchedTo_eq_none (unasked : Route.ofPath? a.path = none ∨
    ∀ tag, a.locale = some tag → ∀ l : Language, tag ≠ l.tag) : switchedTo a = none := by
  rcases unasked with nowhere | unsupported
  · simp [switchedTo, nowhere]
  cases asked : a.locale with
  | none => simp [switchedTo, asked]
  | some tag =>
    have unknown := Language.ofTag?_eq_none_iff.mpr (unsupported tag asked)
    simp [switchedTo, asked, unknown]

section OnDisk

variable {a s} {path : String} (kept : storagePath a s = some path)

include kept

theorem files_spared :
    Spares (s.files.ancestorsOf path) [s.files.placeOf path] s.files (runWith a s).files := by
  rw [(runWith_ran a s).files path kept]
  exact Choice.saveAll_spares (FileStorage.mk path s.files) (saves a s)

/-- A run that finds a current choice and is not switched leaves the files as they are. -/
theorem files_of_loaded {l : Language}
    (loaded : (Choice.load (FileStorage.mk path s.files)).1 = .ok l)
    (still : switchedTo a = none) : (runWith a s).files = s.files := by
  have nothing : saves a s = [] := by simp [saves, repairs, Choice.missing, kept, loaded, still]
  rw [(runWith_ran a s).files path kept, nothing]
  rfl

end OnDisk

end Runs

/-- For every run with arguments that were understood. -/
theorem run_touches_storage_file (a : Arguments) (s : Surroundings) :
    let after := (runWith a s).files
    let named := a.storage.or ((configPath a s).bind fun config =>
      (ConfigFile.load s.files config).1.storagePath)
    let file := named.or (Config.defaultStoragePath s.dataDirectory)
    (a.noPersist = true ∨ file = none → after = s.files) ∧
    ∀ path, file = some path →
      (∀ place e, s.files.find path = .ok (place, e) ∨ after.find path = .ok (place, e) →
        place = s.files.placeOf path) ∧
      (∀ place bytes, place ≠ s.files.placeOf path →
        (after.look place = some (.file bytes) ↔ s.files.look place = some (.file bytes))) ∧
      (∀ place, s.files.look place = some .directory → after.look place = some .directory) ∧
      (∀ place, after.look place = some .directory → s.files.look place = some .directory ∨
        s.files.look place = none ∧ place ∈ s.files.ancestorsOf path) ∧
      ∀ l, (Choice.load (FileStorage.mk path s.files)).1 = .ok l →
        (Route.ofPath? a.path = none ∨
          ∀ tag, a.locale = some tag → ∀ l' : Language, tag ≠ l'.tag) →
        after = s.files := by
  intro after named file
  have still : a.noPersist = true ∨ file = none → after = s.files := by
    intro nowhere
    refine (runWith_ran a s).aside ?_
    cases persists : a.noPersist with
    | true => simp [storagePath_eq, persists]
    | false =>
      rw [storagePath_eq_named a s persists]
      exact nowhere.resolve_left (by simp [persists])
  refine ⟨still, fun path chosen => ?_⟩
  have spared : Spares (s.files.ancestorsOf path) [s.files.placeOf path] s.files after := by
    cases persists : a.noPersist with
    | true =>
      rw [still (.inl persists)]
      exact .refl _ _ s.files
    | false => exact files_spared ((storagePath_eq_named a s persists).trans chosen)
  refine ⟨?_, ?_, ?_, ?_, ?_⟩
  · rintro place e (found | found)
    · exact FileTree.placeOf_of_find found
    · exact (FileTree.placeOf_of_find found).trans (spared.placeOf path)
  · intro place bytes other
    exact spared.file_iff (by simpa using other) bytes
  · intro place stood
    exact spared.directory_kept stood
  · intro place stands
    exact spared.directory_before stands
  · intro l loaded unasked
    cases persists : a.noPersist with
    | true => exact still (.inl persists)
    | false =>
      have kept := (storagePath_eq_named a s persists).trans chosen
      exact files_of_loaded kept loaded (switchedTo_eq_none a unasked)

end Program

end LoginCard
