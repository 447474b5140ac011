import LoginCard.Proofs.Footprint

/-!
# A storage in a file damages no file

To get a slot changes nothing. To set one that fails leaves every file as it is: what it may have
made by then are directories on the way that were missing, and not even those if the document could
not be read. To set one that succeeds changes the file at the path alone.
-/

namespace LoginCard

/-- A directory has no text. -/
theorem FileTree.readText_of_directory {t : FileTree} {path : String} {place : List String}
    (found : t.find path = .ok (place, .directory)) : t.readText path = .error .isDirectory := by
  simp [readText, readBytes, found]

namespace FileStorage

open FileTree (Spares)

variable {s : FileStorage} {doc : Toml.Table} {key : String} {v : Toml.Value} {e : StorageFault}

/-- To set an entry that fails makes directories on the way at most, and none if the document could
not be read. -/
theorem set_failed (failed : (Storage.set s key v).result = .error e) :
    Spares (s.files.ancestorsOf s.path) [] s.files (Storage.set s key v).after.files ∧
      ((∃ cause, e = .read s.path cause ∧ s.files.readText s.path = .error cause) ∧
          (Storage.set s key v).after = s ∨
        ∃ cause, e = .write s.path cause) := by
  cases document : s.document.1 with
  | error e' =>
    have unset : (Storage.set s key v).result = .error e' ∧ (Storage.set s key v).after = s :=
      set_unreadable document
    obtain ⟨result, after⟩ := unset
    obtain rfl : e' = e := Except.error.inj (result.symm.trans failed)
    rw [after]
    exact ⟨.refl _ _ s.files, .inl ⟨document_error document, rfl⟩⟩
  | ok doc =>
    obtain ⟨result, after⟩ := set_eq document key v
    rw [result] at failed
    rw [after]
    obtain ⟨fault, spared⟩ := write_failed failed
    exact ⟨spared, .inr fault⟩

/-- Where an entry was set, its document stands at the path. -/
theorem look_of_set (succeeded : (Storage.set s key v).result = .ok ()) :
    ∃ doc, s.document.1 = .ok doc ∧ (Storage.set s key v).after.files.look (s.files.placeOf s.path) =
      some (.file (Toml.Table.print (Keyed.insert key v doc)).toUTF8) := by
  cases document : s.document.1 with
  | error e =>
    rw [(set_unreadable document).1] at succeeded
    cases succeeded
  | ok doc =>
    obtain ⟨result, after⟩ := set_eq document key v
    rw [result] at succeeded
    obtain ⟨files, made, put⟩ := write_eq succeeded
    obtain ⟨here, last, led, _⟩ := FileTree.writeBytes_eq put
    have same : files.placeOf s.path = s.files.placeOf s.path := by
      have spared := FileTree.makeParents_spares s.files s.path
      rw [made] at spared
      exact spared.placeOf s.path
    refine ⟨doc, rfl, ?_⟩
    rw [after, ← same, FileTree.placeOf_of_approach led]
    exact FileTree.look_written put led

/-- An entry can be set where the document can be read and written. -/
theorem set_succeeds_iff : (Storage.set s key v).result = .ok () ↔
    (s.files.readText s.path = .error .missing ∨ ∃ text, s.files.readText s.path = .ok text) ∧
      s.files.CanWrite s.path := by
  constructor
  · intro succeeded
    obtain ⟨doc, document, _⟩ := look_of_set succeeded
    rw [(set_eq document key v).1] at succeeded
    obtain ⟨files, made, put⟩ := write_eq succeeded
    exact ⟨readable_of_document document, files, made, FileTree.writeBytes_succeeds put⟩
  · rintro ⟨readable, writable⟩
    exact set_succeeds (document_eq readable) writable

/-- A file that cannot be read, a directory on the way that cannot be made, and a path that leads to
a directory or asks for one: each keeps an entry from being set. -/
theorem set_refused
    (cause : (∃ cause, s.files.readText s.path = .error cause ∧ cause ≠ .missing) ∨
      (∃ cause, (s.files.makeParents s.path).1 = .error cause) ∨
      (∃ place, s.files.find s.path = .ok (place, .directory)) ∨ asksDirectory s.path = true) :
    (Storage.set s key v).result ≠ .ok () := by
  intro succeeded
  obtain ⟨readable, files, made, writes⟩ := set_succeeds_iff.mp succeeded
  have unread : ∀ cause, s.files.readText s.path = .error cause → cause = .missing := by
    intro cause fault
    rcases readable with missing | ⟨text, read⟩
    · exact Except.error.inj (fault.symm.trans missing)
    · rw [read] at fault
      cases fault
  rcases cause with ⟨cause, fault, there⟩ | ⟨cause, refused⟩ | ⟨place, found⟩ | asks
  · exact there (unread cause fault)
  · rw [made] at refused
    cases refused
  · cases unread _ (FileTree.readText_of_directory found)
  · have put : files.writeBytes s.path .empty = (.ok (), (files.writeBytes s.path .empty).2) :=
      Prod.ext (writes .empty) rfl
    obtain ⟨_, _, _, plain, _⟩ := FileTree.writeBytes_eq put
    rw [plain] at asks
    cases asks

/-- For every tree of files, path, key and value. -/
theorem set_damages_nothing (s : FileStorage) (key : String) (v : Toml.Value) :
    let before := s.files
    let set := Storage.set s key v
    let after := set.after.files
    let asBefore (place : List String) : Prop :=
      (∀ bytes, after.look place = some (.file bytes) ↔ before.look place = some (.file bytes)) ∧
      (after.look place = before.look place ∨ place ∈ before.ancestorsOf s.path ∧
        before.look place = none ∧ after.look place = some .directory)
    (Storage.get s key).after = s ∧
    (∀ e, set.result = .error e → (∀ place, asBefore place) ∧
      ((∃ path cause, e = .read path cause) → after = before)) ∧
    (set.result = .ok () →
      (∀ place, place ≠ before.placeOf s.path → asBefore place) ∧
      ∃ doc, s.document.1 = .ok doc ∧ after.look (before.placeOf s.path) =
        some (.file (Toml.Table.print (Keyed.insert key v doc)).toUTF8)) ∧
    (set.result = .ok () ↔
      (before.readText s.path = .error .missing ∨ ∃ text, before.readText s.path = .ok text) ∧
        before.CanWrite s.path) ∧
    ((∃ cause, before.readText s.path = .error cause ∧ cause ≠ .missing) ∨
      (∃ cause, (before.makeParents s.path).1 = .error cause) ∨
      (∃ place, before.find s.path = .ok (place, .directory)) ∨ asksDirectory s.path = true →
      set.result ≠ .ok ()) := by
  intro before set after asBefore
  refine ⟨after_get s key, ?_, ?_, set_succeeds_iff, set_refused⟩
  · intro e failed
    obtain ⟨spared, fault⟩ := set_failed failed
    refine ⟨fun place => ⟨spared.file_iff (by simp), spared.as_before (by simp)⟩, ?_⟩
    rintro ⟨path, cause, read⟩
    rcases fault with ⟨_, unchanged⟩ | ⟨cause', written⟩
    · exact congrArg FileStorage.files unchanged
    · rw [written] at read
      cases read
  · intro succeeded
    have spared := set_spares s key v
    refine ⟨fun place other => ?_, look_of_set succeeded⟩
    exact ⟨spared.file_iff (by simpa using other), spared.as_before (by simpa using other)⟩

/-- A file where the path has a directory, behind one that is missing. -/
def blocked : FileStorage :=
  ⟨"new/../file/card.toml", FileTree.empty.set ["file"] (.file "text".toUTF8)⟩

/-- The missing directory is made before the file is met. -/
theorem blocked_makes_directory :
    (Storage.set blocked "locale" (.string "ru_RU")).result =
        .error (.write "new/../file/card.toml" .exists) ∧
      (Storage.set blocked "locale" (.string "ru_RU")).after.files.look ["new"] = some .directory ∧
      (Storage.set blocked "locale" (.string "ru_RU")).after.files.look ["file"] =
        some (.file "text".toUTF8) := by
  have failed : (Storage.set blocked "locale" (.string "ru_RU")).result =
      .error (.write "new/../file/card.toml" .exists) := by rfl
  have harmless := (set_damages_nothing blocked "locale" (.string "ru_RU")).2.1 _ failed
  exact ⟨failed, rfl, ((harmless.1 ["file"]).1 _).mpr rfl⟩

end FileStorage

end LoginCard
