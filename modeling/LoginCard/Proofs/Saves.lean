import LoginCard.Proofs.Calls

/-!
# Saving one language after the other

Of the languages that were saved to a file without a warning, the last one is loaded. To restore a
language saves at most one, the fallback. A storage that is not on disk leaves the files alone.
-/

namespace LoginCard

namespace Choice

section Storages

variable {σ : Type} [Storage σ] {s : σ}

/-- Saves languages, and logs each failure to do so. -/
def saveAll (s : σ) : List Language → σ × List LogRecord
  | [] => (s, [])
  | l :: ls =>
    let (s, records) := saveOrWarn s l
    let (s, more) := saveAll s ls
    (s, records ++ more)

/-- No language of a log was left unsaved. -/
def Quiet (records : List LogRecord) : Prop := ∀ l cause, .notPersisted l cause ∉ records

theorem Quiet.mono {some all : List LogRecord} (quiet : Quiet all) (part : some ⊆ all) :
    Quiet some :=
  fun l cause member => quiet l cause (part member)

theorem saveAll_append (s : σ) (ls more : List Language) :
    saveAll s (ls ++ more) =
      ((saveAll (saveAll s ls).1 more).1,
        (saveAll s ls).2 ++ (saveAll (saveAll s ls).1 more).2) := by
  induction ls generalizing s with
  | nil => rfl
  | cons l ls ih => simp only [List.cons_append, saveAll, ih, List.append_assoc]

/-- A failure is always logged. -/
theorem save_of_quiet {l : Language} (quiet : Quiet (saveOrWarn s l).2) :
    (save s l).result = .ok () := by
  unfold saveOrWarn at quiet
  dsimp only at quiet
  split at quiet
  · assumption
  · exact absurd (List.mem_append_right _ (List.mem_singleton_self _)) (quiet l _)

end Storages

/-- To restore a language saves what is missing. -/
theorem restore_file (s : FileStorage) (fallback : Language) :
    (restore s fallback).2.1 = (saveAll s (missing s fallback)).1 ∧
      (saveAll s (missing s fallback)).2 ⊆ (restore s fallback).2.2 := by
  rw [restore_eq, missing, after_load_file]
  cases (load s).1 with
  | ok l => exact ⟨rfl, List.nil_subset _⟩
  | error e =>
    refine ⟨rfl, ?_⟩
    intro record member
    simp only [saveAll, List.append_nil] at member
    exact List.mem_append_right _ (List.mem_cons_of_mem _ member)

/-- The calls that save languages. -/
def saving (ls : List Language) : List Call := ls.map fun l => .set key (current l).encode

theorem path_saveAll (s : FileStorage) (ls : List Language) : (saveAll s ls).1.path = s.path := by
  induction ls generalizing s with
  | nil => rfl
  | cons l ls ih =>
    refine (ih (saveOrWarn s l).1).trans ?_
    rw [after_saveOrWarn]
    exact FileStorage.path_set s key _

/-- The last language of those that were saved is loaded. -/
theorem load_saveAll (s : FileStorage) (ls : List Language) (quiet : Quiet (saveAll s ls).2)
    (readsBack : ∀ doc ∈ Call.documents (s.files.contents s.path) (saving ls),
      Toml.Table.ReadsBack doc) :
    (load (saveAll s ls).1).1 = (ls.getLast?.map Except.ok).getD (load s).1 := by
  induction ls generalizing s with
  | nil => rfl
  | cons l ls ih =>
    have succeeded : (save s l).result = .ok () :=
      save_of_quiet (quiet.mono (List.subset_append_left _ _))
    obtain ⟨doc, document, written⟩ := FileStorage.written_of_set succeeded
    have contents : s.files.contents s.path = doc := FileStorage.contents_of_document document
    rw [contents] at readsBack
    -- What is saved next goes into the document with this language in it.
    have first := readsBack _ List.mem_cons_self
    have after : (saveOrWarn s l).1.files.contents (saveOrWarn s l).1.path =
        Keyed.insert key (current l).encode doc := by
      rw [after_saveOrWarn]
      exact FileStorage.contents_of_document (written.document first)
    refine (ih (saveOrWarn s l).1 (quiet.mono (List.subset_append_right _ _)) ?_).trans ?_
    · rw [after]
      exact fun doc member => readsBack doc (List.mem_cons_of_mem _ member)
    · rw [after_saveOrWarn, load_saved document succeeded first, List.getLast?_cons]
      cases ls.getLast? <;> rfl

end Choice

theorem Mounted.InFile.saveAll {m : Mounted} {s : FileStorage} (stands : m.InFile s)
    (ls : List Language) :
    (Choice.saveAll m ls).2 = (Choice.saveAll s ls).2 ∧
      (Choice.saveAll m ls).1.InFile (Choice.saveAll s ls).1 := by
  induction ls generalizing m s with
  | nil => exact ⟨rfl, stands⟩
  | cons l ls ih =>
    obtain ⟨records, after⟩ := stands.saveOrWarn l
    obtain ⟨more, last⟩ := ih after
    exact ⟨by simp only [Choice.saveAll, records, more], last⟩

/-! ## Storages that are not on disk -/

namespace Mounted

/-- The storage does not lie on disk, and the files are these. -/
def Aside (m : Mounted) (files : FileTree) : Prop :=
  (∃ memory, m.shelf.medium = .memory memory) ∧ m.files = files

namespace Aside

variable {m : Mounted} {files : FileTree}

theorem get (aside : m.Aside files) (key : String) : (Storage.get m key).after.Aside files := by
  obtain ⟨⟨memory, medium⟩, same⟩ := aside
  show (m.get key).after.Aside files
  unfold Mounted.get
  dsimp only
  split
  · exact ⟨⟨memory, medium⟩, same⟩
  · rw [medium]
    exact ⟨⟨memory, rfl⟩, same⟩

theorem set (aside : m.Aside files) (key : String) (v : Toml.Value) :
    (Storage.set m key v).after.Aside files := by
  obtain ⟨⟨memory, medium⟩, same⟩ := aside
  show (m.set key v).after.Aside files
  unfold Mounted.set
  dsimp only
  split
  · exact ⟨⟨memory, medium⟩, same⟩
  · rw [medium]
    exact ⟨⟨_, rfl⟩, same⟩

theorem saveOrWarn (aside : m.Aside files) (l : Language) :
    (Choice.saveOrWarn m l).1.Aside files := by
  rw [Choice.after_saveOrWarn]
  exact aside.set _ _

theorem restore (aside : m.Aside files) (fallback : Language) :
    (Choice.restore m fallback).2.1.Aside files := by
  have after : (Choice.load m).2.1.Aside files := aside.get Choice.key
  rw [Choice.restore_eq]
  cases (Choice.load m).1 with
  | ok l => exact after
  | error e => exact after.saveOrWarn fallback

theorem saveAll (aside : m.Aside files) (ls : List Language) :
    (Choice.saveAll m ls).1.Aside files := by
  induction ls generalizing m with
  | nil => exact aside
  | cons l ls ih => exact ih (aside.saveOrWarn l)

end Aside

end Mounted

end LoginCard
