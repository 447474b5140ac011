import LoginCard.Proofs.FileStorage

/-!
# Restoring a choice repairs its file

A choice that was saved is loaded again. What cannot be loaded is replaced by the fallback, so the
next start finds a current record: in a file that is missing, that is no document, or whose record
is of any other shape. Only bytes that are no text stay as they are, since the document is read
again before it is written.
-/

namespace LoginCard

namespace Choice

section Storages

variable {σ : Type} [Storage σ] {s : σ}

/-- The record of a language under today's strings is current. -/
theorem ofSlot_current (l : Language) : ofSlot (some (current l).encode) = .ok l := by
  cases l <;> rfl

/-- To load looks at what stands in the slot. -/
theorem load_of_answer {slot : Option Toml.Value}
    (answered : (Storage.get s key).result = .ok slot) : (load s).1 = ofSlot slot := by
  simp [load, answered]

theorem after_load (s : σ) : (load s).2.1 = (Storage.get s key).after := rfl

theorem after_saveOrWarn (s : σ) (l : Language) : (saveOrWarn s l).1 = (save s l).after := by
  unfold saveOrWarn
  dsimp only
  split <;> rfl

theorem restore_eq (s : σ) (fallback : Language) :
    restore s fallback =
      match (load s).1 with
      | .ok l => (l, (load s).2.1, (load s).2.2 ++ [.restored l])
      | .error e =>
        (fallback, (saveOrWarn (load s).2.1 fallback).1,
          (load s).2.2 ++ failureRecord fallback e :: (saveOrWarn (load s).2.1 fallback).2) := by
  unfold restore
  obtain ⟨loaded, _, _⟩ := load s
  cases loaded <;> rfl

/-- The language that is restored. -/
def loadedOr (s : σ) (fallback : Language) : Language :=
  match (load s).1 with
  | .ok l => l
  | .error _ => fallback

/-- What is saved to restore a language: the fallback, if none can be loaded. -/
def missing (s : σ) (fallback : Language) : List Language :=
  match (load s).1 with
  | .ok _ => []
  | .error _ => [fallback]

theorem restore_fst (s : σ) (fallback : Language) :
    (restore s fallback).1 = loadedOr s fallback := by
  rw [restore_eq, loadedOr]
  cases (load s).1 <;> rfl

/-- A choice that can be loaded is kept, and nothing is saved. -/
theorem restore_of_loaded {l : Language} (loaded : (load s).1 = .ok l) (fallback : Language) :
    (restore s fallback).1 = l ∧ (restore s fallback).2.1 = (load s).2.1 := by
  rw [restore_eq, loaded]
  exact ⟨rfl, rfl⟩

/-- What cannot be loaded is replaced by the fallback. -/
theorem restore_of_fault {e : RestoreFault} (fault : (load s).1 = .error e) (fallback : Language) :
    (restore s fallback).1 = fallback ∧
      (restore s fallback).2.1 = (save (load s).2.1 fallback).after := by
  rw [restore_eq, fault]
  exact ⟨rfl, after_saveOrWarn _ fallback⟩

end Storages

section InFile

variable {s : FileStorage} {doc : Toml.Table}

theorem load_eq (document : s.document.1 = .ok doc) :
    (load s).1 = ofSlot (Keyed.find? key doc) :=
  load_of_answer (FileStorage.get_eq document)

theorem load_unreadable {e : StorageFault} (document : s.document.1 = .error e) :
    (load s).1 = .error (.storage e) := by
  simp [load, FileStorage.get_unreadable document]

theorem after_load_file (s : FileStorage) : (load s).2.1 = s :=
  (after_load s).trans (FileStorage.after_get s key)

/-- What was saved is loaded. -/
theorem load_saved {l : Language} (document : s.document.1 = .ok doc)
    (succeeded : (save s l).result = .ok ())
    (readsBack : Toml.Table.ReadsBack (Keyed.insert key (current l).encode doc)) :
    (load (save s l).after).1 = .ok l := by
  obtain ⟨doc₁, same, written⟩ := FileStorage.written_of_set succeeded
  obtain rfl : doc = doc₁ := Except.ok.inj (document.symm.trans same)
  rw [save, load_eq (written.document readsBack), Keyed.find?_insert, if_pos rfl]
  exact ofSlot_current l

/-- A file that is there and holds no text. -/
theorem document_of_notText (notText : s.files.readText s.path = .error .notText) :
    s.document.1 = .error (.read s.path .notText) :=
  FileStorage.document_unreadable notText (by decide)

/-- Such a file stays as it is: to save the fallback reads it again. -/
theorem restore_of_notText (notText : s.files.readText s.path = .error .notText)
    (fallback : Language) : (restore s fallback).1 = fallback ∧ (restore s fallback).2.1 = s := by
  have document := document_of_notText notText
  obtain ⟨used, after⟩ := restore_of_fault (load_unreadable document) fallback
  refine ⟨used, ?_⟩
  -- The fallback is to be set in the document, and there is none: nothing is written.
  rw [after, after_load_file, save]
  exact (FileStorage.set_unreadable document).2

/-- Every document is repaired, whatever it holds. -/
theorem restore_of_document (document : s.document.1 = .ok doc)
    (writable : s.files.CanWrite s.path) {fallback : Language}
    (readsBack : (∀ l, (load s).1 ≠ .ok l) →
      Toml.Table.ReadsBack (Keyed.insert key (current fallback).encode doc)) :
    (load (restore s fallback).2.1).1 = .ok (restore s fallback).1 ∧
      (restore s fallback).2.1.path = s.path := by
  cases loaded : (load s).1 with
  | ok l =>
    obtain ⟨kept, after⟩ := restore_of_loaded loaded fallback
    rw [kept, after, after_load_file]
    exact ⟨loaded, rfl⟩
  | error e =>
    obtain ⟨used, after⟩ := restore_of_fault loaded fallback
    have succeeded : (save s fallback).result = .ok () :=
      FileStorage.set_succeeds document writable
    obtain ⟨_, _, written⟩ := FileStorage.written_of_set succeeded
    rw [used, after, after_load_file]
    exact ⟨load_saved document succeeded (readsBack (by simp [loaded])), written.path⟩

/-- For every file that can be read and written, and none: the next start finds a current record
exactly where the file was not one that holds something else than text. -/
theorem restore_repairs_text (s : FileStorage) (fallback : Language)
    (readable : (∃ bytes, s.files.readBytes s.path = .ok bytes) ∨
      s.files.readBytes s.path = .error .missing)
    (writable : s.files.CanWrite s.path)
    (readsBack : ∀ doc, s.document.1 = .ok doc → (∀ l, (load s).1 ≠ .ok l) →
      Toml.Table.ReadsBack (Keyed.insert key (current fallback).encode doc)) :
    let restored := restore s fallback
    let next := FileStorage.mk s.path restored.2.1.files
    ((load next).1 = .ok restored.1 ↔ s.files.readText s.path ≠ .error .notText) ∧
      (s.files.readText s.path = .error .notText →
        restored.1 = fallback ∧ restored.2.1.files = s.files ∧
        (load next).1 = .error (.storage (.read s.path .notText))) := by
  intro restored next
  by_cases notText : s.files.readText s.path = .error .notText
  · obtain ⟨used, after⟩ := restore_of_notText notText fallback
    have fault : (load next).1 = .error (.storage (.read s.path .notText)) := by
      have same : next = s := congrArg (fun t : FileStorage => FileStorage.mk s.path t.files) after
      rw [same]
      exact load_unreadable (document_of_notText notText)
    exact ⟨by simp [fault, notText], fun _ => ⟨used, congrArg FileStorage.files after, fault⟩⟩
  · have document : s.document.1 = .ok (s.files.contents s.path) := by
      apply FileStorage.document_eq
      unfold FileTree.readText at notText ⊢
      rcases readable with ⟨bytes, read⟩ | missing
      · cases decoded : String.fromUTF8? bytes with
        | none => simp [read, decoded] at notText
        | some text => exact .inr ⟨text, by simp [read, decoded]⟩
      · exact .inl (by simp [missing])
    obtain ⟨loaded, path⟩ := restore_of_document document writable (readsBack _ document)
    have same : next = restored.2.1 := congrArg (FileStorage.mk · restored.2.1.files) path.symm
    rw [same]
    exact ⟨iff_of_true loaded notText, fun absent => absurd absent notText⟩

end InFile

/-- A file that is not TOML. -/
def corrupt : FileStorage :=
  ⟨"card.toml", FileTree.empty.set ["card.toml"] (.file "locale = [[[".toUTF8)⟩

theorem restore_repairs_corrupt :
    (load (FileStorage.mk "card.toml" (restore corrupt .russian).2.1.files)).1 =
      .ok (restore corrupt .russian).1 := by
  have contents : corrupt.files.contents "card.toml" = [] := by decide +kernel
  have text : corrupt.files.readText "card.toml" = .ok "locale = [[[" := by rfl
  refine (restore_repairs_text corrupt .russian (.inl ⟨_, rfl⟩) ⟨_, rfl, fun _ => rfl⟩ ?_).1.mpr ?_
  · intro doc document _
    obtain rfl := FileStorage.contents_of_document document
    show Toml.Table.ReadsBack
      (Keyed.insert key (current .russian).encode (corrupt.files.contents "card.toml"))
    rw [contents]
    decide +kernel
  · show corrupt.files.readText "card.toml" ≠ _
    rw [text]
    exact nofun

/-- A file of one byte that is no text. -/
def undecodable : FileStorage :=
  ⟨"card.toml", FileTree.empty.set ["card.toml"] (.file ⟨#[0xff]⟩)⟩

theorem restore_leaves_undecodable :
    undecodable.files.readBytes "card.toml" = .ok ⟨#[0xff]⟩ ∧
      undecodable.files.CanWrite "card.toml" ∧ (∀ doc, undecodable.document.1 ≠ .ok doc) ∧
      (load (FileStorage.mk "card.toml" (restore undecodable .english).2.1.files)).1 ≠
        .ok (restore undecodable .english).1 := by
  have notText : undecodable.files.readText undecodable.path = .error .notText := by rfl
  have document := document_of_notText notText
  refine ⟨rfl, ⟨_, rfl, fun _ => rfl⟩, by simp [document], ?_⟩
  rw [(restore_of_notText notText .english).2]
  show (load undecodable).1 ≠ _
  rw [load_unreadable document]
  exact nofun

end Choice

end LoginCard
