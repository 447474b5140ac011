import LoginCard.Proofs.Files
import LoginCard.Choice.Restore
import LoginCard.Storage.File
import LoginCard.Toml.Equality

/-!
# Laws of a storage in a file

To get reads the document and changes nothing. To set puts the document with the new entry into the
file, where it is found again if printing it loses nothing.
-/

namespace LoginCard

/-- What is read of the printed document is the document. -/
def Toml.Table.ReadsBack (doc : Toml.Table) : Prop :=
  Toml.Table.stored? (Toml.Table.print doc) = some doc

instance (doc : Toml.Table) : Decidable (Toml.Table.ReadsBack doc) :=
  inferInstanceAs (Decidable (_ = _))

/-- The entries in the file at a path: none where there is no text or where it is not TOML. -/
def FileTree.contents (t : FileTree) (path : String) : Toml.Table :=
  match t.readText path with
  | .ok text => (Toml.Table.stored? text).getD []
  | .error _ => []

namespace FileStorage

variable {s : FileStorage} {doc : Toml.Table} {key : String} {v : Toml.Value}

/-- A file that is missing or holds text is a document. -/
theorem document_eq (readable : s.files.readText s.path = .error .missing ∨
    ∃ text, s.files.readText s.path = .ok text) :
    s.document.1 = .ok (s.files.contents s.path) := by
  rcases readable with missing | ⟨text, read⟩
  · simp [document, FileTree.contents, missing]
  · cases parsed : Toml.Table.stored? text <;> simp [document, FileTree.contents, read, parsed]

/-- Every other file is a fault, and the fault of reading it. -/
theorem document_unreadable {cause : FileFault} (unread : s.files.readText s.path = .error cause)
    (there : cause ≠ .missing) : s.document.1 = .error (.read s.path cause) := by
  cases cause <;> simp_all [document]

theorem readable_of_document (document : s.document.1 = .ok doc) :
    s.files.readText s.path = .error .missing ∨ ∃ text, s.files.readText s.path = .ok text := by
  cases read : s.files.readText s.path with
  | ok text => exact .inr ⟨text, rfl⟩
  | error cause =>
    -- A file that is missing is a document too, an empty one; every other fault is none.
    by_cases missing : cause = .missing
    · exact .inl (congrArg _ missing)
    · rw [document_unreadable read missing] at document
      cases document

/-- To read fails with a fault of reading. -/
theorem document_error {e : StorageFault} (document : s.document.1 = .error e) :
    ∃ cause, e = .read s.path cause ∧ s.files.readText s.path = .error cause := by
  cases read : s.files.readText s.path with
  | ok text =>
    rw [document_eq (.inr ⟨text, read⟩)] at document
    cases document
  | error cause =>
    by_cases missing : cause = .missing
    · subst missing
      rw [document_eq (.inl read)] at document
      cases document
    · rw [document_unreadable read missing] at document
      exact ⟨cause, (Except.error.inj document).symm, rfl⟩

theorem contents_of_document (document : s.document.1 = .ok doc) :
    s.files.contents s.path = doc :=
  Except.ok.inj ((document_eq (readable_of_document document)).symm.trans document)

/-- The document of a file is a matter of its text alone. -/
theorem document_of_sameText {s' : FileStorage} (document : s.document.1 = .ok doc)
    (same : s'.files.readText s'.path = s.files.readText s.path) : s'.document.1 = .ok doc := by
  have contents : s'.files.contents s'.path = s.files.contents s.path := by
    simp only [FileTree.contents, same]
  rw [← contents_of_document document, ← contents]
  apply document_eq
  rw [same]
  exact readable_of_document document

theorem after_get (s : FileStorage) (key : String) : (Storage.get s key).after = s := by
  show (s.get key).after = s
  unfold FileStorage.get
  split <;> rfl

theorem get_eq (document : s.document.1 = .ok doc) :
    (Storage.get s key).result = .ok (Keyed.find? key doc) := by
  show (s.get key).result = _
  unfold FileStorage.get
  split <;> simp_all

theorem get_unreadable {e : StorageFault} (document : s.document.1 = .error e) :
    (Storage.get s key).result = .error e := by
  show (s.get key).result = _
  unfold FileStorage.get
  split <;> simp_all

theorem path_write (s : FileStorage) (doc : Toml.Table) : (s.write doc).2.path = s.path := by
  unfold write
  split
  · rfl
  · split <;> rfl

theorem write_eq (written : (s.write doc).1 = .ok ()) :
    ∃ files, s.files.makeParents s.path = (.ok (), files) ∧
      files.writeBytes s.path (Toml.Table.print doc).toUTF8 = (.ok (), (s.write doc).2.files) := by
  unfold write at written ⊢
  split at written
  · cases written
  · rename_i files made
    split at written
    · cases written
    · rename_i files' put
      exact ⟨files, made, by simpa [made, put] using put⟩

theorem write_succeeds (writable : s.files.CanWrite s.path) (doc : Toml.Table) :
    (s.write doc).1 = .ok () := by
  obtain ⟨files, made, put⟩ := writable
  have stored := put (Toml.Table.print doc).toUTF8
  simp only [write, made]
  split
  · rename_i e files' failed
    rw [failed] at stored
    cases stored
  · rfl

/-- To set an entry is to write the document with it. -/
theorem set_eq (document : s.document.1 = .ok doc) (key : String) (v : Toml.Value) :
    (Storage.set s key v).result = (s.write (Keyed.insert key v doc)).1 ∧
      (Storage.set s key v).after = (s.write (Keyed.insert key v doc)).2 := by
  show (s.set key v).result = _ ∧ (s.set key v).after = _
  unfold FileStorage.set
  split <;> simp_all

theorem set_unreadable {e : StorageFault} (document : s.document.1 = .error e) :
    (Storage.set s key v).result = .error e ∧ (Storage.set s key v).after = s := by
  show (s.set key v).result = _ ∧ (s.set key v).after = _
  unfold FileStorage.set
  split <;> simp_all

theorem path_set (s : FileStorage) (key : String) (v : Toml.Value) :
    (Storage.set s key v).after.path = s.path := by
  cases document : s.document.1 with
  | ok doc => rw [(set_eq document key v).2, path_write]
  | error e => rw [(set_unreadable document).2]

/-- Where the file is a document and can be written, every entry can be set. -/
theorem set_succeeds (document : s.document.1 = .ok doc) (writable : s.files.CanWrite s.path) :
    (Storage.set s key v).result = .ok () := by
  rw [(set_eq document key v).1]
  exact write_succeeds writable _

/-- What is in the file after an entry was set. -/
structure Written (s s' : FileStorage) (doc : Toml.Table) : Prop where
  path : s'.path = s.path
  text : s'.files.readText s'.path = .ok (Toml.Table.print doc)
  writable : s'.files.CanWrite s'.path

theorem written_of_set (succeeded : (Storage.set s key v).result = .ok ()) :
    ∃ doc, s.document.1 = .ok doc ∧
      Written s (Storage.set s key v).after (Keyed.insert key v doc) := by
  cases document : s.document.1 with
  | error e =>
    rw [(set_unreadable document).1] at succeeded
    cases succeeded
  | ok doc =>
    obtain ⟨result, after⟩ := set_eq document key v
    rw [result] at succeeded
    obtain ⟨files, _, put⟩ := write_eq succeeded
    have path : (s.write (Keyed.insert key v doc)).2.path = s.path := path_write s _
    refine ⟨doc, rfl, ?_⟩
    rw [after]
    exact ⟨path, path ▸ FileTree.readText_written put, path ▸ .written put⟩

/-- A document that printing loses nothing of is found again. -/
theorem Written.document {s' : FileStorage} (written : Written s s' doc)
    (readsBack : Toml.Table.ReadsBack doc) : s'.document.1 = .ok doc := by
  rw [document_eq (.inr ⟨_, written.text⟩), FileTree.contents, written.text]
  dsimp only
  rw [readsBack, Option.getD_some]

end FileStorage

end LoginCard
