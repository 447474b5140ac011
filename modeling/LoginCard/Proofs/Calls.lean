import LoginCard.Proofs.Shelves

/-!
# A storage in a file answers as one in memory does

Any number of storages may lie in one file. Whatever is got and set through them, in whatever order,
they answer what one storage in memory answers that began with the entries of the file.
-/

namespace LoginCard

/-- A call on a storage. -/
inductive Call where
  | get (key : String)
  | set (key : String) (v : Toml.Value)

namespace Call

variable {σ : Type} [Storage σ]

/-- Makes the call. To set, if it succeeds, answers nothing. -/
def on (s : σ) : Call → Access σ (Option Toml.Value)
  | .get key => Storage.get s key
  | .set key v =>
    let access := Storage.set s key v
    ⟨access.result.map fun _ => none, access.after, access.records⟩

/-- Makes the calls one after the other: all answers, and the storage after them. -/
def all (s : σ) : List Call → List (Except StorageFault (Option Toml.Value)) × σ
  | [] => ([], s)
  | call :: rest =>
    let access := call.on s
    let (answers, s) := all access.after rest
    (access.result :: answers, s)

/-- The documents that the calls print one after the other, where the first entries are `doc`. -/
def documents (doc : Toml.Table) : List Call → List Toml.Table
  | [] => []
  | .get _ :: rest => documents doc rest
  | .set key v :: rest => Keyed.insert key v doc :: documents (Keyed.insert key v doc) rest

end Call

namespace World

variable {ρ : Type}

/-- Storage `i` lies in the file at the path. -/
def Opens (w : World ρ) (path : String) (i : Nat) : Prop :=
  ∃ shelf, w.shelves[i]? = some shelf ∧ shelf.medium = .file path ∧ shelf.Reliable

/-- Makes a call on storage `i`. -/
def call (w : World ρ) (i : Nat) (c : Call) :
    Option (Except StorageFault (Option Toml.Value) × World ρ) :=
  w.withShelf i fun m =>
    let access := c.on m
    (access.result, access.after, access.records)

/-- Makes calls on storages one after the other. -/
def calls (w : World ρ) :
    List (Nat × Call) → Option (List (Except StorageFault (Option Toml.Value)) × World ρ)
  | [] => some ([], w)
  | (i, c) :: rest => do
    let (answer, w) ← w.call i c
    let (answers, w) ← w.calls rest
    some (answer :: answers, w)

end World

/-- A storage in memory never fails. -/
theorem Call.on_memory (m : MemoryStorage) (c : Call) : ∃ slot, (c.on m).result = .ok slot := by
  cases c with
  | get key => exact ⟨Keyed.find? key m.slots, rfl⟩
  | set key v => exact ⟨none, rfl⟩

theorem Call.all_memory (m : MemoryStorage) (cs : List Call) :
    ∀ answer ∈ (all m cs).1, ∃ slot, answer = .ok slot := by
  induction cs generalizing m with
  | nil => simp [all]
  | cons c cs ih =>
    intro answer member
    rcases List.mem_cons.mp member with rfl | later
    · exact on_memory m c
    · exact ih (c.on m).after answer later

/-- A call on a storage that stands for one in a file is the call on that one. -/
theorem Call.on_file {m : Mounted} {s : FileStorage} (stands : m.InFile s) (c : Call) :
    (c.on m).result = (c.on s).result ∧ (c.on m).after.InFile (c.on s).after := by
  cases c with
  | get key =>
    obtain ⟨result, _, after⟩ := stands.get key
    exact ⟨result, after⟩
  | set key v =>
    obtain ⟨result, _, after⟩ := stands.set key v
    exact ⟨congrArg (Except.map fun _ => none) result, after⟩

/-- The file holds the entries of a storage in memory, and it can be written. -/
structure FileStorage.Mirrors (s : FileStorage) (m : MemoryStorage) : Prop where
  document : s.document.1 = .ok m.slots
  writable : s.files.CanWrite s.path

/-- One call, on the file and in memory. -/
theorem FileStorage.Mirrors.on {s : FileStorage} {m : MemoryStorage} (mirrors : s.Mirrors m)
    (c : Call) (readsBack : ∀ doc ∈ Call.documents m.slots [c], Toml.Table.ReadsBack doc) :
    (c.on s).result = (c.on m).result ∧ (c.on s).after.path = s.path ∧
      (c.on s).after.Mirrors (c.on m).after := by
  obtain ⟨document, writable⟩ := mirrors
  cases c with
  | get key =>
    have after : ((Call.get key).on s).after = s := FileStorage.after_get s key
    rw [after]
    exact ⟨FileStorage.get_eq document, rfl, document, writable⟩
  | set key v =>
    have succeeded : (Storage.set s key v).result = .ok () :=
      FileStorage.set_succeeds document writable
    obtain ⟨doc, same, written⟩ := FileStorage.written_of_set succeeded
    obtain rfl : m.slots = doc := Except.ok.inj (document.symm.trans same)
    refine ⟨?_, written.path, ?_, written.writable⟩
    · simp only [Call.on, succeeded]
      rfl
    · exact written.document (readsBack _ (List.mem_singleton_self _))

namespace World

variable {ρ : Type} {w : World ρ} {path : String} {m : MemoryStorage}

/-- The file at the path holds the entries of a storage in memory, whoever works on it. -/
def Mirrors (w : World ρ) (path : String) (m : MemoryStorage) : Prop :=
  (FileStorage.mk path w.files).Mirrors m

theorem Mirrors.contents (mirrors : w.Mirrors path m) : w.files.contents path = m.slots :=
  FileStorage.contents_of_document mirrors.document

/-- A call changes the files and one storage. -/
theorem call_eq {i : Nat} {shelf : Shelf} (there : w.shelves[i]? = some shelf) (c : Call) :
    ∃ w', w.call i c = some ((c.on (Mounted.mk shelf w.files)).result, w') ∧
      w'.files = (c.on (Mounted.mk shelf w.files)).after.files ∧
      w'.shelves = w.shelves.set i (c.on (Mounted.mk shelf w.files)).after.shelf := by
  simp [World.call, withShelf, there]

theorem Mirrors.call (mirrors : w.Mirrors path m) {i : Nat} (opens : w.Opens path i) (c : Call)
    (readsBack : ∀ doc ∈ Call.documents m.slots [c], Toml.Table.ReadsBack doc) :
    ∃ w', w.call i c = some ((c.on m).result, w') ∧ w'.Mirrors path (c.on m).after ∧
      ∀ j, w.Opens path j → w'.Opens path j := by
  obtain ⟨shelf, there, medium, reliable⟩ := opens
  have stands : (Mounted.mk shelf w.files).InFile ⟨path, w.files⟩ := ⟨medium, reliable, rfl⟩
  obtain ⟨result, medium', reliable', files⟩ := Call.on_file stands c
  obtain ⟨answer, path_eq, after⟩ := FileStorage.Mirrors.on mirrors c readsBack
  obtain ⟨w', called, files', shelves'⟩ := call_eq there c
  refine ⟨w', ?_, ?_, ?_⟩
  · rw [called, result, answer]
  -- The storages share nothing but the files, so all that counts is what is in the file now.
  · have file : FileStorage.mk path w'.files = (c.on (FileStorage.mk path w.files)).after := by
      rw [files', files]
      exact congrArg (FileStorage.mk · _) path_eq.symm
    rw [Mirrors, file]
    exact after
  · rintro j ⟨shelf₁, there₁, medium₁, reliable₁⟩
    rw [Opens, shelves', List.getElem?_set]
    by_cases here : i = j
    · have known := (List.getElem?_eq_some_iff.mp there).1
      exact ⟨_, by simp [here, here ▸ known], medium'.trans (congrArg _ path_eq), reliable'⟩
    · exact ⟨shelf₁, by simp [here, there₁], medium₁, reliable₁⟩

/-- Calls one after the other, on the file and in memory. -/
theorem Mirrors.calls (mirrors : w.Mirrors path m) (cs : List (Nat × Call))
    (opens : ∀ c ∈ cs, w.Opens path c.1)
    (readsBack : ∀ doc ∈ Call.documents m.slots (cs.map Prod.snd), Toml.Table.ReadsBack doc) :
    ∃ w', w.calls cs = some ((Call.all m (cs.map Prod.snd)).1, w') ∧
      w'.Mirrors path (Call.all m (cs.map Prod.snd)).2 ∧ ∀ j, w.Opens path j → w'.Opens path j := by
  induction cs generalizing w m with
  | nil => exact ⟨w, rfl, mirrors, fun _ => id⟩
  | cons c cs ih =>
    obtain ⟨i, c⟩ := c
    have first : ∀ doc ∈ Call.documents m.slots [c], Toml.Table.ReadsBack doc := by
      intro doc member
      apply readsBack
      cases c <;> simp_all [Call.documents]
    obtain ⟨w₁, called, mirrors₁, opens₁⟩ := mirrors.call (opens _ List.mem_cons_self) c first
    have rest : ∀ doc ∈ Call.documents (c.on m).after.slots (cs.map Prod.snd),
        Toml.Table.ReadsBack doc := by
      intro doc member
      apply readsBack
      cases c with
      | get key => exact member
      | set key v => exact List.mem_cons_of_mem _ member
    obtain ⟨w₂, more, mirrors₂, opens₂⟩ := ih mirrors₁
      (fun c' later => opens₁ _ (opens c' (List.mem_cons_of_mem _ later))) rest
    exact ⟨w₂, by simp [World.calls, called, more, Call.all], mirrors₂,
      fun j => opens₂ j ∘ opens₁ j⟩

end World

theorem Call.documents_append (m : MemoryStorage) (before after : List Call) :
    documents m.slots (before ++ after) =
      documents m.slots before ++ documents (all m before).2.slots after := by
  induction before generalizing m with
  | nil => rfl
  | cons c before ih =>
    cases c with
    | get key => exact ih m
    | set key v => exact congrArg (List.cons _) (ih ⟨Keyed.insert key v m.slots⟩)

namespace World

variable {ρ : Type}

/-- For every world, every file of it that is missing or holds text, and all calls on storages that
lie in that file. -/
theorem storages_in_file_answer_as_memory (w : World ρ) (path : String) (cs : List (Nat × Call))
    (opens : ∀ c ∈ cs, w.Opens path c.1)
    (readable : w.files.readText path = .error .missing ∨
      ∃ text, w.files.readText path = .ok text)
    (writable : w.files.CanWrite path)
    (readsBack : ∀ doc ∈ Call.documents (w.files.contents path) (cs.map Prod.snd),
      Toml.Table.ReadsBack doc) :
    let memory := MemoryStorage.mk (w.files.contents path)
    let (answers, memory') := Call.all memory (cs.map Prod.snd)
    (∃ w', w.calls cs = some (answers, w') ∧ w'.files.contents path = memory'.slots) ∧
    (∀ answer ∈ answers, ∃ slot, answer = .ok slot) ∧
    ∀ before i key v after, cs = before ++ (i, .set key v) :: after →
      ∃ done w₁ w₂, w.calls before = some (done, w₁) ∧
        w₁.call i (.set key v) = some (.ok none, w₂) ∧
        ∀ other ≠ key, Keyed.find? other (w₂.files.contents path) =
          Keyed.find? other (w₁.files.contents path) := by
  intro memory
  have mirrors : w.Mirrors path memory := ⟨FileStorage.document_eq readable, writable⟩
  refine ⟨?_, Call.all_memory memory _, ?_⟩
  · obtain ⟨w', called, after, _⟩ := mirrors.calls cs opens readsBack
    exact ⟨w', called, after.contents⟩
  · rintro before i key v after rfl
    rw [List.map_append, Call.documents_append memory] at readsBack
    obtain ⟨w₁, called, mirrors₁, opens₁⟩ := mirrors.calls before
      (fun c member => opens c (List.mem_append_left _ member))
      (fun doc member => readsBack doc (List.mem_append_left _ member))
    obtain ⟨w₂, set, mirrors₂, _⟩ := mirrors₁.call
      (opens₁ i (opens (i, .set key v) (List.mem_append_right _ List.mem_cons_self))) (.set key v)
      (fun doc member => readsBack doc (List.mem_append_right _ (by
        simp_all [Call.documents])))
    refine ⟨_, w₁, w₂, called, set, ?_⟩
    intro other different
    rw [mirrors₂.contents, mirrors₁.contents]
    exact (Keyed.find?_insert key other v _).trans (if_neg different)

/-- Two storages in one file that has an entry already. -/
def shared : World Empty :=
  let file : FileEntry := .file "mark = 1\n".toUTF8
  let shelf := Shelf.new (.file "card.toml")
  { empty (FileTree.empty.set ["card.toml"] file) with shelves := [shelf, shelf] }

def sharedCalls : List (Nat × Call) :=
  [(0, .get "mark"), (1, .set "theme" (.string "dark")), (0, .get "theme"),
    (0, .set "mark" (.boolean true)), (1, .get "mark"), (0, .get "theme")]

theorem shared_answers_as_memory :
    ∃ w', shared.calls sharedCalls = some ([.ok (some (.integer 1)), .ok none,
      .ok (some (.string "dark")), .ok none, .ok (some (.boolean true)),
      .ok (some (.string "dark"))], w') := by
  have opens : ∀ c ∈ sharedCalls, shared.Opens "card.toml" c.1 := by
    have first : shared.Opens "card.toml" 0 := ⟨_, rfl, rfl, fun _ => rfl, fun _ => rfl⟩
    have second : shared.Opens "card.toml" 1 := ⟨_, rfl, rfl, fun _ => rfl, fun _ => rfl⟩
    simp [sharedCalls, first, second]
  have read : shared.files.readText "card.toml" = .ok "mark = 1\n" := by rfl
  have contents : shared.files.contents "card.toml" = [("mark", .integer 1)] := by
    decide +kernel
  obtain ⟨⟨w', called, _⟩, _, _⟩ := storages_in_file_answer_as_memory shared "card.toml" sharedCalls
    opens (.inr ⟨_, read⟩) ⟨shared.files, rfl, fun _ => rfl⟩ (by decide +kernel)
  refine ⟨w', called.trans ?_⟩
  rw [contents]
  rfl

end World

end LoginCard
