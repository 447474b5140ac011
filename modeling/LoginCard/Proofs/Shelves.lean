import LoginCard.Proofs.Restoring
import LoginCard.World.Basic

/-!
# Laws of the storages of a world

A storage that no call is made to fail on does what the storage that it stands for does, be it in a
file or in memory, and counts the call.
-/

namespace LoginCard

/-- No call on the storage is made to fail. -/
def Shelf.Reliable (shelf : Shelf) : Prop :=
  (∀ n, shelf.getFails n = false) ∧ ∀ n, shelf.setFails n = false

theorem Shelf.reliable_new (medium : Medium) : (Shelf.new medium).Reliable :=
  ⟨fun _ => rfl, fun _ => rfl⟩

namespace Mounted

/-- The storage stands for one in a file, on the same files. -/
structure InFile (m : Mounted) (s : FileStorage) : Prop where
  medium : m.shelf.medium = .file s.path
  reliable : m.shelf.Reliable
  files : m.files = s.files

namespace InFile

variable {m : Mounted} {s : FileStorage}

theorem get (stands : m.InFile s) (key : String) :
    (Storage.get m key).result = (Storage.get s key).result ∧
      (Storage.get m key).records = (Storage.get s key).records ∧
      (Storage.get m key).after.InFile (Storage.get s key).after := by
  obtain ⟨medium, ⟨gets, sets⟩, files⟩ := stands
  obtain ⟨path, tree⟩ := s
  subst files
  have answers : Storage.get m key = ⟨(Storage.get (FileStorage.mk path m.files) key).result,
      ⟨{ m.shelf with gets := m.shelf.gets + 1 },
        (Storage.get (FileStorage.mk path m.files) key).after.files⟩,
      (Storage.get (FileStorage.mk path m.files) key).records⟩ := by
    show m.get key = _
    simp [Mounted.get, gets, medium]
  rw [answers, FileStorage.after_get]
  exact ⟨rfl, rfl, medium, ⟨gets, sets⟩, rfl⟩

theorem set (stands : m.InFile s) (key : String) (v : Toml.Value) :
    (Storage.set m key v).result = (Storage.set s key v).result ∧
      (Storage.set m key v).records = (Storage.set s key v).records ∧
      (Storage.set m key v).after.InFile (Storage.set s key v).after := by
  obtain ⟨medium, ⟨gets, sets⟩, files⟩ := stands
  obtain ⟨path, tree⟩ := s
  subst files
  have answers : Storage.set m key v = ⟨(Storage.set (FileStorage.mk path m.files) key v).result,
      ⟨{ m.shelf with sets := m.shelf.sets + 1 },
        (Storage.set (FileStorage.mk path m.files) key v).after.files⟩,
      (Storage.set (FileStorage.mk path m.files) key v).records⟩ := by
    show m.set key v = _
    simp [Mounted.set, sets, medium]
  rw [answers]
  exact ⟨rfl, rfl, medium.trans (congrArg _ (FileStorage.path_set _ key v).symm), ⟨gets, sets⟩, rfl⟩

theorem load (stands : m.InFile s) :
    (Choice.load m).1 = (Choice.load s).1 ∧ (Choice.load m).2.2 = (Choice.load s).2.2 ∧
      (Choice.load m).2.1.InFile (Choice.load s).2.1 := by
  obtain ⟨result, records, after⟩ := stands.get Choice.key
  exact ⟨by simp only [Choice.load, result], records, after⟩

theorem saveOrWarn (stands : m.InFile s) (l : Language) :
    (Choice.saveOrWarn m l).2 = (Choice.saveOrWarn s l).2 ∧
      (Choice.saveOrWarn m l).1.InFile (Choice.saveOrWarn s l).1 := by
  obtain ⟨result, records, after⟩ := stands.set Choice.key (Choice.current l).encode
  simp only [Choice.saveOrWarn, Choice.save, result, records]
  split <;> exact ⟨rfl, after⟩

theorem restore (stands : m.InFile s) (fallback : Language) :
    (Choice.restore m fallback).1 = (Choice.restore s fallback).1 ∧
      (Choice.restore m fallback).2.2 = (Choice.restore s fallback).2.2 ∧
      (Choice.restore m fallback).2.1.InFile (Choice.restore s fallback).2.1 := by
  obtain ⟨result, records, after⟩ := stands.load
  obtain ⟨logged, written⟩ := after.saveOrWarn fallback
  rw [Choice.restore_eq, Choice.restore_eq, result, records]
  cases (Choice.load s).1 with
  | ok l => exact ⟨rfl, rfl, after⟩
  | error e => exact ⟨rfl, congrArg (_ ++ _ :: ·) logged, written⟩

end InFile

end Mounted

namespace Keyed

variable {α : Type}

/-- Puts values under keys, one after the other. -/
def insertAll (es : Keyed α) (new : List (String × α)) : Keyed α :=
  new.foldl (fun es e => insert e.1 e.2 es) es

@[simp] theorem insertAll_nil (es : Keyed α) : insertAll es [] = es := rfl

theorem insertAll_append (es : Keyed α) (new more : List (String × α)) :
    insertAll es (new ++ more) = insertAll (insertAll es new) more :=
  List.foldl_append

/-- Other keys keep their values. -/
theorem find?_insertAll {key : String} {new : List (String × α)} (other : ∀ e ∈ new, e.1 ≠ key)
    (es : Keyed α) : find? key (insertAll es new) = find? key es := by
  induction new generalizing es with
  | nil => rfl
  | cons e new ih =>
    refine (ih (fun e' member => other e' (List.mem_cons_of_mem _ member)) _).trans ?_
    rw [find?_insert, if_neg (other e List.mem_cons_self).symm]

end Keyed

/-- What is stored for a language. -/
def Choice.entry (l : Language) : String × Toml.Value := (key, (current l).encode)

/-- The storage lies in memory, no call on it is made to fail, it has these slots, and it was set
that many times. -/
structure Shelf.Holds (shelf : Shelf) (slots : Toml.Table) (count : Nat) : Prop where
  medium : shelf.medium = .memory ⟨slots⟩
  reliable : shelf.Reliable
  count : shelf.sets = count

namespace Mounted

variable {m : Mounted} {slots : Toml.Table} {count : Nat}

theorem get_memory (holds : m.shelf.Holds slots count) (key : String) :
    (Storage.get m key).result = .ok (Keyed.find? key slots) ∧
      (Storage.get m key).after.shelf.Holds slots count := by
  obtain ⟨medium, ⟨gets, sets⟩, counted⟩ := holds
  have answers : Storage.get m key = ⟨.ok (Keyed.find? key slots),
      ⟨{ m.shelf with gets := m.shelf.gets + 1 }, m.files⟩, []⟩ := by
    show m.get key = _
    simp [Mounted.get, gets, medium, Storage.get]
  rw [answers]
  exact ⟨rfl, medium, ⟨gets, sets⟩, counted⟩

theorem set_memory (holds : m.shelf.Holds slots count) (key : String) (v : Toml.Value) :
    (Storage.set m key v).result = .ok () ∧
      (Storage.set m key v).after.shelf.Holds (Keyed.insert key v slots) (count + 1) := by
  obtain ⟨medium, ⟨gets, sets⟩, counted⟩ := holds
  have answers : Storage.set m key v = ⟨.ok (),
      ⟨{ m.shelf with
          medium := .memory ⟨Keyed.insert key v slots⟩
          sets := m.shelf.sets + 1 }, m.files⟩, []⟩ := by
    show m.set key v = _
    simp [Mounted.set, sets, medium, Storage.set]
  rw [answers]
  exact ⟨rfl, rfl, ⟨gets, sets⟩, congrArg (· + 1) counted⟩

theorem load_memory (holds : m.shelf.Holds slots count) :
    (Choice.load m).1 = Choice.ofSlot (Keyed.find? Choice.key slots) ∧
      (Choice.load m).2.1.shelf.Holds slots count := by
  obtain ⟨result, after⟩ := get_memory holds Choice.key
  exact ⟨by simp only [Choice.load, result], after⟩

theorem saveOrWarn_memory (holds : m.shelf.Holds slots count) (l : Language) :
    (Choice.saveOrWarn m l).1.shelf.Holds (Keyed.insertAll slots [Choice.entry l]) (count + 1) := by
  rw [Choice.after_saveOrWarn]
  exact (set_memory holds _ _).2

/-- To restore a language saves what is missing. -/
theorem restore_memory (holds : m.shelf.Holds slots count) (fallback : Language) :
    (Choice.restore m fallback).2.1.shelf.Holds
      (Keyed.insertAll slots ((Choice.missing m fallback).map Choice.entry))
      (count + (Choice.missing m fallback).length) := by
  have after := (load_memory holds).2
  rw [Choice.restore_eq, Choice.missing]
  cases (Choice.load m).1 with
  | ok l => exact after
  | error e => exact saveOrWarn_memory after fallback

end Mounted

end LoginCard
