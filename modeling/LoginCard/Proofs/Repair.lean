import LoginCard.Proofs.Restoring

/-!
# Restoring is a repair

A storage in memory that holds a current choice is left as it is, and in every other one the slot of
the choice comes to hold the fallback. Either way a choice is loaded from then on, so to restore
once more, with whatever fallback, changes nothing.
-/

namespace LoginCard

open Toml (Value)

namespace Choice

section InMemory

variable {m : MemoryStorage}

theorem load_slots (m : MemoryStorage) : (load m).1 = ofSlot (Keyed.find? key m.slots) :=
  load_of_answer rfl

/-- To look at a storage in memory leaves it as it is. -/
theorem after_load_memory (m : MemoryStorage) : (load m).2.1 = m := rfl

/-- To save a language fills the slot of the choice and leaves all others alone. -/
theorem find?_save (m : MemoryStorage) (l : Language) (k : String) :
    Keyed.find? k (save m l).after.slots =
      if k = key then some (current l).encode else Keyed.find? k m.slots :=
  Keyed.find?_insert key k _ m.slots

theorem load_save (m : MemoryStorage) (l : Language) : (load (save m l).after).1 = .ok l := by
  rw [load_slots, find?_save, if_pos rfl]
  exact ofSlot_current l

/-- A choice that is loaded is all that restoring comes to. -/
theorem restore_settled {l : Language} (loaded : (load m).1 = .ok l) (fallback : Language) :
    (restore m fallback).1 = l ∧ (restore m fallback).2.1 = m := by
  obtain ⟨used, after⟩ := restore_of_loaded loaded fallback
  exact ⟨used, after.trans (after_load_memory m)⟩

/-- Whatever keeps a choice from being loaded, restoring is saving the fallback. -/
theorem restore_unsettled (fault : ∀ l, (load m).1 ≠ .ok l) (fallback : Language) :
    (restore m fallback).1 = fallback ∧ (restore m fallback).2.1 = (save m fallback).after := by
  cases loaded : (load m).1 with
  | ok l => exact absurd loaded (fault l)
  | error e => exact restore_of_fault loaded fallback

/-- After restoring, a choice is loaded. -/
theorem load_restore (m : MemoryStorage) (fallback : Language) :
    (load (restore m fallback).2.1).1 = .ok (restore m fallback).1 := by
  by_cases settled : ∃ l, (load m).1 = .ok l
  · obtain ⟨l, loaded⟩ := settled
    obtain ⟨used, after⟩ := restore_settled loaded fallback
    rw [used, after, loaded]
  · obtain ⟨used, after⟩ := restore_unsettled (fun l loaded => settled ⟨l, loaded⟩) fallback
    rw [used, after, load_save]

end InMemory

/-- For every content of a storage in memory, and any two fallbacks. -/
theorem restore_repairs_once (m : MemoryStorage) (f₁ f₂ : Language) :
    let restored := restore m f₁
    let after := restored.2.1
    (∀ l, (load m).1 = .ok l → restored.1 = l ∧ after.slots = m.slots) ∧
    ((∀ l, (load m).1 ≠ .ok l) → restored.1 = f₁ ∧
      Keyed.find? key after.slots = some (.table
        [("locale", .string f₁.tag), ("version", .integer Strings.version.toNat)]) ∧
      ∀ k, k ≠ key → Keyed.find? k after.slots = Keyed.find? k m.slots) ∧
    (load after).1 = .ok restored.1 ∧
    (restore after f₂).1 = restored.1 ∧ (restore after f₂).2.1 = after := by
  intro restored after
  refine ⟨?_, ?_, load_restore m f₁, restore_settled (load_restore m f₁) f₂⟩
  · intro l loaded
    obtain ⟨used, same⟩ := restore_settled loaded f₁
    exact ⟨used, congrArg MemoryStorage.slots same⟩
  · intro fault
    obtain ⟨used, saved⟩ := restore_unsettled fault f₁
    have slot : ∀ k, Keyed.find? k after.slots =
        if k = key then some (current f₁).encode else Keyed.find? k m.slots := by
      intro k
      rw [← find?_save m f₁ k, ← saved]
    refine ⟨used, ?_, fun k other => ?_⟩
    · rw [slot, if_pos rfl]
      rfl
    · rw [slot, if_neg other]

/-- A record from a newer version, with an entry that no version knows, and another slot. -/
def newer : MemoryStorage :=
  ⟨[("locale", .table [("locale", .string "ru_RU"), ("origin", .boolean true),
      ("version", .integer 7)]),
    ("theme", .string "dark")]⟩

/-- A bare tag beside another slot. -/
def bare : MemoryStorage := ⟨[("locale", .string "ru_RU"), ("theme", .string "dark")]⟩

theorem restore_keeps_newer_and_repairs_bare :
    ((restore newer .english).1 = .russian ∧ (restore newer .english).2.1.slots = newer.slots) ∧
      (restore bare .english).1 = .english ∧
      Keyed.find? "theme" (restore bare .english).2.1.slots = some (.string "dark") := by
  have kept := (restore_repairs_once newer .english .russian).1 .russian rfl
  have fault : ∀ l, (load bare).1 ≠ .ok l := by
    intro l loaded
    cases loaded
  obtain ⟨used, _, others⟩ := (restore_repairs_once bare .english .russian).2.1 fault
  exact ⟨kept, used, others "theme" (by decide)⟩

end Choice

end LoginCard
