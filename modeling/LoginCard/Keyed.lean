/-!
# Values under keys

Lists of keys with their values, sorted by key, each key once; `insert` keeps them so.
-/

namespace LoginCard

abbrev Keyed (α : Type) := List (String × α)

namespace Keyed

variable {α : Type}

/-- Puts `v` under `key`, in place of what stood there. -/
def insert (key : String) (v : α) : Keyed α → Keyed α
  | [] => [(key, v)]
  | (k, w) :: rest =>
    if key = k then (key, v) :: rest
    else if key < k then (key, v) :: (k, w) :: rest
    else (k, w) :: insert key v rest

def find? (key : String) : Keyed α → Option α
  | [] => none
  | (k, v) :: rest => if key = k then some v else find? key rest

def erase (key : String) (es : Keyed α) : Keyed α := es.filter fun e => e.1 ≠ key

theorem find?_insert (key key' : String) (v : α) (es : Keyed α) :
    find? key' (insert key v es) = if key' = key then some v else find? key' es := by
  induction es with
  | nil => simp [insert, find?]
  | cons e es ih =>
    obtain ⟨k, w⟩ := e
    simp only [insert]
    by_cases same : key = k
    · subst same
      by_cases h : key' = key <;> simp [find?, h]
    · rw [if_neg same]
      split
      · simp [find?]
      · by_cases h : key' = k
        · subst h
          simp [find?, Ne.symm same]
        · simp [find?, h, ih]

theorem find?_erase (key key' : String) (es : Keyed α) :
    find? key' (erase key es) = if key' = key then none else find? key' es := by
  induction es with
  | nil => simp [erase, find?]
  | cons e es ih =>
    obtain ⟨k, w⟩ := e
    unfold erase at ih ⊢
    by_cases hk : k = key
    · subst hk; simp only [List.filter_cons]; grind [find?]
    · simp only [List.filter_cons]; grind [find?]

end Keyed

end LoginCard
