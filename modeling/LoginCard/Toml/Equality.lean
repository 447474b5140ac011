import LoginCard.Toml.Value

/-!
# Equality of values

Whether two values are the same can be decided, however deep they go.
-/

namespace LoginCard.Toml

mutual

def Value.same : Value → Value → Bool
  | .string a, .string b => a = b
  | .integer a, .integer b => a = b
  | .float a, .float b => a = b
  | .unvalued a, .unvalued b => a = b
  | .boolean a, .boolean b => a = b
  | .dateTime a, .dateTime b => a = b
  | .array as, .array bs => itemsSame as bs
  | .table as, .table bs => entriesSame as bs
  | _, _ => false

def itemsSame : List Value → List Value → Bool
  | [], [] => true
  | a :: as, b :: bs => a.same b && itemsSame as bs
  | _, _ => false

def entriesSame : List (String × Value) → List (String × Value) → Bool
  | [], [] => true
  | (j, a) :: as, (k, b) :: bs => j = k && a.same b && entriesSame as bs
  | _, _ => false

end

mutual

theorem Value.same_iff : ∀ a b : Value, a.same b = true ↔ a = b
  | .string _, b | .integer _, b | .float _, b | .unvalued _, b | .boolean _, b
  | .dateTime _, b => by cases b <;> simp [Value.same]
  | .array as, b => by cases b <;> simp [Value.same, itemsSame_iff as]
  | .table as, b => by cases b <;> simp [Value.same, entriesSame_iff as]

theorem itemsSame_iff : ∀ as bs : List Value, itemsSame as bs = true ↔ as = bs
  | [], bs => by cases bs <;> simp [itemsSame]
  | a :: as, bs => by cases bs <;> simp [itemsSame, Value.same_iff a, itemsSame_iff as]

theorem entriesSame_iff : ∀ as bs : List (String × Value), entriesSame as bs = true ↔ as = bs
  | [], bs => by cases bs <;> simp [entriesSame]
  | (j, a) :: as, bs => by
    rcases bs with _ | ⟨⟨k, b⟩, bs⟩
    · simp [entriesSame]
    · simp [entriesSame, Value.same_iff a, entriesSame_iff as]

end

instance : DecidableEq Value := fun a b => decidable_of_iff _ (Value.same_iff a b)

end LoginCard.Toml
