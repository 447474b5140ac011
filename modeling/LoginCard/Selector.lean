/-!
# References and memoised selectors

A reference is a value together with an identity. A selector projects what a reference holds and
remembers its last input: while it is given that very reference again it hands back its last
output, and otherwise it computes, and hands out a new reference.
-/

namespace LoginCard

structure Reference (α : Type) where
  id : Nat
  value : α
  deriving DecidableEq, Repr

structure Selector (α β : Type) where
  project : α → β
  last : Option (Reference α × Reference β)
  computations : Nat

namespace Selector

variable {α β : Type}

def new (project : α → β) : Selector α β := ⟨project, none, 0⟩

/-- The outputs of one selector are numbered by its computations. -/
def compute (s : Selector α β) (input : Reference α) : Reference β × Selector α β :=
  let output := ⟨s.computations + 1, s.project input.value⟩
  (output, { s with last := some (input, output), computations := s.computations + 1 })

def select (s : Selector α β) (input : Reference α) : Reference β × Selector α β :=
  match s.last with
  | some (known, output) => if known.id = input.id then (output, s) else s.compute input
  | none => s.compute input

end Selector

end LoginCard
