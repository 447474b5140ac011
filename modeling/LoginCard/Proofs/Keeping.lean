import LoginCard.Proofs.Turns

/-!
# What a step leaves as it is

Most steps touch one part of a session only. `Keeps` says that a part is left as it is, and is
closed under the ways in which steps are put together.
-/

namespace LoginCard.Session

section Keeping

variable {α : Type} {s : Session} {f : Session → α}

/-- The step leaves a part of the session as it is, if it is valid at all. -/
def Keeps (s : Session) (f : Session → α) (p : Option Performed) : Prop :=
  ∀ q, p = some q → f q.session = f s

theorem Keeps.orInvalid {p : Option Performed} (keeps : s.Keeps f p) :
    f (s.orInvalid p).session = f s := by
  cases p with
  | none => rfl
  | some q => exact keeps q rfl

theorem keeps_none : s.Keeps f none := by
  intro q hq
  cases hq

theorem keeps_some {q : Performed} (same : f q.session = f s) : s.Keeps f (some q) := by
  intro q' hq
  rw [← Option.some.inj hq, same]

theorem keeps_bind {β : Type} {found : Option β} {g : β → Option Performed}
    (each : ∀ a, found = some a → s.Keeps f (g a)) : s.Keeps f (found.bind g) := by
  intro q hq
  obtain ⟨a, there, hq⟩ := Option.bind_eq_some_iff.mp hq
  exact each a there q hq

end Keeping

namespace Machine

theorem session_perform (m : Machine) (step : Step) (reply : Reply → Task) (below : List Task) :
    (m.perform step reply below).session = (m.session.perform step).session := by
  unfold perform
  split <;> rename_i performed <;> rw [performed] <;> rfl

/-- A move that performs a step does to the session what the step does. -/
theorem session_move_of_next {m : Machine} {step : Step} (next : m.next? = some step) :
    m.move.session = (m.session.perform step).session := by
  obtain ⟨reply, below, moved, _, _⟩ := move_of_next? next
  rw [moved, session_perform]

theorem session_turn (m : Machine) (c : Cycle Reaction) (rest : List Task) :
    ∃ w, (m.turn c rest).session = { m.session with world := w } ∧
      w.shelves = m.session.world.shelves := by
  have refreshed : ∀ b, (m.session.world.refresh b c.state).shelves = m.session.world.shelves := by
    intro b
    unfold World.refresh
    split <;> rfl
  unfold turn
  dsimp only
  split
  · exact ⟨_, rfl, rfl⟩
  · split
    · split
      · exact ⟨_, rfl, refreshed _⟩
      · exact ⟨_, rfl, rfl⟩
    · exact ⟨_, rfl, rfl⟩

/-- A move that performs no step touches nothing but the world, and no storage in it. -/
theorem session_move_of_none {m : Machine} (none : m.next? = none) :
    ∃ w, m.move.session = { m.session with world := w } ∧
      w.shelves = m.session.world.shelves := by
  unfold next? at none
  unfold move
  split
  · exact ⟨_, rfl, rfl⟩
  · exact session_turn _ _ _
  · exact ⟨_, rfl, rfl⟩
  · rename_i top
    simp [top] at none
  · exact ⟨_, rfl, rfl⟩
  · rename_i top
    simp [top] at none
  · exact ⟨_, rfl, rfl⟩
  · exact ⟨_, rfl, rfl⟩

end Machine

end LoginCard.Session
