import LoginCard.Proofs.Performance
import LoginCard.Session.Machine

/-!
# Every move of a machine is a chain of changes

The cycles that a machine holds are those on its stack. A run from the start is a chain from a
holding of nothing, and its history is what its moves add one after the other.
-/

namespace LoginCard.Session

def Task.cycle? : Task → Option (Cycle Reaction)
  | .cycle c => some c
  | _ => none

/-- The cycles that are going on, the innermost first. -/
def cyclesOf (stack : List Task) : List (Cycle Reaction) := stack.filterMap Task.cycle?

@[simp] theorem cyclesOf_cycle (c : Cycle Reaction) (rest : List Task) :
    cyclesOf (.cycle c :: rest) = c :: cyclesOf rest := rfl

theorem cyclesOf_other {task : Task} (h : task.cycle? = none) (rest : List Task) :
    cyclesOf (task :: rest) = cyclesOf rest := List.filterMap_cons_none h

namespace Machine

/-- The cycles on the stack. -/
def cycles (m : Machine) : List (Cycle Reaction) := cyclesOf m.stack

/-- What the session of the machine holds in the midst of its cycles. -/
def holding (m : Machine) : Holding Reaction := m.session.holding m.cycles

/-- The step that the next move performs, if it performs one. -/
def next? (m : Machine) : Option Step :=
  match m.stack with
  | .script (step :: _) :: _ => some step
  | .reaction _ (step :: _) :: _ => some step
  | _ => none

/-- What the next move adds to the history. -/
def event? (m : Machine) : Option Event :=
  match m.stack with
  | .cycle c :: _ => some (if c.due.isEmpty then .ended c.store else .turned c.store)
  | _ => m.next?.bind m.session.event?

/-- The history of `n` moves. -/
def events : Nat → Machine → List Event
  | 0, _ => []
  | n + 1, m => m.event?.toList ++ events n m.move

@[simp] theorem events_zero (m : Machine) : m.events 0 = [] := rfl
@[simp] theorem events_succ (n : Nat) (m : Machine) :
    m.events (n + 1) = m.event?.toList ++ m.move.events n := rfl

theorem ordered_new (root : String) : (Session.new root).Ordered :=
  ⟨Keyed.ordered_nil, Keyed.ordered_nil, Keyed.ordered_nil, Keyed.ordered_nil⟩

section Turning

variable {m : Machine} {c : Cycle Reaction} {rest : List Task} {id : Nat}
  {due : List (Nat × Callback Reaction)}

theorem turn_of_done (done : c.due = []) :
    m.turn c rest =
      { m with
        session := { m.session with world := m.session.world.endCycle c.store }
        stack := rest } := by
  simp [turn, done]

theorem turn_of_removed {callback : Callback Reaction} (next : c.due = (id, callback) :: due)
    (removed : ¬ m.session.world.isDue c.store id = true) :
    m.turn c rest = { m with stack := .cycle { c with due } :: rest } := by
  simp [turn, next, removed]

theorem turn_refresh {b : Nat} (next : c.due = (id, .refresh b) :: due)
    (called : m.session.world.isDue c.store id = true) :
    m.turn c rest =
      { m with
        session := { m.session with world := m.session.world.refresh b c.state }
        log := m.log.push (.called c.store id (.refresh b) c.state)
        stack := .cycle { c with due } :: rest } := by
  simp [turn, next, called]

theorem turn_run {program : Reaction} (next : c.due = (id, .run program) :: due)
    (called : m.session.world.isDue c.store id = true) :
    m.turn c rest =
      { m with
        log := m.log.push (.called c.store id (.run program) c.state)
        stack := .reaction program.name program.steps :: .cycle { c with due } :: rest } := by
  simp [turn, next, called]

end Turning

/-- A turn of a cycle is one change. -/
theorem turn_chain (m : Machine) (ordered : m.session.Ordered) {c : Cycle Reaction}
    {rest : List Task} (top : m.stack = .cycle c :: rest) :
    (m.turn c rest).session.Ordered ∧
      Chain m.holding m.event?.toList (m.turn c rest).holding := by
  have held : m.holding.cycles = c :: cyclesOf rest := by
    simp [holding, Session.holding, cycles, top]
  cases next : c.due with
  | nil =>
    have event : m.event? = some (.ended c.store) := by simp [event?, top, next]
    rw [turn_of_done next, event]
    exact ⟨ordered.inWorld _, .one (.ended held next)⟩
  | cons e due =>
    obtain ⟨id, callback⟩ := e
    have event : m.event? = some (.turned c.store) := by simp [event?, top, next]
    rw [event]
    by_cases called : m.session.world.isDue c.store id = true
    · cases callback with
      | refresh b =>
        rw [turn_refresh next called]
        exact ⟨ordered.inWorld _, .one (.refreshed held next called)⟩
      | run program =>
        rw [turn_run next called]
        exact ⟨ordered, .one (.passed held next fun _ => ⟨program, rfl⟩)⟩
    · rw [turn_of_removed next called]
      exact ⟨ordered, .one (.passed held next fun due => absurd due called)⟩

/-- A step that the machine performs is a chain, whatever waits below it on the stack. -/
theorem perform_chain (m : Machine) (ordered : m.session.Ordered) {step : Step}
    (reply : Reply → Task) {below : List Task} (due : ∀ r, (reply r).cycle? = none)
    (same : cyclesOf below = m.cycles) :
    (m.perform step reply below).session.Ordered ∧
      Chain m.holding (m.session.event? step).toList (m.perform step reply below).holding := by
  have follows := perform_follows ordered step
  unfold perform
  cases performed : m.session.perform step with
  | reply s r =>
    rw [performed] at follows
    have kept : (⟨s, m.log, m.answers, reply r :: below⟩ : Machine).holding =
        s.holding m.cycles := by
      simp [holding, cycles, cyclesOf_other (due r), same]
    exact ⟨follows.1, kept ▸ follows.2 m.cycles⟩
  | cycle s c r =>
    rw [performed] at follows
    have pushed : (⟨s, m.log, m.answers, .cycle c :: reply r :: below⟩ : Machine).holding =
        s.holding (c :: m.cycles) := by
      simp [holding, cycles, cyclesOf_other (due r), same]
    exact ⟨follows.1, pushed ▸ follows.2 m.cycles⟩

/-- Every move is a chain that adds its event to the history. -/
theorem move_chain (m : Machine) (ordered : m.session.Ordered) :
    m.move.session.Ordered ∧ Chain m.holding m.event?.toList m.move.holding := by
  have popped : ∀ {m' : Machine} {task : Task} {rest : List Task}, m.stack = task :: rest →
      task.cycle? = none → m.event? = none → m'.session = m.session → m'.stack = rest →
      m'.session.Ordered ∧ Chain m.holding m.event?.toList m'.holding := by
    intro m' task rest top quiet silent session stack
    have kept : m'.holding = m.holding := by
      simp [holding, session, cycles, stack, top, cyclesOf_other quiet]
    rw [kept, silent, session]
    exact ⟨ordered, .nil _⟩
  unfold move
  split
  · rename_i top
    exact ⟨ordered, by simpa [event?, next?, top] using Chain.nil m.holding⟩
  · rename_i c rest top
    exact turn_chain m ordered top
  · rename_i rest top
    exact popped top rfl (by simp [event?, next?, top]) rfl rfl
  · rename_i step steps rest top
    have same : cyclesOf (.script steps :: rest) = m.cycles := by
      rw [cycles, top]
      rfl
    simpa [event?, next?, top] using perform_chain m ordered .answer (fun _ => rfl) same
  · rename_i name rest top
    exact popped top rfl (by simp [event?, next?, top]) rfl rfl
  · rename_i name step steps rest top
    have same : cyclesOf (.reaction name steps :: rest) = m.cycles := by
      rw [cycles, top]
      rfl
    simpa [event?, next?, top] using
      perform_chain m ordered (.report name step) (fun _ => rfl) same
  · rename_i r rest top
    have held : m.cycles = cyclesOf rest := by
      rw [cycles, top]
      rfl
    have answered :
        Change m.holding none ({ m.answer r with stack := rest } : Machine).holding := by
      rw [holding, held]
      exact .aside ⟨rfl, rfl, Nat.le_refl _⟩
    exact ⟨ordered.inWorld _, by simpa [event?, next?, top] using Chain.one answered⟩
  · rename_i name step r rest top
    exact popped top rfl (by simp [event?, next?, top]) rfl rfl

/-- So every run is one, and its history is that of its moves. -/
theorem run_chain (n : Nat) (m : Machine) (ordered : m.session.Ordered) :
    (run n m).session.Ordered ∧ Chain m.holding (m.events n) (run n m).holding := by
  induction n generalizing m with
  | zero => exact ⟨ordered, .nil _⟩
  | succ n ih =>
    obtain ⟨ordered', first⟩ := move_chain m ordered
    obtain ⟨ordered'', rest⟩ := ih m.move ordered'
    rw [run_succ, events_succ]
    exact ⟨ordered'', first.append rest⟩

end Machine

end LoginCard.Session
