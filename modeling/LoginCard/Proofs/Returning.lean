import LoginCard.Proofs.Inside
import LoginCard.Proofs.Sharing
import Mathlib.Data.List.Perm.Subperm
import Mathlib.Data.Nat.Find

/-!
# Every switch comes back

Reactions may switch other stores, whose reactions switch further ones, in circles too, and may
subscribe more reactions meanwhile. But a store that is in a cycle accepts nothing, so cycles nest
no deeper than there are stores. Where reactions make no stores, each cycle therefore ends: those it
has to call are fixed, each reaction has finitely many steps, and a cycle inside a step leaves one
store fewer for the cycles inside it.
-/

namespace LoginCard

/-- Stores that are in a cycle are different stores. -/
theorem Flagged.length_cycles_le {ρ : Type} {h : Holding ρ} (flagged : Flagged h) :
    h.cycles.length ≤ h.world.stores.length := by
  have there : h.active ⊆ List.range h.world.stores.length := by
    intro i busy
    have inside := (List.getElem?_eq_some_iff.mp ((flagged.flag i).mpr busy)).1
    rw [Holding.flags, World.length_column] at inside
    exact List.mem_range.mpr inside
  have fewer := (flagged.once.subperm there).length_le
  rwa [List.length_range, Holding.active, List.length_map] at fewer

namespace Session

/-- The reply that a task hands on. -/
def Task.reply? : Task → Option Reply
  | .answer r | .report _ _ r => some r
  | _ => none

theorem Task.cycle?_of_reply {task : Task} {r : Reply} (replies : task.reply? = some r) :
    task.cycle? = none := by
  cases task <;> simp_all [reply?, cycle?]

namespace Machine

/-- Everything is in order, and whoever is called makes no store. -/
structure Steady (m : Machine) : Prop where
  orderly : m.Orderly
  calls : m.session.world.Calls StaysInside

/-- The number of stores. -/
def size (m : Machine) : Nat := m.session.world.stores.length

/-- The stack below the reply of the next step. -/
def waiting (m : Machine) : List Task :=
  match m.stack with
  | .script (_ :: steps) :: rest => .script steps :: rest
  | .reaction name (_ :: steps) :: rest => .reaction name steps :: rest
  | stack => stack

theorem event?_of_none {m : Machine} (none : m.next? = none) :
    (∀ i, m.event? ≠ some (.subscribed i)) ∧ ∀ i l, m.event? ≠ some (.opened i l) := by
  unfold event?
  split
  · split <;> simp
  · simp [none]

section Moving

variable {m : Machine} {N : Nat} {step : Step}

theorem Steady.move (steady : m.Steady)
    (inside : ∀ step, m.next? = some step → step.reactsInside = true) : m.move.Steady := by
  refine ⟨steady.orderly.move, ?_⟩
  cases next : m.next? with
  | none =>
    apply (move_chain m steady.orderly.ordered).2.calls _ steady.calls
    exact fun i came => (event?_of_none next).1 i (Option.mem_toList.mp came)
  | some step =>
    rw [session_move_of_next next]
    exact calls_perform steady.orderly.ordered (inside step next) steady.calls

theorem size_move (steady : m.Steady)
    (inside : ∀ step, m.next? = some step → step.makesNoStore = true) : m.move.size = m.size := by
  cases next : m.next? with
  | none =>
    apply (move_chain m steady.orderly.ordered).2.length_stores
    exact fun i l came => (event?_of_none next).2 i l (Option.mem_toList.mp came)
  | some step =>
    rw [size, session_move_of_next next]
    exact length_stores_perform steady.orderly.ordered (inside step next)

/-- The cycles that are going on are of different stores. -/
theorem Orderly.length_cycles_le (orderly : m.Orderly) : m.cycles.length ≤ m.size :=
  orderly.sound.flagged.length_cycles_le

/-- The next step leaves its reply on what waits, at once or below a cycle. -/
theorem move_waiting (next : m.next? = some step) :
    ∃ reply : Reply → Task, m.move = m.perform step reply m.waiting ∧
      (∀ r, (reply r).reply? = some r) ∧ cyclesOf m.waiting = m.cycles := by
  unfold next? at next
  split at next <;> rename_i top
  · obtain rfl := Option.some.inj next
    exact ⟨.answer, by simp only [move, waiting, top], fun _ => rfl,
      by simp only [waiting, cycles, top]; rfl⟩
  · rename_i name first _ _
    obtain rfl := Option.some.inj next
    exact ⟨.report name first, by simp only [move, waiting, top], fun _ => rfl,
      by simp only [waiting, cycles, top]; rfl⟩
  · cases next

/-- A reply is handed on by one move. -/
theorem stack_move_of_reply {task : Task} {below : List Task} (replies : task.reply?.isSome = true)
    (top : m.stack = task :: below) : m.move.stack = below ∧ m.next? = none := by
  cases task <;> simp [Task.reply?] at replies <;> simp [move, next?, top, answer, report]

/-- A turn is over at once, or a reaction comes before the rest of the cycle. -/
theorem stack_move_of_turn {c : Cycle Reaction} {below : List Task}
    {entry : Nat × Callback Reaction} {due : List (Nat × Callback Reaction)}
    (top : m.stack = .cycle c :: below) (next : c.due = entry :: due) :
    m.move.stack = .cycle { c with due } :: below ∨
      ∃ program, entry.2 = .run program ∧ m.move.stack =
        .reaction program.name program.steps :: .cycle { c with due } :: below := by
  obtain ⟨id, callback⟩ := entry
  rw [move, top]
  by_cases called : m.session.world.isDue c.store id = true
  · cases callback with
    | refresh b => exact .inl (by simp only [turn_refresh next called])
    | run program => exact .inr ⟨program, rfl, by simp only [turn_run next called]⟩
  · exact .inl (by simp only [turn_of_removed next called])

end Moving

/-- The machine comes to this stack, with `N` stores by then. -/
def Reaches (m : Machine) (N : Nat) (stack : List Task) : Prop :=
  ∃ k, (run k m).Steady ∧ (run k m).size = N ∧ (run k m).stack = stack

/-- Whatever machine has `N` stores and this task before it gets through the task. -/
def Returns (N : Nat) (task : Task) (below : List Task) : Prop :=
  ∀ m : Machine, m.Steady → m.size = N → m.stack = task :: below → m.Reaches N below

section Returning

variable {m : Machine} {N : Nat} {below : List Task}

theorem Reaches.here (steady : m.Steady) (size : m.size = N) (top : m.stack = below) :
    m.Reaches N below :=
  ⟨0, steady, size, top⟩

theorem Reaches.of_move (reaches : m.move.Reaches N below) : m.Reaches N below := by
  obtain ⟨k, reached⟩ := reaches
  exact ⟨k + 1, by rwa [run_succ]⟩

theorem Reaches.through {task : Task} (reaches : m.Reaches N (task :: below))
    (returns : Returns N task below) : m.Reaches N below := by
  obtain ⟨k, steady, size, top⟩ := reaches
  obtain ⟨k', reached⟩ := returns _ steady size top
  rw [← run_add] at reached
  exact ⟨k + k', reached⟩

/-- A move that performs no step is harmless. -/
theorem Reaches.of_quiet (steady : m.Steady) (size : m.size = N) (quiet : m.next? = none)
    (moved : m.move.stack = below) : m.Reaches N below := by
  have same : m.move.size = m.size := size_move steady (by simp [quiet])
  exact .of_move (.here (steady.move (by simp [quiet])) (same.trans size) moved)

theorem returns_reply {task : Task} (replies : task.reply?.isSome = true) :
    Returns N task below := by
  intro m steady size top
  obtain ⟨popped, quiet⟩ := stack_move_of_reply replies top
  exact .of_quiet steady size quiet popped

/-- A cycle returns if the reactions that it calls do. -/
theorem returns_of_reactions {c : Cycle Reaction}
    (reactions : ∀ name steps due, makeNoStore steps = true →
      Returns N (.reaction name steps) (.cycle { c with due } :: below))
    (inside : ∀ entry ∈ c.due, StaysInside entry.2) : Returns N (.cycle c) below := by
  obtain ⟨store, state, due⟩ := c
  induction due with
  | nil =>
    intro m steady size top
    have passed : m.move.stack = below := by simp only [move, top, turn_of_done]
    exact .of_quiet steady size (by simp [next?, top]) passed
  | cons entry due ih =>
    intro m steady size top
    have quiet : m.next? = none := by simp [next?, top]
    have rest := ih reactions fun entry later => inside entry (List.mem_cons_of_mem _ later)
    rcases stack_move_of_turn top rfl with passed | ⟨program, called, entered⟩
    · exact (Reaches.of_quiet steady size quiet passed).through rest
    · have kept : StaysInside entry.2 := inside entry List.mem_cons_self
      rw [called] at kept
      exact ((Reaches.of_quiet steady size quiet entered).through (reactions _ _ due kept)).through
        rest

/-- A step is answered at once, or when the cycle that it starts has come back. -/
theorem answered {step : Step} (steady : m.Steady) (next : m.next? = some step)
    (cycles : ∀ c below, cyclesOf below = m.cycles → (∀ entry ∈ c.due, StaysInside entry.2) →
      Returns m.size (.cycle c) below) :
    ∃ task, task.reply?.isSome = true ∧
      (m.move.stack = task :: m.waiting ∨ m.move.Reaches m.size (task :: m.waiting)) := by
  obtain ⟨reply, moved, replies, same⟩ := move_waiting next
  cases performed : m.session.perform step with
  | reply s r =>
    refine ⟨reply r, by simp [replies], .inl ?_⟩
    rw [moved, perform, performed]
  | cycle s c r =>
    obtain ⟨inside, store, member, due⟩ := of_cycle steady.orderly.ordered performed
    have kept : ∀ step, m.next? = some step → step.makesNoStore = true := by
      intro _ next'
      exact Option.some.inj (next.symm.trans next') ▸ inside
    have started : m.move.stack = .cycle c :: reply r :: m.waiting := by
      rw [moved, perform, performed]
    have steady' : m.move.Steady :=
      steady.move fun step next' => Step.reactsInside_of_makesNoStore (kept step next')
    have returns : Returns m.size (.cycle c) (reply r :: m.waiting) := by
      apply cycles
      · rw [cyclesOf_other (Task.cycle?_of_reply (replies r)), same]
      · exact due ▸ steady.calls store member
    exact ⟨reply r, by simp [replies], .inr (returns _ steady' (size_move steady kept) started)⟩

/-- A reaction returns if the cycles that its steps start do. -/
theorem returns_of_cycles (name : String)
    (cycles : ∀ c above, cyclesOf above = cyclesOf below →
      (∀ entry ∈ c.due, StaysInside entry.2) → Returns N (.cycle c) above)
    {steps : List Step} (inside : makeNoStore steps = true) :
    Returns N (.reaction name steps) below := by
  induction steps with
  | nil =>
    intro m steady size top
    have passed : m.move.stack = below := by simp only [move, top]
    exact .of_quiet steady size (by simp [next?, top]) passed
  | cons step steps ih =>
    intro m steady size top
    obtain ⟨first, later⟩ := Bool.and_eq_true_iff.mp inside
    have next : m.next? = some step := by simp [next?, top]
    have waiting : m.waiting = .reaction name steps :: below := by simp [waiting, top]
    have same : m.cycles = cyclesOf below := by
      rw [Machine.cycles, top]
      rfl
    have kept : ∀ step', m.next? = some step' → step'.makesNoStore = true := by
      intro _ next'
      exact Option.some.inj (next.symm.trans next') ▸ first
    obtain ⟨task, replies, replied⟩ :=
      answered steady next fun c above cs => size ▸ cycles c above (cs.trans same)
    have reached : m.move.Reaches N (task :: m.waiting) := by
      rcases replied with top' | reached
      · refine .here (steady.move ?_) ((size_move steady kept).trans size) top'
        exact fun step next' => Step.reactsInside_of_makesNoStore (kept step next')
      · exact size ▸ reached
    rw [waiting] at reached
    exact .of_move ((reached.through (returns_reply replies)).through (ih later))

/-- Cycles nest no deeper than there are stores, and each store that is in no cycle yet allows for
one more level. -/
theorem returns_cycle {c : Cycle Reaction} (inside : ∀ entry ∈ c.due, StaysInside entry.2)
    {free : Nat} (room : N ≤ (cyclesOf below).length + free) : Returns N (.cycle c) below := by
  induction free generalizing c below with
  | zero =>
    -- All stores are in cycles below, so there is none that this one could be of.
    intro m steady size top
    have deep := steady.orderly.length_cycles_le
    rw [size, cycles, top, cyclesOf_cycle, List.length_cons] at deep
    omega
  | succ free ih =>
    refine returns_of_reactions (fun name steps due kept => ?_) inside
    apply returns_of_cycles name _ kept
    intro c' above same inside'
    apply ih inside'
    rw [same, cyclesOf_cycle, List.length_cons]
    omega

/-- A script ends if its reactions make no stores, whatever stores it makes itself. -/
theorem script_ends {steps : List Step} (inside : ∀ step ∈ steps, step.reactsInside = true)
    (steady : m.Steady) (top : m.stack = [.script steps]) : ∃ n, (run n m).isDone = true := by
  induction steps generalizing m with
  | nil =>
    refine ⟨1, ?_⟩
    rw [run_succ, run_zero]
    simp [isDone, move, top]
  | cons step steps ih =>
    have next : m.next? = some step := by simp [next?, top]
    have waiting : m.waiting = [.script steps] := by simp [waiting, top]
    obtain ⟨task, replies, replied⟩ :=
      answered steady next fun c above _ inside => returns_cycle inside (Nat.le_add_left _ _)
    have reached : ∃ N, m.move.Reaches N (task :: m.waiting) := by
      rcases replied with top' | reached
      · refine ⟨_, .here (steady.move ?_) rfl top'⟩
        intro _ next'
        exact inside _ (Option.some.inj (next.symm.trans next') ▸ List.mem_cons_self)
      · exact ⟨_, reached⟩
    obtain ⟨N, reached⟩ := reached
    rw [waiting] at reached
    obtain ⟨k, steady', _, top'⟩ := reached.through (returns_reply replies)
    have fewer : ∀ step ∈ steps, step.reactsInside = true := fun step later =>
      inside step (List.mem_cons_of_mem _ later)
    obtain ⟨n, done⟩ := ih fewer steady' top'
    rw [← run_add, ← run_succ] at done
    exact ⟨_, done⟩

end Returning

/-- Every step comes back, however its reactions nest and multiply, if they make no stores. -/
theorem step_comes_back {m : Machine} (steady : m.Steady) {step : Step}
    (next : m.next? = some step) :
    ∃ n task, task.reply?.isSome = true ∧ (run n m.move).stack = task :: m.waiting := by
  obtain ⟨task, replies, top | ⟨n, _, _, top⟩⟩ :=
    answered steady next fun c above _ inside => returns_cycle inside (Nat.le_add_left _ _)
  · exact ⟨0, task, replies, top⟩
  · exact ⟨n, task, replies, top⟩

/-- By the reply to a switch that it accepted, the store is in no cycle any more. -/
theorem idle_of_back {m : Machine} (orderly : m.Orderly) {i : Nat} {l : Language}
    (event : m.event? = some (.accepted i l)) {n : Nat} {task : Task}
    (replies : task.reply?.isSome = true) (back : (run n m.move).stack = task :: m.waiting) :
    (run n m.move).isNotifying i = false := by
  obtain ⟨s, _, there, free, _⟩ := move_accepted event
  have idle : m.isNotifying i = false := by simp [isNotifying, there, free]
  obtain ⟨step, next, _⟩ := next_of_event? event rfl
  obtain ⟨_, _, _, same⟩ := move_waiting next
  obtain ⟨r, replied⟩ := Option.isSome_iff_exists.mp replies
  have cycles_eq : (run n m.move).cycles = m.cycles := by
    rw [cycles, back, cyclesOf_other (Task.cycle?_of_reply replied), same]
  rw [Bool.eq_false_iff]
  intro busy
  obtain ⟨c, going, store⟩ := (orderly.move.run n).isNotifying_iff.mp busy
  have before : c ∈ m.cycles := cycles_eq ▸ mem_cyclesOf.mpr going
  have set := orderly.isNotifying_iff.mpr ⟨c, mem_cyclesOf.mp before, store⟩
  rw [idle] at set
  cases set

/-- At every moment of every run, inside reactions too. -/
theorem switches_come_back (root : String) (steps : List Step) (a : Nat) :
    let m (k : Nat) : Machine := run k (start root steps)
    ((m a).session.world.Calls StaysInside →
      (∀ step, (m a).next? = some step → ∃ n task, task.reply?.isSome = true ∧
        (m (a + 1 + n)).stack = task :: (m a).waiting) ∧
      ∀ i l, (m a).event? = some (.accepted i l) →
        ∃ n, (∀ k < n, (m (a + 1 + k)).isNotifying i = true) ∧
          (m (a + 1 + n)).isNotifying i = false) ∧
    (m a).cycles.length ≤ (m a).session.world.stores.length ∧
    ((∀ step ∈ steps, step.reactsInside = true) → ∃ n, (m n).isDone = true) := by
  intro m
  have orderly : (m a).Orderly := orderly_run root steps a
  have later : ∀ k, m (a + 1 + k) = run k (m a).move := by
    intro k
    rw [show (m a).move = m (a + 1) from run_move a _]
    exact run_add (a + 1) k _
  simp only [later]
  refine ⟨fun calls => ⟨?_, ?_⟩, orderly.length_cycles_le, ?_⟩
  · intro step next
    obtain ⟨n, task, replies, back⟩ := step_comes_back ⟨orderly, calls⟩ next
    exact ⟨n, task, replies, back⟩
  · intro i l event
    obtain ⟨step, next, _⟩ := next_of_event? event rfl
    obtain ⟨n, task, replies, back⟩ := step_comes_back ⟨orderly, calls⟩ next
    have passed : ∃ n, (run n (m a).move).isNotifying i = false :=
      ⟨n, idle_of_back orderly event replies back⟩
    refine ⟨Nat.find passed, fun k early => ?_, Nat.find_spec passed⟩
    simpa using Nat.find_min passed early
  · intro inside
    have nobody : (start root steps).session.world.Calls StaysInside := by
      intro s member
      cases member
    exact script_ends inside ⟨Orderly.start root steps, nobody⟩ rfl

/-- Two stores switch each other, and all the while each subscribes more reactions that do. -/
def circle : List Step :=
  [.newStore "a" .english, .newStore "b" .english,
    .subscribe "a" "x" [.dispatch "b" .toRussian, .subscribe "b" "y" [.setLocale "a" "ru"]],
    .subscribe "b" "z" [.dispatch "a" .toEnglish, .subscribe "a" "w" [.setLocale "b" "en"]],
    .dispatch "a" .toRussian]

theorem circle_comes_back :
    ((run 8 (start "" circle)).event? = some (.accepted 0 .russian) ∧
      (run 12 (start "" circle)).cycles.map Cycle.store = [1, 0] ∧
      ∃ n, (run (8 + 1 + n) (start "" circle)).isNotifying 0 = false) ∧
    ∃ n, (run n (start "" circle)).isDone = true := by
  have accepted : (run 8 (start "" circle)).event? = some (.accepted 0 .russian) := by decide
  obtain ⟨inside, -, ends⟩ := switches_come_back "" circle 8
  obtain ⟨n, -, idle⟩ := (inside (by decide)).2 0 .russian accepted
  exact ⟨⟨accepted, by decide, n, idle⟩, ends (by decide)⟩

end Machine

end Session

end LoginCard
