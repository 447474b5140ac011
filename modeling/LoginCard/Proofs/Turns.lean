import LoginCard.Proofs.Soundness

/-!
# The turns of a cycle

A cycle lies on the stack from the switch that started it until it has come to its end. Whatever
lies above it, it is only its own turns that it advances by: one entry each, in order. While it
lasts, those that had their turn and those still due are together the subscribers of its beginning.
-/

namespace LoginCard.Session

theorem mem_cyclesOf {c : Cycle Reaction} {stack : List Task} :
    c ∈ cyclesOf stack ↔ Task.cycle c ∈ stack := by
  rw [cyclesOf, List.mem_filterMap]
  constructor
  · rintro ⟨task, member, same⟩
    cases task <;> cases same
    exact member
  · intro member
    exact ⟨.cycle c, member, rfl⟩

/-- The subscriber of store `i` that an entry of the log says was called, with the state. -/
def LogEntry.call? (i : Nat) : LogEntry → Option (Nat × Callback Reaction × Reference Language)
  | .called store id callback state => if store = i then some (id, callback, state) else none
  | .replied .. => none

namespace Machine

/-- A cycle of store `i` is going on. -/
def InCycle (m : Machine) (i : Nat) : Prop := ∃ c, Task.cycle c ∈ m.stack ∧ c.store = i

/-- The flag of store `i`, and `false` where there is no such store. -/
def isNotifying (m : Machine) (i : Nat) : Bool :=
  (m.session.world.stores[i]?).any Store.notifying

theorem inCycle_iff {m : Machine} {i : Nat} : m.InCycle i ↔ i ∈ m.holding.active := by
  simp only [InCycle, ← mem_cyclesOf, Holding.active, List.mem_map]
  rfl

theorem Orderly.notifying_iff {m : Machine} (orderly : m.Orderly) {i : Nat} {s : Store Reaction}
    (there : m.session.world.stores[i]? = some s) : s.notifying = true ↔ m.InCycle i := by
  have flag := orderly.sound.flagged.flag i
  rw [flag_of there, Option.some.injEq] at flag
  rw [inCycle_iff, flag]

theorem Orderly.isNotifying_iff {m : Machine} (orderly : m.Orderly) {i : Nat} :
    m.isNotifying i = true ↔ m.InCycle i := by
  rw [inCycle_iff, ← orderly.sound.flagged.flag i, isNotifying, Holding.flags, World.column,
    List.getElem?_map]
  change _ ↔ (m.session.world.stores[i]?).map Store.notifying = some true
  cases m.session.world.stores[i]? <;> simp

/-- The subscriber of store `i` whose turn the next move is. -/
def turn? (m : Machine) (i : Nat) : Option (Nat × Callback Reaction) :=
  match m.stack with
  | .cycle c :: _ => if c.store = i then c.due.head? else none
  | _ => none

/-- The turns of store `i` in `n` moves, each with the number of moves before it. -/
def turns (m : Machine) (i n : Nat) : List (Nat × Nat × Callback Reaction) :=
  (List.range n).filterMap fun k => ((run k m).turn? i).map fun entry => (k, entry)

/-- The turns in which the subscriber was still subscribed. -/
def calls (m : Machine) (i n : Nat) (state : Reference Language) :
    List (Nat × Callback Reaction × Reference Language) :=
  ((m.turns i n).filter fun t => (run t.1 m).session.world.isDue i t.2.1).map fun t =>
    (t.2.1, t.2.2, state)

/-- What the next move logs. -/
def logged (m : Machine) : List LogEntry :=
  match m.stack with
  | .cycle c :: _ =>
    match c.due with
    | [] => []
    | (id, callback) :: _ =>
      if m.session.world.isDue c.store id then [.called c.store id callback c.state] else []
  | .report name step r :: _ => [.replied name step r]
  | _ => []

/-- One move has one turn of the store or none. -/
theorem turns_succ (m : Machine) (i n : Nat) :
    m.turns i (n + 1) =
      m.turns i n ++ (((run n m).turn? i).map fun entry => (n, entry)).toList := by
  rw [turns, List.range_succ, List.filterMap_append, turns, List.filterMap_cons, List.filterMap_nil]
  cases (run n m).turn? i <;> rfl

theorem turns_of_no_turn {m : Machine} {i n : Nat} (none : (run n m).turn? i = none) :
    m.turns i (n + 1) = m.turns i n := by
  simp [turns_succ, none]

theorem turns_of_turn {m : Machine} {i n : Nat} {entry : Nat × Callback Reaction}
    (turn : (run n m).turn? i = some entry) :
    m.turns i (n + 1) = m.turns i n ++ [(n, entry)] := by
  simp [turns_succ, turn]

theorem mem_turns {m : Machine} {i n k : Nat} {entry : Nat × Callback Reaction} :
    (k, entry) ∈ m.turns i n ↔ k < n ∧ (run k m).turn? i = some entry := by
  rw [turns, List.mem_filterMap]
  constructor
  · rintro ⟨k₁, below, same⟩
    obtain ⟨entry₁, turn, same⟩ := Option.map_eq_some_iff.mp same
    obtain ⟨rfl, rfl⟩ := Prod.mk.inj same
    exact ⟨List.mem_range.mp below, turn⟩
  · rintro ⟨lt, turn⟩
    exact ⟨k, List.mem_range.mpr lt, by rw [turn]; rfl⟩

theorem run_move (n : Nat) (m : Machine) : (run n m).move = run (n + 1) m := by
  rw [run_add n 1 m, run_succ, run_zero]

/-- The next step is performed with the rest of the stack left as it is. -/
theorem move_of_next? {m : Machine} {step : Step} (next : m.next? = some step) :
    ∃ (reply : Reply → Task) (below : List Task), m.move = m.perform step reply below ∧
      (∀ r, (reply r).cycle? = none) ∧ cyclesOf below = m.cycles := by
  unfold next? at next
  split at next
  · rename_i steps rest top
    obtain rfl := Option.some.inj next
    exact ⟨.answer, .script steps :: rest, by rw [move, top], fun _ => rfl,
      by rw [cycles, top]; rfl⟩
  · rename_i name _ steps rest top
    obtain rfl := Option.some.inj next
    exact ⟨.report name _, .reaction name steps :: rest, by rw [move, top], fun _ => rfl,
      by rw [cycles, top]; rfl⟩
  · cases next

theorem cycles_perform (m : Machine) (step : Step) {reply : Reply → Task} {below : List Task}
    (plain : ∀ r, (reply r).cycle? = none) :
    ∃ new, (m.perform step reply below).cycles = new ++ cyclesOf below := by
  unfold perform
  split
  · exact ⟨[], cyclesOf_other (plain _) below⟩
  · exact ⟨[_], congrArg (List.cons _) (cyclesOf_other (plain _) below)⟩

/-- A move that is no turn of a cycle leaves the cycles on the stack as they are. -/
theorem cycles_move {m : Machine} (other : ∀ c rest, m.stack ≠ .cycle c :: rest) :
    ∃ new, m.move.cycles = new ++ m.cycles := by
  cases next : m.next? with
  | some step =>
    obtain ⟨reply, below, moved, plain, same⟩ := move_of_next? next
    rw [moved, ← same]
    exact cycles_perform m step plain
  | none =>
    refine ⟨[], ?_⟩
    unfold next? at next
    unfold move cycles
    split
    · rfl
    · exact absurd ‹_› (other _ _)
    all_goals first | (rename_i top; rw [top]; rfl) | (rename_i top; simp [top] at next)

theorem cycles_turn {m : Machine} {c : Cycle Reaction} {rest : List Task}
    {entry : Nat × Callback Reaction} {due : List (Nat × Callback Reaction)}
    (next : c.due = entry :: due) : (m.turn c rest).cycles = { c with due } :: cyclesOf rest := by
  obtain ⟨id, callback⟩ := entry
  by_cases called : m.session.world.isDue c.store id = true
  · cases callback with
    | refresh b =>
      rw [turn_refresh next called]
      rfl
    | run program =>
      rw [turn_run next called]
      rfl
  · rw [turn_of_removed next called]
    rfl

/-- What a move comes to for a cycle that is going on. -/
inductive Advances (m : Machine) (c : Cycle Reaction) : Prop where
  | waits : m.turn? c.store = none → (∀ rest, m.stack ≠ .cycle c :: rest) →
      c ∈ m.move.cycles → Advances m c
  | turns (entry : Nat × Callback Reaction) (due : List (Nat × Callback Reaction))
      (rest : List Task) : m.stack = .cycle c :: rest → c.due = entry :: due →
      { c with due } ∈ m.move.cycles → Advances m c
  | ends (rest : List Task) : m.stack = .cycle c :: rest → c.due = [] →
      m.move.cycles = cyclesOf rest → Advances m c

theorem advances {m : Machine} (once : (m.cycles.map Cycle.store).Nodup) {c : Cycle Reaction}
    (going : c ∈ m.cycles) : m.Advances c := by
  by_cases top : ∃ c₁ rest, m.stack = .cycle c₁ :: rest
  · obtain ⟨c₁, rest, top⟩ := top
    have moved : m.move = m.turn c₁ rest := by rw [move, top]
    have cycles_eq : m.cycles = c₁ :: cyclesOf rest := by
      rw [cycles, top]
      rfl
    rw [cycles_eq] at going once
    rcases List.mem_cons.mp going with rfl | below
    · cases next : c.due with
      | nil =>
        refine .ends rest top next ?_
        rw [moved, turn_of_done next]
        rfl
      | cons entry due =>
        refine .turns entry due rest top next ?_
        rw [moved, cycles_turn next]
        exact List.mem_cons_self
    · have other : c₁.store ≠ c.store := by
        intro same
        have first := (List.nodup_cons.mp once).1
        exact first (same ▸ List.mem_map_of_mem below)
      refine .waits (by simp [turn?, top, other]) ?_ ?_
      · intro rest₁ top₁
        rw [top] at top₁
        obtain ⟨same, _⟩ := List.cons.inj top₁
        exact other (congrArg Cycle.store (Task.cycle.inj same))
      · rw [moved]
        cases next : c₁.due with
        | nil =>
          rw [turn_of_done next]
          exact below
        | cons entry due =>
          rw [cycles_turn next]
          exact List.mem_cons_of_mem _ below
  · have other : ∀ c₁ rest, m.stack ≠ .cycle c₁ :: rest := fun c₁ rest here =>
      top ⟨c₁, rest, here⟩
    obtain ⟨new, moved⟩ := cycles_move other
    refine .waits ?_ (other c) (moved ▸ List.mem_append_right _ going)
    unfold turn?
    split
    · exact absurd ‹_› (other _ _)
    · rfl

@[simp] theorem log_perform (m : Machine) (step : Step) (reply : Reply → Task)
    (below : List Task) : (m.perform step reply below).log = m.log := by
  unfold perform
  split <;> rfl

/-- A turn logs the call that it makes. -/
theorem log_turn {m : Machine} {c : Cycle Reaction} {rest : List Task}
    (top : m.stack = .cycle c :: rest) :
    (m.turn c rest).log.toList = m.log.toList ++ m.logged := by
  cases next : c.due with
  | nil => simp [turn_of_done next, logged, top, next]
  | cons entry due =>
    obtain ⟨id, callback⟩ := entry
    by_cases called : m.session.world.isDue c.store id = true
    · cases callback with
      | refresh b => simp [turn_refresh next called, logged, top, next, called]
      | run program => simp [turn_run next called, logged, top, next, called]
    · simp [turn_of_removed next called, logged, top, next, called]

/-- Only an answer takes anything off the log. -/
theorem log_move {m : Machine} (other : ∀ r rest, m.stack ≠ .answer r :: rest) :
    m.move.log.toList = m.log.toList ++ m.logged := by
  cases top : m.stack with
  | nil => simp [move, logged, top]
  | cons task rest =>
    cases task with
    | cycle c =>
      rw [move, top]
      exact log_turn top
    | script steps => cases steps <;> simp [move, logged, top]
    | reaction name steps => cases steps <;> simp [move, logged, top]
    | answer r => exact absurd top (other r rest)
    | report name step r => simp [move, logged, top, report]

/-- Where it is not its turn, nothing of the store is logged. -/
theorem logged_of_no_turn {m : Machine} {i : Nat} (none : m.turn? i = none) :
    m.logged.filterMap (LogEntry.call? i) = [] := by
  unfold turn? at none
  unfold logged
  split at none
  · rename_i c rest top
    rw [top]
    dsimp only
    split
    · rfl
    · rename_i id callback due next
      have other : c.store ≠ i := by
        intro here
        simp [here, next] at none
      split <;> simp [LogEntry.call?, other]
  · rename_i other
    split
    · exact absurd ‹_› (other _ _)
    · rfl
    · rfl

theorem logged_of_turn {m : Machine} {c : Cycle Reaction} {rest : List Task}
    {entry : Nat × Callback Reaction} {due : List (Nat × Callback Reaction)}
    (top : m.stack = .cycle c :: rest) (next : c.due = entry :: due) :
    m.logged.filterMap (LogEntry.call? c.store) =
      if m.session.world.isDue c.store entry.1 then [(entry.1, entry.2, c.state)] else [] := by
  obtain ⟨id, callback⟩ := entry
  simp only [logged, top, next]
  split <;> simp [LogEntry.call?]

/-- What a move logs of the store is the call that it adds. -/
theorem calls_succ {m : Machine} {n : Nat} (orderly : (run n m).Orderly) {c : Cycle Reaction}
    (going : c ∈ (run n m).cycles) :
    m.calls c.store (n + 1) c.state =
      m.calls c.store n c.state ++ (run n m).logged.filterMap (LogEntry.call? c.store) := by
  cases advances orderly.sound.flagged.once going with
  | waits none _ _ =>
    rw [logged_of_no_turn none, calls, turns_of_no_turn none, List.append_nil, calls]
  | turns entry due rest top next _ =>
    have turn : (run n m).turn? c.store = some entry := by simp [turn?, top, next]
    rw [logged_of_turn top next, calls, turns_of_turn turn, List.filter_append, List.map_append,
      calls]
    congr 1
    by_cases called : (run n m).session.world.isDue c.store entry.1 = true <;> simp [called]
  | ends rest top next _ =>
    have none : (run n m).turn? c.store = none := by simp [turn?, top, next]
    rw [logged_of_no_turn none, calls, turns_of_no_turn none, List.append_nil, calls]

section Underway

variable {m : Machine} {c₀ : Cycle Reaction} {n : Nat}

/-- Those that had their turn and those still due are the subscribers of the beginning. -/
theorem underway (orderly : m.Orderly) (begun : c₀ ∈ m.cycles)
    (going : ∀ k ≤ n, (run k m).InCycle c₀.store) :
    ∃ c ∈ (run n m).cycles, c.store = c₀.store ∧ c.state = c₀.state ∧
      (m.turns c₀.store n).map Prod.snd ++ c.due = c₀.due := by
  induction n with
  | zero => exact ⟨c₀, begun, rfl, rfl, rfl⟩
  | succ n ih =>
    obtain ⟨c, there, store, state, split⟩ := ih fun k le => going k (by omega)
    rw [← store] at split ⊢
    have once := (orderly.run n).sound.flagged.once
    cases advances once there with
    | waits none _ after =>
      rw [run_move] at after
      exact ⟨c, after, rfl, state, by rw [turns_of_no_turn none, split]⟩
    | turns entry due rest top next after =>
      have turn : (run n m).turn? c.store = some entry := by simp [turn?, top, next]
      rw [run_move] at after
      refine ⟨{ c with due }, after, rfl, state, ?_⟩
      rw [turns_of_turn turn, List.map_append, ← split, next]
      simp
    | ends rest top next after =>
      -- The cycle that ends is the only one of its store, so after it the store is in none.
      have busy := inCycle_iff.mp (going (n + 1) (Nat.le_refl _))
      rw [run_move] at after
      have cycles_eq : (run n m).cycles = c :: cyclesOf rest := by rw [cycles, top]; rfl
      change ((run n m).cycles.map Cycle.store).Nodup at once
      change c₀.store ∈ (run (n + 1) m).cycles.map Cycle.store at busy
      rw [cycles_eq, List.map_cons, List.nodup_cons] at once
      rw [after, ← store] at busy
      exact absurd busy once.1

/-- While the cycle goes on the log only grows, and the calls in it are those of the cycle. -/
theorem log_underway (orderly : m.Orderly) (begun : c₀ ∈ m.cycles)
    (going : ∀ k < n, (run k m).InCycle c₀.store) :
    ∃ new, (run n m).log.toList = m.log.toList ++ new ∧
      new.filterMap (LogEntry.call? c₀.store) = m.calls c₀.store n c₀.state := by
  induction n with
  | zero => exact ⟨[], by simp, rfl⟩
  | succ n ih =>
    obtain ⟨new, grown, told⟩ := ih fun k lt => going k (by omega)
    have busy : ∀ k ≤ n, (run k m).InCycle c₀.store := fun k le => going k (by omega)
    obtain ⟨c, there, store, state, _⟩ := underway orderly begun busy
    have orderly_n := orderly.run n
    have plain : ∀ r rest, (run n m).stack ≠ .answer r :: rest := by
      intro r rest top
      have rooted := orderly_n.rooted
      rw [top] at rooted
      rw [cycles, top, rooted.cyclesOf_answer] at there
      cases there
    refine ⟨new ++ (run n m).logged, ?_, ?_⟩
    · rw [← run_move, log_move plain, grown, List.append_assoc]
    · have next := calls_succ orderly_n there
      rw [store, state] at next
      rw [List.filterMap_append, told, next]

/-- At its end everybody had their turn. -/
theorem turns_of_returned (orderly : m.Orderly) (begun : c₀ ∈ m.cycles)
    (going : ∀ k < n, (run k m).InCycle c₀.store) (ended : ¬ (run n m).InCycle c₀.store) :
    (m.turns c₀.store n).map Prod.snd = c₀.due := by
  cases n with
  | zero => exact absurd ⟨c₀, mem_cyclesOf.mp begun, rfl⟩ ended
  | succ n =>
    have busy : ∀ k ≤ n, (run k m).InCycle c₀.store := fun k le => going k (by omega)
    obtain ⟨c, there, store, _, split⟩ := underway orderly begun busy
    rw [← store] at split ended ⊢
    have left : ∀ c' ∈ (run n m).move.cycles, c'.store ≠ c.store := by
      intro c' after same
      rw [run_move] at after
      exact ended ⟨c', mem_cyclesOf.mp after, same⟩
    cases advances (orderly.run n).sound.flagged.once there with
    | waits _ _ after => exact absurd rfl (left c after)
    | turns entry due rest _ _ after => exact absurd rfl (left { c with due } after)
    | ends rest top next _ =>
      have none : (run n m).turn? c.store = none := by simp [turn?, top, next]
      rw [turns_of_no_turn none, ← split, next, List.append_nil]

end Underway

end Machine

end LoginCard.Session
