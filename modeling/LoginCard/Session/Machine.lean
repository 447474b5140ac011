import LoginCard.Session.Basic

/-!
# Running a script

A machine is a session with a stack of what is still to be done: the rest of a script, the rest of a
cycle, a reply that is due when the cycle above it has ended. Each move takes one step of a script,
or one turn of a cycle. Reactions may go on for ever where they make new stores, so a run is given a
number of moves.
-/

namespace LoginCard.Session

/-- What subscribers do is logged in the order in which it happens. -/
inductive LogEntry where
  | called (store id : Nat) (callback : Callback Reaction) (state : Reference Language)
  | replied (name : String) (step : Step) (r : Reply)

/-- What a session shows after a step: the name of each store with its language and the number of
its subscribers. -/
structure Answer where
  reply : Reply
  log : List LogEntry
  records : List LogRecord
  stores : List (String × Language × Nat)

inductive Task where
  | cycle (c : Cycle Reaction)
  | script (steps : List Step)
  | reaction (name : String) (steps : List Step)
  | answer (r : Reply)
  | report (name : String) (step : Step) (r : Reply)

structure Machine where
  session : Session
  log : Array LogEntry
  answers : List Answer
  stack : List Task

namespace Machine

def start (root : String) (steps : List Step) : Machine :=
  ⟨Session.new root, #[], [], [.script steps]⟩

def standings (s : Session) : List (String × Language × Nat) :=
  s.stores.filterMap fun (name, i) =>
    (s.world.stores[i]?).map fun store => (name, store.state.value, store.subscribers.length)

/-- Answers a step of the script, with everything that was logged since the answer before. -/
def answer (m : Machine) (r : Reply) : Machine :=
  let world := m.session.world
  { m with
    session := { m.session with world := { world with records := #[] } }
    log := #[]
    answers := m.answers ++ [⟨r, m.log.toList, world.records.toList, standings m.session⟩] }

def report (m : Machine) (name : String) (step : Step) (r : Reply) : Machine :=
  { m with log := m.log.push (.replied name step r) }

/-- One turn of a cycle, with the tasks below it. -/
def turn (m : Machine) (c : Cycle Reaction) (rest : List Task) : Machine :=
  let world := m.session.world
  match c.due with
  | [] => { m with session := { m.session with world := world.endCycle c.store }, stack := rest }
  | (id, callback) :: due =>
    let rest := .cycle { c with due } :: rest
    if world.isDue c.store id then
      let m := { m with log := m.log.push (.called c.store id callback c.state) }
      match callback with
      | .refresh b =>
        { m with session := { m.session with world := world.refresh b c.state }, stack := rest }
      | .run program => { m with stack := .reaction program.name program.steps :: rest }
    else { m with stack := rest }

/-- Performs a step of a script or of a reaction; `reply` is the task that its reply is. -/
def perform (m : Machine) (step : Step) (reply : Reply → Task) (rest : List Task) : Machine :=
  match m.session.perform step with
  | .reply s r => { m with session := s, stack := reply r :: rest }
  | .cycle s c r => { m with session := s, stack := .cycle c :: reply r :: rest }

def move (m : Machine) : Machine :=
  match m.stack with
  | [] => m
  | .cycle c :: rest => m.turn c rest
  | .script [] :: rest => { m with stack := rest }
  | .script (step :: steps) :: rest => m.perform step .answer (.script steps :: rest)
  | .reaction _ [] :: rest => { m with stack := rest }
  | .reaction name (step :: steps) :: rest =>
    m.perform step (.report name step) (.reaction name steps :: rest)
  | .answer r :: rest => { m.answer r with stack := rest }
  | .report name step r :: rest => { m.report name step r with stack := rest }

def isDone (m : Machine) : Bool := m.stack.isEmpty

/-- At most `n` moves. -/
def run : Nat → Machine → Machine
  | 0, m => m
  | n + 1, m => if m.isDone then m else run n m.move

@[simp] theorem move_of_done (m : Machine) (h : m.isDone = true) : m.move = m := by
  unfold isDone at h
  unfold move
  split <;> simp_all

@[simp] theorem run_zero (m : Machine) : run 0 m = m := rfl

/-- A machine that is done stays as it is, so a run is nothing but moves. -/
@[simp] theorem run_succ (n : Nat) (m : Machine) : run (n + 1) m = run n m.move := by
  by_cases h : m.isDone = true
  · rw [move_of_done m h]
    induction n with
    | zero => simp [run, h]
    | succ n ih => rw [run, if_pos h, run, if_pos h]
  · simp [run, h]

theorem run_add (k n : Nat) (m : Machine) : run (k + n) m = run n (run k m) := by
  induction k generalizing m with
  | zero => simp
  | succ k ih => simpa [Nat.succ_add] using ih m.move

theorem run_of_done (n : Nat) (m : Machine) (h : m.isDone = true) : run n m = m := by
  induction n with
  | zero => rfl
  | succ n ih => rw [run_succ, move_of_done m h, ih]

end Machine

/-- Enough moves for every script that ends in reasonable time. -/
def moveLimit : Nat := 1000000000000

/-- The answers to the steps of a script, nothing if it does not end. -/
def answers (root : String) (steps : List Step) : Option (List Answer) :=
  let m := (Machine.start root steps).run moveLimit
  if m.isDone then some m.answers else none

end LoginCard.Session
