import LoginCard.Proofs.Lockstep

/-!
# Faults of a storage do not show

Whether the language of a store can be written, and what stands in its storage, shows in nothing that
the stores answer, tell their subscribers or let a page show. Two runs that differ in their storages
alone go the same way, move by move, and a fault of a storage is told only to those who call the
storage themselves.
-/

namespace LoginCard.Session

def Answer.front (a : Answer) : Answer := { a with records := [] }

namespace Machine

/-- What a machine shows in front of the storages: all that was answered and logged by callbacks,
and all that is still to be done. -/
def front (m : Machine) : Machine :=
  { m with session := m.session.front, answers := m.answers.map Answer.front }

theorem front_eq_iff {m m' : Machine} :
    m.front = m'.front ↔ m.session.front = m'.session.front ∧ m.log = m'.log ∧
      m.answers.map Answer.front = m'.answers.map Answer.front ∧ m.stack = m'.stack := by
  simp [front]

section Alike

variable {m m' : Machine} (alike : m.front = m'.front)

include alike

theorem turn_alike (c : Cycle Reaction) (rest : List Task) :
    (m.turn c rest).front = (m'.turn c rest).front := by
  obtain ⟨session, log, answers, _⟩ := front_eq_iff.mp alike
  have worlds := world_alike session
  unfold turn
  dsimp only
  split
  · have ended := World.onStore_alike worlds c.store
      (f := fun s => { s with notifying := false }) fun _ => rfl
    exact front_eq_iff.mpr ⟨inWorld_alike session ended, log, answers, rfl⟩
  · rename_i id callback due _
    rw [World.isDue_alike worlds c.store id]
    split
    · cases callback with
      | refresh b =>
        have refreshed := World.refresh_alike worlds b c.state
        exact front_eq_iff.mpr
          ⟨inWorld_alike session refreshed, congrArg (Array.push · _) log, answers, rfl⟩
      | run program =>
        exact front_eq_iff.mpr ⟨session, congrArg (Array.push · _) log, answers, rfl⟩
    · exact front_eq_iff.mpr ⟨session, log, answers, rfl⟩

theorem performed_alike {step : Step} (same : m.session.SeesSame m'.session step)
    (reply : Reply → Task) (below : List Task) :
    (m.perform step reply below).front = (m'.perform step reply below).front := by
  obtain ⟨session, log, answers, _⟩ := front_eq_iff.mp alike
  have performed := perform_of_seesSame session same
  unfold Machine.perform
  cases here : m.session.perform step <;> cases there : m'.session.perform step <;>
    simp only [here, there, Performed.front, reduceCtorEq, Performed.reply.injEq,
      Performed.cycle.injEq] at performed
  · obtain ⟨sessions, rfl⟩ := performed
    exact front_eq_iff.mpr ⟨sessions, log, answers, rfl⟩
  · obtain ⟨sessions, rfl, rfl⟩ := performed
    exact front_eq_iff.mpr ⟨sessions, log, answers, rfl⟩

theorem answer_alike (r : Reply) (rest : List Task) :
    ({ m.answer r with stack := rest } : Machine).front =
      ({ m'.answer r with stack := rest } : Machine).front := by
  obtain ⟨session, log, answers, _⟩ := front_eq_iff.mp alike
  refine front_eq_iff.mpr ⟨inWorld_alike session (world_alike session), rfl, ?_, rfl⟩
  simp [answer, Answer.front, answers, log, standings_alike session]

/-- A move does the same in front of the storages. -/
theorem move_alike (same : ∀ step, m.next? = some step → m.session.SeesSame m'.session step) :
    m.move.front = m'.move.front := by
  obtain ⟨session, log, answers, stack⟩ := front_eq_iff.mp alike
  rw [move, move, ← stack]
  split
  · exact alike
  · exact turn_alike alike _ _
  · exact front_eq_iff.mpr ⟨session, log, answers, rfl⟩
  · rename_i top
    exact performed_alike alike (same _ (by simp [next?, top])) _ _
  · exact front_eq_iff.mpr ⟨session, log, answers, rfl⟩
  · rename_i top
    exact performed_alike alike (same _ (by simp [next?, top])) _ _
  · exact answer_alike alike _ _
  · exact front_eq_iff.mpr ⟨session, congrArg (Array.push · _) log, answers, rfl⟩

/-- A run does the same in front of the storages, as long as it looks at none of them. -/
theorem run_alike (n : Nat)
    (same : ∀ k < n, ∀ step, (run k m).next? = some step →
      (run k m).session.SeesSame (run k m').session step) :
    (run n m).front = (run n m').front := by
  induction n with
  | zero => exact alike
  | succ n ih =>
    rw [← run_move, ← run_move]
    exact move_alike (ih fun k lt => same k (Nat.lt_succ_of_lt lt)) (same n (Nat.lt_succ_self n))

end Alike

/-- The second machine gives the same answers and calls, has the same to do, and its stores,
bindings and pages are the same. Whatever looks at no storage would be answered the same. -/
structure LooksLike (m m' : Machine) : Prop where
  answers : m'.answers.map (fun a => (a.reply, a.log, a.stores)) =
    m.answers.map fun a => (a.reply, a.log, a.stores)
  log : m'.log = m.log
  stack : m'.stack = m.stack
  standings : standings m'.session = standings m.session
  states : m'.holding.states = m.holding.states
  subscribers : m'.session.world.column Store.subscribers =
    m.session.world.column Store.subscribers
  flags : m'.holding.flags = m.holding.flags
  bindings : m'.session.world.bindings = m.session.world.bindings
  pages : m'.session.pages = m.session.pages
  replies : ∀ step, step.seesStorages = false →
    (m'.session.perform step).answer = (m.session.perform step).answer

theorem answer_front (p : Performed) : p.front.answer = p.answer := by
  cases p <;> rfl

theorem column_front {ρ α : Type} (w : World ρ) (f : Store ρ → α) (shows : ∀ s, f s.front = f s) :
    w.front.column f = w.column f := by
  simp [World.column, World.front, shows]

theorem looksLike_of_alike {m m' : Machine} (alike : m.front = m'.front) : m.LooksLike m' := by
  obtain ⟨session, log, answers, stack⟩ := front_eq_iff.mp alike
  have columns : ∀ {α : Type} (f : Store Reaction → α), (∀ s, f s.front = f s) →
      m'.session.world.column f = m.session.world.column f := by
    intro α f shows
    rw [← column_front m'.session.world f shows, ← world_alike session, column_front _ f shows]
  constructor
  case answers =>
    have shown := congrArg (List.map fun a => (a.reply, a.log, a.stores)) answers
    simpa [Answer.front, Function.comp_def] using shown.symm
  case log => exact log.symm
  case stack => exact stack.symm
  case standings => exact (standings_alike session).symm
  case states => exact columns Store.state fun _ => rfl
  case subscribers => exact columns Store.subscribers fun _ => rfl
  case flags => exact columns Store.notifying fun _ => rfl
  case bindings => exact (World.bindings_alike (world_alike session)).symm
  case pages => exact (field_alike session pages fun _ => rfl).symm
  case replies =>
    intro step unseeing
    rw [← answer_front (m'.session.perform step), ← perform_alike session unseeing, answer_front]

end Machine

/-- The steps by which a script calls a storage itself. -/
def Step.callsStorage : Step → Bool
  | .get .. | .set .. | .save .. | .load .. | .restore .. => true
  | _ => false

def Reply.isStorageFault : Reply → Bool
  | .fault (.storage _) => true
  | _ => false

/-- The step replies with no fault of a storage, if it is valid at all. -/
def Discreet (p : Option Performed) : Prop := ∀ q, p = some q → q.answer.isStorageFault = false

section Discretion

variable {s : Session}

theorem discreet_none : Discreet none := by
  intro q performed
  cases performed

theorem discreet_some {q : Performed} (silent : q.answer.isStorageFault = false) :
    Discreet (some q) := by
  intro q' same
  rw [← Option.some.inj same, silent]

theorem discreet_bind {α : Type} {found : Option α} {g : α → Option Performed}
    (each : ∀ a, Discreet (g a)) : Discreet (found.bind g) := by
  intro q performed
  obtain ⟨a, _, performed⟩ := Option.bind_eq_some_iff.mp performed
  exact each a q performed

theorem Discreet.orInvalid {p : Option Performed} (discreet : Discreet p) :
    (s.orInvalid p).answer.isStorageFault = false := by
  cases p with
  | none => rfl
  | some q => exact discreet q rfl

theorem discreet_ofDispatched {accepted refused : Reply} (d : Option (Dispatched Reaction))
    (first : accepted.isStorageFault = false) (second : refused.isStorageFault = false) :
    Discreet (some (s.ofDispatched accepted refused d)) := by
  apply discreet_some
  rcases d with _ | _ | _
  · rfl
  · exact second
  · exact first

theorem discreet_performStore (step : Step) : Discreet (s.performStore step) := by
  cases step with
  | newStore => exact discreet_some rfl
  | openStore => exact discreet_bind fun _ => discreet_bind fun _ => discreet_some rfl
  | cloneStore | dropStore | locale | describeStore =>
    exact discreet_bind fun _ => discreet_some rfl
  | dispatch | setLocale => exact discreet_bind fun _ => discreet_ofDispatched _ rfl rfl
  | _ => exact discreet_none

theorem discreet_performSubscription (step : Step) : Discreet (s.performSubscription step) := by
  cases step with
  | subscribe => exact discreet_bind fun _ => discreet_bind fun _ => discreet_some rfl
  | unsubscribe | dropSubscription | describeSubscription =>
    exact discreet_bind fun _ => discreet_some rfl
  | _ => exact discreet_none

theorem discreet_performState (step : Step) : Discreet (s.performState step) := by
  cases step with
  | freshState | selector => exact discreet_some rfl
  | snapshot => exact discreet_bind fun _ => discreet_some rfl
  | sameState | select | sameOutput =>
    exact discreet_bind fun _ => discreet_bind fun _ => discreet_some rfl
  | _ => exact discreet_none

theorem discreet_submit (p : OpenPage) (accept : Bool) : Discreet (some (s.submit p accept)) := by
  apply discreet_some
  unfold submit
  dsimp only
  split <;> rfl

theorem discreet_performPage (step : Step) : Discreet (s.performPage step) := by
  cases step with
  | bind | page => exact discreet_bind fun _ => discreet_bind fun _ => discreet_some rfl
  | binding | dropBinding | fill | render | renderPath | pageInfo | dropPage =>
    exact discreet_bind fun _ => discreet_some rfl
  | submit => exact discreet_bind fun _ => discreet_submit _ _
  | _ => exact discreet_none

/-- Nobody is told of a fault of a storage but those who call it. -/
theorem perform_discreet (s : Session) {step : Step} (other : step.callsStorage = false) :
    (s.perform step).answer.isStorageFault = false := by
  cases step with
  | get | set | save | load | restore => cases other
  | plantFile | viewFile | clearFile | color | unsupported | unreadable => rfl
  | storage => exact (discreet_some rfl).orInvalid
  | calls =>
    exact Discreet.orInvalid (discreet_bind fun _ => discreet_bind fun _ => discreet_some rfl)
  | newStore | openStore | cloneStore | dropStore | dispatch | setLocale | locale
  | describeStore => exact (discreet_performStore _).orInvalid
  | subscribe | unsubscribe | dropSubscription | describeSubscription =>
    exact (discreet_performSubscription _).orInvalid
  | snapshot | freshState | sameState | selector | select | sameOutput =>
    exact (discreet_performState _).orInvalid
  | bind | binding | dropBinding | page | fill | render | renderPath | pageInfo | submit
  | dropPage => exact (discreet_performPage _).orInvalid

end Discretion

namespace Machine

/-- From any two machines that differ in storages, files and records alone, and for any number of
moves, as long as no step looks at a storage but to open a store that starts in the same language in
both. -/
theorem storage_faults_do_not_show (m m' : Machine) (n : Nat) (alike : m.front = m'.front)
    (same : ∀ k < n, ∀ step, (run k m).next? = some step →
      (run k m).session.SeesSame (run k m').session step) :
    (∀ k ≤ n, (run k m).LooksLike (run k m')) ∧
      ∀ (s : Session) (step : Step), step.callsStorage = false →
        (s.perform step).answer.isStorageFault = false := by
  constructor
  · intro k le
    exact looksLike_of_alike (run_alike alike k fun j lt => same j (Nat.lt_of_lt_of_le lt le))
  · intro s step other
    exact perform_discreet s other

theorem seesSame_of_unseeing {s s' : Session} {step : Step} (unseeing : step.seesStorages = false) :
    s.SeesSame s' step := by
  cases step <;> first | exact unseeing | cases unseeing

/-- A script and a storage in memory, of whose writes some fail. -/
def withFaults (fails : Nat → Bool) (steps : List Step) : Machine :=
  let s := Session.new ""
  let w := (s.world.addShelf ⟨.memory .empty, fun _ => false, fails, 0, 0⟩).2
  ⟨{ s with world := w, storages := [("m", 0)] }, #[], [], [.script steps]⟩

/-- A store is opened on the storage and switched, with a page and another store that is switched
from within its cycle. -/
def watched : List Step :=
  [.openStore "a" "m" .english, .page "a" "p" "\x7bcardMetaTitle\x7d", .newStore "b" .russian,
    .subscribe "a" "u" [.dispatch "b" .toEnglish, .dispatch "a" .toEnglish, .render "p"],
    .dispatch "a" .toRussian, .render "p"]

/-- The storage keeps the first language, since only that was written, and nothing else shows it. -/
theorem later_faults_do_not_show :
    let m := withFaults (fun _ => false) watched
    let m' := withFaults (fun k => k != 0) watched
    (∀ k ≤ 25, (run k m).LooksLike (run k m')) ∧ (run 25 m).isDone = true ∧
      (run 25 m).session.world.loaded? 0 = some .russian ∧
      (run 25 m').session.world.loaded? 0 = some .english := by
  intro m m'
  have quiet : ∀ k < 25, k ≠ 0 →
      ((run k m).next?.all fun step => !step.seesStorages) = true := by decide
  have same : ∀ k < 25, ∀ step, (run k m).next? = some step →
      (run k m).session.SeesSame (run k m').session step := by
    intro k lt step next
    by_cases first : k = 0
    · subst first
      obtain rfl := Option.some.inj next
      exact (by decide : m.session.restored? "m" .english = m'.session.restored? "m" .english)
    · have unseeing := quiet k lt first
      rw [next] at unseeing
      exact seesSame_of_unseeing (by simpa using unseeing)
  refine ⟨(storage_faults_do_not_show m m' 25 rfl same).1, ?_, ?_, ?_⟩ <;> decide

end Machine

end LoginCard.Session
