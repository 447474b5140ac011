import LoginCard.Proofs.World

/-!
# A world and those who hold parts of it

A session, its scripts and its pages hold handles of stores, subscriptions and bindings, and each
accepted switch holds a cycle until its end. A `Holding` is a world with all that is held, and a
`Change` is the least that can happen to it. Whatever a run does is a chain of changes, so what each
change keeps, every run keeps.
-/

namespace LoginCard

/-- `handles` names a store once for each of its handles; the innermost cycle comes first. -/
structure Holding (ρ : Type) where
  world : World ρ
  handles : List Nat
  subscriptions : List Subscription
  bindings : List Nat
  cycles : List (Cycle ρ)

/-- What a change adds to the history of a run. -/
inductive Event where
  | opened (store : Nat) (l : Language)
  | subscribed (store : Nat)
  | accepted (store : Nat) (l : Language)
  | turned (store : Nat)
  | ended (store : Nat)
  deriving DecidableEq, Repr

namespace Holding

variable {ρ : Type}

def start (files : FileTree) : Holding ρ := ⟨World.empty files, [], [], [], []⟩

/-- All subscriptions that are held, by themselves or by a binding. -/
def issued (h : Holding ρ) : List Subscription :=
  h.subscriptions ++ h.bindings.filterMap h.world.subscription?

/-- The stores whose subscribers are being called. -/
def active (h : Holding ρ) : List Nat := h.cycles.map Cycle.store

end Holding

variable {ρ : Type}

/-- The least that can happen to what is held, with the event that it is. -/
inductive Change : Holding ρ → Option Event → Holding ρ → Prop where
  | aside {h : Holding ρ} {w : World ρ} : h.world.Beside w → Change h none { h with world := w }
  | arranged {h : Holding ρ} {handles bindings : List Nat} {subscriptions : List Subscription} :
      h.handles.Perm handles → h.subscriptions.Perm subscriptions → h.bindings.Perm bindings →
      Change h none { h with handles, subscriptions, bindings }
  | opened {h : Holding ρ} (l : Language) (storage : Option Nat) :
      Change h (some (.opened h.world.stores.length l))
        { h with
          world := (h.world.addStore l storage).2
          handles := h.world.stores.length :: h.handles }
  | retained {h : Holding ρ} {i : Nat} : i ∈ h.handles →
      Change h none { h with world := h.world.retain i, handles := i :: h.handles }
  | released {h : Holding ρ} {i : Nat} {rest : List Nat} : h.handles = i :: rest →
      Change h none { h with world := h.world.release i, handles := rest }
  | subscribed {h : Holding ρ} {i : Nat} {program : ρ} {sub : Subscription} {w : World ρ} :
      i ∈ h.handles → h.world.subscribe i (.run program) = some (sub, w) →
      Change h (some (.subscribed i))
        { h with world := w, subscriptions := sub :: h.subscriptions }
  | detached {h : Holding ρ} {sub : Subscription} {rest : List Subscription} :
      h.subscriptions = sub :: rest →
      Change h none { h with world := h.world.detach sub, subscriptions := rest }
  | bound {h : Holding ρ} {i b : Nat} {w : World ρ} :
      i ∈ h.handles → h.world.bind i = some (b, w) →
      Change h (some (.subscribed i)) { h with world := w, bindings := b :: h.bindings }
  | unbound {h : Holding ρ} {b : Nat} {rest : List Nat} : h.bindings = b :: rest →
      Change h none { h with world := h.world.unbind b, bindings := rest }
  | accepted {h : Holding ρ} {i : Nat} {switch : Switch} {w : World ρ} {c : Cycle ρ} :
      i ∈ h.handles → h.world.dispatch i switch = some (.accepted w c) →
      Change h (some (.accepted i switch.target)) { h with world := w, cycles := c :: h.cycles }
  | passed {h : Holding ρ} {c : Cycle ρ} {id : Nat} {callback : Callback ρ}
      {due : List (Nat × Callback ρ)} {rest : List (Cycle ρ)} :
      h.cycles = c :: rest → c.due = (id, callback) :: due →
      (h.world.isDue c.store id = true → ∃ program, callback = .run program) →
      Change h (some (.turned c.store)) { h with cycles := { c with due } :: rest }
  | refreshed {h : Holding ρ} {c : Cycle ρ} {id b : Nat} {due : List (Nat × Callback ρ)}
      {rest : List (Cycle ρ)} :
      h.cycles = c :: rest → c.due = (id, .refresh b) :: due → h.world.isDue c.store id = true →
      Change h (some (.turned c.store))
        { h with world := h.world.refresh b c.state, cycles := { c with due } :: rest }
  | ended {h : Holding ρ} {c : Cycle ρ} {rest : List (Cycle ρ)} :
      h.cycles = c :: rest → c.due = [] →
      Change h (some (.ended c.store)) { h with world := h.world.endCycle c.store, cycles := rest }

/-- Changes one after the other, with what they add to the history. -/
inductive Chain : Holding ρ → List Event → Holding ρ → Prop where
  | nil (h : Holding ρ) : Chain h [] h
  | cons {h h' h'' : Holding ρ} {e : Option Event} {es : List Event} :
      Change h e h' → Chain h' es h'' → Chain h (e.toList ++ es) h''

namespace Chain

theorem one {h h' : Holding ρ} {e : Option Event} (c : Change h e h') : Chain h e.toList h' := by
  simpa using Chain.cons c (.nil h')

theorem append {h h' h'' : Holding ρ} {es es' : List Event} (first : Chain h es h')
    (second : Chain h' es' h'') : Chain h (es ++ es') h'' := by
  induction first with
  | nil h => exact second
  | cons change _ ih =>
    rw [List.append_assoc]
    exact .cons change (ih second)

/-- A change that adds nothing to the history, before or after a chain. -/
theorem quietly {h h' h'' : Holding ρ} {es : List Event} (change : Change h none h')
    (rest : Chain h' es h'') : Chain h es h'' := by
  simpa using Chain.cons change rest

/-- What each change adds to the history and keeps of it, a chain does. -/
theorem history {P : List Event → Holding ρ → Prop}
    (step : ∀ {h h' : Holding ρ} {e : Option Event} {es : List Event},
      Change h e h' → P es h → P (es ++ e.toList) h')
    {h h' : Holding ρ} {es : List Event} (chain : Chain h es h') (before : List Event)
    (start : P before h) : P (before ++ es) h' := by
  induction chain generalizing before with
  | nil h => simpa using start
  | cons change _ ih =>
    rw [← List.append_assoc]
    exact ih _ (step change start)

/-- What each change keeps, a chain keeps. -/
theorem preserves {P : Holding ρ → Prop}
    (step : ∀ {h h' : Holding ρ} {e : Option Event}, Change h e h' → P h → P h')
    {h h' : Holding ρ} {es : List Event} (chain : Chain h es h') (start : P h) : P h' :=
  history (P := fun _ => P) step chain [] start

end Chain

end LoginCard
