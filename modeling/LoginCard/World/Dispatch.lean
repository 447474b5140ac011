import LoginCard.World.Basic

/-!
# Dispatch and notification

A switch that a store accepts changes its language, is written to its storage, and starts a cycle:
the subscribers of that moment are called one after the other, each only if it is still subscribed
when its turn comes. While its cycle lasts, a store refuses every switch.
-/

namespace LoginCard

/-- The rest of a notification: who is still to be called, and with which state. -/
structure Cycle (ρ : Type) where
  store : Nat
  state : Reference Language
  due : List (Nat × Callback ρ)

/-- What a switch comes to: nothing at all, or a cycle to be run. -/
inductive Dispatched (ρ : Type) where
  | refused (w : World ρ)
  | accepted (w : World ρ) (cycle : Cycle ρ)

namespace World

variable {ρ : Type}

/-- Gives the store a new state, unless it has that language already. -/
def moveTo (w : World ρ) (i : Nat) (current : Reference Language) (l : Language) :
    Reference Language × World ρ :=
  if l = current.value then (current, w)
  else
    let (state, w) := w.newReference l
    (state, (w.onStore i fun s => { s with state := state }).log [.switched current.value l])

/-- Writes the language to the storage of a store, if it has one. A failure is only logged. -/
def persist (w : World ρ) (storage : Option Nat) (l : Language) : World ρ :=
  match storage with
  | none => w
  | some shelf =>
    match w.withShelf shelf fun m => ((), Choice.saveOrWarn m l) with
    | some ((), w) => w
    | none => w

def dispatch (w : World ρ) (i : Nat) (s : Switch) : Option (Dispatched ρ) :=
  (w.stores[i]?).map fun store =>
    if store.notifying then .refused (w.log [.refusedSwitch s])
    else
      let (state, w) := w.moveTo i store.state s.target
      let w := w.persist store.storage s.target
      .accepted (w.onStore i fun s => { s with notifying := true }) ⟨i, state, store.subscribers⟩

/-- Asks for a language by its tag. A tag that names none is only logged. -/
def requestLanguage (w : World ρ) (i : Nat) (tag : String) : Option (Dispatched ρ) :=
  match Language.ofTag? tag with
  | some l => w.dispatch i (.toward l)
  | none => some (.refused (w.log [.ignoredSwitch (.unsupportedTag tag)]))

/-- Whether the subscriber whose turn it is is still subscribed. -/
def isDue (w : World ρ) (store id : Nat) : Bool :=
  match w.stores[store]? with
  | some s => s.isSubscribed id
  | none => false

def endCycle (w : World ρ) (store : Nat) : World ρ :=
  w.onStore store fun s => { s with notifying := false }

/-- Runs a cycle where no subscriber runs anything. -/
def settle (w : World Empty) (store : Nat) (state : Reference Language) :
    List (Nat × Callback Empty) → World Empty
  | [] => w.endCycle store
  | (id, .refresh binding) :: due =>
    if w.isDue store id then (w.refresh binding state).settle store state due
    else w.settle store state due
  | (_, .run program) :: _ => nomatch program

end World

end LoginCard
