import LoginCard.Session.Step

/-!
# Performing a step

A session is a world whose objects have names. To give a name anew makes the new object first and
drops the older one after it. A step that names what nobody defined is invalid and changes nothing.
-/

namespace LoginCard

/-- A page of a session: its strings come from a binding. -/
structure OpenPage where
  binding : Nat
  template : Template
  form : LoginForm

/-- A selector with its own number, so that outputs of different selectors differ. -/
structure NumberedSelector where
  number : Nat
  selector : Selector Language Session.Picked

structure Output where
  selector : Nat
  reference : Reference Session.Picked

structure Session where
  root : String
  world : World Session.Reaction
  storages : Keyed Nat
  stores : Keyed Nat
  subscriptions : Keyed Subscription
  bindings : Keyed Nat
  pages : Keyed OpenPage
  states : Keyed (Reference Language)
  selectors : Keyed NumberedSelector
  outputs : Keyed Output
  nextSelector : Nat
  color : Bool

namespace Session

/-- What performing a step comes to: a reply at once, or a reply after a cycle. -/
inductive Performed where
  | reply (s : Session) (r : Reply)
  | cycle (s : Session) (c : Cycle Reaction) (r : Reply)

/-- Paths of a session start at a directory of its own. -/
def new (root : String) : Session :=
  { root := root
    world := World.empty (FileTree.empty.makeDirectories root).2
    storages := []
    stores := []
    subscriptions := []
    bindings := []
    pages := []
    states := []
    selectors := []
    outputs := []
    nextSelector := 0
    color := true }

def place (s : Session) (path : String) : String := s.root ++ "/" ++ path

def store? (s : Session) (name : String) : Option (Nat × Store Reaction) := do
  let i ← Keyed.find? name s.stores
  let store ← s.world.stores[i]?
  some (i, store)

def binding? (s : Session) (i : Nat) : Option Binding := s.world.bindings[i]?

def dropHandle (s : Session) : Option Nat → Session
  | some i => { s with world := s.world.release i }
  | none => s

def dropSubscription (s : Session) : Option Subscription → Session
  | some sub => { s with world := s.world.detach sub }
  | none => s

def dropBinding (s : Session) : Option Nat → Session
  | some b => { s with world := s.world.unbind b }
  | none => s

/-- Gives a store a name and drops the handle that bore it. -/
def nameStore (s : Session) (name : String) (i : Nat) : Session :=
  dropHandle { s with stores := Keyed.insert name i s.stores } (Keyed.find? name s.stores)

def nameSubscription (s : Session) (name : String) (sub : Subscription) : Session :=
  dropSubscription { s with subscriptions := Keyed.insert name sub s.subscriptions }
    (Keyed.find? name s.subscriptions)

def nameBinding (s : Session) (name : String) (b : Nat) : Session :=
  dropBinding { s with bindings := Keyed.insert name b s.bindings } (Keyed.find? name s.bindings)

def namePage (s : Session) (name : String) (p : OpenPage) : Session :=
  dropBinding { s with pages := Keyed.insert name p s.pages }
    ((Keyed.find? name s.pages).map OpenPage.binding)

/-- Runs a call on a named storage and replies with what it answers. -/
def onStorage {α : Type} (s : Session) (name : String)
    (f : Mounted → α × Mounted × List LogRecord) (reply : α → Reply) : Performed :=
  match (Keyed.find? name s.storages).bind fun i => s.world.withShelf i f with
  | some (a, w) => .reply { s with world := w } (reply a)
  | none => .reply s .invalid

def ofAccess {α : Type} (a : Access Mounted α) : Except StorageFault α × Mounted × List LogRecord :=
  (a.result, a.after, a.records)

def replyOf {α : Type} (f : α → Reply) : Except StorageFault α → Reply
  | .ok a => f a
  | .error e => .fault (.storage e)

/-- What is left to do after a switch was asked for. -/
def ofDispatched (s : Session) (accepted refused : Reply) : Option (Dispatched Reaction) → Performed
  | some (.accepted w c) => .cycle { s with world := w } c accepted
  | some (.refused w) => .reply { s with world := w } refused
  | none => .reply s .invalid

def describeStore (s : Store Reaction) : String :=
  "LocaleStore \x7b locale: " ++ s.state.value.compactName ++ ", persistent: " ++
    toString s.storage.isSome ++ ", subscribers: " ++ toString s.subscribers.length ++ " \x7d"

def describeSubscription (sub : Subscription) : String :=
  "Subscription \x7b id: Some(" ++ toString sub.id ++ ") \x7d"

def pick (button : Bool) (l : Language) : Picked :=
  if button then .text l.strings.buttonText else .strings l.strings

/-- Replaces whatever stands at a path, and makes the directories on the way. -/
def plantFile (s : Session) (path : String) : Option FileEntry → Session
  | none => s
  | some .directory =>
    { s with world := { s.world with files := (s.world.files.makeDirectories (s.place path)).2 } }
  | some (.file bytes) =>
    let files := (s.world.files.makeParents (s.place path)).2
    { s with world := { s.world with files := (files.writeBytes (s.place path) bytes).2 } }

def fileAt (t : FileTree) (path : String) : Option FileEntry :=
  match t.find path with
  | .ok (_, e) => some e
  | .error .isDirectory => some .directory
  | .error _ => none

def clearFile (s : Session) (path : String) : Session :=
  { s with world := { s.world with files := s.world.files.clear (s.place path) } }

def pageText (s : Session) (p : OpenPage) (b : Binding) (route : Route) : String :=
  Page.ofRoute route p.template b.current p.form s.color

def page? (s : Session) (name : String) : Option (OpenPage × Binding) := do
  let p ← Keyed.find? name s.pages
  let b ← s.binding? p.binding
  some (p, b)

def orInvalid (s : Session) (p : Option Performed) : Performed := p.getD (.reply s .invalid)

def submit (s : Session) (p : OpenPage) (accept : Bool) : Performed :=
  let authority := if accept then Authority.everybody else Authority.nobody
  let (result, records) := Page.submit p.form authority
  match result with
  | .error e => .reply { s with world := s.world.log records } (.fault (.form e))
  | .ok answer =>
    let (home, more) := Route.navigate Route.home.path answer.authenticated
    .reply { s with world := s.world.log (records ++ more) }
      (.submitted answer.authenticated (if accept then [answer.credentials] else []) home)

def performStorage (s : Session) : Step → Option Performed
  | .storage name path getFails setFails =>
    let medium :=
      match path with
      | some path => Medium.file (s.place path)
      | none => Medium.memory MemoryStorage.empty
    let (i, w) := s.world.addShelf ⟨medium, fun _ => getFails, fun _ => setFails, 0, 0⟩
    some (.reply { s with world := w, storages := Keyed.insert name i s.storages } .done)
  | .get name key =>
    some (s.onStorage name (fun m => ofAccess (Storage.get m key)) (replyOf .slot))
  | .set name key v =>
    some (s.onStorage name (fun m => ofAccess (Storage.set m key v)) (replyOf fun _ => .done))
  | .calls name => do
    let i ← Keyed.find? name s.storages
    let shelf ← s.world.shelves[i]?
    some (.reply s (.calls shelf.gets shelf.sets))
  | .save name l =>
    some (s.onStorage name (fun m => ofAccess (Choice.save m l)) (replyOf fun _ => .done))
  | .load name =>
    some (s.onStorage name Choice.load fun
      | .ok l => .language l
      | .error e => .fault (Fault.ofRestore e))
  | .restore name fallback =>
    some (s.onStorage name (fun m => Choice.restore m fallback) .language)
  | _ => none

def performStore (s : Session) : Step → Option Performed
  | .newStore name l =>
    let (i, w) := s.world.addStore l none
    some (.reply ({ s with world := w }.nameStore name i) .done)
  | .openStore name storage fallback => do
    let shelf ← Keyed.find? storage s.storages
    let (i, w) ← s.world.openStore shelf fallback
    some (.reply ({ s with world := w }.nameStore name i) .done)
  | .cloneStore store name => do
    let (i, _) ← s.store? store
    some (.reply ({ s with world := s.world.retain i }.nameStore name i) .done)
  | .dropStore store => do
    let i ← Keyed.find? store s.stores
    some (.reply ({ s with stores := Keyed.erase store s.stores }.dropHandle (some i)) .done)
  | .dispatch store switch => do
    let (i, _) ← s.store? store
    some (s.ofDispatched (.flag true) (.flag false) (s.world.dispatch i switch))
  | .setLocale store tag => do
    let (i, _) ← s.store? store
    some (s.ofDispatched .done .done (s.world.requestLanguage i tag))
  | .locale store => do
    let (_, store) ← s.store? store
    some (.reply s (.strings store.state.value.strings))
  | .describeStore store => do
    let (_, store) ← s.store? store
    some (.reply s (.text (describeStore store)))
  | _ => none

def performSubscription (s : Session) : Step → Option Performed
  | .subscribe store name reaction => do
    let (i, _) ← s.store? store
    let (sub, w) ← s.world.subscribe i (.run ⟨name, reaction⟩)
    some (.reply ({ s with world := w }.nameSubscription name sub) .done)
  | .unsubscribe name => do
    let sub ← Keyed.find? name s.subscriptions
    let s := { s with subscriptions := Keyed.erase name s.subscriptions }
    some (.reply (s.dropSubscription (some sub)) .done)
  | .dropSubscription name => do
    let sub ← Keyed.find? name s.subscriptions
    let s := { s with subscriptions := Keyed.erase name s.subscriptions }
    some (.reply (s.dropSubscription (some sub)) .done)
  | .describeSubscription name => do
    let sub ← Keyed.find? name s.subscriptions
    some (.reply s (.text (describeSubscription sub)))
  | _ => none

def performState (s : Session) : Step → Option Performed
  | .snapshot store name => do
    let (_, store) ← s.store? store
    some (.reply { s with states := Keyed.insert name store.state s.states } .done)
  | .freshState l name =>
    let (state, w) := s.world.newReference l
    some (.reply { s with world := w, states := Keyed.insert name state s.states } .done)
  | .sameState first second => do
    let a ← Keyed.find? first s.states
    let b ← Keyed.find? second s.states
    some (.reply s (.compared (a.id = b.id) (a.value = b.value)))
  | .selector name button =>
    let selector := ⟨s.nextSelector, Selector.new (pick button)⟩
    some (.reply
      { s with
        selectors := Keyed.insert name selector s.selectors
        nextSelector := s.nextSelector + 1 } .done)
  | .select name state output => do
    let selector ← Keyed.find? name s.selectors
    let state ← Keyed.find? state s.states
    let (reference, after) := selector.selector.select state
    some (.reply
      { s with
        selectors := Keyed.insert name ⟨selector.number, after⟩ s.selectors
        outputs := Keyed.insert output ⟨selector.number, reference⟩ s.outputs }
      (.picked reference.value after.computations))
  | .sameOutput first second => do
    let a ← Keyed.find? first s.outputs
    let b ← Keyed.find? second s.outputs
    some (.reply s (.flag (a.selector = b.selector && a.reference.id = b.reference.id)))
  | _ => none

def performPage (s : Session) : Step → Option Performed
  | .bind store name => do
    let (i, _) ← s.store? store
    let (b, w) ← s.world.bind i
    some (.reply ({ s with world := w }.nameBinding name b) .done)
  | .binding name => do
    let b ← (Keyed.find? name s.bindings).bind s.binding?
    some (.reply s (.bound b.current.language b.renders))
  | .dropBinding name => do
    let b ← Keyed.find? name s.bindings
    some (.reply ({ s with bindings := Keyed.erase name s.bindings }.dropBinding (some b)) .done)
  | .page store name template => do
    let (i, _) ← s.store? store
    let (b, w) ← s.world.bind i
    some (.reply
      ({ s with world := w }.namePage name ⟨b, Template.parse template, LoginForm.empty⟩) .done)
  | .fill name username password => do
    let p ← Keyed.find? name s.pages
    let form := ⟨username.getD p.form.username, password.getD p.form.password⟩
    some (.reply { s with pages := Keyed.insert name { p with form } s.pages } .done)
  | .render name => do
    let (p, b) ← s.page? name
    some (.reply s (.text (s.pageText p b .login)))
  | .renderPath name path authenticated => do
    let (p, b) ← s.page? name
    let (route, records) := Route.navigate path authenticated
    some (.reply { s with world := s.world.log records } (.shown (route.map (s.pageText p b))))
  | .pageInfo name => do
    let (p, b) ← s.page? name
    some (.reply s (.page b.current b.renders p.form))
  | .submit name accept => do
    let p ← Keyed.find? name s.pages
    some (s.submit p accept)
  | .dropPage name => do
    let p ← Keyed.find? name s.pages
    some (.reply ({ s with pages := Keyed.erase name s.pages }.dropBinding (some p.binding)) .done)
  | _ => none

def perform (s : Session) (step : Step) : Performed :=
  match step with
  | .plantFile path content => .reply (s.plantFile path content) .done
  | .viewFile path => .reply s (.file (fileAt s.world.files (s.place path)))
  | .clearFile path => .reply (s.clearFile path) .done
  | .color on => .reply { s with color := on } .done
  | .unsupported _ cause => .reply s (.fault (.locale cause))
  | .unreadable _ => .reply s .invalid
  | .storage .. | .get .. | .set .. | .calls .. | .save .. | .load .. | .restore .. =>
    s.orInvalid (s.performStorage step)
  | .newStore .. | .openStore .. | .cloneStore .. | .dropStore .. | .dispatch .. | .setLocale ..
  | .locale .. | .describeStore .. => s.orInvalid (s.performStore step)
  | .subscribe .. | .unsubscribe .. | .dropSubscription .. | .describeSubscription .. =>
    s.orInvalid (s.performSubscription step)
  | .snapshot .. | .freshState .. | .sameState .. | .selector .. | .select .. | .sameOutput .. =>
    s.orInvalid (s.performState step)
  | .bind .. | .binding .. | .dropBinding .. | .page .. | .fill .. | .render .. | .renderPath ..
  | .pageInfo .. | .submit .. | .dropPage .. => s.orInvalid (s.performPage step)

end Session

end LoginCard
