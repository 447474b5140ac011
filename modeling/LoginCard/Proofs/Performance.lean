import LoginCard.Proofs.Possession

/-!
# Every step of a session is a chain of changes

Each step is followed by changes of what the session holds, which add to the history exactly the
event of the step. From here on nothing looks into the steps again to know what stores and bindings
go through.
-/

namespace LoginCard.Session

/-- The store and the language that a step asks it to switch to. -/
def asks? (s : Session) : Step → Option (Nat × Language)
  | .dispatch store switch => (s.store? store).map fun e => (e.1, switch.target)
  | .setLocale store tag =>
    (Language.ofTag? tag).bind fun l => (s.store? store).map fun e => (e.1, l)
  | _ => none

namespace Performed

def isCycle : Performed → Bool
  | .cycle .. => true
  | .reply .. => false

/-- What performing a step replies, at once or after a cycle. -/
def answer : Performed → Reply
  | .reply _ r => r
  | .cycle _ _ r => r

/-- The session after a step was performed. -/
def session : Performed → Session
  | .reply s _ => s
  | .cycle s _ _ => s

end Performed

/-- What a step adds to the history. A switch counts once it is accepted, a store with the language
that it starts in. -/
def event? (s : Session) (step : Step) : Option Event :=
  match step with
  | .newStore _ l => some (.opened s.world.stores.length l)
  | .openStore _ storage fallback =>
    ((Keyed.find? storage s.storages).bind fun shelf =>
      s.world.withShelf shelf fun m => Choice.restore m fallback).map fun e =>
        .opened s.world.stores.length e.1
  | .subscribe store _ _ | .bind store _ | .page store _ _ =>
    (s.store? store).map fun e => .subscribed e.1
  | .dispatch .. | .setLocale .. =>
    if (s.perform step).isCycle then (s.asks? step).map fun e => .accepted e.1 e.2 else none
  | _ => none

/-- The changes that a step comes to, whatever cycles are going on. -/
def Follows (s : Session) (step : Step) : Performed → Prop
  | .reply s' _ =>
    s'.Ordered ∧ ∀ cycles, Chain (s.holding cycles) (s.event? step).toList (s'.holding cycles)
  | .cycle s' c _ =>
    s'.Ordered ∧
      ∀ cycles, Chain (s.holding cycles) (s.event? step).toList (s'.holding (c :: cycles))

section Following

variable {s : Session}

/-- A store that has a name is held, and is there. -/
theorem store?_eq {name : String} {i : Nat} {store : Store Reaction}
    (h : s.store? name = some (i, store)) :
    i ∈ Keyed.values s.stores ∧ s.world.stores[i]? = some store := by
  obtain ⟨j, named, h⟩ := Option.bind_eq_some_iff.mp h
  obtain ⟨store', there, h⟩ := Option.bind_eq_some_iff.mp h
  obtain ⟨rfl, rfl⟩ := Prod.mk.inj (Option.some.inj h)
  exact ⟨Keyed.mem_values_of_find? named, there⟩

theorem follows_invalid (h : s.Ordered) {step : Step} (quiet : s.event? step = none) :
    s.Follows step (.reply s .invalid) := by
  constructor
  · exact h
  · intro cycles
    rw [quiet]
    exact .nil _

theorem follows_refused (h : s.Ordered) {step : Step} (quiet : s.event? step = none)
    (refused : s.perform step = .reply s .invalid) : s.Follows step (s.perform step) := by
  rw [refused]
  exact follows_invalid h quiet

/-- A step that names, drops and switches nothing. -/
theorem follows_aside (h : s.Ordered) {step : Step} {s' : Session} {r : Reply}
    (quiet : s.event? step = none) (beside : s.world.Beside s'.world)
    (stores : s'.stores = s.stores) (subscriptions : s'.subscriptions = s.subscriptions)
    (bindings : s'.bindings = s.bindings) (pages : s'.pages = s.pages) :
    s.Follows step (.reply s' r) := by
  constructor
  · exact ⟨stores ▸ h.stores, subscriptions ▸ h.subscriptions, bindings ▸ h.bindings,
      pages ▸ h.pages⟩
  · intro cycles
    have same : s'.holding cycles = { s.holding cycles with world := s'.world } := by
      simp [holding, stores, subscriptions, bindings, pages]
    rw [quiet, same]
    exact .one (.aside beside)

/-- A step that either is invalid or stands aside. -/
theorem follows_orInvalid (h : s.Ordered) {step : Step} {p : Option Performed}
    (quiet : s.event? step = none) (valid : ∀ q, p = some q → s.Follows step q) :
    s.Follows step (s.orInvalid p) := by
  cases p with
  | none => exact follows_invalid h quiet
  | some q => exact valid q rfl

theorem follows_onStorage {α : Type} (h : s.Ordered) {step : Step} (quiet : s.event? step = none)
    (name : String) (f : Mounted → α × Mounted × List LogRecord) (reply : α → Reply) :
    s.Follows step (s.onStorage name f reply) := by
  unfold onStorage
  split
  · rename_i a w he
    obtain ⟨i, _, he⟩ := Option.bind_eq_some_iff.mp he
    exact follows_aside h quiet (World.beside_withShelf he) rfl rfl rfl rfl
  · exact follows_invalid h quiet

theorem Ordered.inWorld (h : s.Ordered) (w : World Reaction) : { s with world := w }.Ordered :=
  ⟨h.stores, h.subscriptions, h.bindings, h.pages⟩

section Unfolding

-- What these steps come to shows once they are opened: it turns on whether the names are known.
attribute [local simp] perform performStore performSubscription performPage orInvalid

theorem follows_newStore (h : s.Ordered) (name : String) (l : Language) :
    s.Follows (.newStore name l) (s.perform (.newStore name l)) := by
  constructor
  · exact (h.inWorld _).nameStore name _
  · intro cycles
    exact (Chain.one (.opened l none)).append (nameStore_chain cycles (h.inWorld _) name _)

theorem follows_openStore (h : s.Ordered) (name storage : String) (fallback : Language) :
    s.Follows (.openStore name storage fallback)
      (s.perform (.openStore name storage fallback)) := by
  cases found : Keyed.find? storage s.storages with
  | none =>
    apply follows_refused h
    · simp [event?, found]
    · simp [found]
  | some shelf =>
    cases restored : s.world.withShelf shelf fun m => Choice.restore m fallback with
    | none =>
      apply follows_refused h
      · simp [event?, found, restored]
      · simp [found, World.openStore, restored]
    | some r =>
      obtain ⟨l, w⟩ := r
      have opened : s.perform (.openStore name storage fallback) =
          .reply ({ s with world := (w.addStore l (some shelf)).2 }.nameStore name w.stores.length)
            .done := by
        simp [found, World.openStore, restored, World.addStore, World.newReference]
      have event : s.event? (.openStore name storage fallback) =
          some (.opened w.stores.length l) := by
        simp [event?, found, restored, (World.withShelf_eq restored).1]
      rw [opened]
      constructor
      · exact (h.inWorld _).nameStore name _
      · intro cycles
        rw [event]
        exact .quietly (.aside (World.beside_withShelf restored))
          ((Chain.one (.opened l (some shelf))).append
            (nameStore_chain cycles (h.inWorld _) name _))

theorem follows_cloneStore (h : s.Ordered) (store name : String) :
    s.Follows (.cloneStore store name) (s.perform (.cloneStore store name)) := by
  cases found : s.store? store with
  | none =>
    apply follows_refused h
    · rfl
    · simp [found]
  | some e =>
    have cloned : s.perform (.cloneStore store name) =
        .reply ({ s with world := s.world.retain e.1 }.nameStore name e.1) .done := by
      simp [found]
    rw [cloned]
    constructor
    · exact (h.inWorld _).nameStore name _
    · intro cycles
      exact .quietly (.retained (store?_eq found).1) (nameStore_chain cycles (h.inWorld _) name _)

theorem follows_dropStore (h : s.Ordered) (store : String) :
    s.Follows (.dropStore store) (s.perform (.dropStore store)) := by
  cases found : Keyed.find? store s.stores with
  | none =>
    apply follows_refused h
    · rfl
    · simp [found]
  | some i =>
    have dropped : s.perform (.dropStore store) =
        .reply ({ s with stores := Keyed.erase store s.stores }.dropHandle (some i)) .done := by
      simp [found]
    rw [dropped]
    constructor
    · exact ⟨Keyed.ordered_erase store h.stores, h.subscriptions, h.bindings, h.pages⟩
    · intro cycles
      exact dropHandle_chain { s with stores := Keyed.erase store s.stores } cycles
        (found ▸ Keyed.values_erase store h.stores)

theorem follows_subscribe (h : s.Ordered) (store name : String) (reaction : List Step) :
    s.Follows (.subscribe store name reaction) (s.perform (.subscribe store name reaction)) := by
  cases found : s.store? store with
  | none =>
    apply follows_refused h
    · simp [event?, found]
    · simp [found]
  | some e =>
    obtain ⟨held, there⟩ := store?_eq found
    cases made : s.world.subscribe e.1 (.run ⟨name, reaction⟩) with
    | none => simp [World.subscribe, there] at made
    | some m =>
      have subscribed : s.perform (.subscribe store name reaction) =
          .reply ({ s with world := m.2 }.nameSubscription name m.1) .done := by
        simp [found, made]
      have event : s.event? (.subscribe store name reaction) = some (.subscribed e.1) := by
        simp [event?, found]
      rw [subscribed]
      constructor
      · exact (h.inWorld _).nameSubscription name _
      · intro cycles
        rw [event]
        exact (Chain.one (.subscribed held made)).append
          (nameSubscription_chain cycles (h.inWorld _) name _)

/-- Whoever finds a store can bind to it. -/
theorem binds {store : String} {e : Nat × Store Reaction} (found : s.store? store = some e) :
    ∃ b w, s.world.bind e.1 = some (b, w) ∧ ∀ cycles, Change (s.holding cycles)
      (some (.subscribed e.1))
      { s.holding cycles with world := w, bindings := b :: (s.holding cycles).bindings } := by
  obtain ⟨held, there⟩ := store?_eq found
  cases made : s.world.bind e.1 with
  | none => simp [World.bind, World.subscribe, there] at made
  | some m => exact ⟨m.1, m.2, rfl, fun _ => .bound held made⟩

theorem follows_bind (h : s.Ordered) (store name : String) :
    s.Follows (.bind store name) (s.perform (.bind store name)) := by
  cases found : s.store? store with
  | none =>
    apply follows_refused h
    · simp [event?, found]
    · simp [found]
  | some e =>
    obtain ⟨b, w, made, change⟩ := binds found
    have bound : s.perform (.bind store name) =
        .reply ({ s with world := w }.nameBinding name b) .done := by
      simp [found, made]
    have event : s.event? (.bind store name) = some (.subscribed e.1) := by simp [event?, found]
    rw [bound]
    constructor
    · exact (h.inWorld w).nameBinding name b
    · intro cycles
      rw [event]
      exact (Chain.one (change cycles)).append (nameBinding_chain cycles (h.inWorld w) name b)

theorem follows_page (h : s.Ordered) (store name template : String) :
    s.Follows (.page store name template) (s.perform (.page store name template)) := by
  cases found : s.store? store with
  | none =>
    apply follows_refused h
    · simp [event?, found]
    · simp [found]
  | some e =>
    obtain ⟨b, w, made, change⟩ := binds found
    let p : OpenPage := ⟨b, Template.parse template, LoginForm.empty⟩
    have opened : s.perform (.page store name template) =
        .reply ({ s with world := w }.namePage name p) .done := by
      simp [found, made, p]
    have event : s.event? (.page store name template) = some (.subscribed e.1) := by
      simp [event?, found]
    rw [opened]
    constructor
    · exact (h.inWorld w).namePage name p
    · intro cycles
      rw [event]
      exact (Chain.one (change cycles)).append (namePage_chain cycles (h.inWorld w) name p)

/-- A page that is filled in keeps its binding. -/
theorem follows_fill (h : s.Ordered) (name : String) (username password : Option String) :
    s.Follows (.fill name username password) (s.perform (.fill name username password)) := by
  cases found : Keyed.find? name s.pages with
  | none =>
    apply follows_refused h
    · rfl
    · simp [found]
  | some p =>
    let q : OpenPage :=
      { p with form := ⟨username.getD p.form.username, password.getD p.form.password⟩ }
    have filled : s.perform (.fill name username password) =
        .reply { s with pages := Keyed.insert name q s.pages } .done := by
      simp [found, q]
    have kept : ((Keyed.values s.pages).map OpenPage.binding).Perm
        ((Keyed.values (Keyed.insert name q s.pages)).map OpenPage.binding) := by
      have named := (Keyed.values_insert name q h.pages).map OpenPage.binding
      rw [found] at named
      exact List.Perm.cons_inv named
    rw [filled]
    constructor
    · exact ⟨h.stores, h.subscriptions, h.bindings, Keyed.ordered_insert name q h.pages⟩
    · intro cycles
      exact .one (.arranged (.refl _) (.refl _) (kept.append_left _))

theorem follows_dropBinding (h : s.Ordered) (name : String) :
    s.Follows (.dropBinding name) (s.perform (.dropBinding name)) := by
  cases found : Keyed.find? name s.bindings with
  | none =>
    apply follows_refused h
    · rfl
    · simp [found]
  | some b =>
    have dropped : s.perform (.dropBinding name) =
        .reply ({ s with bindings := Keyed.erase name s.bindings }.dropBinding (some b)) .done := by
      simp [found]
    rw [dropped]
    constructor
    · exact ⟨h.stores, h.subscriptions, Keyed.ordered_erase name h.bindings, h.pages⟩
    · intro cycles
      apply dropBinding_chain { s with bindings := Keyed.erase name s.bindings } cycles
      have erased := (Keyed.values_erase name h.bindings).append_right
        ((Keyed.values s.pages).map OpenPage.binding)
      simpa [holding, found] using erased

theorem follows_dropPage (h : s.Ordered) (name : String) :
    s.Follows (.dropPage name) (s.perform (.dropPage name)) := by
  cases found : Keyed.find? name s.pages with
  | none =>
    apply follows_refused h
    · rfl
    · simp [found]
  | some p =>
    have dropped : s.perform (.dropPage name) =
        .reply ({ s with pages := Keyed.erase name s.pages }.dropBinding (some p.binding))
          .done := by
      simp [found]
    rw [dropped]
    constructor
    · exact ⟨h.stores, h.subscriptions, h.bindings, Keyed.ordered_erase name h.pages⟩
    · intro cycles
      apply dropBinding_chain { s with pages := Keyed.erase name s.pages } cycles
      have erased := ((Keyed.values_erase name h.pages).map OpenPage.binding).append_left
        (Keyed.values s.bindings)
      rw [found] at erased
      exact erased.trans List.perm_middle

end Unfolding

/-- Both ways to ask for a language come to the same dispatch. -/
theorem perform_asked {step : Step} {i : Nat} {l : Language} (asked : s.asks? step = some (i, l)) :
    ∃ store switch accepted refused, i ∈ Keyed.values s.stores ∧
      s.world.stores[i]? = some store ∧ switch.target = l ∧
      s.perform step = s.ofDispatched accepted refused (s.world.dispatch i switch) := by
  cases step with
  | dispatch name switch =>
    obtain ⟨⟨_, store⟩, found, same⟩ := Option.map_eq_some_iff.mp asked
    obtain ⟨rfl, rfl⟩ := Prod.mk.inj same
    obtain ⟨held, there⟩ := store?_eq found
    refine ⟨store, switch, .flag true, .flag false, held, there, rfl, ?_⟩
    simp [perform, performStore, found, orInvalid]
  | setLocale name tag =>
    obtain ⟨_, known, asked⟩ := Option.bind_eq_some_iff.mp asked
    obtain ⟨⟨_, store⟩, found, same⟩ := Option.map_eq_some_iff.mp asked
    obtain ⟨rfl, rfl⟩ := Prod.mk.inj same
    obtain ⟨held, there⟩ := store?_eq found
    refine ⟨store, .toward _, .done, .done, held, there, Switch.target_toward _, ?_⟩
    simp [perform, performStore, found, orInvalid, World.requestLanguage, known]
  | _ => simp [asks?] at asked

theorem event?_asked {step : Step} {i : Nat} {l : Language} (asked : s.asks? step = some (i, l)) :
    s.event? step = if (s.perform step).isCycle then some (.accepted i l) else none := by
  cases step with
  | dispatch | setLocale => simp [event?, asked]
  | _ => simp [asks?] at asked

theorem follows_asked (h : s.Ordered) {step : Step} {i : Nat} {l : Language}
    (asked : s.asks? step = some (i, l)) : s.Follows step (s.perform step) := by
  have event := event?_asked asked
  obtain ⟨store, switch, accepted, refused, held, there, rfl, performed⟩ := perform_asked asked
  cases came : s.world.dispatch i switch with
  | none => simp [World.dispatch, there] at came
  | some d =>
    rw [came] at performed
    cases d with
    | refused w =>
      obtain rfl := World.dispatch_refused there came
      rw [performed]
      exact follows_aside h (by simp [event, performed, ofDispatched, Performed.isCycle])
        (World.beside_log _ _) rfl rfl rfl rfl
    | accepted w c =>
      have accepted : s.event? step = some (.accepted i switch.target) := by
        simp [event, performed, ofDispatched, Performed.isCycle]
      rw [performed]
      constructor
      · exact h.inWorld w
      · intro cycles
        rw [accepted]
        exact .one (.accepted held came)

theorem follows_dispatch (h : s.Ordered) (name : String) (switch : Switch) :
    s.Follows (.dispatch name switch) (s.perform (.dispatch name switch)) := by
  cases found : s.store? name with
  | none =>
    have refused : s.perform (.dispatch name switch) = .reply s .invalid := by
      simp [perform, performStore, found, orInvalid]
    rw [refused]
    exact follows_invalid h (by simp [event?, refused, Performed.isCycle])
  | some e => exact follows_asked h (i := e.1) (l := switch.target) (by simp [asks?, found])

/-- A tag that names no language is noted in the records, if there is such a store at all. -/
theorem perform_setLocale_unsupported {tag : String} (unknown : Language.ofTag? tag = none)
    (name : String) : ∃ records r, s.perform (.setLocale name tag) =
      .reply { s with world := s.world.log records } r := by
  cases found : s.store? name with
  | none =>
    refine ⟨[], .invalid, ?_⟩
    simp [perform, performStore, found, orInvalid, World.log]
  | some e =>
    refine ⟨[.ignoredSwitch (.unsupportedTag tag)], .done, ?_⟩
    simp [perform, performStore, found, orInvalid, World.requestLanguage, unknown, ofDispatched]

theorem follows_setLocale (h : s.Ordered) (name tag : String) :
    s.Follows (.setLocale name tag) (s.perform (.setLocale name tag)) := by
  cases known : Language.ofTag? tag with
  | none =>
    obtain ⟨records, r, ignored⟩ := perform_setLocale_unsupported known (s := s) name
    rw [ignored]
    exact follows_aside h (by simp [event?, ignored, Performed.isCycle]) (World.beside_log _ _)
      rfl rfl rfl rfl
  | some l =>
    cases found : s.store? name with
    | none =>
      have refused : s.perform (.setLocale name tag) = .reply s .invalid := by
        simp [perform, performStore, found, orInvalid]
      rw [refused]
      exact follows_invalid h (by simp [event?, refused, Performed.isCycle])
    | some e => exact follows_asked h (i := e.1) (l := l) (by simp [asks?, found, known])

theorem follows_eraseSubscription (h : s.Ordered) {step : Step} (quiet : s.event? step = none)
    {name : String} {sub : Subscription} (found : Keyed.find? name s.subscriptions = some sub) :
    s.Follows step (.reply ({ s with
      subscriptions := Keyed.erase name s.subscriptions }.dropSubscription (some sub)) .done) := by
  constructor
  · exact ⟨h.stores, Keyed.ordered_erase name h.subscriptions, h.bindings, h.pages⟩
  · intro cycles
    rw [quiet]
    exact dropSubscription_chain { s with subscriptions := Keyed.erase name s.subscriptions } cycles
      (found ▸ Keyed.values_erase name h.subscriptions)

/-- Steps on a named subscription. -/
theorem follows_performSubscription (h : s.Ordered) {step : Step} (quiet : s.event? step = none)
    (other : ∀ store name reaction, step ≠ .subscribe store name reaction) :
    s.Follows step (s.orInvalid (s.performSubscription step)) := by
  cases step with
  | subscribe store name reaction => exact absurd rfl (other store name reaction)
  | unsubscribe name | dropSubscription name =>
    cases found : Keyed.find? name s.subscriptions with
    | none =>
      simp only [performSubscription, found]
      exact follows_invalid h quiet
    | some sub =>
      simp only [performSubscription, found]
      exact follows_eraseSubscription h quiet found
  | describeSubscription name =>
    cases found : Keyed.find? name s.subscriptions <;> simp only [performSubscription, found]
    · exact follows_invalid h quiet
    · exact follows_aside h quiet (.refl _) rfl rfl rfl rfl
  | _ => exact follows_invalid h quiet

theorem follows_plantFile (h : s.Ordered) (path : String) (content : Option FileEntry) :
    s.Follows (.plantFile path content) (s.perform (.plantFile path content)) := by
  cases content with
  | none => exact follows_aside h rfl (.refl _) rfl rfl rfl rfl
  | some entry =>
    cases entry <;> exact follows_aside h rfl ⟨rfl, rfl, Nat.le_refl _⟩ rfl rfl rfl rfl

/-- Steps on storages leave stores and bindings alone. -/
theorem follows_performStorage (h : s.Ordered) {step : Step} (quiet : s.event? step = none) :
    s.Follows step (s.orInvalid (s.performStorage step)) := by
  cases step with
  | storage name path getFails setFails =>
    exact follows_aside h rfl ⟨rfl, rfl, Nat.le_refl _⟩ rfl rfl rfl rfl
  | get name key => exact follows_onStorage h rfl name _ _
  | set name key v => exact follows_onStorage h rfl name _ _
  | save name l => exact follows_onStorage h rfl name _ _
  | load name => exact follows_onStorage h rfl name _ _
  | restore name fallback => exact follows_onStorage h rfl name _ _
  | calls name =>
    apply follows_orInvalid h rfl
    intro q hq
    obtain ⟨i, _, hq⟩ := Option.bind_eq_some_iff.mp hq
    obtain ⟨shelf, _, hq⟩ := Option.bind_eq_some_iff.mp hq
    obtain rfl := Option.some.inj hq
    exact follows_aside h rfl (.refl _) rfl rfl rfl rfl
  | _ => exact follows_invalid h quiet

/-- Steps on references and selectors only hand out references. -/
theorem follows_performState (h : s.Ordered) {step : Step} (quiet : s.event? step = none) :
    s.Follows step (s.orInvalid (s.performState step)) := by
  cases step with
  | snapshot store name =>
    apply follows_orInvalid h rfl
    intro q hq
    obtain ⟨e, _, hq⟩ := Option.bind_eq_some_iff.mp hq
    obtain rfl := Option.some.inj hq
    exact follows_aside h rfl (.refl _) rfl rfl rfl rfl
  | freshState l name =>
    exact follows_aside h rfl (World.beside_newReference _ l) rfl rfl rfl rfl
  | selector name button => exact follows_aside h rfl (.refl _) rfl rfl rfl rfl
  | sameState first second | select name state output | sameOutput first second =>
    apply follows_orInvalid h rfl
    intro q hq
    obtain ⟨a, _, hq⟩ := Option.bind_eq_some_iff.mp hq
    obtain ⟨b, _, hq⟩ := Option.bind_eq_some_iff.mp hq
    obtain rfl := Option.some.inj hq
    exact follows_aside h rfl (.refl _) rfl rfl rfl rfl
  | _ => exact follows_invalid h quiet

/-- The step names, drops and switches nothing, if it is valid at all. -/
def Looks (s : Session) (p : Option Performed) : Prop :=
  ∀ q, p = some q → ∃ w r, q = .reply { s with world := w } r ∧ s.world.Beside w

theorem Looks.follows (h : s.Ordered) {step : Step} {p : Option Performed}
    (quiet : s.event? step = none) (looks : s.Looks p) : s.Follows step (s.orInvalid p) := by
  cases p with
  | none => exact follows_invalid h quiet
  | some q =>
    obtain ⟨w, r, rfl, beside⟩ := looks q rfl
    exact follows_aside h quiet beside rfl rfl rfl rfl

theorem looks_bind {α : Type} (found : Option α) {f : α → Option Performed}
    (each : ∀ a, s.Looks (f a)) : s.Looks (found.bind f) := by
  intro q hq
  obtain ⟨a, _, hq⟩ := Option.bind_eq_some_iff.mp hq
  exact each a q hq

theorem looks_reply {w : World Reaction} (r : Reply) (beside : s.world.Beside w) :
    s.Looks (some (.reply { s with world := w } r)) := by
  intro q hq
  exact ⟨w, r, (Option.some.inj hq).symm, beside⟩

theorem looks_submit (p : OpenPage) (accept : Bool) : s.Looks (some (s.submit p accept)) := by
  unfold submit
  dsimp only
  generalize Page.submit p.form (if accept then Authority.everybody else Authority.nobody) = result
  obtain ⟨answer, records⟩ := result
  cases answer with
  | error e => exact looks_reply _ (World.beside_log _ _)
  | ok answer => exact looks_reply _ (World.beside_log _ _)

theorem looks_performStore {step : Step}
    (shows : ∃ name, step = .locale name ∨ step = .describeStore name) :
    s.Looks (s.performStore step) := by
  obtain ⟨name, rfl | rfl⟩ := shows <;>
    exact looks_bind (s.store? name) fun _ => looks_reply _ (.refl _)

theorem looks_binding (name : String) : s.Looks (s.performPage (.binding name)) :=
  looks_bind _ fun _ => looks_reply _ (.refl _)

theorem looks_render (name : String) : s.Looks (s.performPage (.render name)) :=
  looks_bind (s.page? name) fun _ => looks_reply _ (.refl _)

theorem looks_pageInfo (name : String) : s.Looks (s.performPage (.pageInfo name)) :=
  looks_bind (s.page? name) fun _ => looks_reply _ (.refl _)

theorem looks_renderPath (name path : String) (authenticated : Bool) :
    s.Looks (s.performPage (.renderPath name path authenticated)) :=
  looks_bind (s.page? name) fun _ => looks_reply _ (World.beside_log _ _)

/-- No step does anything to what is held but by changes that the history tells of. -/
theorem perform_follows (h : s.Ordered) (step : Step) : s.Follows step (s.perform step) := by
  cases step with
  | plantFile path content => exact follows_plantFile h path content
  | viewFile path => exact follows_aside h rfl (.refl _) rfl rfl rfl rfl
  | clearFile path => exact follows_aside h rfl ⟨rfl, rfl, Nat.le_refl _⟩ rfl rfl rfl rfl
  | color on => exact follows_aside h rfl (.refl _) rfl rfl rfl rfl
  | unsupported label cause => exact follows_aside h rfl (.refl _) rfl rfl rfl rfl
  | unreadable label => exact follows_invalid h rfl
  | storage | get | set | calls | save | load | restore => exact follows_performStorage h rfl
  | newStore name l => exact follows_newStore h name l
  | openStore name storage fallback => exact follows_openStore h name storage fallback
  | cloneStore store name => exact follows_cloneStore h store name
  | dropStore store => exact follows_dropStore h store
  | dispatch store switch => exact follows_dispatch h store switch
  | setLocale store tag => exact follows_setLocale h store tag
  | locale store => exact (looks_performStore ⟨store, .inl rfl⟩).follows h rfl
  | describeStore store => exact (looks_performStore ⟨store, .inr rfl⟩).follows h rfl
  | subscribe store name reaction => exact follows_subscribe h store name reaction
  | unsubscribe | dropSubscription | describeSubscription =>
    exact follows_performSubscription h rfl (by intros; simp)
  | snapshot | freshState | sameState | selector | select | sameOutput =>
    exact follows_performState h rfl
  | bind store name => exact follows_bind h store name
  | binding name => exact (looks_binding name).follows h rfl
  | dropBinding name => exact follows_dropBinding h name
  | page store name template => exact follows_page h store name template
  | fill name username password => exact follows_fill h name username password
  | render name => exact (looks_render name).follows h rfl
  | renderPath name path authenticated =>
    exact (looks_renderPath name path authenticated).follows h rfl
  | pageInfo name => exact (looks_pageInfo name).follows h rfl
  | submit name accept =>
    exact Looks.follows h rfl (looks_bind _ fun p => looks_submit p accept)
  | dropPage name => exact follows_dropPage h name

end Following

end LoginCard.Session
