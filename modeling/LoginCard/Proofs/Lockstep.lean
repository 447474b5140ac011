import LoginCard.Proofs.Fronts

/-!
# Two sessions in lockstep

Two sessions that show the same in front of their storages go on to show the same: each step replies
the same in both and leaves them showing the same, unless it looks at a storage itself. A store that
is opened is no exception where both restore the same language for it.
-/

namespace LoginCard.Session

/-- Two steps come to the same in front of the storages, if they are valid at all. -/
def Agrees (p p' : Option Performed) : Prop := p.map Performed.front = p'.map Performed.front

section Agreeing

theorem agrees_none : Agrees none none := rfl

theorem agrees_reply {t t' : Session} (alike : t.front = t'.front) (r : Reply) :
    Agrees (some (.reply t r)) (some (.reply t' r)) :=
  congrArg (fun t => some (Performed.reply t r)) alike

/-- What was found is the same in front. -/
theorem agrees_bind {α β γ : Type} {k : β → γ} {found found' : Option (α × β)}
    (same : found.map (Prod.map id k) = found'.map (Prod.map id k))
    {g g' : α × β → Option Performed}
    (each : ∀ a b b', k b = k b' → Agrees (g (a, b)) (g' (a, b'))) :
    Agrees (found.bind g) (found'.bind g') := by
  cases found <;> cases found' <;>
    simp only [Option.map_none, Option.map_some, Option.some.injEq, reduceCtorEq] at same
  · exact agrees_none
  · rename_i e e'
    obtain ⟨a, b⟩ := e
    obtain ⟨a', b'⟩ := e'
    obtain ⟨rfl, kept⟩ := Prod.mk.inj same
    exact each a b b' kept

theorem agrees_found {α : Type} {found found' : Option α} (same : found = found')
    {g g' : α → Option Performed} (each : ∀ a, Agrees (g a) (g' a)) :
    Agrees (found.bind g) (found'.bind g') := by
  subst same
  cases found with
  | none => exact agrees_none
  | some a => exact each a

end Agreeing

/-- The printed form of a store tells of its storage only whether there is one. -/
theorem describeStore_alike {st st' : Store Reaction} (same : st.front = st'.front) :
    describeStore st = describeStore st' := by
  obtain ⟨state, kept, subscribers, _⟩ := Store.front_eq_iff.mp same
  unfold describeStore
  rw [state, kept, subscribers]

section Alike

variable {s s' : Session} (alike : s.front = s'.front)

include alike

/-- What shows in front is the same. -/
theorem field_alike {α : Type} (f : Session → α) (shows : ∀ s, f s.front = f s) : f s = f s' := by
  rw [← shows s, ← shows s', alike]

theorem world_alike : s.world.front = s'.world.front := congrArg world alike

theorem Agrees.orInvalid {p p' : Option Performed} (agrees : Agrees p p') :
    (s.orInvalid p).front = (s'.orInvalid p').front := by
  cases p <;> cases p' <;>
    simp only [Agrees, Option.map_none, Option.map_some, Option.some.injEq, reduceCtorEq] at agrees
  · exact congrArg (fun t => Performed.reply t .invalid) alike
  · exact agrees

theorem store?_alike (name : String) :
    (s.store? name).map (Prod.map id Store.front) =
      (s'.store? name).map (Prod.map id Store.front) := by
  rw [← front_store?, ← front_store?, alike]

theorem agrees_store (name : String) {g g' : Nat × Store Reaction → Option Performed}
    (each : ∀ i st st', st.front = st'.front → Agrees (g (i, st)) (g' (i, st'))) :
    Agrees ((s.store? name).bind g) ((s'.store? name).bind g') :=
  agrees_bind (store?_alike alike name) each

theorem binding?_alike (b : Nat) : s.binding? b = s'.binding? b :=
  congrArg (fun bindings : List Binding => bindings[b]?) (World.bindings_alike (world_alike alike))

theorem page?_alike (name : String) : s.page? name = s'.page? name := by
  have pages : s.pages = s'.pages := field_alike alike pages fun _ => rfl
  rw [page?, page?, pages, funext (binding?_alike alike)]

theorem pageText_alike (p : OpenPage) (b : Binding) (route : Route) :
    s.pageText p b route = s'.pageText p b route := by
  have color : s.color = s'.color := field_alike alike color fun _ => rfl
  rw [pageText, pageText, color]

theorem submit_alike (p : OpenPage) (accept : Bool) :
    (s.submit p accept).front = (s'.submit p accept).front := by
  unfold submit
  dsimp only
  split <;> exact congrArg (fun t => Performed.reply t _) alike

theorem agrees_ofDispatched (accepted refused : Reply) {d d' : Option (Dispatched Reaction)}
    (same : d.map Dispatched.front = d'.map Dispatched.front) :
    (s.ofDispatched accepted refused d).front = (s'.ofDispatched accepted refused d').front := by
  rcases d with _ | _ | _ <;> rcases d' with _ | _ | _ <;>
    simp only [Option.map_none, Option.map_some, Option.some.injEq, Dispatched.front, reduceCtorEq,
      Dispatched.refused.injEq, Dispatched.accepted.injEq] at same
  · exact congrArg (fun t => Performed.reply t .invalid) alike
  · exact congrArg (fun t => Performed.reply t refused) (inWorld_alike alike same)
  · obtain ⟨worlds, rfl⟩ := same
    exact congrArg (fun t => Performed.cycle t _ accepted) (inWorld_alike alike worlds)

theorem agrees_performStore {step : Step} (unseeing : step.seesStorages = false) :
    Agrees (s.performStore step) (s'.performStore step) := by
  have worlds := world_alike alike
  have stores : s.stores = s'.stores := field_alike alike stores fun _ => rfl
  cases step with
  | openStore => cases unseeing
  | newStore name l =>
    obtain ⟨number, made⟩ := World.addStore_alike worlds l none none rfl
    change Agrees (some (.reply (nameStore _ name (s.world.addStore l none).1) _)) _
    rw [number]
    exact agrees_reply (nameStore_alike (inWorld_alike alike made) name _) _
  | cloneStore store name =>
    refine agrees_store alike store fun i st st' same => ?_
    have retained := World.onStore_alike worlds i
      (f := fun st => { st with handles := st.handles + 1 }) fun _ => rfl
    exact agrees_reply (nameStore_alike (inWorld_alike alike retained) name i) _
  | dropStore store =>
    refine agrees_found (congrArg (Keyed.find? store) stores) fun i => ?_
    apply agrees_reply
    rw [front_dropHandle, front_dropHandle]
    exact congrArg (fun t : Session =>
      dropHandle { t with stores := Keyed.erase store t.stores } (some i)) alike
  | dispatch store switch =>
    refine agrees_store alike store fun i st st' same => ?_
    exact congrArg some (agrees_ofDispatched alike _ _ (World.dispatch_alike worlds i switch))
  | setLocale store tag =>
    refine agrees_store alike store fun i st st' same => ?_
    exact congrArg some (agrees_ofDispatched alike _ _ (World.requestLanguage_alike worlds i tag))
  | locale store =>
    refine agrees_store alike store fun i st st' same => ?_
    obtain ⟨state, _⟩ := Store.front_eq_iff.mp same
    dsimp only
    rw [state]
    exact agrees_reply alike _
  | describeStore store =>
    refine agrees_store alike store fun i st st' same => ?_
    change Agrees (some (.reply s (.text (Session.describeStore st)))) _
    rw [describeStore_alike same]
    exact agrees_reply alike _
  | _ => exact agrees_none

theorem agrees_performSubscription (step : Step) :
    Agrees (s.performSubscription step) (s'.performSubscription step) := by
  have worlds := world_alike alike
  have subscriptions : s.subscriptions = s'.subscriptions :=
    field_alike alike subscriptions fun _ => rfl
  cases step with
  | subscribe store name reaction =>
    refine agrees_store alike store fun i st st' same => ?_
    refine agrees_bind (k := World.front) ?_ fun sub w w' made => ?_
    · rw [← World.front_subscribe, ← World.front_subscribe, worlds]
    · exact agrees_reply (nameSubscription_alike (inWorld_alike alike made) name sub) _
  | unsubscribe name | dropSubscription name =>
    refine agrees_found (congrArg (Keyed.find? name) subscriptions) fun sub => ?_
    apply agrees_reply
    rw [front_dropSubscription, front_dropSubscription]
    exact congrArg (fun t : Session =>
      dropSubscription { t with subscriptions := Keyed.erase name t.subscriptions } (some sub)) alike
  | describeSubscription name =>
    exact agrees_found (congrArg (Keyed.find? name) subscriptions) fun sub => agrees_reply alike _
  | _ => exact agrees_none

theorem agrees_performState (step : Step) :
    Agrees (s.performState step) (s'.performState step) := by
  have worlds := world_alike alike
  have states : s.states = s'.states := field_alike alike states fun _ => rfl
  have selectors : s.selectors = s'.selectors := field_alike alike selectors fun _ => rfl
  have outputs : s.outputs = s'.outputs := field_alike alike outputs fun _ => rfl
  cases step with
  | snapshot store name =>
    refine agrees_store alike store fun i st st' same => ?_
    obtain ⟨state, _⟩ := Store.front_eq_iff.mp same
    dsimp only
    rw [state]
    exact agrees_reply (congrArg (fun t : Session =>
      { t with states := Keyed.insert name st'.state t.states }) alike) _
  | freshState l name =>
    have made : (s.world.newReference l).2.front = (s'.world.newReference l).2.front :=
      congrArg (fun w : World Reaction => (w.newReference l).2) worlds
    have named : ({ s with states := Keyed.insert name ⟨s.world.nextReference, l⟩ s.states } :
        Session).front = ({ s' with
          states := Keyed.insert name ⟨s'.world.nextReference, l⟩ s'.states } : Session).front :=
      congrArg (fun t : Session =>
        { t with states := Keyed.insert name ⟨t.world.nextReference, l⟩ t.states }) alike
    exact agrees_reply (inWorld_alike named made) _
  | sameState first second =>
    exact agrees_found (congrArg (Keyed.find? first) states) fun a =>
      agrees_found (congrArg (Keyed.find? second) states) fun b => agrees_reply alike _
  | selector name button =>
    exact agrees_reply (congrArg (fun t : Session => { t with
        selectors := Keyed.insert name ⟨t.nextSelector, Selector.new (pick button)⟩ t.selectors
        nextSelector := t.nextSelector + 1 }) alike) _
  | select name state output =>
    refine agrees_found (congrArg (Keyed.find? name) selectors) fun selector => ?_
    refine agrees_found (congrArg (Keyed.find? state) states) fun state => ?_
    let (chosen, kept) := selector.selector.select state
    exact agrees_reply (congrArg (fun t : Session => { t with
        selectors := Keyed.insert name ⟨selector.number, kept⟩ t.selectors
        outputs := Keyed.insert output ⟨selector.number, chosen⟩ t.outputs }) alike) _
  | sameOutput first second =>
    exact agrees_found (congrArg (Keyed.find? first) outputs) fun a =>
      agrees_found (congrArg (Keyed.find? second) outputs) fun b => agrees_reply alike _
  | _ => exact agrees_none

theorem agrees_performPage (step : Step) :
    Agrees (s.performPage step) (s'.performPage step) := by
  have worlds := world_alike alike
  have bindings : s.bindings = s'.bindings := field_alike alike bindings fun _ => rfl
  have pages : s.pages = s'.pages := field_alike alike pages fun _ => rfl
  have color : s.color = s'.color := field_alike alike color fun _ => rfl
  cases step with
  | bind store name =>
    refine agrees_store alike store fun i st st' same => ?_
    refine agrees_bind (k := World.front) ?_ fun b w w' made => ?_
    · rw [← World.front_bind, ← World.front_bind, worlds]
    · exact agrees_reply (nameBinding_alike (inWorld_alike alike made) name b) _
  | page store name template =>
    refine agrees_store alike store fun i st st' same => ?_
    refine agrees_bind (k := World.front) ?_ fun b w w' made => ?_
    · rw [← World.front_bind, ← World.front_bind, worlds]
    · exact agrees_reply (namePage_alike (inWorld_alike alike made) name _) _
  | binding name =>
    refine agrees_found ?_ fun b => agrees_reply alike _
    rw [bindings, funext (binding?_alike alike)]
  | dropBinding name =>
    refine agrees_found (congrArg (Keyed.find? name) bindings) fun b => ?_
    apply agrees_reply
    rw [front_dropBinding, front_dropBinding]
    exact congrArg (fun t : Session =>
      dropBinding { t with bindings := Keyed.erase name t.bindings } (some b)) alike
  | fill name username password =>
    refine agrees_found (congrArg (Keyed.find? name) pages) fun p => ?_
    let q : OpenPage :=
      { p with form := ⟨username.getD p.form.username, password.getD p.form.password⟩ }
    exact agrees_reply (congrArg (fun t : Session =>
      { t with pages := Keyed.insert name q t.pages }) alike) _
  | render name =>
    refine agrees_found (page?_alike alike name) fun e => ?_
    obtain ⟨p, b⟩ := e
    change Agrees (some (.reply s (.text (s.pageText p b .login)))) _
    rw [pageText_alike alike]
    exact agrees_reply alike _
  | renderPath name path authenticated =>
    refine agrees_found (page?_alike alike name) fun e => ?_
    obtain ⟨p, b⟩ := e
    change Agrees (some (.reply _
      (.shown ((Route.navigate path authenticated).1.map (s.pageText p b))))) _
    rw [funext fun route => pageText_alike alike p b route]
    have logged : (s.world.log (Route.navigate path authenticated).2).front =
        (s'.world.log (Route.navigate path authenticated).2).front := worlds
    exact agrees_reply (inWorld_alike alike logged) _
  | pageInfo name =>
    exact agrees_found (page?_alike alike name) fun e => agrees_reply alike _
  | submit name accept =>
    refine agrees_found (congrArg (Keyed.find? name) pages) fun p => ?_
    exact congrArg some (submit_alike alike p accept)
  | dropPage name =>
    refine agrees_found (congrArg (Keyed.find? name) pages) fun p => ?_
    apply agrees_reply
    rw [front_dropBinding, front_dropBinding]
    exact congrArg (fun t : Session =>
      dropBinding { t with pages := Keyed.erase name t.pages } (some p.binding)) alike
  | _ => exact agrees_none

/-- What the step does in front of the storages, and what it replies, are the same. -/
theorem perform_alike {step : Step} (unseeing : step.seesStorages = false) :
    (s.perform step).front = (s'.perform step).front := by
  cases step with
  | viewFile | get | set | calls | save | load | restore | openStore => cases unseeing
  | plantFile path content =>
    have planted : ∀ s : Session, (s.plantFile path content).front = s.front := by
      intro s
      rcases content with _ | _ | _ <;> rfl
    exact congrArg (fun t => Performed.reply t .done) (by rw [planted, planted, alike])
  | clearFile path => exact congrArg (fun t => Performed.reply t .done) alike
  | color on => exact congrArg (fun t : Session => Performed.reply { t with color := on } .done) alike
  | unsupported label cause => exact congrArg (fun t => Performed.reply t _) alike
  | unreadable label => exact congrArg (fun t => Performed.reply t _) alike
  | storage name path getFails setFails => exact congrArg (fun t => Performed.reply t .done) alike
  | newStore | cloneStore | dropStore | dispatch | setLocale | locale | describeStore =>
    exact Agrees.orInvalid alike (agrees_performStore alike rfl)
  | subscribe | unsubscribe | dropSubscription | describeSubscription =>
    exact Agrees.orInvalid alike (agrees_performSubscription alike _)
  | snapshot | freshState | sameState | selector | select | sameOutput =>
    exact Agrees.orInvalid alike (agrees_performState alike _)
  | bind | binding | dropBinding | page | fill | render | renderPath | pageInfo | submit
  | dropPage => exact Agrees.orInvalid alike (agrees_performPage alike _)

end Alike

/-- The language that a store would start in that is opened on a storage, if there is such a one. -/
def restored? (s : Session) (storage : String) (fallback : Language) : Option Language :=
  ((Keyed.find? storage s.storages).bind fun i =>
    s.world.withShelf i fun m => Choice.restore m fallback).map Prod.fst

/-- Opening a store comes to a store in the language that is restored, and to nothing else. -/
theorem perform_openStore_eq (s : Session) (name storage : String) (fallback : Language) :
    s.restored? storage fallback = none ∧
        s.perform (.openStore name storage fallback) = .reply s .invalid ∨
      ∃ (i : Nat) (l : Language) (w : World Reaction),
        s.restored? storage fallback = some l ∧ w.front = s.world.front ∧
        s.perform (.openStore name storage fallback) =
          .reply ({ s with world := (w.addStore l (some i)).2 }.nameStore name
            s.world.stores.length) .done := by
  cases found : Keyed.find? storage s.storages with
  | none =>
    refine .inl ⟨by simp [restored?, found], ?_⟩
    simp [perform, performStore, found, orInvalid]
  | some i =>
    cases restored : s.world.withShelf i fun m => Choice.restore m fallback with
    | none =>
      refine .inl ⟨by simp [restored?, found, restored], ?_⟩
      simp [perform, performStore, found, World.openStore, restored, orInvalid]
    | some e =>
      obtain ⟨l, w⟩ := e
      exact .inr ⟨i, l, w, by simp [restored?, found, restored], World.front_withShelf restored,
        perform_openStore found restored name⟩

/-- The step looks at no storage, or opens a store that starts in the same language in both. -/
def SeesSame (s s' : Session) : Step → Prop
  | .openStore _ storage fallback => s.restored? storage fallback = s'.restored? storage fallback
  | step => step.seesStorages = false

section Alike

variable {s s' : Session} (alike : s.front = s'.front)

include alike

theorem openStore_alike {storage : String} {fallback : Language}
    (same : s.restored? storage fallback = s'.restored? storage fallback) (name : String) :
    (s.perform (.openStore name storage fallback)).front =
      (s'.perform (.openStore name storage fallback)).front := by
  rcases perform_openStore_eq s name storage fallback with
      ⟨missing, invalid⟩ | ⟨i, l, w, starts, front, opened⟩ <;>
    rcases perform_openStore_eq s' name storage fallback with
      ⟨missing', invalid'⟩ | ⟨i', l', w', starts', front', opened'⟩
  · rw [invalid, invalid']
    exact congrArg (fun t => Performed.reply t .invalid) alike
  · simp [missing, starts'] at same
  · simp [starts, missing'] at same
  · obtain rfl : l = l' := Option.some.inj (starts.symm.trans (same.trans starts'))
    have worlds : w.front = w'.front := by rw [front, front', world_alike alike]
    have number := congrArg (fun v : World Reaction => v.stores.length) (world_alike alike)
    simp only [World.length_front] at number
    have made := (World.addStore_alike worlds l (some i) (some i') rfl).2
    rw [opened, opened', number]
    exact congrArg (fun t => Performed.reply t .done)
      (nameStore_alike (inWorld_alike alike made) name _)

theorem perform_of_seesSame {step : Step} (same : s.SeesSame s' step) :
    (s.perform step).front = (s'.perform step).front := by
  cases step with
  | openStore name storage fallback => exact openStore_alike alike same name
  | _ => exact perform_alike alike same

theorem standings_alike : Machine.standings s = Machine.standings s' := by
  have stores : s.stores = s'.stores := field_alike alike stores fun _ => rfl
  rw [Machine.standings, Machine.standings, stores]
  apply List.filterMap_congr
  rintro ⟨name, i⟩ _
  have same := World.stores_alike (world_alike alike) i
  dsimp only
  cases there : s.world.stores[i]? <;> cases there' : s'.world.stores[i]? <;>
    simp only [there, there', Option.map_none, Option.map_some, Option.some.injEq, reduceCtorEq]
      at same ⊢
  obtain ⟨state, _, subscribers, _⟩ := Store.front_eq_iff.mp same
  rw [state, subscribers]

end Alike

end LoginCard.Session
