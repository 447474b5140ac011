import LoginCard.Proofs.Writes

/-!
# What stands in front of the storages

The front of a world is all of it but the files, the storages and the records; a store still shows
whether it keeps its language, but not where. Every step that looks at no storage does the same to
the front, and replies the same, whatever stands behind it. So does a store that is opened, but for
the language that is restored from its storage.
-/

namespace LoginCard

variable {ρ : Type}

def Store.front (s : Store ρ) : Store ρ := { s with storage := s.storage.map fun _ => 0 }

theorem Store.front_eq_iff {s s' : Store ρ} :
    s.front = s'.front ↔ s.state = s'.state ∧ s.storage.isSome = s'.storage.isSome ∧
      s.subscribers = s'.subscribers ∧ s.nextId = s'.nextId ∧ s.notifying = s'.notifying ∧
      s.handles = s'.handles := by
  have kept : s.storage.map (fun _ => 0) = s'.storage.map (fun _ => 0) ↔
      s.storage.isSome = s'.storage.isSome := by
    cases s.storage <;> cases s'.storage <;> simp
  simp [front, kept]

/-- What a world shows in front of its storages. -/
def World.front (w : World ρ) : World ρ :=
  { w with
    files := .empty
    shelves := []
    stores := w.stores.map Store.front
    records := #[] }

def Dispatched.front : Dispatched ρ → Dispatched ρ
  | .refused w => .refused w.front
  | .accepted w c => .accepted w.front c

namespace World

theorem getElem?_front (w : World ρ) (i : Nat) :
    w.front.stores[i]? = (w.stores[i]?).map Store.front :=
  List.getElem?_map

theorem length_front (w : World ρ) : w.front.stores.length = w.stores.length :=
  List.length_map _

/-- Work on a store that does not look at its storage. -/
theorem front_onStore (w : World ρ) (i : Nat) {f : Store ρ → Store ρ}
    (blind : ∀ s, (f s).front = f s.front) : (w.onStore i f).front = w.front.onStore i f := by
  have stores : (w.onStore i f).front.stores = (w.front.onStore i f).stores := by
    apply List.ext_getElem?
    intro j
    rw [getElem?_front, getElem?_onStore, getElem?_onStore, getElem?_front]
    split
    · cases w.stores[j]? <;> simp [blind]
    · rfl
  calc (w.onStore i f).front
      = { w.front with stores := (w.onStore i f).front.stores } := rfl
    _ = { w.front with stores := (w.front.onStore i f).stores } := by rw [stores]
    _ = w.front.onStore i f := rfl

theorem front_addStore (w : World ρ) (l : Language) (storage : Option Nat) :
    (w.addStore l storage).2.front = (w.front.addStore l (storage.map fun _ => 0)).2 := by
  simp [addStore, newReference, front, Store.front]

theorem front_detach (w : World ρ) (sub : Subscription) :
    (w.detach sub).front = w.front.detach sub := by
  apply front_onStore
  intro s
  change (if s.isAlive then _ else s).front = if s.isAlive then _ else s.front
  split <;> rfl

theorem front_unbind (w : World ρ) (b : Nat) : (w.unbind b).front = w.front.unbind b := by
  cases there : w.bindings[b]? with
  | none => simp [unbind, front, there]
  | some bd =>
    rw [unbind_eq there, unbind_eq (w := w.front) there]
    exact front_detach w _

theorem front_subscribe (w : World ρ) (i : Nat) (callback : Callback ρ) :
    w.front.subscribe i callback = (w.subscribe i callback).map (Prod.map id front) := by
  rw [subscribe, subscribe, getElem?_front]
  cases w.stores[i]? with
  | none => rfl
  | some s =>
    have enrolled := front_onStore w i (f := fun s => World.enrolled s callback) fun _ => rfl
    exact congrArg (fun w => some ((⟨i, s.nextId⟩ : Subscription), w)) enrolled.symm

/-- A binding is made of the state of its store, and of nothing behind the front. -/
theorem front_bind (w : World ρ) (i : Nat) :
    w.front.bind i = (w.bind i).map (Prod.map id front) := by
  rw [bind, bind, getElem?_front]
  cases w.stores[i]? with
  | none => rfl
  | some s =>
    have subscribed := front_subscribe w i (.refresh w.bindings.length)
    change (w.front.subscribe i (.refresh w.bindings.length)).bind _ = _
    rw [subscribed]
    change _ = Option.map _ ((w.subscribe i (.refresh w.bindings.length)).bind _)
    cases w.subscribe i (.refresh w.bindings.length) <;> rfl

theorem front_withShelf {α : Type} {w w' : World ρ} {i : Nat}
    {f : Mounted → α × Mounted × List LogRecord} {a : α} (h : w.withShelf i f = some (a, w')) :
    w'.front = w.front := by
  obtain ⟨shelf, _, he⟩ := Option.map_eq_some_iff.mp h
  obtain ⟨-, rfl⟩ := Prod.mk.inj he
  rfl

/-- Whether the language can be written or not. -/
theorem front_persist (w : World ρ) (storage : Option Nat) (l : Language) :
    (w.persist storage l).front = w.front := by
  cases storage with
  | none => rfl
  | some shelf =>
    simp only [persist]
    cases he : w.withShelf shelf fun m => ((), Choice.saveOrWarn m l) with
    | none => rfl
    | some done => exact front_withShelf he

section Alike

variable {w w' : World ρ} (alike : w.front = w'.front)

include alike

theorem bindings_alike : w.bindings = w'.bindings := by
  simpa only [front] using congrArg World.bindings alike

theorem nextReference_alike : w.nextReference = w'.nextReference := by
  simpa only [front] using congrArg World.nextReference alike

theorem stores_alike (i : Nat) :
    (w.stores[i]?).map Store.front = (w'.stores[i]?).map Store.front := by
  rw [← getElem?_front, ← getElem?_front, alike]

theorem onStore_alike (i : Nat) {f : Store ρ → Store ρ} (blind : ∀ s, (f s).front = f s.front) :
    (w.onStore i f).front = (w'.onStore i f).front := by
  rw [front_onStore w i blind, front_onStore w' i blind, alike]

theorem addStore_alike (l : Language) (storage storage' : Option Nat)
    (kept : storage.isSome = storage'.isSome) :
    (w.addStore l storage).1 = (w'.addStore l storage').1 ∧
      (w.addStore l storage).2.front = (w'.addStore l storage').2.front := by
  have same : storage.map (fun _ => 0) = storage'.map fun _ => 0 := by
    cases storage <;> cases storage' <;> simp at kept ⊢
  have length := congrArg (fun v : World ρ => v.stores.length) alike
  simp only [length_front] at length
  exact ⟨length, by rw [front_addStore, front_addStore, alike, same]⟩

theorem refresh_alike (b : Nat) (r : Reference Language) :
    (w.refresh b r).front = (w'.refresh b r).front := by
  rw [refresh, refresh, bindings_alike alike]
  cases w'.bindings[b]? with
  | none => exact alike
  | some bd =>
    exact congrArg (fun v : World ρ => { v with bindings := w'.bindings.set b (bd.refreshed r) })
      alike

theorem moveTo_alike (i : Nat) (r : Reference Language) (l : Language) :
    (w.moveTo i r l).1 = (w'.moveTo i r l).1 ∧
      (w.moveTo i r l).2.front = (w'.moveTo i r l).2.front := by
  by_cases same : l = r.value
  · simpa [moveTo, same] using alike
  · have made : ({ w with nextReference := w'.nextReference + 1 } : World ρ).front =
        ({ w' with nextReference := w'.nextReference + 1 } : World ρ).front :=
      congrArg (fun v : World ρ => { v with nextReference := w'.nextReference + 1 }) alike
    have moved := onStore_alike made i
      (f := fun s => { s with state := ⟨w'.nextReference, l⟩ }) fun _ => rfl
    simp only [moveTo, same, if_false, newReference, nextReference_alike alike]
    exact ⟨trivial, moved⟩

/-- A dispatch is accepted or refused by the flag in front, and whether the language could be
written does not come back from behind. -/
theorem dispatch_alike (i : Nat) (switch : Switch) :
    (w.dispatch i switch).map Dispatched.front = (w'.dispatch i switch).map Dispatched.front := by
  have stores := stores_alike alike i
  rw [dispatch, dispatch]
  cases there : w.stores[i]? <;> cases there' : w'.stores[i]? <;>
    simp only [there, there', Option.map_none, Option.map_some, Option.some.injEq, reduceCtorEq]
      at stores ⊢
  rename_i s s'
  obtain ⟨state, _, subscribers, _, notifying, _⟩ := Store.front_eq_iff.mp stores
  rw [notifying, state, subscribers]
  obtain ⟨reference, moved⟩ := moveTo_alike alike i s'.state switch.target
  split
  · exact congrArg Dispatched.refused alike
  · have written : ((w.moveTo i s'.state switch.target).2.persist s.storage switch.target).front =
        ((w'.moveTo i s'.state switch.target).2.persist s'.storage switch.target).front := by
      rw [front_persist, front_persist, moved]
    have flagged := onStore_alike written i (f := fun s => { s with notifying := true }) fun _ => rfl
    exact congrArg₂ (fun v r => Dispatched.accepted v ⟨i, r, s'.subscribers⟩) flagged reference

theorem requestLanguage_alike (i : Nat) (tag : String) :
    (w.requestLanguage i tag).map Dispatched.front =
      (w'.requestLanguage i tag).map Dispatched.front := by
  rw [requestLanguage, requestLanguage]
  cases Language.ofTag? tag with
  | none => exact congrArg (fun v => some (Dispatched.refused v)) alike
  | some l => exact dispatch_alike alike i _

theorem isDue_alike (store id : Nat) : w.isDue store id = w'.isDue store id := by
  have stores := stores_alike alike store
  rw [isDue, isDue]
  cases there : w.stores[store]? <;> cases there' : w'.stores[store]? <;>
    simp only [there, there', Option.map_none, Option.map_some, Option.some.injEq, reduceCtorEq]
      at stores ⊢
  obtain ⟨_, _, subscribers, _⟩ := Store.front_eq_iff.mp stores
  rw [Store.isSubscribed, Store.isSubscribed, subscribers]

end Alike

end World

namespace Session

/-- What a session shows in front of its storages. -/
def front (s : Session) : Session := { s with world := s.world.front, storages := [] }

def Performed.front : Performed → Performed
  | .reply s r => .reply s.front r
  | .cycle s c r => .cycle s.front c r

/-- The steps that look at a storage, or at the files that one may lie in. -/
def Step.seesStorages : Step → Bool
  | .viewFile .. | .get .. | .set .. | .calls .. | .save .. | .load .. | .restore ..
  | .openStore .. => true
  | _ => false

theorem front_store? (s : Session) (name : String) :
    s.front.store? name = (s.store? name).map (Prod.map id Store.front) := by
  change (Keyed.find? name s.stores).bind _ = Option.map _ ((Keyed.find? name s.stores).bind _)
  cases Keyed.find? name s.stores with
  | none => rfl
  | some i =>
    change (s.world.front.stores[i]?).bind _ = Option.map _ ((s.world.stores[i]?).bind _)
    rw [World.getElem?_front]
    cases s.world.stores[i]? <;> rfl

section Dropping

variable (s : Session)

theorem front_dropHandle (i : Option Nat) : (s.dropHandle i).front = s.front.dropHandle i := by
  cases i with
  | none => rfl
  | some i =>
    have released := World.front_onStore s.world i
      (f := fun st => { st with handles := st.handles - 1 }) fun _ => rfl
    exact congrArg (fun w => { s.front with world := w }) released

theorem front_dropSubscription (sub : Option Subscription) :
    (s.dropSubscription sub).front = s.front.dropSubscription sub := by
  cases sub with
  | none => rfl
  | some sub => exact congrArg (fun w => { s.front with world := w }) (World.front_detach _ _)

theorem front_dropBinding (b : Option Nat) : (s.dropBinding b).front = s.front.dropBinding b := by
  cases b with
  | none => rfl
  | some b => exact congrArg (fun w => { s.front with world := w }) (World.front_unbind _ _)

end Dropping

section Alike

variable {s s' : Session} (alike : s.front = s'.front)

include alike

theorem inWorld_alike {w w' : World Reaction} (worlds : w.front = w'.front) :
    ({ s with world := w } : Session).front = ({ s' with world := w' } : Session).front := by
  calc ({ s with world := w } : Session).front
      = { s.front with world := w.front } := rfl
    _ = { s'.front with world := w'.front } := by rw [alike, worlds]
    _ = ({ s' with world := w' } : Session).front := rfl

theorem nameStore_alike (name : String) (i : Nat) :
    (s.nameStore name i).front = (s'.nameStore name i).front := by
  have named : ∀ s : Session, (s.nameStore name i).front = s.front.nameStore name i :=
    fun s => front_dropHandle { s with stores := Keyed.insert name i s.stores } _
  rw [named, named, alike]

theorem nameSubscription_alike (name : String) (sub : Subscription) :
    (s.nameSubscription name sub).front = (s'.nameSubscription name sub).front := by
  have named : ∀ s : Session,
      (s.nameSubscription name sub).front = s.front.nameSubscription name sub :=
    fun s => front_dropSubscription
      { s with subscriptions := Keyed.insert name sub s.subscriptions } _
  rw [named, named, alike]

theorem nameBinding_alike (name : String) (b : Nat) :
    (s.nameBinding name b).front = (s'.nameBinding name b).front := by
  have named : ∀ s : Session, (s.nameBinding name b).front = s.front.nameBinding name b :=
    fun s => front_dropBinding { s with bindings := Keyed.insert name b s.bindings } _
  rw [named, named, alike]

theorem namePage_alike (name : String) (p : OpenPage) :
    (s.namePage name p).front = (s'.namePage name p).front := by
  have named : ∀ s : Session, (s.namePage name p).front = s.front.namePage name p :=
    fun s => front_dropBinding { s with pages := Keyed.insert name p s.pages } _
  rw [named, named, alike]

end Alike

end Session

end LoginCard
