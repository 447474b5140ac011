import LoginCard.World.Dispatch

/-!
# What the operations of a world do to its stores and bindings

One law for each operation. What storages, files and records become of it is left aside: nothing
that a store tells its subscribers depends on them.
-/

namespace LoginCard

/-- What stands in a list after an assignment. -/
theorem of_getElem?_set {α : Type} {xs : List α} {i j : Nat} {a b : α}
    (h : (xs.set i a)[j]? = some b) : i = j ∧ b = a ∨ i ≠ j ∧ xs[j]? = some b := by
  by_cases same : i = j
  · subst same
    have known : i < xs.length := by simpa using (List.getElem?_eq_some_iff.mp h).1
    rw [List.getElem?_set_self known] at h
    exact .inl ⟨rfl, (Option.some.inj h).symm⟩
  · rw [List.getElem?_set_ne same] at h
    exact .inr ⟨same, h⟩

/-- To assign what stands there already changes nothing. -/
theorem set_of_getElem? {α : Type} {xs : List α} {i : Nat} {a : α} (h : xs[i]? = some a) :
    xs.set i a = xs := by
  obtain ⟨known, here⟩ := List.getElem?_eq_some_iff.mp h
  rw [← here, List.set_getElem_self]

namespace Binding

/-- The binding has derived its strings from the state `r`, and its selector remembers that. -/
structure Shows (b : Binding) (r : Reference Language) : Prop where
  project : b.selector.project = Language.strings
  remembered : ∃ out, b.selector.last = some (r, out) ∧ out.value = r.value.strings
  current : b.current = r.value.strings

/-- The binding after its store has told it of a state. -/
def refreshed (b : Binding) (r : Reference Language) : Binding :=
  { b with selector := (b.selector.select r).2, current := (b.selector.select r).1.value }

@[simp] theorem subscription_refreshed (b : Binding) (r : Reference Language) :
    (b.refreshed r).subscription = b.subscription := rfl

/-- The cached strings are handed out again only for the state that they were derived from. -/
theorem Shows.refreshed {b : Binding} {known r : Reference Language} (h : b.Shows known)
    (exact : known.id = r.id → known = r) : (b.refreshed r).Shows r := by
  obtain ⟨project, ⟨out, remembered, value⟩, current⟩ := h
  by_cases same : known.id = r.id
  · have selected : b.selector.select r = (out, b.selector) := by
      simp [Selector.select, remembered, same]
    obtain rfl := exact same
    exact ⟨by simp [Binding.refreshed, selected, project],
      ⟨out, by simp [Binding.refreshed, selected, remembered], value⟩,
      by simp [Binding.refreshed, selected, value]⟩
  · have selected : b.selector.select r = b.selector.compute r := by
      simp [Selector.select, remembered, same]
    exact ⟨by simp [Binding.refreshed, selected, Selector.compute, project],
      ⟨⟨b.selector.computations + 1, r.value.strings⟩,
        by simp [Binding.refreshed, selected, Selector.compute, project], rfl⟩,
      by simp [Binding.refreshed, selected, Selector.compute, project]⟩

end Binding

namespace World

variable {ρ : Type}

/-- One field of every store. -/
def column {α : Type} (w : World ρ) (f : Store ρ → α) : List α := w.stores.map f

@[simp] theorem length_column {α : Type} (w : World ρ) (f : Store ρ → α) :
    (w.column f).length = w.stores.length := by
  simp [column]

theorem getElem?_column {α : Type} {w : World ρ} {i : Nat} {s : Store ρ} (f : Store ρ → α)
    (hs : w.stores[i]? = some s) : (w.column f)[i]? = some (f s) := by
  simp [column, hs]

theorem of_column {α : Type} {w : World ρ} {i : Nat} {f : Store ρ → α} {a : α}
    (h : (w.column f)[i]? = some a) : ∃ s, w.stores[i]? = some s ∧ f s = a := by
  rw [column, List.getElem?_map] at h
  exact Option.map_eq_some_iff.mp h

theorem column_of_stores {α : Type} {w w' : World ρ} (f : Store ρ → α)
    (h : w'.stores = w.stores) : w'.column f = w.column f := by
  rw [column, column, h]

theorem column_onStore {α : Type} {w : World ρ} {i : Nat} {g : Store ρ → Store ρ}
    {f : Store ρ → α} (same : ∀ s, f (g s) = f s) : (w.onStore i g).column f = w.column f := by
  apply List.ext_getElem?
  intro j
  simp only [column, List.getElem?_map, getElem?_onStore]
  split <;> cases w.stores[j]? <;> simp [same]

theorem getElem?_column_addStore {α : Type} (w : World ρ) (l : Language) (storage : Option Nat)
    (f : Store ρ → α) (j : Nat) :
    ((w.addStore l storage).2.column f)[j]? =
      if j = w.stores.length then some (f ⟨⟨w.nextReference, l⟩, storage, [], 0, false, 1⟩)
      else (w.column f)[j]? := by
  rw [column, List.getElem?_map, getElem?_addStore]
  split
  · rfl
  · rw [column, List.getElem?_map]

theorem column_set {α : Type} {w w' : World ρ} {i : Nat} {s : Store ρ} (f : Store ρ → α)
    (stores : w'.stores = w.stores.set i s) : w'.column f = (w.column f).set i (f s) := by
  rw [column, stores, List.map_set, column]

theorem column_set_same {α : Type} {w w' : World ρ} {i : Nat} {s s' : Store ρ} {f : Store ρ → α}
    (there : w.stores[i]? = some s) (stores : w'.stores = w.stores.set i s') (same : f s' = f s) :
    w'.column f = w.column f := by
  rw [column_set f stores, same]
  exact set_of_getElem? (getElem?_column f there)

theorem column_detach {α : Type} (w : World ρ) (sub : Subscription) {f : Store ρ → α}
    (same : ∀ s subscribers, f { s with subscribers } = f s) :
    (w.detach sub).column f = w.column f := by
  apply column_onStore
  intro s
  split
  · exact same s _
  · rfl

theorem column_unbind {α : Type} (w : World ρ) (number : Nat) {f : Store ρ → α}
    (same : ∀ s subscribers, f { s with subscribers } = f s) :
    (w.unbind number).column f = w.column f := by
  unfold unbind
  split
  · rfl
  · exact column_detach w _ same

theorem column_refresh {α : Type} (w : World ρ) (number : Nat) (r : Reference Language)
    (f : Store ρ → α) : (w.refresh number r).column f = w.column f := by
  unfold refresh
  split <;> rfl

/-- The subscription that a binding has. -/
def subscription? (w : World ρ) (b : Nat) : Option Subscription :=
  (w.bindings[b]?).map Binding.subscription

theorem subscription?_of {w : World ρ} {b : Nat} {bd : Binding} (there : w.bindings[b]? = some bd) :
    w.subscription? b = some bd.subscription := by
  rw [subscription?, there, Option.map_some]

theorem subscription?_of_bindings {w w' : World ρ} (h : w'.bindings = w.bindings) :
    w'.subscription? = w.subscription? := by
  funext b
  rw [subscription?, subscription?, h]

/-- The stores and the bindings are the same, and no reference was taken back. -/
structure Beside (w w' : World ρ) : Prop where
  stores : w'.stores = w.stores
  bindings : w'.bindings = w.bindings
  next : w.nextReference ≤ w'.nextReference

theorem Beside.refl (w : World ρ) : Beside w w := ⟨rfl, rfl, Nat.le_refl _⟩

/-- Where the store is known, the work on it is an assignment. -/
theorem stores_onStore_of {w : World ρ} {i : Nat} {s : Store ρ} (hs : w.stores[i]? = some s)
    (f : Store ρ → Store ρ) : (w.onStore i f).stores = w.stores.set i (f s) := by
  apply List.ext_getElem?
  intro j
  rw [getElem?_onStore, List.getElem?_set]
  split
  · rename_i here
    subst here
    rw [hs]
    exact (if_pos (List.getElem?_eq_some_iff.mp hs).1).symm
  · rfl

@[simp] theorem bindings_onStore (w : World ρ) (i : Nat) (f : Store ρ → Store ρ) :
    (w.onStore i f).bindings = w.bindings := rfl

@[simp] theorem nextReference_onStore (w : World ρ) (i : Nat) (f : Store ρ → Store ρ) :
    (w.onStore i f).nextReference = w.nextReference := rfl

theorem beside_log (w : World ρ) (records : List LogRecord) : Beside w (w.log records) :=
  ⟨rfl, rfl, Nat.le_refl _⟩

theorem beside_newReference (w : World ρ) (l : Language) : Beside w (w.newReference l).2 :=
  ⟨rfl, rfl, Nat.le_succ _⟩

theorem withShelf_eq {α : Type} {w w' : World ρ} {i : Nat}
    {f : Mounted → α × Mounted × List LogRecord} {a : α} (h : w.withShelf i f = some (a, w')) :
    w'.stores = w.stores ∧ w'.bindings = w.bindings ∧ w'.nextReference = w.nextReference := by
  obtain ⟨shelf, _, he⟩ := Option.map_eq_some_iff.mp h
  obtain ⟨-, rfl⟩ := Prod.mk.inj he
  exact ⟨rfl, rfl, rfl⟩

theorem beside_withShelf {α : Type} {w w' : World ρ} {i : Nat}
    {f : Mounted → α × Mounted × List LogRecord} {a : α} (h : w.withShelf i f = some (a, w')) :
    Beside w w' := by
  obtain ⟨stores, bindings, next⟩ := withShelf_eq h
  exact ⟨stores, bindings, Nat.le_of_eq next.symm⟩

theorem persist_eq (w : World ρ) (storage : Option Nat) (l : Language) :
    (w.persist storage l).stores = w.stores ∧ (w.persist storage l).bindings = w.bindings ∧
      (w.persist storage l).nextReference = w.nextReference := by
  cases storage with
  | none => exact ⟨rfl, rfl, rfl⟩
  | some shelf =>
    simp only [persist]
    cases he : w.withShelf shelf fun m => ((), Choice.saveOrWarn m l) with
    | none => exact ⟨rfl, rfl, rfl⟩
    | some done => exact withShelf_eq he

@[simp] theorem length_addStore (w : World ρ) (l : Language) (storage : Option Nat) :
    (w.addStore l storage).2.stores.length = w.stores.length + 1 := by
  simp [addStore, newReference]

/-- What a subscription makes of its store. -/
def enrolled (s : Store ρ) (callback : Callback ρ) : Store ρ :=
  { s with subscribers := s.subscribers ++ [(s.nextId, callback)], nextId := s.nextId + 1 }

theorem subscribe_eq {w w' : World ρ} {i : Nat} {callback : Callback ρ} {sub : Subscription}
    (h : w.subscribe i callback = some (sub, w')) :
    ∃ s, w.stores[i]? = some s ∧ sub = ⟨i, s.nextId⟩ ∧
      w' = w.onStore i fun s => enrolled s callback := by
  obtain ⟨s, hs, he⟩ := Option.map_eq_some_iff.mp h
  obtain ⟨rfl, rfl⟩ := Prod.mk.inj he
  exact ⟨s, hs, rfl, rfl⟩

/-- A new binding subscribes to its store and shows the state that the store has. -/
theorem bind_eq {w w' : World ρ} {i b : Nat} (h : w.bind i = some (b, w')) :
    ∃ s bd, w.stores[i]? = some s ∧ b = w.bindings.length ∧ bd.subscription = ⟨i, s.nextId⟩ ∧
      bd.Shows s.state ∧
      w' = { w.onStore i (fun s => enrolled s (.refresh b)) with
        bindings := w.bindings ++ [bd] } := by
  unfold bind at h
  obtain ⟨s, hs, h⟩ := Option.bind_eq_some_iff.mp h
  obtain ⟨⟨sub, w₁⟩, hsub, h⟩ := Option.bind_eq_some_iff.mp h
  obtain ⟨s', hs', rfl, rfl⟩ := subscribe_eq hsub
  obtain rfl : s' = s := Option.some.inj (hs'.symm.trans hs)
  obtain ⟨rfl, rfl⟩ := Prod.mk.inj (Option.some.inj h)
  exact ⟨_, _, hs, rfl, rfl, ⟨rfl, ⟨_, rfl, rfl⟩, rfl⟩, rfl⟩

/-- A refresh is an assignment to one binding. -/
theorem refresh_eq {w : World ρ} {number : Nat} {b : Binding} (r : Reference Language)
    (h : w.bindings[number]? = some b) :
    (w.refresh number r).stores = w.stores ∧
      (w.refresh number r).bindings = w.bindings.set number (b.refreshed r) ∧
      (w.refresh number r).nextReference = w.nextReference := by
  unfold refresh
  rw [h]
  exact ⟨rfl, rfl, rfl⟩

theorem getElem?_refresh_of_ne (w : World ρ) {number b : Nat} (other : number ≠ b)
    (r : Reference Language) : (w.refresh number r).bindings[b]? = w.bindings[b]? := by
  cases there : w.bindings[number]? with
  | none => simp [refresh, there]
  | some bd => rw [(refresh_eq r there).2.1, List.getElem?_set_ne other]

/-- To be told of a state changes no binding's subscription. -/
theorem subscription?_refresh (w : World ρ) (number : Nat) (r : Reference Language) :
    (w.refresh number r).subscription? = w.subscription? := by
  funext j
  cases there : w.bindings[number]? with
  | none => simp [refresh, there, subscription?]
  | some b =>
    have known := (List.getElem?_eq_some_iff.mp there).1
    rw [subscription?, subscription?, (refresh_eq r there).2.1]
    by_cases same : number = j
    · subst same
      rw [List.getElem?_set_self known, there]
      rfl
    · rw [List.getElem?_set_ne same]

@[simp] theorem length_bindings_refresh (w : World ρ) (number : Nat) (r : Reference Language) :
    (w.refresh number r).bindings.length = w.bindings.length := by
  unfold refresh
  split <;> simp

theorem detach_eq {w : World ρ} {sub : Subscription} {s : Store ρ}
    (there : w.stores[sub.store]? = some s) (alive : s.isAlive = true) :
    (w.detach sub).stores = w.stores.set sub.store
      { s with subscribers := s.subscribers.filter fun e => e.1 ≠ sub.id } := by
  rw [detach, stores_onStore_of there, if_pos alive]

/-- A store that is gone is not touched. -/
theorem detach_gone {w : World ρ} {sub : Subscription}
    (gone : ∀ s, w.stores[sub.store]? = some s → s.isAlive = false) : w.detach sub = w := by
  have same : (w.detach sub).stores = w.stores := by
    apply List.ext_getElem?
    intro j
    rw [detach, getElem?_onStore]
    split
    · rename_i here
      subst here
      cases there : w.stores[sub.store]? with
      | none => rfl
      | some s => simp [gone s there]
    · rfl
  calc w.detach sub = { w with stores := (w.detach sub).stores } := rfl
    _ = w := by rw [same]

theorem unbind_eq {w : World ρ} {number : Nat} {b : Binding} (h : w.bindings[number]? = some b) :
    w.unbind number = w.detach b.subscription := by
  simp only [unbind, h]

@[simp] theorem bindings_unbind (w : World ρ) (number : Nat) :
    (w.unbind number).bindings = w.bindings := by
  unfold unbind
  split <;> rfl

/-- A new state has the next number; a store that has the language keeps its state. -/
theorem moveTo_eq {w : World ρ} {i : Nat} {s : Store ρ} (hs : w.stores[i]? = some s)
    (l : Language) :
    (w.moveTo i s.state l).1.value = l ∧
      ((w.moveTo i s.state l).1 = s.state ∧
          (w.moveTo i s.state l).2.nextReference = w.nextReference ∨
        (w.moveTo i s.state l).1.id = w.nextReference ∧
          (w.moveTo i s.state l).2.nextReference = w.nextReference + 1) ∧
      (w.moveTo i s.state l).2.bindings = w.bindings ∧
      (w.moveTo i s.state l).2.stores =
        w.stores.set i { s with state := (w.moveTo i s.state l).1 } := by
  by_cases same : l = s.state.value
  · have kept : w.moveTo i s.state l = (s.state, w) := by simp [moveTo, same]
    rw [kept]
    exact ⟨same.symm, .inl ⟨rfl, rfl⟩, rfl, (set_of_getElem? hs).symm⟩
  · have moved : w.moveTo i s.state l =
        (⟨w.nextReference, l⟩, ((w.newReference l).2.onStore i fun s =>
          { s with state := ⟨w.nextReference, l⟩ }).log [.switched s.state.value l]) := by
      simp [moveTo, same, newReference]
    rw [moved]
    exact ⟨rfl, .inr ⟨rfl, rfl⟩, rfl, stores_onStore_of hs _⟩

theorem dispatch_refused {w w' : World ρ} {i : Nat} {s : Store ρ} {switch : Switch}
    (there : w.stores[i]? = some s) (h : w.dispatch i switch = some (.refused w')) :
    w' = w.log [.refusedSwitch switch] := by
  simp only [dispatch, there, Option.map_some, Option.some.injEq] at h
  split at h
  · cases h
    rfl
  · cases h

/-- A switch that is accepted sets the state and the flag of one store, and its cycle has all the
subscribers to call. -/
theorem dispatch_accepted {w w' : World ρ} {i : Nat} {switch : Switch} {c : Cycle ρ}
    (h : w.dispatch i switch = some (.accepted w' c)) :
    ∃ s, w.stores[i]? = some s ∧ s.notifying = false ∧
      c.store = i ∧ c.due = s.subscribers ∧ c.state.value = switch.target ∧
      (c.state = s.state ∧ w'.nextReference = w.nextReference ∨
        c.state.id = w.nextReference ∧ w'.nextReference = w.nextReference + 1) ∧
      w'.bindings = w.bindings ∧
      w'.stores = w.stores.set i { s with state := c.state, notifying := true } := by
  obtain ⟨s, hs, h⟩ := Option.map_eq_some_iff.mp h
  obtain ⟨value, reference, bindings, stores⟩ := moveTo_eq hs switch.target
  split at h
  · cases h
  rename_i free
  generalize w.moveTo i s.state switch.target = moved at h value reference bindings stores
  obtain ⟨state, w₁⟩ := moved
  obtain ⟨stores', bindings', next'⟩ := persist_eq w₁ s.storage switch.target
  injection h with hw hc
  subst hw hc
  have there : (w₁.persist s.storage switch.target).stores[i]? = some { s with state } := by
    rw [stores', stores, List.getElem?_set_self (List.getElem?_eq_some_iff.mp hs).1]
  refine ⟨s, hs, by simpa using free, rfl, rfl, value, ?_, ?_, ?_⟩
  · simpa [next'] using reference
  · simpa [bindings'] using bindings
  · rw [stores_onStore_of there, stores', stores, List.set_set]

/-- A switch to the language that the store has gives it no new state. -/
theorem dispatch_same {w w' : World ρ} {i : Nat} {s : Store ρ} {switch : Switch} {c : Cycle ρ}
    (there : w.stores[i]? = some s) (same : switch.target = s.state.value)
    (h : w.dispatch i switch = some (.accepted w' c)) : c.state = s.state := by
  have kept : (w.moveTo i s.state switch.target).1 = s.state := by simp [moveTo, same]
  simp only [dispatch, there, Option.map_some, Option.some.injEq] at h
  split at h
  · cases h
  · injection h with _ hc
    rw [← hc, kept]

end World

end LoginCard
