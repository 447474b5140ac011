import LoginCard.Proofs.Soundness

/-!
# Subscriptions and the handles to them

Every subscription of a store that lives is held by somebody, and every one that is held stands on
the roster of its store. To let go of it takes that entry off, and no other; where the store is gone
there is nothing to take off.
-/

namespace LoginCard

variable {ρ : Type} {h : Holding ρ}

/-- One world comes of another by letting go of a subscription: its own entry goes, and nothing else
changes. Where the store is gone, nothing changes at all. -/
def World.LetsGo (w : World ρ) (sub : Subscription) (w' : World ρ) : Prop :=
  ∃ s, w.stores[sub.store]? = some s ∧
    (s.isAlive = true → ∃ before callback after,
      s.subscribers = before ++ (sub.id, callback) :: after ∧
      w' = { w with stores := w.stores.set sub.store { s with subscribers := before ++ after } }) ∧
    (s.isAlive = false → w' = w)

namespace Sound

/-- To let go of what is held takes its one entry, if the store still lives. -/
theorem detach_letsGo (sound : Sound h) {sub : Subscription} (held : sub ∈ h.issued) :
    h.world.LetsGo sub (h.world.detach sub) := by
  have there := List.getElem?_eq_getElem (sound.enrolled.known sub held)
  refine ⟨_, there, ?_, ?_⟩
  · intro alive
    have roster := World.getElem?_column Store.roster there
    have lives := (Store.isAlive_iff sound.flagged sound.counted there).mp alive
    obtain ⟨callback, member⟩ := sound.enrolled.registered held roster lives
    have ordered := sound.rostered _ _ roster
    obtain ⟨before, after, split, rest⟩ := ordered.without_eq member
    refine ⟨before, callback, after, split, ?_⟩
    calc h.world.detach sub
        = { h.world with stores := (h.world.detach sub).stores } := rfl
      _ = _ := by rw [World.detach_eq there alive, ← rest]; rfl
  · intro gone
    apply World.detach_gone
    intro s known
    obtain rfl := Option.some.inj (known.symm.trans there)
    exact gone

theorem unbind_letsGo (sound : Sound h) {b : Nat} {sub : Subscription} (held : b ∈ h.bindings)
    (known : h.world.subscription? b = some sub) : h.world.LetsGo sub (h.world.unbind b) := by
  obtain ⟨bd, there, rfl⟩ := Option.map_eq_some_iff.mp known
  rw [World.unbind_eq there]
  exact sound.detach_letsGo (List.mem_append_right _ (List.mem_filterMap.mpr ⟨b, held, known⟩))

end Sound

namespace Session

/-- The subscription that a step lets go of, with the world in which it does. A name that is given
anew lets go of what bore it only after the new object is made. -/
def letsGo? (s : Session) : Step → Option (World Reaction × Subscription)
  | .unsubscribe name | .dropSubscription name =>
    (Keyed.find? name s.subscriptions).map fun sub => (s.world, sub)
  | .dropBinding name => do
    let sub ← (Keyed.find? name s.bindings).bind s.world.subscription?
    some (s.world, sub)
  | .dropPage name => do
    let p ← Keyed.find? name s.pages
    let sub ← s.world.subscription? p.binding
    some (s.world, sub)
  | .subscribe store name reaction => do
    let (i, _) ← s.store? store
    let (_, w) ← s.world.subscribe i (.run ⟨name, reaction⟩)
    let sub ← Keyed.find? name s.subscriptions
    some (w, sub)
  | .bind store name => do
    let (i, _) ← s.store? store
    let (_, w) ← s.world.bind i
    let sub ← (Keyed.find? name s.bindings).bind w.subscription?
    some (w, sub)
  | .page store name _ => do
    let (i, _) ← s.store? store
    let (_, w) ← s.world.bind i
    let p ← Keyed.find? name s.pages
    let sub ← w.subscription? p.binding
    some (w, sub)
  | _ => none

variable {s : Session} {cycles : List (Cycle Reaction)}

theorem letsGo_subscribe (sound : Sound (s.holding cycles)) {store name : String}
    {reaction : List Step} {w : World Reaction} {sub : Subscription}
    (lets : s.letsGo? (.subscribe store name reaction) = some (w, sub)) :
    ∃ s', s.perform (.subscribe store name reaction) = .reply s' .done ∧ w.LetsGo sub s'.world := by
  obtain ⟨⟨i, _⟩, found, lets⟩ := Option.bind_eq_some_iff.mp lets
  obtain ⟨⟨new, w₁⟩, made, lets⟩ := Option.bind_eq_some_iff.mp lets
  obtain ⟨old, named, same⟩ := Option.bind_eq_some_iff.mp lets
  obtain ⟨rfl, rfl⟩ := Prod.mk.inj (Option.some.inj same)
  have after := sound.step (.subscribed (store?_eq found).1 made)
  refine ⟨{ s with world := w₁ }.nameSubscription name new, ?_, ?_⟩
  · simp [perform, performSubscription, found, made, orInvalid]
  · rw [nameSubscription, named]
    exact after.detach_letsGo
      (List.mem_append_left _ (List.mem_cons_of_mem _ (Keyed.mem_values_of_find? named)))

theorem letsGo_bind (sound : Sound (s.holding cycles)) {store name : String}
    {w : World Reaction} {sub : Subscription}
    (lets : s.letsGo? (.bind store name) = some (w, sub)) :
    ∃ s', s.perform (.bind store name) = .reply s' .done ∧ w.LetsGo sub s'.world := by
  obtain ⟨⟨i, _⟩, found, lets⟩ := Option.bind_eq_some_iff.mp lets
  obtain ⟨⟨new, w₁⟩, made, lets⟩ := Option.bind_eq_some_iff.mp lets
  obtain ⟨sub₁, known, same⟩ := Option.bind_eq_some_iff.mp lets
  obtain ⟨rfl, rfl⟩ := Prod.mk.inj (Option.some.inj same)
  obtain ⟨old, named, known⟩ := Option.bind_eq_some_iff.mp known
  have after := sound.step (.bound (store?_eq found).1 made)
  refine ⟨{ s with world := w₁ }.nameBinding name new, ?_, ?_⟩
  · simp [perform, performPage, found, made, orInvalid]
  · rw [nameBinding, named]
    exact after.unbind_letsGo (List.mem_cons_of_mem _
      (List.mem_append_left _ (Keyed.mem_values_of_find? named))) known

theorem letsGo_page (sound : Sound (s.holding cycles)) {store name template : String}
    {w : World Reaction} {sub : Subscription}
    (lets : s.letsGo? (.page store name template) = some (w, sub)) :
    ∃ s', s.perform (.page store name template) = .reply s' .done ∧ w.LetsGo sub s'.world := by
  obtain ⟨⟨i, _⟩, found, lets⟩ := Option.bind_eq_some_iff.mp lets
  obtain ⟨⟨new, w₁⟩, made, lets⟩ := Option.bind_eq_some_iff.mp lets
  obtain ⟨p, named, lets⟩ := Option.bind_eq_some_iff.mp lets
  obtain ⟨sub₁, known, same⟩ := Option.bind_eq_some_iff.mp lets
  obtain ⟨rfl, rfl⟩ := Prod.mk.inj (Option.some.inj same)
  have after := sound.step (.bound (store?_eq found).1 made)
  refine ⟨{ s with world := w₁ }.namePage name ⟨new, Template.parse template, LoginForm.empty⟩,
    ?_, ?_⟩
  · simp [perform, performPage, found, made, orInvalid]
  · rw [namePage, named]
    exact after.unbind_letsGo (List.mem_cons_of_mem _ (List.mem_append_right _
      (List.mem_map_of_mem (Keyed.mem_values_of_find? named)))) known

/-- Every step that lets go of a subscription takes the entry of that one, and no other. -/
theorem perform_letsGo (sound : Sound (s.holding cycles)) {step : Step} {w : World Reaction}
    {sub : Subscription} (lets : s.letsGo? step = some (w, sub)) :
    ∃ s', s.perform step = .reply s' .done ∧ w.LetsGo sub s'.world := by
  cases step with
  | subscribe => exact letsGo_subscribe sound lets
  | bind => exact letsGo_bind sound lets
  | page => exact letsGo_page sound lets
  | unsubscribe name | dropSubscription name =>
    obtain ⟨sub₁, named, same⟩ := Option.map_eq_some_iff.mp lets
    obtain ⟨rfl, rfl⟩ := Prod.mk.inj same
    refine ⟨{ s with subscriptions := Keyed.erase name s.subscriptions }.dropSubscription
      (some sub₁), ?_, ?_⟩
    · simp [perform, performSubscription, named, orInvalid]
    · exact sound.detach_letsGo (List.mem_append_left _ (Keyed.mem_values_of_find? named))
  | dropBinding name =>
    obtain ⟨sub₁, known, same⟩ := Option.bind_eq_some_iff.mp lets
    obtain ⟨rfl, rfl⟩ := Prod.mk.inj (Option.some.inj same)
    obtain ⟨b, named, known⟩ := Option.bind_eq_some_iff.mp known
    refine ⟨{ s with bindings := Keyed.erase name s.bindings }.dropBinding (some b), ?_, ?_⟩
    · simp [perform, performPage, named, orInvalid]
    · exact sound.unbind_letsGo
        (List.mem_append_left _ (Keyed.mem_values_of_find? named)) known
  | dropPage name =>
    obtain ⟨p, named, lets⟩ := Option.bind_eq_some_iff.mp lets
    obtain ⟨sub₁, known, same⟩ := Option.bind_eq_some_iff.mp lets
    obtain ⟨rfl, rfl⟩ := Prod.mk.inj (Option.some.inj same)
    refine ⟨{ s with pages := Keyed.erase name s.pages }.dropBinding (some p.binding), ?_, ?_⟩
    · simp [perform, performPage, named, orInvalid]
    · exact sound.unbind_letsGo (List.mem_append_right _
        (List.mem_map_of_mem (Keyed.mem_values_of_find? named))) known
  | _ => simp [letsGo?] at lets

namespace Machine

/-- At every moment of every run, whoever drops or redefines what. -/
theorem subscribers_are_held (root : String) (steps : List Step) (n : Nat) :
    let m := run n (start root steps)
    let history := (start root steps).events n
    (∀ (i : Nat) (s : Store Reaction), m.session.world.stores[i]? = some s → s.isAlive = true →
      (s.subscribers.map Prod.fst).Pairwise (· < ·) ∧
      (∀ entry ∈ s.subscribers, entry.1 < s.nextId) ∧
      s.nextId = history.count (.subscribed i) ∧
      (s.subscribers.map Prod.fst).Perm (Subscription.idsAt i m.holding.issued) ∧
      s.subscribers.length = (m.holding.issued.filter fun sub => sub.store = i).length) ∧
    m.holding.issued.length = m.session.subscriptions.length + m.session.bindings.length +
      m.session.pages.length ∧
    (∀ sub ∈ m.holding.issued, m.session.world.LetsGo sub (m.session.world.detach sub)) ∧
    ∀ (step : Step) (w : World Reaction) (sub : Subscription),
      m.session.letsGo? step = some (w, sub) →
      ∃ s', m.session.perform step = .reply s' .done ∧ w.LetsGo sub s'.world := by
  intro m history
  have sound : Sound m.holding := (orderly_run root steps n).sound
  refine ⟨?_, ?_, ?_, ?_⟩
  · intro i s there alive
    have roster := roster_of there
    have ordered := sound.rostered i _ roster
    have lives := (Store.isAlive_iff sound.flagged sound.counted there).mp alive
    have held := sound.enrolled.held i _ roster lives
    have numbered := numbered_run root steps n i
    rw [roster] at numbered
    refine ⟨ordered.sorted, ?_, numbered, held, ?_⟩
    · intro entry member
      exact ordered.below entry.1 (List.mem_map_of_mem member)
    · simpa [Roster.ids, Store.roster, Subscription.idsAt] using held.length_eq
  · rw [sound.enrolled.length_issued]
    simp [holding, Session.holding, Keyed.values, Nat.add_assoc]
  · intro sub held
    exact sound.detach_letsGo held
  · intro step w sub lets
    exact perform_letsGo sound lets

end Machine

end Session

end LoginCard
