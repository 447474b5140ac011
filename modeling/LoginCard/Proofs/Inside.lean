import LoginCard.Proofs.Notification

/-!
# Reactions that make no store

A step that makes no store and subscribes no reaction that makes one leaves the number of stores as
it is, and whoever is called after it makes no store either. Only a switch starts a cycle, and it
never makes a store.
-/

namespace LoginCard

variable {ρ : Type} {h h' : Holding ρ} {e : Option Event}

/-- All subscribers of all stores are of this kind. -/
def World.Calls (w : World ρ) (P : Callback ρ → Prop) : Prop :=
  ∀ s ∈ w.stores, ∀ entry ∈ s.subscribers, P entry.2

instance (w : World ρ) (P : Callback ρ → Prop) [DecidablePred P] : Decidable (w.Calls P) :=
  inferInstanceAs (Decidable (∀ s ∈ w.stores, ∀ entry ∈ s.subscribers, P entry.2))

namespace World.Calls

variable {w w' : World ρ} {P : Callback ρ → Prop} {i : Nat}

theorem enrolled (calls : w.Calls P) {callback : Callback ρ} (fits : P callback) (i : Nat) :
    (w.onStore i fun s => World.enrolled s callback).Calls P := by
  intro s' member entry subscribed
  obtain ⟨j, there⟩ := List.mem_iff_getElem?.mp member
  rw [World.getElem?_onStore] at there
  split at there
  · obtain ⟨s, before, rfl⟩ := Option.map_eq_some_iff.mp there
    rcases List.mem_append.mp subscribed with old | new
    · exact calls s (List.mem_of_getElem? before) entry old
    · exact List.mem_singleton.mp new ▸ fits
  · exact calls s' (List.mem_of_getElem? there) entry subscribed

theorem subscribed (calls : w.Calls P) {callback : Callback ρ} {sub : Subscription}
    (made : w.subscribe i callback = some (sub, w')) (fits : P callback) : w'.Calls P := by
  obtain ⟨_, _, _, rfl⟩ := World.subscribe_eq made
  exact calls.enrolled fits i

theorem bound (calls : w.Calls P) {b : Nat} (made : w.bind i = some (b, w'))
    (fits : P (.refresh b)) : w'.Calls P := by
  obtain ⟨_, _, _, _, _, _, rfl⟩ := World.bind_eq made
  exact calls.enrolled fits i

end World.Calls

/-- Where nobody subscribes, the subscribers are those of before. -/
theorem Change.calls {P : Callback ρ → Prop} (change : Change h e h')
    (quiet : ∀ i, e ≠ some (.subscribed i)) (calls : h.world.Calls P) : h'.world.Calls P := by
  intro s' member entry subscribed
  obtain ⟨i, there⟩ := List.mem_iff_getElem?.mp member
  have roster : h'.rosters[i]? = some s'.roster := World.getElem?_column Store.roster there
  rcases change.roster roster with ⟨_, new⟩ | ⟨r, known, becomes⟩
  · have nobody : s'.subscribers = [] := congrArg Roster.subscribers new
    simp [nobody] at subscribed
  · have none : e.toList.count (.subscribed i) = 0 :=
      List.count_eq_zero.mpr fun came => quiet i (Option.mem_toList.mp came)
    rw [none] at becomes
    obtain ⟨s, before, rfl⟩ := World.of_column known
    exact calls s (List.mem_of_getElem? before) entry (becomes.old subscribed)

/-- Only to open a store adds one. -/
theorem Change.length_stores (change : Change h e h') (quiet : ∀ i l, e ≠ some (.opened i l)) :
    h'.world.stores.length = h.world.stores.length := by
  have worked : ∀ i f, (h.world.onStore i f).stores.length = h.world.stores.length := by
    intro i f
    exact List.length_modify f _ i
  cases change with
  | aside beside => rw [beside.stores]
  | arranged | passed => rfl
  | opened l => exact absurd rfl (quiet _ l)
  | retained | released | detached | ended => exact worked _ _
  | subscribed _ made =>
    obtain ⟨s, _, _, rfl⟩ := World.subscribe_eq made
    exact worked _ _
  | bound _ made =>
    obtain ⟨s, bd, _, _, _, _, rfl⟩ := World.bind_eq made
    exact worked _ _
  | unbound =>
    unfold World.unbind
    split
    · rfl
    · exact worked _ _
  | accepted _ came =>
    obtain ⟨s, _, _, _, _, _, _, _, stores⟩ := World.dispatch_accepted came
    rw [stores, List.length_set]
  | refreshed =>
    unfold World.refresh
    split <;> rfl

namespace Chain

variable {es : List Event}

theorem calls {P : Callback ρ → Prop} (chain : Chain h es h') (quiet : ∀ i, .subscribed i ∉ es)
    (calls : h.world.Calls P) : h'.world.Calls P := by
  induction chain with
  | nil h => exact calls
  | @cons _ _ _ e es change _ ih =>
    refine ih (fun i later => quiet i (List.mem_append_right _ later)) (change.calls ?_ calls)
    rintro i rfl
    exact quiet i (List.mem_append_left es List.mem_cons_self)

theorem length_stores (chain : Chain h es h') (quiet : ∀ i l, .opened i l ∉ es) :
    h'.world.stores.length = h.world.stores.length := by
  induction chain with
  | nil h => rfl
  | @cons _ _ _ e es change _ ih =>
    rw [ih fun i l later => quiet i l (List.mem_append_right _ later)]
    apply change.length_stores
    rintro i l rfl
    exact quiet i l (List.mem_append_left es List.mem_cons_self)

end Chain

namespace Session

mutual

/-- The step makes no store, nor do the reactions that it subscribes, or those that they
subscribe. -/
def Step.makesNoStore : Step → Bool
  | .newStore .. | .openStore .. => false
  | .subscribe _ _ reaction => makeNoStore reaction
  | _ => true

def makeNoStore : List Step → Bool
  | [] => true
  | step :: steps => step.makesNoStore && makeNoStore steps

end

/-- Reactions that the step subscribes make no store. -/
def Step.reactsInside : Step → Bool
  | .subscribe _ _ reaction => makeNoStore reaction
  | _ => true

theorem Step.reactsInside_of_makesNoStore {step : Step} (inside : step.makesNoStore = true) :
    step.reactsInside = true := by
  cases step <;> simp_all [makesNoStore, reactsInside]

/-- Whoever is called makes no store. -/
def StaysInside : Callback Reaction → Prop
  | .run program => makeNoStore program.steps = true
  | .refresh _ => True

instance : DecidablePred StaysInside
  | .run program => inferInstanceAs (Decidable (makeNoStore program.steps = true))
  | .refresh _ => inferInstanceAs (Decidable True)

section Performing

variable {s : Session} {step : Step}

/-- Outside every cycle a step is a chain to what it leaves, a cycle of its own included. -/
theorem chain_perform (ordered : s.Ordered) (step : Step) :
    ∃ cycles, Chain (s.holding []) (s.event? step).toList
      ((s.perform step).session.holding cycles) := by
  have follows := perform_follows ordered step
  cases performed : s.perform step with
  | reply s' r =>
    rw [performed] at follows
    exact ⟨[], follows.2 []⟩
  | cycle s' c r =>
    rw [performed] at follows
    exact ⟨[c], follows.2 []⟩

/-- After a step that subscribes nobody the subscribers are those of before. -/
theorem calls_of_quiet (ordered : s.Ordered) (quiet : ∀ i, s.event? step ≠ some (.subscribed i))
    (calls : s.world.Calls StaysInside) : (s.perform step).session.world.Calls StaysInside := by
  obtain ⟨cycles, chain⟩ := chain_perform ordered step
  exact chain.calls (fun i came => quiet i (Option.mem_toList.mp came)) calls

/-- After any step whose reactions make no store, all subscribers make none. -/
theorem calls_perform (ordered : s.Ordered) (inside : step.reactsInside = true)
    (calls : s.world.Calls StaysInside) : (s.perform step).session.world.Calls StaysInside := by
  cases step with
  | subscribe store name reaction =>
    cases found : s.store? store with
    | none => exact calls_of_quiet ordered (by simp [event?, found]) calls
    | some e =>
      obtain ⟨_, there⟩ := store?_eq found
      cases made : s.world.subscribe e.1 (.run ⟨name, reaction⟩) with
      | none => simp [World.subscribe, there] at made
      | some m =>
        have subscribed : s.perform (.subscribe store name reaction) =
            .reply ({ s with world := m.2 }.nameSubscription name m.1) .done := by
          simp [perform, performSubscription, found, made, orInvalid]
        have after : m.2.Calls StaysInside := calls.subscribed made inside
        rw [subscribed]
        exact (nameSubscription_chain [] (ordered.inWorld m.2) name m.1).calls (by simp) after
  | bind store name =>
    cases found : s.store? store with
    | none => exact calls_of_quiet ordered (by simp [event?, found]) calls
    | some e =>
      obtain ⟨b, w, made, _⟩ := binds found
      have bound : s.perform (.bind store name) =
          .reply ({ s with world := w }.nameBinding name b) .done := by
        simp [perform, performPage, found, made, orInvalid]
      have after : w.Calls StaysInside := calls.bound made trivial
      rw [bound]
      exact (nameBinding_chain [] (ordered.inWorld w) name b).calls (by simp) after
  | page store name template =>
    cases found : s.store? store with
    | none => exact calls_of_quiet ordered (by simp [event?, found]) calls
    | some e =>
      obtain ⟨b, w, made, _⟩ := binds found
      have opened : s.perform (.page store name template) =
          .reply ({ s with world := w }.namePage name
            ⟨b, Template.parse template, LoginForm.empty⟩) .done := by
        simp [perform, performPage, found, made, orInvalid]
      have after : w.Calls StaysInside := calls.bound made trivial
      rw [opened]
      exact (namePage_chain [] (ordered.inWorld w) name _).calls (by simp) after
  | dispatch | setLocale =>
    refine calls_of_quiet ordered (fun i => ?_) calls
    simp only [event?]
    split <;> simp
  | openStore =>
    refine calls_of_quiet ordered (fun i event => ?_) calls
    obtain ⟨_, _, same⟩ := Option.map_eq_some_iff.mp event
    cases same
  | _ => exact calls_of_quiet ordered (by simp [event?]) calls

theorem makesNoStore_of_asks {e : Nat × Language} (asked : s.asks? step = some e) :
    step.makesNoStore = true := by
  cases step <;> simp_all [asks?, Step.makesNoStore]

/-- Only a switch starts a cycle, with the subscribers that its store has. -/
theorem of_cycle (ordered : s.Ordered) {s' : Session} {c : Cycle Reaction} {r : Reply}
    (performed : s.perform step = .cycle s' c r) :
    step.makesNoStore = true ∧ ∃ store ∈ s.world.stores, c.due = store.subscribers := by
  have follows := perform_follows ordered step
  rw [performed] at follows
  obtain nothing | ⟨l, came⟩ := (follows.2 []).active_before (i := c.store) List.mem_cons_self
  · cases nothing
  obtain ⟨asked, _⟩ := asked_of_event? (Option.mem_toList.mp came)
  obtain ⟨_, switch, accepted, refused, _, _, _, same⟩ := perform_asked asked
  rw [performed] at same
  cases came : s.world.dispatch c.store switch with
  | none => simp [came, ofDispatched] at same
  | some d =>
    cases d with
    | refused w => simp [came, ofDispatched] at same
    | accepted w c' =>
      simp only [came, ofDispatched, Performed.cycle.injEq] at same
      obtain ⟨_, rfl, _⟩ := same
      obtain ⟨store, there, _, _, due, _⟩ := World.dispatch_accepted came
      exact ⟨makesNoStore_of_asks asked, store, List.mem_of_getElem? there, due⟩

theorem length_stores_perform (ordered : s.Ordered) (inside : step.makesNoStore = true) :
    (s.perform step).session.world.stores.length = s.world.stores.length := by
  have none : ∀ i l, Event.opened i l ∉ (s.event? step).toList := by
    intro i l came
    have event := Option.mem_toList.mp came
    cases step with
    | newStore | openStore => cases inside
    | dispatch | setLocale =>
      simp only [event?] at event
      split at event <;> simp at event
    | _ => simp [event?] at event
  obtain ⟨cycles, chain⟩ := chain_perform ordered step
  exact chain.length_stores none

end Performing

end Session

end LoginCard
