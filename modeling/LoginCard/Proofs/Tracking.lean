import LoginCard.Proofs.Bindings

/-!
# What a binding shows

A binding that somebody holds has derived its strings from the state of its store, unless the store
is in a cycle that has not come to it yet. Until then it remembers an earlier state, and the cached
strings of that one are not taken for those of the new state: references are numbered, and a new one
has a number above all that a binding ever saw.
-/

namespace LoginCard

variable {ρ : Type} {h h' : Holding ρ} {e : Option Event}

/-- The subscription is due in a cycle of its store. -/
def Holding.Pending (h : Holding ρ) (sub : Subscription) : Prop :=
  ∃ c ∈ h.cycles, c.store = sub.store ∧ sub.id ∈ c.due.map Prod.fst

/-- How the state `known` that a binding shows is related to the state `r` of its store. -/
structure Tracks (h : Holding ρ) (bd : Binding) (r known : Reference Language) : Prop where
  shows : bd.Shows known
  issued : known.id < h.world.nextReference
  same : known.id = r.id → known = r
  settled : ¬ h.Pending bd.subscription → known = r

/-- Every state that a binding or a store has was numbered, and every binding that is held shows
one that is related to the state of its store. -/
structure Tracking (h : Holding ρ) : Prop where
  issued : ∀ (i : Nat) (r : Reference Language), h.states[i]? = some r →
    r.id < h.world.nextReference
  shown : ∀ b ∈ h.bindings, ∀ (bd : Binding) (r : Reference Language),
    h.world.bindings[b]? = some bd → h.states[bd.subscription.store]? = some r →
    ∃ known, Tracks h bd r known

/-- One turn of a cycle takes the one subscription that it is about. -/
theorem Holding.Pending.turn {c : Cycle ρ} {id : Nat} {callback : Callback ρ}
    {due : List (Nat × Callback ρ)} {rest : List (Cycle ρ)} {sub : Subscription}
    (pending : h.Pending sub) (held : h.cycles = c :: rest) (next : c.due = (id, callback) :: due)
    (w : World ρ) :
    Holding.Pending { h with world := w, cycles := { c with due } :: rest } sub ∨
      sub = ⟨c.store, id⟩ := by
  obtain ⟨c₀, going, store, member⟩ := pending
  rw [held] at going
  rcases List.mem_cons.mp going with rfl | below
  · rw [next, List.map_cons, List.mem_cons] at member
    rcases member with here | later
    · exact .inr (store ▸ congrArg (Subscription.mk sub.store) here)
    · exact .inl ⟨{ c₀ with due }, List.mem_cons_self, store, later⟩
  · exact .inl ⟨c₀, List.mem_cons_of_mem _ below, store, member⟩

namespace Tracking

theorem start (files : FileTree) : Tracking (Holding.start files : Holding ρ) := by
  constructor <;> simp [Holding.states, Holding.start, World.empty, World.column]

/-- Every state is numbered below the next reference. -/
theorem issued_step (change : Change h e h') (tracking : Tracking h) (i : Nat)
    (r' : Reference Language) (there : h'.states[i]? = some r') :
    r'.id < h'.world.nextReference := by
  have grows := change.nextReference_le
  cases change.settles i with
  | same states _ _ =>
    have before := tracking.issued i r' (states ▸ there)
    omega
  | opened r _ after _ fresh next =>
    obtain rfl : r = r' := Option.some.inj (after.symm.trans there)
    omega
  | accepted r r₁ _ before after _ reference =>
    obtain rfl : r₁ = r' := Option.some.inj (after.symm.trans there)
    rcases reference with rfl | ⟨fresh, next⟩
    · have old := tracking.issued i _ before
      omega
    · omega

/-- The store of a binding has the same state after a change, unless it accepts a switch. -/
theorem state_before (change : Change h e h') (owned : Owned h) {b : Nat} {bd : Binding}
    {r : Reference Language} (known : h.world.bindings[b]? = some bd)
    (quiet : ∀ i l, e ≠ some (.accepted i l)) (there : h'.states[bd.subscription.store]? = some r) :
    h.states[bd.subscription.store]? = some r := by
  obtain ⟨r₀, roster, _⟩ := owned.own b bd.subscription (World.subscription?_of known)
  cases change.settles bd.subscription.store with
  | same states _ _ => exact states ▸ there
  | opened _ absent _ _ _ _ =>
    have inside := (List.getElem?_eq_some_iff.mp roster).1
    have beyond := List.getElem?_eq_none_iff.mp absent
    simp only [Holding.rosters, Holding.states, World.length_column] at inside beyond
    omega
  | accepted _ _ _ _ _ event _ => exact absurd event (quiet _ _)

/-- A binding that neither a refresh nor a switch of its store touches is tracked as before. -/
theorem kept (change : Change h e h') (owned : Owned h) (tracking : Tracking h) {b : Nat}
    {bd : Binding} {r : Reference Language} (held : b ∈ h.bindings)
    (known : h.world.bindings[b]? = some bd) (quiet : ∀ i l, e ≠ some (.accepted i l))
    (there : h'.states[bd.subscription.store]? = some r)
    (pending : h.Pending bd.subscription → h'.Pending bd.subscription) :
    ∃ known, Tracks h' bd r known := by
  have before := state_before change owned known quiet there
  obtain ⟨state, tracks⟩ := tracking.shown b held bd r known before
  refine ⟨state, tracks.shows, ?_, tracks.same, ?_⟩
  · have old := tracks.issued
    have grows := change.nextReference_le
    omega
  · intro idle
    exact tracks.settled fun busy => idle (pending busy)

section Accepted

variable {i : Nat} {switch : Switch} {w : World ρ} {c : Cycle ρ} {b : Nat} {bd : Binding}

/-- A switch makes the subscription of every binding of its store pending. -/
theorem pending_of_accepted (enrolled : Enrolled h) (owned : Owned h)
    (held : bd.subscription.store ∈ h.handles)
    (came : h.world.dispatch bd.subscription.store switch = some (.accepted w c))
    (bound : b ∈ h.bindings) (known : h.world.bindings[b]? = some bd) :
    Holding.Pending { h with world := w, cycles := c :: h.cycles } bd.subscription := by
  obtain ⟨s, here, _, store, due, _, _, _, _⟩ := World.dispatch_accepted came
  refine ⟨c, List.mem_cons_self, store, ?_⟩
  obtain ⟨r, roster, member⟩ :=
    owned.registered enrolled bound (World.subscription?_of known) (.inl held)
  obtain rfl := Option.some.inj (roster.symm.trans (World.getElem?_column Store.roster here))
  rw [due]
  exact List.mem_map_of_mem member

theorem accepted_here (tracking : Tracking h) (flagged : Flagged h) (enrolled : Enrolled h)
    (owned : Owned h) (held : bd.subscription.store ∈ h.handles)
    (came : h.world.dispatch bd.subscription.store switch = some (.accepted w c))
    (bound : b ∈ h.bindings) (known : h.world.bindings[b]? = some bd) :
    ∃ known, Tracks { h with world := w, cycles := c :: h.cycles } bd c.state known := by
  have pending := pending_of_accepted enrolled owned held came bound known
  obtain ⟨s, here, free, _, _, _, next, _, _⟩ := World.dispatch_accepted came
  have idle : ¬ h.Pending bd.subscription := by
    rintro ⟨c₀, going, store₀, _⟩
    have flag := (flagged.flag bd.subscription.store).mpr (store₀ ▸ List.mem_map_of_mem going)
    rw [Holding.flags, World.getElem?_column _ here, free] at flag
    cases flag
  obtain ⟨known, tracks⟩ := tracking.shown b bound bd _ ‹_› (World.getElem?_column Store.state here)
  obtain rfl : known = s.state := tracks.settled idle
  have old := tracks.issued
  refine ⟨s.state, tracks.shows, ?_, ?_, fun settled => absurd pending settled⟩
  · change s.state.id < w.nextReference
    omega
  · -- A new state has the next number, and no binding has seen that one.
    intro (same : s.state.id = c.state.id)
    rcases next with ⟨kept, _⟩ | ⟨fresh, _⟩
    · exact kept.symm
    · omega

theorem accepted {r : Reference Language} (tracking : Tracking h) (flagged : Flagged h)
    (enrolled : Enrolled h) (owned : Owned h) (held : i ∈ h.handles)
    (came : h.world.dispatch i switch = some (.accepted w c)) (bound : b ∈ h.bindings)
    (known : h.world.bindings[b]? = some bd)
    (there : (w.column Store.state)[bd.subscription.store]? = some r) :
    ∃ known, Tracks { h with world := w, cycles := c :: h.cycles } bd r known := by
  obtain ⟨s, _, _, _, _, _, next, _, stores⟩ := World.dispatch_accepted came
  rw [World.column_set Store.state stores] at there
  rcases of_getElem?_set there with ⟨rfl, rfl⟩ | ⟨_, before⟩
  · exact tracking.accepted_here flagged enrolled owned held came bound known
  · obtain ⟨known, tracks⟩ := tracking.shown b bound bd r ‹_› before
    refine ⟨known, tracks.shows, ?_, tracks.same, ?_⟩
    · have old := tracks.issued
      change known.id < w.nextReference
      omega
    · intro settled
      refine tracks.settled fun ⟨c₀, going, store₀, member⟩ => settled ?_
      exact ⟨c₀, List.mem_cons_of_mem _ going, store₀, member⟩

end Accepted

/-- A binding shows the state that its store has when it is made. -/
theorem bound {i b₁ : Nat} {w : World ρ} (tracking : Tracking h) (enrolled : Enrolled h)
    (owned : Owned h) (held : i ∈ h.handles) (made : h.world.bind i = some (b₁, w)) {b : Nat}
    {bd : Binding} {r : Reference Language} (bound : b ∈ b₁ :: h.bindings)
    (there : w.bindings[b]? = some bd)
    (state : (w.column Store.state)[bd.subscription.store]? = some r) :
    ∃ known, Tracks { h with world := w, bindings := b₁ :: h.bindings } bd r known := by
  have change : Change h _ { h with world := w, bindings := b₁ :: h.bindings } := .bound held made
  obtain ⟨s, bd₁, here, rfl, sub, shows, rfl⟩ := World.bind_eq made
  rcases List.mem_cons.mp bound with rfl | old
  · obtain rfl : bd₁ = bd := by simpa using there
    have column : (h.world.onStore i fun s =>
        World.enrolled s (.refresh h.world.bindings.length)).column Store.state = h.states :=
      World.column_onStore fun _ => rfl
    have before : h.states[i]? = some r := by
      rw [← column, ← state, sub]
      rfl
    obtain rfl := Option.some.inj (before.symm.trans (World.getElem?_column Store.state here))
    have issued := tracking.issued i _ before
    refine ⟨s.state, shows, ?_, fun _ => rfl, fun _ => rfl⟩
    exact Nat.lt_of_lt_of_le issued change.nextReference_le
  · have before := (List.getElem?_append_left (enrolled.bound b old)).symm.trans there
    exact kept change owned tracking old before (by simp) state id

section Turning

variable {c : Cycle ρ} {id : Nat} {due : List (Nat × Callback ρ)} {rest : List (Cycle ρ)}

/-- Where the next turn is that of a binding that is held, the binding is called in it. -/
theorem called_of_held {callback : Callback ρ} (enrolled : Enrolled h) (due_now : Due h)
    (owned : Owned h) (held : h.cycles = c :: rest) (next : c.due = (id, callback) :: due) {b : Nat}
    {bd : Binding} (bound : b ∈ h.bindings) (there : h.world.bindings[b]? = some bd)
    (here : bd.subscription = ⟨c.store, id⟩) :
    h.world.isDue c.store id = true ∧ callback = .refresh b := by
  have going : c ∈ h.cycles := held ▸ List.mem_cons_self
  have head : (id, callback) ∈ c.due := next ▸ List.mem_cons_self
  have subscription := here ▸ World.subscription?_of there
  obtain ⟨r, roster, member⟩ :=
    owned.registered enrolled bound subscription (.inr (List.mem_map_of_mem going))
  constructor
  · exact (World.isDue_iff roster).mpr ⟨_, member⟩
  · exact ((due_now.calls c going r roster).agree _ head _ member).symm

/-- A turn of a cycle leaves no binding that is held behind. -/
theorem refreshed {b₁ : Nat} (tracking : Tracking h) (enrolled : Enrolled h) (due_now : Due h)
    (owned : Owned h) (held : h.cycles = c :: rest) (next : c.due = (id, .refresh b₁) :: due)
    (called : h.world.isDue c.store id = true) {b : Nat} {bd : Binding} {r : Reference Language}
    (bound : b ∈ h.bindings) (there : (h.world.refresh b₁ c.state).bindings[b]? = some bd)
    (state : ((h.world.refresh b₁ c.state).column Store.state)[bd.subscription.store]? = some r) :
    ∃ known, Tracks
      { h with world := h.world.refresh b₁ c.state, cycles := { c with due } :: rest }
      bd r known := by
  have change : Change h (some (.turned c.store))
      { h with world := h.world.refresh b₁ c.state, cycles := { c with due } :: rest } :=
    .refreshed held next called
  have going : c ∈ h.cycles := held ▸ List.mem_cons_self
  have now := due_now.state c going
  obtain ⟨bd₁, known₁, subscription₁⟩ :=
    Option.map_eq_some_iff.mp (owned.of_called due_now going (next ▸ List.mem_cons_self) called)
  rw [(World.refresh_eq c.state known₁).2.1] at there
  rcases of_getElem?_set there with ⟨rfl, rfl⟩ | ⟨other, before⟩
  · rw [World.column_refresh, Binding.subscription_refreshed, subscription₁] at state
    obtain rfl : r = c.state := Option.some.inj (state.symm.trans now)
    obtain ⟨known, tracks⟩ := tracking.shown b₁ bound bd₁ c.state known₁ (by rwa [subscription₁])
    have issued := tracking.issued _ _ now
    refine ⟨c.state, tracks.shows.refreshed tracks.same, ?_, fun _ => rfl, fun _ => rfl⟩
    exact Nat.lt_of_lt_of_le issued change.nextReference_le
  · apply kept change owned tracking bound before (by simp) state
    intro pending
    rcases pending.turn held next _ with still | here
    · exact still
    · obtain ⟨_, same⟩ := called_of_held enrolled due_now owned held next bound before here
      exact absurd (Callback.refresh.inj same) other

/-- A turn that refreshes nothing was that of no binding that is held. -/
theorem passed {callback : Callback ρ} (tracking : Tracking h) (enrolled : Enrolled h)
    (due_now : Due h) (owned : Owned h) (held : h.cycles = c :: rest)
    (next : c.due = (id, callback) :: due)
    (ran : h.world.isDue c.store id = true → ∃ program, callback = .run program) {b : Nat}
    {bd : Binding} {r : Reference Language} (bound : b ∈ h.bindings)
    (there : h.world.bindings[b]? = some bd) (state : h.states[bd.subscription.store]? = some r) :
    ∃ known, Tracks { h with cycles := { c with due } :: rest } bd r known := by
  apply kept (.passed held next ran) owned tracking bound there (by simp) state
  intro pending
  rcases pending.turn held next _ with still | here
  · exact still
  · obtain ⟨called, rfl⟩ := called_of_held enrolled due_now owned held next bound there here
    obtain ⟨program, same⟩ := ran called
    cases same

end Turning

theorem step (change : Change h e h') (flagged : Flagged h) (enrolled : Enrolled h) (due : Due h)
    (owned : Owned h) (tracking : Tracking h) : Tracking h' := by
  constructor
  · exact tracking.issued_step change
  · intro b bound bd r there state
    cases change with
    | aside beside =>
      exact kept (.aside beside) owned tracking bound (beside.bindings ▸ there) (by simp) state id
    | arranged handles subscriptions bindings =>
      exact kept (.arranged handles subscriptions bindings) owned tracking
        (bindings.mem_iff.mpr bound) there (by simp) state id
    | opened l storage =>
      exact kept (.opened l storage) owned tracking bound there (by simp) state id
    | retained held => exact kept (.retained held) owned tracking bound there (by simp) state id
    | released held => exact kept (.released held) owned tracking bound there (by simp) state id
    | subscribed held made =>
      obtain ⟨s, _, _, rfl⟩ := World.subscribe_eq made
      exact kept (.subscribed held made) owned tracking bound there (by simp) state id
    | detached held => exact kept (.detached held) owned tracking bound there (by simp) state id
    | bound held made => exact tracking.bound enrolled owned held made bound there state
    | unbound held =>
      rw [World.bindings_unbind] at there
      refine kept (.unbound held) owned tracking ?_ there (by simp) state id
      exact held ▸ List.mem_cons_of_mem _ bound
    | accepted held came =>
      obtain ⟨_, _, _, _, _, _, _, bindings, _⟩ := World.dispatch_accepted came
      exact tracking.accepted flagged enrolled owned held came bound (bindings ▸ there) state
    | passed held next ran =>
      exact tracking.passed enrolled due owned held next ran bound there state
    | refreshed held next called =>
      exact tracking.refreshed enrolled due owned held next called bound there state
    | ended held done =>
      apply kept (.ended held done) owned tracking bound there (by simp) state
      rintro ⟨c₀, going, store, member⟩
      rw [held] at going
      rcases List.mem_cons.mp going with rfl | below
      · simp [done] at member
      · exact ⟨c₀, below, store, member⟩

end Tracking

end LoginCard
