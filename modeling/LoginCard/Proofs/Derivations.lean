import LoginCard.Proofs.Freshness
import LoginCard.Proofs.References
import LoginCard.Proofs.Sharing
import LoginCard.Proofs.Switching
import Mathlib.Data.Nat.Count

/-!
# How often a binding derives its strings

A binding derives its strings when it is made, and once more for each switch that changes the
language of its store. It hears of such a switch in its own turn of the cycle, so until then it is
one derivation behind. Nothing else ever makes it derive.
-/

namespace LoginCard

variable {ρ : Type} {h h' : Holding ρ} {e : Option Event}

namespace Binding

/-- A binding remembers one state. -/
theorem Shows.unique {bd : Binding} {r r' : Reference Language} (shows : bd.Shows r)
    (shows' : bd.Shows r') : r = r' := by
  obtain ⟨_, known, _⟩ := shows.remembered
  obtain ⟨_, known', _⟩ := shows'.remembered
  exact (Prod.mk.inj (Option.some.inj (known.symm.trans known'))).1

/-- To be told of the state that it remembers costs a binding nothing. -/
theorem Shows.renders_refreshed {bd : Binding} {known : Reference Language} (shows : bd.Shows known)
    (r : Reference Language) :
    (bd.refreshed r).renders = bd.renders + if known.id = r.id then 0 else 1 := by
  obtain ⟨_, remembered, _⟩ := shows.remembered
  simp only [Binding.refreshed, renders, Selector.select, remembered]
  split <;> rfl

/-- The binding remembers another state than the one that its store has. -/
def isBehind (bd : Binding) (s : Store ρ) : Bool :=
  bd.selector.last.all fun known => known.1.id ≠ s.state.id

theorem Shows.isBehind {bd : Binding} {known : Reference Language} (shows : bd.Shows known)
    (s : Store ρ) : (bd.isBehind s).toNat = if known.id = s.state.id then 0 else 1 := by
  obtain ⟨_, remembered, _⟩ := shows.remembered
  simp only [Binding.isBehind, remembered, Option.all_some]
  split <;> simp [*]

end Binding

theorem World.renders_bind {w w' : World ρ} {i b : Nat} {bd : Binding}
    (made : w.bind i = some (b, w')) (there : w'.bindings[b]? = some bd) : bd.renders = 1 := by
  unfold World.bind at made
  obtain ⟨s, _, made⟩ := Option.bind_eq_some_iff.mp made
  obtain ⟨⟨sub, w₁⟩, subscribed, made⟩ := Option.bind_eq_some_iff.mp made
  obtain ⟨_, _, _, rfl⟩ := World.subscribe_eq subscribed
  obtain ⟨rfl, rfl⟩ := Prod.mk.inj (Option.some.inj made)
  obtain rfl : _ = bd := by simpa using there
  rfl

/-- Only to bind makes a binding. -/
theorem Change.bound_of_new (change : Change h e h') {b : Nat} {bd : Binding}
    (absent : h.world.bindings[b]? = none) (there : h'.world.bindings[b]? = some bd) :
    ∃ i, h.world.bind i = some (b, h'.world) := by
  have kept : h'.world.bindings.length = h.world.bindings.length →
      ∃ i, h.world.bind i = some (b, h'.world) := by
    intro same
    have beyond := List.getElem?_eq_none_iff.mp absent
    have inside := (List.getElem?_eq_some_iff.mp there).1
    omega
  cases change with
  | aside beside => exact kept (by rw [beside.bindings])
  | arranged | opened | retained | released | detached | passed | ended => exact kept rfl
  | subscribed _ made =>
    obtain ⟨s, _, _, rfl⟩ := World.subscribe_eq made
    exact kept rfl
  | @bound i b₁ _ _ made =>
    have beyond := List.getElem?_eq_none_iff.mp absent
    obtain ⟨s, bd₁, _, last, _, _, after⟩ := World.bind_eq made
    have inside := (List.getElem?_eq_some_iff.mp there).1
    simp only [after, List.length_append, List.length_singleton] at inside
    obtain rfl : b₁ = b := by omega
    exact ⟨i, made⟩
  | unbound => exact kept (by rw [World.bindings_unbind])
  | accepted _ came =>
    obtain ⟨_, _, _, _, _, _, _, bindings, _⟩ := World.dispatch_accepted came
    exact kept (by rw [bindings])
  | refreshed => exact kept (World.length_bindings_refresh _ _ _)

/-- The binding has derived its strings `n` times, a change counted that it is still to hear of. -/
def Holding.Derived (h : Holding ρ) (bd : Binding) (n : Nat) : Prop :=
  ∃ r known, h.states[bd.subscription.store]? = some r ∧ bd.Shows known ∧
    bd.renders + (if known.id = r.id then 0 else 1) = n

namespace Holding.Derived

variable {b n : Nat} {bd : Binding}

theorem state (derived : h.Derived bd n) : ∃ r, h.states[bd.subscription.store]? = some r := by
  obtain ⟨r, _, state, _⟩ := derived
  exact ⟨r, state⟩

/-- A binding starts with one derivation. -/
theorem of_new (change : Change h e h') (absent : h.world.bindings[b]? = none)
    (there : h'.world.bindings[b]? = some bd) : h'.Derived bd 1 := by
  obtain ⟨i, made⟩ := change.bound_of_new absent there
  have once := World.renders_bind made there
  obtain ⟨s, bd₁, known, rfl, sub, shows, after⟩ := World.bind_eq made
  rw [after] at there
  obtain rfl : bd₁ = bd := by simpa using there
  refine ⟨s.state, s.state, ?_, shows, by simp [once]⟩
  have column : h'.states = h.states := by
    rw [Holding.states, after]
    exact World.column_onStore fun _ => rfl
  rw [column, sub]
  exact World.getElem?_column Store.state known

/-- A change adds a derivation if it is a switch that changes the language of the store. -/
theorem step (change : Change h e h') (sound : Sound h) (held : b ∈ h.bindings)
    (there : h.world.bindings[b]? = some bd) {r : Reference Language}
    (state : h.states[bd.subscription.store]? = some r) (derived : h.Derived bd n) :
    ∃ bd', h'.world.bindings[b]? = some bd' ∧ bd'.subscription = bd.subscription ∧
      (h'.states[bd.subscription.store]? = some r ∧
          (∀ l, e = some (.accepted bd.subscription.store l) → l = r.value) ∧ h'.Derived bd' n ∨
        ∃ l, e = some (.accepted bd.subscription.store l) ∧ l ≠ r.value ∧
          h'.Derived bd' (n + 1)) := by
  obtain ⟨r₀, known, now, shows, count⟩ := derived
  obtain rfl : r₀ = r := Option.some.inj (now.symm.trans state)
  rcases change.reference state with ⟨kept, quiet⟩ | ⟨r', new, above, event, changed⟩
  · cases change.rebinds b with
    | same bindings =>
      exact ⟨bd, bindings.trans there, rfl, .inl ⟨kept, quiet, r₀, known, kept, shows, count⟩⟩
    | made _ _ _ _ absent _ _ _ _ _ _ => simp [there] at absent
    | refreshed bd₁ c id due rest cycles next called _ before after =>
      obtain rfl : bd₁ = bd := Option.some.inj (before.symm.trans there)
      -- The cycle tells of the state that the store has.
      have going : c ∈ h.cycles := cycles ▸ List.mem_cons_self
      have own := sound.owned.of_called sound.due going (next ▸ List.mem_cons_self) called
      rw [World.subscription?_of there] at own
      have store : bd₁.subscription.store = c.store := congrArg _ (Option.some.inj own)
      have told := sound.due.state c going
      rw [← store, state] at told
      obtain rfl := Option.some.inj told
      obtain ⟨known', tracks⟩ := sound.tracking.shown b held bd₁ _ there state
      obtain rfl := tracks.shows.unique shows
      refine ⟨bd₁.refreshed c.state, after, rfl, .inl ⟨kept, quiet, c.state, c.state, kept,
        shows.refreshed tracks.same, ?_⟩⟩
      rw [shows.renders_refreshed, ← count, if_pos rfl, Nat.add_zero]
  · cases change.rebinds b with
    | same bindings =>
      have idle : ¬ h.Pending bd.subscription := fun pending =>
        (event ▸ change).idle_of_accepted sound.flagged (Sound.pending_active pending)
      obtain ⟨known', tracks⟩ := sound.tracking.shown b held bd _ there state
      obtain rfl := tracks.shows.unique shows
      obtain rfl := tracks.settled idle
      have old := tracks.issued
      have other : known'.id ≠ r'.id := by omega
      refine ⟨bd, bindings.trans there, rfl, .inr ⟨r'.value, event, changed, r', known', new,
        shows, ?_⟩⟩
      rw [← count, if_pos rfl, if_neg other, Nat.add_zero]
    | made _ _ _ _ absent _ _ _ _ _ _ => simp [there] at absent
    | refreshed _ _ _ _ _ _ _ _ turned _ _ => simp [event] at turned

end Holding.Derived

namespace Chain

variable {b n : Nat} {bd : Binding} {es : List Event}

/-- So does a chain in which at most one thing happens. -/
theorem derived (chain : Chain h es h') (single : es.length ≤ 1) (sound : Sound h)
    (held : b ∈ h'.bindings) (there : h.world.bindings[b]? = some bd) {r : Reference Language}
    (state : h.states[bd.subscription.store]? = some r) (derived : h.Derived bd n) :
    ∃ bd', h'.world.bindings[b]? = some bd' ∧ bd'.subscription = bd.subscription ∧
      ((∀ l, .accepted bd.subscription.store l ∈ es → l = r.value) ∧ h'.Derived bd' n ∨
        ∃ l, .accepted bd.subscription.store l ∈ es ∧ l ≠ r.value ∧ h'.Derived bd' (n + 1)) := by
  induction chain generalizing bd r n with
  | nil h => exact ⟨bd, there, rfl, .inl ⟨by simp, derived⟩⟩
  | @cons h h₁ h₂ e es change rest ih =>
    rw [List.length_append] at single
    have subscription := change.subscription (World.subscription?_of there)
    have held₁ := (rest.binding_before subscription).2 held
    have held₀ := change.held_before (World.subscription?_of there) held₁
    obtain ⟨bd₁, there₁, same, ⟨kept, quiet, derived₁⟩ | ⟨l, event, changed, derived₁⟩⟩ :=
      derived.step change sound held₀ there state
    · obtain ⟨bd₂, there₂, same₂, what⟩ :=
        ih (by omega) (sound.step change) held there₁ (same ▸ kept) derived₁
      refine ⟨bd₂, there₂, same₂.trans same, ?_⟩
      rw [same] at what
      rcases what with ⟨quiet₂, derived₂⟩ | ⟨l, member, changed, derived₂⟩
      · refine .inl ⟨?_, derived₂⟩
        intro l member
        rcases List.mem_append.mp member with first | later
        · exact quiet l (Option.mem_toList.mp first)
        · exact quiet₂ l later
      · exact .inr ⟨l, List.mem_append_right _ member, changed, derived₂⟩
    · subst event
      rw [Option.toList_some, List.length_singleton] at single
      obtain rfl : es = [] := List.eq_nil_of_length_eq_zero (by omega)
      obtain ⟨r₁, state₁⟩ := derived₁.state
      obtain ⟨bd₂, there₂, same₂, ⟨_, derived₂⟩ | ⟨_, member, _⟩⟩ :=
        ih (by simp) (sound.step change) held there₁ state₁ derived₁
      · exact ⟨bd₂, there₂, same₂.trans same, .inr ⟨l, by simp, changed, derived₂⟩⟩
      · cases member

/-- A binding that is made in a chain in which no store accepts a switch has derived once. -/
theorem derived_of_new (chain : Chain h es h') (single : es.length ≤ 1)
    (quiet : ∀ i l, .accepted i l ∉ es) (sound : Sound h) (held : b ∈ h'.bindings)
    (absent : h.world.bindings[b]? = none) (there : h'.world.bindings[b]? = some bd) :
    h'.Derived bd 1 := by
  induction chain with
  | nil h => simp [absent] at there
  | @cons h h₁ h₂ e es change rest ih =>
    rw [List.length_append] at single
    have later : ∀ i l, .accepted i l ∉ es := fun i l member =>
      quiet i l (List.mem_append_right _ member)
    cases between : h₁.world.bindings[b]? with
    | none => exact ih (by omega) later (sound.step change) held between there
    | some bd₁ =>
      have derived₁ := Holding.Derived.of_new change absent between
      obtain ⟨r, state⟩ := derived₁.state
      obtain ⟨bd₂, there₂, _, ⟨_, derived₂⟩ | ⟨l, member, _⟩⟩ :=
        rest.derived (by omega) (sound.step change) held between state derived₁
      · obtain rfl : bd₂ = bd := Option.some.inj (there₂.symm.trans there)
        exact derived₂
      · exact absurd member (later _ l)

end Chain

namespace Session.Machine

instance (m : Machine) (i : Nat) : Decidable (m.Changes i) :=
  decidable_of_iff
    (∃ l ∈ Language.all, m.event? = some (.accepted i l) ∧ m.holding.tag? i ≠ some l)
    ⟨fun ⟨l, _, changes⟩ => ⟨l, changes⟩,
      fun ⟨l, changes⟩ => ⟨l, by cases l <;> simp [Language.all], changes⟩⟩

/-- A move changes the language of a store exactly if it is a step that asks the store for another
language, while the store is in no cycle. -/
theorem changes_iff {m : Machine} {i : Nat} :
    m.Changes i ↔ ∃ step l s, m.next? = some step ∧ m.session.asks? step = some (i, l) ∧
      m.session.world.stores[i]? = some s ∧ s.notifying = false ∧ s.state.value ≠ l := by
  have tag : ∀ {s : Store Reaction}, m.session.world.stores[i]? = some s →
      m.holding.tag? i = some s.state.value := by
    intro s there
    rw [Holding.tag?, state_of there]
    rfl
  constructor
  · rintro ⟨l, event, changed⟩
    obtain ⟨step, next, event⟩ := next_of_event? event rfl
    obtain ⟨asked, cycle⟩ := asked_of_event? event
    obtain ⟨s, _, _, _, _, there, _⟩ := perform_asked asked
    rw [tag there] at changed
    exact ⟨step, l, s, next, asked, there, (dispatch_isCycle asked there).mp cycle,
      fun same => changed (congrArg some same)⟩
  · rintro ⟨step, l, s, next, asked, there, free, changed⟩
    refine ⟨l, ?_, ?_⟩
    · rw [event?_of_next next, event?_asked asked, if_pos ((dispatch_isCycle asked there).mpr free)]
    · rw [tag there]
      exact fun same => changed (Option.some.inj same)

section Moving

variable {m : Machine} {b n : Nat} {bd : Binding}

/-- A move adds a derivation if it changes the language of the store. -/
theorem derived_move (orderly : m.Orderly) (held : b ∈ m.move.holding.bindings)
    (there : m.session.world.bindings[b]? = some bd) (derived : m.holding.Derived bd n) :
    ∃ bd', m.move.session.world.bindings[b]? = some bd' ∧ bd'.subscription = bd.subscription ∧
      m.move.holding.Derived bd' (n + if m.Changes bd.subscription.store then 1 else 0) := by
  have chain := (move_chain m orderly.ordered).2
  have single : m.event?.toList.length ≤ 1 := by cases m.event? <;> simp
  obtain ⟨r, state⟩ := derived.state
  have tag : m.holding.tag? bd.subscription.store = some r.value := by rw [Holding.tag?, state]; rfl
  obtain ⟨bd', there', same, what⟩ := chain.derived single orderly.sound held there state derived
  refine ⟨bd', there', same, ?_⟩
  rcases what with ⟨quiet, derived⟩ | ⟨l, event, changed, derived⟩
  · have still : ¬ m.Changes bd.subscription.store := by
      rintro ⟨l, event, changed⟩
      rw [tag, quiet l (by simp [event])] at changed
      exact changed rfl
    rwa [if_neg still]
  · have changes : m.Changes bd.subscription.store := by
      refine ⟨l, Option.mem_toList.mp event, ?_⟩
      rw [tag]
      exact fun value => changed (Option.some.inj value).symm
    rwa [if_pos changes]

/-- So a run adds as many as it has moves that change the language of the store. -/
theorem derived_run (orderly : m.Orderly) (k : Nat) (held : b ∈ (run k m).holding.bindings)
    (there : m.session.world.bindings[b]? = some bd) (derived : m.holding.Derived bd n) :
    ∃ bd', (run k m).session.world.bindings[b]? = some bd' ∧
      bd'.subscription = bd.subscription ∧
      (run k m).holding.Derived bd'
        (n + Nat.count (fun j => (run j m).Changes bd.subscription.store) k) := by
  induction k with
  | zero => exact ⟨bd, there, rfl, derived⟩
  | succ k ih =>
    rw [← run_move] at held ⊢
    have known := World.subscription?_of there
    obtain ⟨kept, _⟩ := (run_chain k m orderly.ordered).2.binding_before known
    have before := (move_chain _ (orderly.run k).ordered).2.binding_before kept
    obtain ⟨bd₁, there₁, same₁, derived₁⟩ := ih (before.2 held)
    obtain ⟨bd₂, there₂, same₂, derived₂⟩ := derived_move (orderly.run k) held there₁ derived₁
    rw [same₁] at derived₂
    exact ⟨bd₂, there₂, same₂.trans same₁, by rwa [Nat.count_succ, ← Nat.add_assoc]⟩

/-- A move that makes a binding makes it with one derivation. -/
theorem derived_made (orderly : m.Orderly) (held : b ∈ m.move.holding.bindings)
    (absent : m.session.world.bindings[b]? = none)
    (there : m.move.session.world.bindings[b]? = some bd) : m.move.holding.Derived bd 1 := by
  have chain := (move_chain m orderly.ordered).2
  have single : m.event?.toList.length ≤ 1 := by cases m.event? <;> simp
  refine chain.derived_of_new single ?_ orderly.sound held absent there
  intro i l member
  obtain ⟨_, _, _, _, _, _, _, _, _, _, bindings, _, _⟩ :=
    move_accepted (Option.mem_toList.mp member)
  rw [bindings, absent] at there
  cases there

end Moving

/-- A binding that is there was made by some move. -/
theorem made_before (root : String) (steps : List Step) {n b : Nat} {bd : Binding}
    (there : (run n (start root steps)).session.world.bindings[b]? = some bd) :
    ∃ a k bd₀, n = a + 1 + k ∧ (run a (start root steps)).session.world.bindings[b]? = none ∧
      (run (a + 1) (start root steps)).session.world.bindings[b]? = some bd₀ := by
  induction n generalizing bd with
  | zero => cases there
  | succ n ih =>
    cases before : (run n (start root steps)).session.world.bindings[b]? with
    | none => exact ⟨n, 0, bd, rfl, before, there⟩
    | some bd₁ =>
      obtain ⟨a, k, bd₀, rfl, absent, made⟩ := ih before
      exact ⟨a, k + 1, bd₀, rfl, absent, made⟩

/-- What a binding counts is how far it has come, and outside a cycle of its store it is not
behind. -/
theorem renders_of_derived {m : Machine} (orderly : m.Orderly) {b n : Nat} {bd : Binding}
    {s : Store Reaction} (held : b ∈ m.holding.bindings)
    (there : m.session.world.bindings[b]? = some bd)
    (store : m.session.world.stores[bd.subscription.store]? = some s)
    (derived : m.holding.Derived bd n) :
    bd.renders + (bd.isBehind s).toNat = n ∧ (s.notifying = false → bd.renders = n) := by
  obtain ⟨r, known, state, shows, count⟩ := derived
  obtain rfl : s.state = r := Option.some.inj ((state_of store).symm.trans state)
  rw [shows.isBehind]
  refine ⟨count, fun free => ?_⟩
  obtain ⟨known', tracks⟩ := orderly.sound.tracking.shown b held bd _ there state
  obtain rfl := tracks.shows.unique shows
  obtain rfl := tracks.settled (not_pending orderly store free)
  rwa [if_pos rfl] at count

/-- At every moment of every run, inside reactions too. -/
theorem renders_count_changes (root : String) (steps : List Step) (n : Nat) :
    let m (k : Nat) : Machine := run k (start root steps)
    (∀ b ∈ (m n).holding.bindings, ∃ a k bd s, n = a + 1 + k ∧
      (m a).session.world.bindings[b]? = none ∧
      (m (a + 1)).session.world.bindings[b]? ≠ none ∧
      (m n).session.world.bindings[b]? = some bd ∧
      (m n).session.world.stores[bd.subscription.store]? = some s ∧
      let changes := Nat.count (fun j => (m (a + 1 + j)).Changes bd.subscription.store) k
      bd.renders + (bd.isBehind s).toNat = 1 + changes ∧
        (s.notifying = false → bd.renders = 1 + changes)) ∧
    (∀ i, (m n).Changes i ↔ ∃ step l s, (m n).next? = some step ∧
      (m n).session.asks? step = some (i, l) ∧ (m n).session.world.stores[i]? = some s ∧
      s.notifying = false ∧ s.state.value ≠ l) ∧
    (∀ (b : Nat) (bd : Binding), (m n).session.world.bindings[b]? = some bd →
      (m (n + 1)).session.world.bindings[b]? = some bd ∨
        (m n).turn? bd.subscription.store = some (bd.subscription.id, .refresh b)) ∧
    (∀ (name : String) (b : Nat), Keyed.find? name (m n).session.bindings = some b →
      b ∈ (m n).holding.bindings ∧ ∀ bd, (m n).session.world.bindings[b]? = some bd →
        (m n).session.perform (.binding name) =
          .reply (m n).session (.bound bd.current.language bd.renders)) ∧
    ∀ (name : String) (p : OpenPage), Keyed.find? name (m n).session.pages = some p →
      p.binding ∈ (m n).holding.bindings ∧
        ∀ bd, (m n).session.world.bindings[p.binding]? = some bd →
          (m n).session.perform (.pageInfo name) =
            .reply (m n).session (.page bd.current bd.renders p.form) := by
  intro m
  have orderly : (m n).Orderly := orderly_run root steps n
  refine ⟨?_, fun i => changes_iff, ?_, ?_, ?_⟩
  · intro b held
    obtain ⟨bd, s, there, store⟩ := orderly.sound.bound_to held
    obtain ⟨a, k, bd₀, rfl, absent, made⟩ := made_before root steps there
    change (m (a + 1)).session.world.bindings[b]? = some bd₀ at made
    have first : (m (a + 1)).Orderly := orderly_run root steps (a + 1)
    have later : ∀ j, m (a + 1 + j) = run j (m (a + 1)) := fun j => run_add (a + 1) j _
    rw [later] at held there store orderly
    have known := World.subscription?_of made
    have held₀ := ((run_chain k _ first.ordered).2.binding_before known).2 held
    have once : (m (a + 1)).holding.Derived bd₀ 1 := by
      rw [show m (a + 1) = (m a).move from (run_move a _).symm] at held₀ made ⊢
      exact derived_made (orderly_run root steps a) held₀ absent made
    obtain ⟨bd₁, there₁, same, derived⟩ := derived_run first k held made once
    obtain rfl : bd₁ = bd := Option.some.inj (there₁.symm.trans there)
    rw [← same] at derived
    refine ⟨a, k, bd₁, s, rfl, absent, by simp [made], ?_, ?_, ?_⟩
    · rwa [later]
    · rwa [later]
    · simp only [later]
      exact renders_of_derived orderly held there store derived
  · intro b bd there
    have moved : (m n).move = m (n + 1) := run_move n _
    exact moved ▸ binding_move orderly there
  · intro name b named
    refine ⟨List.mem_append_left _ (Keyed.mem_values_of_find? named), fun bd there => ?_⟩
    simp [Session.perform, performPage, named, binding?, there, orInvalid]
  · intro name p named
    refine ⟨List.mem_append_right _ (List.mem_map_of_mem (Keyed.mem_values_of_find? named)), ?_⟩
    intro bd there
    simp [Session.perform, performPage, page?, named, binding?, there, orInvalid]

/-- The binding is made inside a cycle of its store, and one switch after that is a change. -/
def bindsLate : List Step :=
  [.newStore "s" .english, .subscribe "s" "r" [.bind "s" "b", .unsubscribe "r"],
    .dispatch "s" .toRussian, .dispatch "s" .toRussian, .setLocale "s" "de",
    .dispatch "s" .toEnglish]

example : (run 40 (start "" bindsLate)).isDone = true ∧
    (run 40 (start "" bindsLate)).session.world.bindings.map Binding.renders = [2] := by
  decide

end Session.Machine

end LoginCard
