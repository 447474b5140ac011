import LoginCard.Proofs.Dues
import LoginCard.Proofs.Enrolment

/-!
# Bindings and their entries

A binding subscribes to its store under a number of its own, and it is the only one to be refreshed
under that number. Once made, a binding changes only when the cycle of its store comes to its entry.
-/

namespace LoginCard

variable {ρ : Type}

namespace Roster

variable {r r' : Roster ρ}

/-- The number was handed out, to nobody but binding `b`. -/
structure Own (r : Roster ρ) (id b : Nat) : Prop where
  below : id < r.next
  only : ∀ callback, (id, callback) ∈ r.subscribers → callback = .refresh b

/-- A number stays with the binding that it was handed out to. -/
theorem Becomes.own {n id b : Nat} (becomes : r.Becomes n r') (own : r.Own id b) : r'.Own id b := by
  constructor
  · have below := own.below
    rw [becomes.next]
    omega
  · intro callback member
    rcases becomes.old_or_new member with old | new
    · exact own.only callback old
    · have below := own.below
      omega

theorem Ordered.own_add (ordered : r.Ordered) (b : Nat) : (r.add (.refresh b)).Own r.next b := by
  constructor
  · exact Nat.lt_succ_self _
  · intro callback member
    rcases List.mem_append.mp member with old | new
    · have below := ordered.below r.next (List.mem_map_of_mem old)
      omega
    · exact (Prod.mk.inj (List.mem_singleton.mp new)).2

end Roster

variable {h h' : Holding ρ} {e : Option Event}

/-- What a change does to one binding: nothing, or it makes it, or a cycle refreshes it. -/
inductive Rebinds (h h' : Holding ρ) (b : Nat) (e : Option Event) : Prop where
  | same : h'.world.bindings[b]? = h.world.bindings[b]? → Rebinds h h' b e
  | made (bd : Binding) (i : Nat) (r : Roster ρ) (state : Reference Language) :
      h.world.bindings[b]? = none → h'.world.bindings[b]? = some bd →
      h.rosters[i]? = some r → h'.rosters[i]? = some (r.add (.refresh b)) →
      bd.subscription = ⟨i, r.next⟩ → h.states[i]? = some state → bd.Shows state →
      Rebinds h h' b e
  | refreshed (bd : Binding) (c : Cycle ρ) (id : Nat) (due : List (Nat × Callback ρ))
      (rest : List (Cycle ρ)) :
      h.cycles = c :: rest → c.due = (id, .refresh b) :: due → h.world.isDue c.store id = true →
      e = some (.turned c.store) → h.world.bindings[b]? = some bd →
      h'.world.bindings[b]? = some (bd.refreshed c.state) → Rebinds h h' b e

theorem Change.rebinds (change : Change h e h') (b : Nat) : Rebinds h h' b e := by
  cases change with
  | aside beside => exact .same (by rw [beside.bindings])
  | arranged | opened | retained | released | detached | passed | ended => exact .same rfl
  | subscribed _ made =>
    obtain ⟨s, _, _, rfl⟩ := World.subscribe_eq made
    exact .same rfl
  | bound _ made =>
    obtain ⟨s, bd, there, rfl, sub, shows, rfl⟩ := World.bind_eq made
    by_cases new : b = h.world.bindings.length
    · subst new
      have known := (List.getElem?_eq_some_iff.mp (World.getElem?_column Store.roster there)).1
      refine .made bd _ s.roster s.state (by simp) (by simp)
        (World.getElem?_column Store.roster there) ?_ sub (World.getElem?_column Store.state there)
        shows
      have column := World.column_set Store.roster (World.stores_onStore_of there fun s =>
        World.enrolled s (.refresh h.world.bindings.length))
      exact (congrArg (·[_]?) column).trans (List.getElem?_set_self known)
    · refine .same ?_
      by_cases old : b < h.world.bindings.length
      · exact List.getElem?_append_left old
      · have beyond : h.world.bindings.length + 1 ≤ b := by omega
        have absent : (h.world.bindings ++ [bd])[b]? = none :=
          List.getElem?_eq_none (by simpa using beyond)
        exact absent.trans (List.getElem?_eq_none (Nat.le_of_succ_le beyond)).symm
  | unbound =>
    unfold World.unbind
    split <;> exact .same rfl
  | accepted _ came =>
    obtain ⟨s, _, _, _, _, _, _, bindings, _⟩ := World.dispatch_accepted came
    exact .same (by rw [bindings])
  | @refreshed c id b' due rest held next called =>
    by_cases here : b' = b
    · subst here
      cases there : h.world.bindings[b']? with
      | none => exact .same (by simp [World.refresh, there])
      | some bd =>
        have bindings := (World.refresh_eq c.state there).2.1
        refine .refreshed bd c id due rest held next called rfl there ?_
        exact (congrArg (·[b']?) bindings).trans
          (List.getElem?_set_self (List.getElem?_eq_some_iff.mp there).1)
    · exact .same (World.getElem?_refresh_of_ne _ here _)

/-- A binding keeps its subscription for ever. -/
theorem Change.subscription (change : Change h e h') {b : Nat} {sub : Subscription}
    (known : h.world.subscription? b = some sub) : h'.world.subscription? b = some sub := by
  obtain ⟨bd₀, there₀, rfl⟩ := Option.map_eq_some_iff.mp known
  cases change.rebinds b with
  | same bindings => exact World.subscription?_of (bindings.trans there₀)
  | made bd _ _ _ absent _ _ _ _ _ _ => simp [there₀] at absent
  | refreshed bd c _ _ _ _ _ _ _ before after =>
    obtain rfl : bd = bd₀ := Option.some.inj (before.symm.trans there₀)
    simpa using World.subscription?_of after

/-- Nobody comes to hold a binding that was let go of. -/
theorem Change.held_before (change : Change h e h') {b : Nat} {sub : Subscription}
    (known : h.world.subscription? b = some sub) (held : b ∈ h'.bindings) : b ∈ h.bindings := by
  cases change with
  | aside | opened | retained | released | subscribed | detached | accepted | passed | refreshed
  | ended => exact held
  | arranged _ _ bindings => exact bindings.mem_iff.mpr held
  | bound _ made =>
    obtain ⟨s, bd, _, rfl, _, _, rfl⟩ := World.bind_eq made
    rcases List.mem_cons.mp held with rfl | old
    · simp [World.subscription?] at known
    · exact old
  | unbound before => exact before ▸ List.mem_cons_of_mem _ held

/-- An entry of a binding is an earlier one, or it is of that very binding. -/
theorem Change.registered (change : Change h e h') {i id b : Nat} {r' : Roster ρ}
    (there : h'.rosters[i]? = some r') (member : (id, .refresh b) ∈ r'.subscribers) :
    (∃ r, h.rosters[i]? = some r ∧ (id, .refresh b) ∈ r.subscribers) ∨
      h'.world.subscription? b = some ⟨i, id⟩ := by
  rcases change.roster there with ⟨_, rfl⟩ | ⟨r, known, becomes⟩
  · simp at member
  · have quiet : e.toList.count (.subscribed i) = 0 →
        ∃ r, h.rosters[i]? = some r ∧ (id, .refresh b) ∈ r.subscribers := by
      intro none
      rw [none] at becomes
      exact ⟨r, known, becomes.old member⟩
    cases change with
    | aside | arranged | opened | retained | released | detached | unbound | accepted | passed
    | refreshed | ended => exact .inl (quiet rfl)
    | subscribed _ made =>
      obtain ⟨s, here, rfl, rfl⟩ := World.subscribe_eq made
      obtain ⟨r₁, old, ⟨rfl, rfl⟩ | ⟨_, rfl⟩⟩ :=
        World.roster_enrolled here (World.stores_onStore_of here _) there
      · rcases List.mem_append.mp member with before | new
        · exact .inl ⟨r₁, old, before⟩
        · simp at new
      · exact .inl ⟨_, old, member⟩
    | bound _ made =>
      obtain ⟨s, bd, here, rfl, sub, _, rfl⟩ := World.bind_eq made
      obtain ⟨r₁, old, ⟨rfl, rfl⟩ | ⟨_, rfl⟩⟩ :=
        World.roster_enrolled here (World.stores_onStore_of here _) there
      · rcases List.mem_append.mp member with before | new
        · exact .inl ⟨r₁, old, before⟩
        · obtain rfl : r₁ = s.roster :=
            Option.some.inj (old.symm.trans (World.getElem?_column Store.roster here))
          obtain ⟨rfl, same⟩ := Prod.mk.inj (List.mem_singleton.mp new)
          obtain rfl := Callback.refresh.inj same
          exact .inr (by simpa [World.subscription?, Store.roster] using sub)
      · exact .inl ⟨_, old, member⟩

namespace Chain

variable {es : List Event}

/-- A binding keeps its subscription, and is held now only if it was held before. -/
theorem binding_before (chain : Chain h es h') {b : Nat} {sub : Subscription}
    (known : h.world.subscription? b = some sub) :
    h'.world.subscription? b = some sub ∧ (b ∈ h'.bindings → b ∈ h.bindings) := by
  refine chain.preserves (P := fun h' =>
    h'.world.subscription? b = some sub ∧ (b ∈ h'.bindings → b ∈ h.bindings)) ?_ ⟨known, id⟩
  rintro h₁ h₂ e change ⟨there, before⟩
  exact ⟨change.subscription there, fun held => before (change.held_before there held)⟩

/-- Where no cycle takes a turn, every binding stays as it is. -/
theorem binding_kept (chain : Chain h es h') (quiet : ∀ i, .turned i ∉ es) {b : Nat} {bd : Binding}
    (there : h.world.bindings[b]? = some bd) : h'.world.bindings[b]? = some bd := by
  induction chain with
  | nil h => exact there
  | @cons h h₁ _ e es change _ ih =>
    apply ih (fun i member => quiet i (List.mem_append_right _ member))
    cases change.rebinds b with
    | same bindings => exact bindings.trans there
    | made _ _ _ _ absent _ _ _ _ _ _ => simp [there] at absent
    | refreshed _ c _ _ _ _ _ _ event _ _ =>
      exact absurd (List.mem_append_left es (by simp [event])) (quiet c.store)

end Chain

/-- Each binding has an entry of its own on the roster of its store. -/
structure Owned (h : Holding ρ) : Prop where
  own : ∀ b sub, h.world.subscription? b = some sub →
    ∃ r, h.rosters[sub.store]? = some r ∧ r.Own sub.id b
  entry : ∀ (i : Nat) (r : Roster ρ) (id b : Nat), h.rosters[i]? = some r →
    (id, .refresh b) ∈ r.subscribers → h.world.subscription? b = some ⟨i, id⟩

namespace Owned

theorem start (files : FileTree) : Owned (Holding.start files : Holding ρ) := by
  constructor <;>
    simp [Holding.rosters, Holding.start, World.empty, World.column, World.subscription?]

theorem step (change : Change h e h') (rostered : Rostered h) (owned : Owned h) : Owned h' := by
  have kept : ∀ b sub, h.world.subscription? b = some sub →
      ∃ r, h'.rosters[sub.store]? = some r ∧ r.Own sub.id b := by
    intro b sub known
    obtain ⟨r, old, own⟩ := owned.own b sub known
    obtain ⟨r', new, becomes⟩ := change.roster_of old
    exact ⟨r', new, becomes.own own⟩
  constructor
  · intro b sub there
    obtain ⟨bd₁, now, rfl⟩ := Option.map_eq_some_iff.mp there
    cases change.rebinds b with
    | same bindings => exact kept b _ (World.subscription?_of (bindings ▸ now))
    | made bd i r state _ new old after own _ _ =>
      obtain rfl : bd₁ = bd := Option.some.inj (now.symm.trans new)
      rw [own]
      exact ⟨_, after, (rostered i r old).own_add b⟩
    | refreshed bd c id due rest _ _ _ _ before after =>
      obtain rfl : bd₁ = bd.refreshed c.state := Option.some.inj (now.symm.trans after)
      rw [Binding.subscription_refreshed]
      exact kept b _ (World.subscription?_of before)
  · intro i r' id b there member
    rcases change.registered there member with ⟨r, known, old⟩ | new
    · exact change.subscription (owned.entry i r id b known old)
    · exact new

/-- What a cycle calls on to refresh is the binding with that very entry. -/
theorem of_called (owned : Owned h) (due : Due h) {c : Cycle ρ} {id b : Nat}
    (going : c ∈ h.cycles) (member : (id, .refresh b) ∈ c.due)
    (called : h.world.isDue c.store id = true) :
    h.world.subscription? b = some ⟨c.store, id⟩ := by
  have state := due.state c going
  obtain ⟨s, there, _⟩ := World.of_column state
  have roster := World.getElem?_column Store.roster there
  obtain ⟨callback, registered⟩ := (World.isDue_iff roster).mp called
  obtain rfl := (due.calls c going s.roster roster).agree _ member callback registered
  exact owned.entry c.store s.roster id b roster registered

/-- A binding that is held stands on the roster of its store as long as that lives. -/
theorem registered (owned : Owned h) (enrolled : Enrolled h) {b : Nat} {sub : Subscription}
    (held : b ∈ h.bindings) (known : h.world.subscription? b = some sub)
    (lives : h.Lives sub.store) :
    ∃ r, h.rosters[sub.store]? = some r ∧ (sub.id, .refresh b) ∈ r.subscribers := by
  obtain ⟨r, there, own⟩ := owned.own b sub known
  have issued : sub ∈ h.issued :=
    List.mem_append_right _ (List.mem_filterMap.mpr ⟨b, held, known⟩)
  obtain ⟨callback, member⟩ := enrolled.registered issued there lives
  obtain rfl := own.only callback member
  exact ⟨r, there, member⟩

end Owned

end LoginCard
