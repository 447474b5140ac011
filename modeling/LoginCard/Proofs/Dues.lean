import LoginCard.Proofs.Rosters

/-!
# Those who are still to be called

A cycle calls the subscribers that its store had when the switch was accepted. What it still has to
call is in order, and an entry that is both due and registered is one and the same: a number that
was taken off a roster is never handed out again. All of a cycle is done with one state, that of its
store.
-/

namespace LoginCard

variable {ρ : Type}

namespace Roster

variable {r : Roster ρ} {due : List (Nat × Callback ρ)}

/-- The entries were registered on this roster at some time, in this order. -/
structure Calls (r : Roster ρ) (due : List (Nat × Callback ρ)) : Prop where
  sorted : (due.map Prod.fst).Pairwise (· < ·)
  below : ∀ entry ∈ due, entry.1 < r.next
  agree : ∀ entry ∈ due, ∀ callback, (entry.1, callback) ∈ r.subscribers → callback = entry.2

/-- All subscribers of a roster can be called. -/
theorem Ordered.calls (ordered : r.Ordered) : r.Calls r.subscribers := by
  constructor
  · exact ordered.sorted
  · intro entry member
    exact ordered.below entry.1 (List.mem_map_of_mem member)
  · intro entry member callback registered
    exact ordered.unique registered member

theorem Calls.sublist (calls : r.Calls due) {due' : List (Nat × Callback ρ)}
    (fewer : due'.Sublist due) : r.Calls due' :=
  ⟨calls.sorted.sublist (fewer.map _), fun entry member => calls.below entry (fewer.mem member),
    fun entry member => calls.agree entry (fewer.mem member)⟩

/-- What was still to be called is so on the roster after a change. -/
theorem Becomes.calls {n : Nat} {r' : Roster ρ} (becomes : r.Becomes n r') (calls : r.Calls due) :
    r'.Calls due := by
  constructor
  · exact calls.sorted
  · intro entry member
    have below := calls.below entry member
    rw [becomes.next]
    omega
  · intro entry member callback registered
    rcases becomes.old_or_new registered with old | new
    · exact calls.agree entry member callback old
    · have below := calls.below entry member
      omega

end Roster

variable {h h' : Holding ρ} {e : Option Event}

/-- A cycle is an earlier one with fewer to call, or it has just begun. -/
theorem Change.cycle (change : Change h e h') {c' : Cycle ρ} (going : c' ∈ h'.cycles) :
    (∃ c ∈ h.cycles, c.store = c'.store ∧ c.state = c'.state ∧ c'.due.Sublist c.due) ∨
      ∃ r, h.rosters[c'.store]? = some r ∧ c'.due = r.subscribers ∧
        h'.states[c'.store]? = some c'.state := by
  have kept : h'.cycles = h.cycles → ∃ c ∈ h.cycles, c.store = c'.store ∧ c.state = c'.state ∧
      c'.due.Sublist c.due := by
    intro same
    exact ⟨c', same ▸ going, rfl, rfl, .refl _⟩
  have moved : ∀ {c : Cycle ρ} {entry : Nat × Callback ρ} {due : List (Nat × Callback ρ)}
      {rest : List (Cycle ρ)}, h.cycles = c :: rest → c.due = entry :: due →
      h'.cycles = { c with due } :: rest →
      ∃ c ∈ h.cycles, c.store = c'.store ∧ c.state = c'.state ∧ c'.due.Sublist c.due := by
    intro c entry due rest before next after
    rw [after] at going
    rw [before]
    rcases List.mem_cons.mp going with rfl | below
    · exact ⟨c, List.mem_cons_self, rfl, rfl, next ▸ List.sublist_cons_self _ _⟩
    · exact ⟨c', List.mem_cons_of_mem _ below, rfl, rfl, .refl _⟩
  cases change with
  | aside | arranged | opened | retained | released | subscribed | detached | bound | unbound =>
    exact .inl (kept rfl)
  | @accepted i switch w c _ came =>
    obtain ⟨s, there, _, rfl, due, _, _, _, stores⟩ := World.dispatch_accepted came
    rcases List.mem_cons.mp going with rfl | before
    · have column := World.column_set Store.state stores
      have known := (List.getElem?_eq_some_iff.mp (World.getElem?_column Store.state there)).1
      refine .inr ⟨s.roster, World.getElem?_column Store.roster there, due, ?_⟩
      rw [Holding.states, column]
      exact List.getElem?_set_self known
    · exact .inl ⟨c', before, rfl, rfl, .refl _⟩
  | passed held next _ => exact .inl (moved held next rfl)
  | refreshed held next _ => exact .inl (moved held next rfl)
  | ended held done =>
    exact .inl ⟨c', by rw [held]; exact List.mem_cons_of_mem _ going, rfl, rfl, .refl _⟩

/-- What cycles still have to call, and the state that they tell of, fit their stores. -/
structure Due (h : Holding ρ) : Prop where
  state : ∀ c ∈ h.cycles, h.states[c.store]? = some c.state
  calls : ∀ c ∈ h.cycles, ∀ r, h.rosters[c.store]? = some r → r.Calls c.due

namespace Due

theorem start (files : FileTree) : Due (Holding.start files : Holding ρ) := by
  constructor <;> simp [Holding.start]

/-- A cycle only loses entries, and its store keeps its state as long as it goes on. -/
theorem step (change : Change h e h') (flagged : Flagged h) (rostered : Rostered h) (due : Due h) :
    Due h' := by
  have busy : ∀ c ∈ h.cycles, h.flags[c.store]? = some true := fun c going =>
    (flagged.flag c.store).mpr (List.mem_map_of_mem going)
  constructor
  · intro c' going
    rcases change.cycle going with ⟨c, before, store, state, _⟩ | ⟨_, _, _, there⟩
    · rw [← store, ← state]
      have old := due.state c before
      -- The flag of a store in a cycle is set, so the store accepts nothing and keeps its state.
      cases change.settles c.store with
      | same states _ _ => exact states.trans old
      | opened _ absent _ _ _ _ => simp [absent] at old
      | accepted _ _ free _ _ _ _ => simp [busy c before] at free
    · exact there
  · intro c' going r' there
    rcases change.cycle going with ⟨c, before, store, _, fewer⟩ | ⟨r, known, all, _⟩
    · rw [← store] at there
      have old := due.state c before
      rcases change.roster there with ⟨absent, _⟩ | ⟨r, known, becomes⟩
      · have length : h.rosters.length = h.states.length := by
          simp [Holding.rosters, Holding.states]
        have beyond := List.getElem?_eq_none_iff.mp absent
        have inside := (List.getElem?_eq_some_iff.mp old).1
        omega
      · exact becomes.calls ((due.calls c before r known).sublist fewer)
    · rcases change.roster there with ⟨absent, _⟩ | ⟨r₁, known₁, becomes⟩
      · simp [known] at absent
      · obtain rfl : r₁ = r := Option.some.inj (known₁.symm.trans known)
        rw [all]
        exact becomes.calls (rostered _ _ known).calls

end Due

end LoginCard
