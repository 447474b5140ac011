import LoginCard.Proofs.Holding

/-!
# The flag of a store and its cycle

While the subscribers of a store are called its flag is set, and the flag refuses every further
switch. So a store never has two cycles at once, however deep cycles of other stores nest in
between.
-/

namespace LoginCard

variable {ρ : Type} {h h' : Holding ρ} {e : Option Event}

def Holding.flags (h : Holding ρ) : List Bool := h.world.column Store.notifying

/-- A cycle that goes on went on before, or its store has just accepted a switch. -/
theorem Change.active_before (change : Change h e h') {i : Nat} (busy : i ∈ h'.active) :
    i ∈ h.active ∨ ∃ l, e = some (.accepted i l) := by
  cases change with
  | aside | arranged | opened | retained | released | subscribed | detached | bound | unbound =>
    exact .inl busy
  | @accepted j switch w c _ came =>
    obtain ⟨s, _, _, rfl, _⟩ := World.dispatch_accepted came
    rcases List.mem_cons.mp busy with rfl | before
    · exact .inr ⟨switch.target, rfl⟩
    · exact .inl before
  | passed held _ _ => exact .inl (by simpa [Holding.active, held] using busy)
  | refreshed held _ _ => exact .inl (by simpa [Holding.active, held] using busy)
  | ended held _ =>
    left
    simp only [Holding.active, held, List.map_cons]
    exact List.mem_cons_of_mem _ busy

theorem Chain.active_before {es : List Event} (chain : Chain h es h') {i : Nat}
    (busy : i ∈ h'.active) : i ∈ h.active ∨ ∃ l, .accepted i l ∈ es := by
  induction chain with
  | nil h => exact .inl busy
  | @cons _ _ _ e es change _ ih =>
    rcases ih busy with before | ⟨l, member⟩
    · rcases change.active_before before with first | ⟨l, rfl⟩
      · exact .inl first
      · exact .inr ⟨l, List.mem_append_left es (List.mem_singleton_self _)⟩
    · exact .inr ⟨l, List.mem_append_right _ member⟩

/-- A flag is set exactly while a cycle of its store goes on, and no store has two. -/
structure Flagged (h : Holding ρ) : Prop where
  flag : ∀ i, h.flags[i]? = some true ↔ i ∈ h.active
  once : h.active.Nodup

namespace Flagged

theorem start (files : FileTree) : Flagged (Holding.start files : Holding ρ) :=
  ⟨by simp [Holding.flags, Holding.start, World.empty, World.column, Holding.active],
    List.nodup_nil⟩

theorem of_same (flagged : Flagged h) (flags : h'.flags = h.flags)
    (active : h'.active = h.active) : Flagged h' :=
  ⟨by rw [flags, active]; exact flagged.flag, active ▸ flagged.once⟩

/-- A flag set with a new cycle of a store that had none. -/
theorem raised (flagged : Flagged h) {i : Nat} (free : h.flags[i]? = some false)
    (flags : h'.flags = h.flags.set i true) (active : h'.active = i :: h.active) : Flagged h' := by
  have idle : i ∉ h.active := by
    intro busy
    simp [(flagged.flag i).mpr busy] at free
  constructor
  · intro j
    rw [flags, active, List.getElem?_set, List.mem_cons]
    by_cases here : i = j
    · subst here
      simp [(List.getElem?_eq_some_iff.mp free).1]
    · simp [here, flagged.flag j, Ne.symm here]
  · rw [active]
    exact List.nodup_cons.mpr ⟨idle, flagged.once⟩

/-- A flag taken back with the cycle of its store. -/
theorem lowered (flagged : Flagged h) {i : Nat} {rest : List Nat} (busy : h.active = i :: rest)
    (flags : h'.flags = h.flags.set i false) (active : h'.active = rest) : Flagged h' := by
  have once := flagged.once
  rw [busy] at once
  obtain ⟨gone, once⟩ := List.nodup_cons.mp once
  constructor
  · intro j
    rw [flags, active, List.getElem?_set]
    by_cases here : i = j
    · subst here
      simp only [↓reduceIte, gone, iff_false]
      split <;> simp
    · rw [if_neg here, flagged.flag j, busy]
      simp [Ne.symm here]
  · rw [active]
    exact once

/-- Only a switch sets a flag, where there was none, and only the end of its cycle takes it back. -/
theorem step (change : Change h e h') (flagged : Flagged h) : Flagged h' := by
  cases change with
  | aside beside => exact flagged.of_same (World.column_of_stores _ beside.stores) rfl
  | arranged => exact flagged.of_same rfl rfl
  | opened l storage =>
    constructor
    · intro i
      rw [Holding.flags, World.getElem?_column_addStore]
      split
      · rename_i new
        subst new
        have absent : h.flags[h.world.stores.length]? = none := by simp [Holding.flags]
        have idle : h.world.stores.length ∉ h.active := by
          intro busy
          exact absurd ((flagged.flag _).mpr busy) (by simp [absent])
        exact ⟨fun set => by simp at set, fun busy => absurd busy idle⟩
      · exact flagged.flag i
    · exact flagged.once
  | retained => exact flagged.of_same (World.column_onStore fun _ => rfl) rfl
  | released => exact flagged.of_same (World.column_onStore fun _ => rfl) rfl
  | subscribed _ made =>
    obtain ⟨s, _, _, rfl⟩ := World.subscribe_eq made
    exact flagged.of_same (World.column_onStore fun _ => rfl) rfl
  | detached => exact flagged.of_same (World.column_detach _ _ fun _ _ => rfl) rfl
  | bound _ made =>
    obtain ⟨s, bd, _, _, _, _, rfl⟩ := World.bind_eq made
    exact flagged.of_same (World.column_onStore fun _ => rfl) rfl
  | unbound => exact flagged.of_same (World.column_unbind _ _ fun _ _ => rfl) rfl
  | accepted _ came =>
    obtain ⟨s, there, free, rfl, _, _, _, _, stores⟩ := World.dispatch_accepted came
    exact flagged.raised (free ▸ World.getElem?_column Store.notifying there)
      (World.column_set Store.notifying stores) rfl
  | passed held _ _ => exact flagged.of_same rfl (by simp [Holding.active, held])
  | refreshed held _ _ =>
    exact flagged.of_same (World.column_refresh _ _ _ _) (by simp [Holding.active, held])
  | ended held done =>
    rename_i c rest
    have busy : h.active = c.store :: rest.map Cycle.store := by simp [Holding.active, held]
    obtain ⟨s, there, _⟩ := World.of_column ((flagged.flag c.store).mpr (by simp [busy]))
    exact flagged.lowered busy
      (World.column_set Store.notifying (World.stores_onStore_of there _)) rfl

end Flagged

end LoginCard
