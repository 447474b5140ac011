import LoginCard.Proofs.Flags

/-!
# Who keeps a store alive

The count of a store's handles is the number of times that it is held. So a store lives exactly
while somebody holds it or a cycle of it goes on, and nobody can come to hold it after that.
-/

namespace LoginCard

variable {ρ : Type} {h h' : Holding ρ} {e : Option Event}

namespace Holding

def counts (h : Holding ρ) : List Nat := h.world.column Store.handles

/-- Somebody holds the store, or a cycle of it goes on. -/
def Lives (h : Holding ρ) (i : Nat) : Prop := i ∈ h.handles ∨ i ∈ h.active

end Holding

/-- Nobody can come to hold a store that is gone. -/
theorem Change.lives_before (change : Change h e h') {i : Nat}
    (known : i < h.world.stores.length) (lives : h'.Lives i) : h.Lives i := by
  cases change with
  | aside | subscribed | detached | bound | unbound => exact lives
  | arranged handles _ _ => exact lives.imp_left handles.mem_iff.mpr
  | opened l storage =>
    apply lives.imp_left
    intro member
    exact (List.mem_cons.mp member).resolve_left (Nat.ne_of_lt known)
  | retained held =>
    apply lives.imp_left
    intro member
    exact (List.mem_cons.mp member).elim (fun same => same ▸ held) id
  | released held => exact lives.imp_left fun member => held ▸ List.mem_cons_of_mem _ member
  | accepted held came =>
    obtain ⟨s, _, _, rfl, _⟩ := World.dispatch_accepted came
    rcases lives with member | member
    · exact .inl member
    · rcases List.mem_cons.mp member with rfl | old
      · exact .inl held
      · exact .inr old
  | passed held _ _ => simpa [Holding.Lives, Holding.active, held] using lives
  | refreshed held _ _ => simpa [Holding.Lives, Holding.active, held] using lives
  | ended held _ =>
    apply lives.imp_right
    intro member
    simp only [Holding.active, held, List.map_cons]
    exact List.mem_cons_of_mem _ member

/-- A store that nobody made has no handles. -/
def Counted (h : Holding ρ) : Prop := ∀ i, (h.counts[i]?).getD 0 = h.handles.count i

namespace Counted

theorem start (files : FileTree) : Counted (Holding.start files : Holding ρ) := by
  intro i
  simp [Holding.counts, Holding.start, World.empty, World.column]

theorem of_same (counted : Counted h) (counts : h'.counts = h.counts)
    (handles : h.handles.Perm h'.handles) : Counted h' := by
  intro i
  rw [counts, counted i, handles.count_eq]

/-- A store that is held is there, with the right count. -/
theorem there (counted : Counted h) {i : Nat} (held : i ∈ h.handles) :
    ∃ s, h.world.stores[i]? = some s ∧ s.handles = h.handles.count i := by
  have positive := List.count_pos_iff.mpr held
  rw [← counted i] at positive
  cases known : h.world.stores[i]? with
  | none => simp [Holding.counts, World.column, known] at positive
  | some s =>
    have count := counted i
    rw [Holding.counts, World.getElem?_column _ known] at count
    exact ⟨s, rfl, count⟩

/-- One handle more or less of one store. -/
theorem changed (counted : Counted h) {i n : Nat} (known : i < h.counts.length)
    (counts : h'.counts = h.counts.set i n) (here : h'.handles.count i = n)
    (elsewhere : ∀ j, i ≠ j → h'.handles.count j = h.handles.count j) : Counted h' := by
  intro j
  rw [counts, List.getElem?_set]
  by_cases same : i = j
  · subst same
    simp [known, here]
  · rw [if_neg same, counted j, elsewhere j same]

theorem step (change : Change h e h') (counted : Counted h) : Counted h' := by
  cases change with
  | aside beside => exact counted.of_same (World.column_of_stores _ beside.stores) (.refl _)
  | arranged handles _ _ => exact counted.of_same rfl handles
  | opened l storage =>
    intro i
    rw [Holding.counts, World.getElem?_column_addStore, List.count_cons]
    split
    · rename_i new
      subst new
      have none : h.handles.count h.world.stores.length = 0 := by
        rw [← counted]
        simp [Holding.counts]
      simp [none]
    · rename_i old
      rw [if_neg (by simpa using Ne.symm old)]
      exact counted i
  | @retained i held =>
    obtain ⟨s, there, count⟩ := counted.there held
    apply counted.changed (i := i) (n := s.handles + 1)
    · simpa [Holding.counts] using (List.getElem?_eq_some_iff.mp there).1
    · exact World.column_set Store.handles (World.stores_onStore_of there _)
    · simp [count]
    · intro j other
      simp [other]
  | @released i rest held =>
    obtain ⟨s, there, count⟩ := counted.there (i := i) (by simp [held])
    apply counted.changed (i := i) (n := s.handles - 1)
    · simpa [Holding.counts] using (List.getElem?_eq_some_iff.mp there).1
    · exact World.column_set Store.handles (World.stores_onStore_of there _)
    · simp [count, held]
    · intro j other
      simp [held, other]
  | subscribed _ made =>
    obtain ⟨s, _, _, rfl⟩ := World.subscribe_eq made
    exact counted.of_same (World.column_onStore fun _ => rfl) (.refl _)
  | detached => exact counted.of_same (World.column_detach _ _ fun _ _ => rfl) (.refl _)
  | bound _ made =>
    obtain ⟨s, bd, _, _, _, _, rfl⟩ := World.bind_eq made
    exact counted.of_same (World.column_onStore fun _ => rfl) (.refl _)
  | unbound => exact counted.of_same (World.column_unbind _ _ fun _ _ => rfl) (.refl _)
  | accepted _ came =>
    obtain ⟨s, there, _, rfl, _, _, _, _, stores⟩ := World.dispatch_accepted came
    exact counted.of_same (World.column_set_same there stores rfl) (.refl _)
  | passed => exact counted.of_same rfl (.refl _)
  | refreshed => exact counted.of_same (World.column_refresh _ _ _ _) (.refl _)
  | ended => exact counted.of_same (World.column_onStore fun _ => rfl) (.refl _)

end Counted

/-- The store itself knows whether it lives. -/
theorem Store.isAlive_iff (flagged : Flagged h) (counted : Counted h) {i : Nat} {s : Store ρ}
    (there : h.world.stores[i]? = some s) : s.isAlive = true ↔ h.Lives i := by
  have flag := flagged.flag i
  rw [Holding.flags, World.getElem?_column _ there] at flag
  have count := counted i
  rw [Holding.counts, World.getElem?_column _ there] at count
  have held : 0 < s.handles ↔ i ∈ h.handles := by
    rw [← List.count_pos_iff, ← count]
    simp
  simp only [Store.isAlive, Bool.or_eq_true, decide_eq_true_eq, gt_iff_lt, held, Holding.Lives,
    ← flag, Option.some.injEq]

end LoginCard
