import LoginCard.Keyed

/-!
# What naming anew does to the named

In a list sorted by key each key stands once. So the values after an insertion are, up to order, the
values before it with the new one in place of the one that `find?` gives.
-/

namespace LoginCard.Keyed

variable {α : Type}

/-- The keys rise from entry to entry. -/
def Ordered (es : Keyed α) : Prop := es.Pairwise fun a b => a.1 < b.1

def values (es : Keyed α) : List α := es.map Prod.snd

@[simp] theorem values_nil : values ([] : Keyed α) = [] := rfl
@[simp] theorem values_cons (e : String × α) (es : Keyed α) :
    values (e :: es) = e.2 :: values es := rfl

@[simp] theorem ordered_nil : Ordered ([] : Keyed α) := List.Pairwise.nil

theorem mem_insert {key : String} {v : α} {e : String × α} {es : Keyed α}
    (h : e ∈ insert key v es) : e = (key, v) ∨ e ∈ es := by
  induction es with
  | nil => simpa [insert] using h
  | cons a es ih =>
    simp only [insert] at h
    split at h
    · rcases List.mem_cons.mp h with rfl | h
      · exact .inl rfl
      · exact .inr (List.mem_cons_of_mem _ h)
    · split at h
      · exact List.mem_cons.mp h
      · rcases List.mem_cons.mp h with rfl | h
        · exact .inr (by simp)
        · exact (ih h).imp id (List.mem_cons_of_mem _)

/-- To give a name keeps the keys in order. -/
theorem ordered_insert {es : Keyed α} (key : String) (v : α) (h : Ordered es) :
    Ordered (insert key v es) := by
  induction es with
  | nil => exact List.pairwise_singleton _ _
  | cons a es ih =>
    obtain ⟨before, rest⟩ := List.pairwise_cons.mp h
    simp only [insert]
    split
    · rename_i same
      exact List.pairwise_cons.mpr ⟨fun e he => same ▸ before e he, rest⟩
    · split
      · rename_i below
        refine List.pairwise_cons.mpr ⟨?_, h⟩
        intro e he
        rcases List.mem_cons.mp he with rfl | he
        · exact below
        · exact String.lt_trans below (before e he)
      · rename_i other above
        refine List.pairwise_cons.mpr ⟨?_, ih rest⟩
        intro e he
        rcases mem_insert he with rfl | he
        · by_cases lt : a.1 < key
          · exact lt
          · exact absurd (String.le_antisymm (String.not_lt.mp lt) (String.not_lt.mp above)) other
        · exact before e he

theorem ordered_erase {es : Keyed α} (key : String) (h : Ordered es) : Ordered (erase key es) :=
  h.filter _

/-- A key below all others has no entry. -/
theorem find?_of_before {key : String} {es : Keyed α} (before : ∀ e ∈ es, key < e.1) :
    find? key es = none := by
  induction es with
  | nil => rfl
  | cons a es ih =>
    have other : key ≠ a.1 := by
      intro same
      exact String.lt_irrefl key (same ▸ before a (by simp))
    simpa [find?, other] using ih fun e he => before e (List.mem_cons_of_mem _ he)

theorem erase_of_before {key : String} {es : Keyed α} (before : ∀ e ∈ es, key < e.1) :
    erase key es = es := by
  apply List.filter_eq_self.mpr
  intro e he
  have other : e.1 ≠ key := by
    intro same
    exact String.lt_irrefl key (same ▸ before e he)
  simpa using other

/-- To erase a name takes what bore it, and nothing else. -/
theorem values_erase {es : Keyed α} (key : String) (h : Ordered es) :
    (values es).Perm ((find? key es).toList ++ values (erase key es)) := by
  induction es with
  | nil => simp [find?, erase]
  | cons a es ih =>
    obtain ⟨before, rest⟩ := List.pairwise_cons.mp h
    by_cases same : key = a.1
    · subst same
      have gone : erase a.1 (a :: es) = es := by
        rw [← erase_of_before before]
        simp [erase]
      simp [gone, find?]
    · have kept : erase key (a :: es) = a :: erase key es := by
        simp [erase, Ne.symm same]
      have swap : (values (a :: es)).Perm
          (a.2 :: ((find? key es).toList ++ values (erase key es))) :=
        (ih rest).cons a.2
      rw [kept]
      simpa [find?, same] using swap.trans List.perm_middle.symm

/-- To give a name takes what bore it, and puts the new value with the others. -/
theorem values_insert {es : Keyed α} (key : String) (v : α) (h : Ordered es) :
    (v :: values es).Perm ((find? key es).toList ++ values (insert key v es)) := by
  induction es with
  | nil => simp [find?, insert]
  | cons a es ih =>
    obtain ⟨before, rest⟩ := List.pairwise_cons.mp h
    by_cases same : key = a.1
    · simpa [find?, insert, same] using List.Perm.swap a.2 v (values es)
    · by_cases below : key < a.1
      · have absent : find? key es = none :=
          find?_of_before fun e he => String.lt_trans below (before e he)
        simp [find?, insert, same, below, absent]
      · have swap : (v :: values (a :: es)).Perm
            (a.2 :: ((find? key es).toList ++ values (insert key v es))) :=
          (List.Perm.swap a.2 v _).trans ((ih rest).cons a.2)
        simpa [find?, insert, same, below] using swap.trans List.perm_middle.symm

theorem mem_values_of_find? {key : String} {v : α} {es : Keyed α} (h : find? key es = some v) :
    v ∈ values es := by
  induction es with
  | nil => simp [find?] at h
  | cons a es ih =>
    by_cases same : key = a.1
    · simp [find?, same] at h
      simp [h]
    · exact List.mem_cons_of_mem _ (ih (by simpa [find?, same] using h))

end LoginCard.Keyed
