import LoginCard.Selector
import Mathlib.Data.Nat.Count

/-!
# A selector computes once for each change of its input

A selector is called with one reference after the other. A call computes if it is the first one or
is given another reference than the call before it; else it hands out what that call did. So what is
handed out is what computing every time would give, and its number is that of the computations up to
the call: two calls hand out one reference exactly if none between them has changed the input.
-/

namespace LoginCard.Selector

variable {α β : Type}

/-- What becomes of a selector that is given inputs one after the other. -/
def after (s : Selector α β) (inputs : List (Reference α)) : Selector α β :=
  inputs.foldl (fun s input => (s.select input).2) s

/-- What it hands out for them. -/
def outputs (s : Selector α β) : List (Reference α) → List (Reference β)
  | [] => []
  | input :: rest => (s.select input).1 :: (s.select input).2.outputs rest

/-- The call is the first one, or is given another reference than the one before it. -/
def IsFresh (inputs : List (Reference α)) : Nat → Prop
  | 0 => True
  | k + 1 => inputs[k + 1]?.map Reference.id ≠ inputs[k]?.map Reference.id

instance (inputs : List (Reference α)) : DecidablePred (IsFresh inputs)
  | 0 => inferInstanceAs (Decidable True)
  | _ + 1 => inferInstanceAs (Decidable (_ ≠ _))

/-- A reference that follows itself holds the same value. A selector keeps its last input, so until
the next call nothing else can come to have the identity of that input. -/
def Steady (inputs : List (Reference α)) : Prop :=
  ∀ (k : Nat) (a b : Reference α), inputs[k]? = some a → inputs[k + 1]? = some b → a.id = b.id →
    a.value = b.value

theorem length_outputs (s : Selector α β) (inputs : List (Reference α)) :
    (s.outputs inputs).length = inputs.length := by
  induction inputs generalizing s with
  | nil => rfl
  | cons input rest ih => simp [outputs, ih]

/-- A call is made to the selector that the calls before it have left. -/
theorem getElem?_outputs (s : Selector α β) (inputs : List (Reference α)) (k : Nat) :
    (s.outputs inputs)[k]? =
      inputs[k]?.map fun input => ((s.after (inputs.take k)).select input).1 := by
  induction inputs generalizing s k with
  | nil => rfl
  | cons input rest ih =>
    cases k with
    | zero => rfl
    | succ k => exact ih _ k

section Selecting

variable {s : Selector α β} {input : Reference α}

theorem project_select (s : Selector α β) (input : Reference α) :
    (s.select input).2.project = s.project := by
  unfold select
  split
  · split <;> rfl
  · rfl

/-- After a call the selector remembers its input, or one with the same identity, and its output. -/
theorem last_select (s : Selector α β) (input : Reference α) :
    ∃ known, (s.select input).2.last = some (known, (s.select input).1) ∧ known.id = input.id := by
  unfold select
  split
  · rename_i known output remembered
    split
    · rename_i same
      exact ⟨known, remembered, same⟩
    · exact ⟨input, rfl, rfl⟩
  · exact ⟨input, rfl, rfl⟩

theorem select_known {known : Reference α} {output : Reference β}
    (remembered : s.last = some (known, output)) (same : known.id = input.id) :
    s.select input = (output, s) := by
  simp [select, remembered, same]

theorem select_unknown {known : Reference α} {output : Reference β}
    (remembered : s.last = some (known, output)) (other : known.id ≠ input.id) :
    s.select input = s.compute input := by
  simp [select, remembered, other]

end Selecting

section Calling

variable (project : α → β) (inputs : List (Reference α))

/-- The selector after the first `k` calls. -/
def stage (k : Nat) : Selector α β := (new project).after (inputs.take k)

variable {project inputs} {k : Nat} {input : Reference α}

theorem stage_succ (given : inputs[k]? = some input) :
    stage project inputs (k + 1) = ((stage project inputs k).select input).2 := by
  simp [stage, after, List.take_add_one, given]

theorem project_stage (k : Nat) : (stage project inputs k).project = project := by
  induction k with
  | zero => rfl
  | succ k ih =>
    cases given : inputs[k]? with
    | none =>
      have all : inputs.take (k + 1) = inputs.take k := by simp [List.take_add_one, given]
      rw [stage, all]
      exact ih
    | some input => rw [stage_succ given, project_select, ih]

/-- A call that is fresh computes. -/
theorem select_of_fresh (given : inputs[k]? = some input) (fresh : IsFresh inputs k) :
    (stage project inputs k).select input = (stage project inputs k).compute input := by
  cases k with
  | zero => rfl
  | succ k =>
    obtain ⟨before, previous⟩ : ∃ before, inputs[k]? = some before := by
      have inside := (List.getElem?_eq_some_iff.mp given).1
      exact ⟨_, List.getElem?_eq_getElem (Nat.lt_of_succ_lt inside)⟩
    obtain ⟨known, remembered, same⟩ := last_select (stage project inputs k) before
    rw [← stage_succ previous] at remembered
    refine select_unknown remembered fun repeated => fresh ?_
    simp [given, previous, ← repeated, same]

/-- A call that is not fresh hands out what the call before it did. -/
theorem select_of_not_fresh (project : α → β) (given : inputs[k + 1]? = some input)
    (stale : ¬ IsFresh inputs (k + 1)) :
    ∃ before, inputs[k]? = some before ∧ before.id = input.id ∧
      (stage project inputs (k + 1)).select input =
        (((stage project inputs k).select before).1, stage project inputs (k + 1)) := by
  have same : inputs[k + 1]?.map Reference.id = inputs[k]?.map Reference.id := not_not.mp stale
  rw [given, Option.map_some, eq_comm, Option.map_eq_some_iff] at same
  obtain ⟨before, previous, same⟩ := same
  obtain ⟨known, remembered, repeated⟩ := last_select (stage project inputs k) before
  rw [← stage_succ previous] at remembered
  exact ⟨before, previous, same, select_known remembered (repeated.trans same)⟩

/-- Only fresh calls compute. -/
theorem computations_succ (given : inputs[k]? = some input) :
    (stage project inputs (k + 1)).computations =
      (stage project inputs k).computations + if IsFresh inputs k then 1 else 0 := by
  rw [stage_succ given]
  by_cases fresh : IsFresh inputs k
  · rw [select_of_fresh given fresh, if_pos fresh]
    rfl
  · rw [if_neg fresh]
    cases k with
    | zero => exact absurd trivial fresh
    | succ k =>
      obtain ⟨_, _, _, kept⟩ := select_of_not_fresh project given fresh
      rw [kept]
      rfl

/-- After a number of calls there were as many computations as fresh calls. -/
theorem computations_stage (project : α → β) (within : k ≤ inputs.length) :
    (stage project inputs k).computations = Nat.count (IsFresh inputs) k := by
  induction k with
  | zero => rfl
  | succ k ih =>
    rw [computations_succ (List.getElem?_eq_getElem within), ih (Nat.le_of_succ_le within),
      Nat.count_succ]

/-- What a call hands out is numbered by the fresh calls so far. -/
theorem id_output (given : inputs[k]? = some input) :
    ((stage project inputs k).select input).1.id = Nat.count (IsFresh inputs) (k + 1) := by
  induction k generalizing input with
  | zero => rfl
  | succ k ih =>
    by_cases fresh : IsFresh inputs (k + 1)
    · have within : k + 1 ≤ inputs.length := Nat.le_of_lt (List.getElem?_eq_some_iff.mp given).1
      rw [select_of_fresh given fresh, Nat.count_succ, if_pos fresh,
        ← computations_stage project within]
      rfl
    · obtain ⟨before, previous, _, kept⟩ := select_of_not_fresh project given fresh
      rw [kept, Nat.count_succ, if_neg fresh, Nat.add_zero]
      exact ih previous

/-- What a call hands out holds what its input is projected to. -/
theorem value_output (steady : Steady inputs) (given : inputs[k]? = some input) :
    ((stage project inputs k).select input).1.value = project input.value := by
  induction k generalizing input with
  | zero => rfl
  | succ k ih =>
    by_cases fresh : IsFresh inputs (k + 1)
    · rw [select_of_fresh given fresh]
      show (stage project inputs (k + 1)).project input.value = _
      rw [project_stage]
    · obtain ⟨before, previous, same, kept⟩ := select_of_not_fresh project given fresh
      rw [kept, ih previous, steady k before input previous given same]

end Calling

section Identity

variable {project : α → β} {inputs : List (Reference α)} {i j : Nat} {a b : Reference β}

/-- Between two calls none is fresh exactly if all are given what the first one is given. -/
theorem none_fresh_iff :
    (∀ k, i < k → k ≤ j → ¬ IsFresh inputs k) ↔
      ∀ k, i ≤ k → k ≤ j → inputs[k]?.map Reference.id = inputs[i]?.map Reference.id := by
  constructor
  · intro stale k above below
    induction k with
    | zero => rw [Nat.le_zero.mp above]
    | succ k ih =>
      by_cases here : i = k + 1
      · rw [here]
      · have same := not_not.mp (stale (k + 1) (by omega) below)
        exact same.trans (ih (by omega) (by omega))
  · intro same k above below
    cases k with
    | zero => omega
    | succ k =>
      have here := same (k + 1) (by omega) below
      have before := same k (by omega) (by omega)
      exact not_not.mpr (here.trans before.symm)

/-- As many calls are fresh up to one call as up to a later one exactly if none between is. -/
theorem count_eq_iff (le : i ≤ j) :
    Nat.count (IsFresh inputs) (i + 1) = Nat.count (IsFresh inputs) (j + 1) ↔
      ∀ k, i < k → k ≤ j → ¬ IsFresh inputs k := by
  constructor
  · intro same k above below fresh
    have more := Nat.count_strict_mono fresh (show k < j + 1 by omega)
    have fewer := Nat.count_monotone (IsFresh inputs) (show i + 1 ≤ k from above)
    omega
  · intro stale
    induction j, le using Nat.le_induction with
    | base => rfl
    | succ j le ih =>
      rw [Nat.count_succ _ (j + 1), if_neg (stale (j + 1) (by omega) (Nat.le_refl _)), Nat.add_zero]
      exact ih fun k above below => stale k above (by omega)

/-- Where no call between is fresh, the later one hands out the same as the earlier one. -/
theorem output_eq (le : i ≤ j) (stale : ∀ k, i < k → k ≤ j → ¬ IsFresh inputs k)
    (first : ((new project).outputs inputs)[i]? = some a)
    (later : ((new project).outputs inputs)[j]? = some b) : a = b := by
  induction j, le using Nat.le_induction generalizing b with
  | base => exact Option.some.inj (first.symm.trans later)
  | succ j le ih =>
    rw [getElem?_outputs, Option.map_eq_some_iff] at later
    obtain ⟨input, given, rfl⟩ := later
    obtain ⟨before, previous, _, kept⟩ :=
      select_of_not_fresh project given (stale (j + 1) (by omega) (Nat.le_refl _))
    refine (ih (fun k above below => stale k above (by omega)) ?_).trans
      (congrArg Prod.fst kept).symm
    rw [getElem?_outputs, previous]
    rfl

end Identity

/-- For every projection and every sequence of calls. -/
theorem memoisation_is_exact (project : α → β) (inputs : List (Reference α)) :
    let s := new project
    let outputs := s.outputs inputs
    (Steady inputs →
      outputs.map Reference.value = inputs.map fun input => project input.value) ∧
    (s.after inputs).computations = Nat.count (IsFresh inputs) inputs.length ∧
    outputs.length = inputs.length ∧
    ∀ (i j : Nat) (a b : Reference β), i < j → outputs[i]? = some a → outputs[j]? = some b →
      (a.id = b.id ↔
        ∀ k, i ≤ k → k ≤ j → inputs[k]?.map Reference.id = inputs[i]?.map Reference.id) ∧
      (a.id = b.id → a = b) := by
  intro s outputs
  refine ⟨?_, ?_, length_outputs s inputs, ?_⟩
  · intro steady
    apply List.ext_getElem?
    intro k
    rw [List.getElem?_map, getElem?_outputs, List.getElem?_map, Option.map_map]
    cases given : inputs[k]? with
    | none => rfl
    | some input => exact congrArg some (value_output steady given)
  · have all := computations_stage project (Nat.le_refl inputs.length)
    rwa [stage, List.take_length] at all
  · intro i j a b lt first later
    have numbered : ∀ {k} {r : Reference β}, outputs[k]? = some r →
        r.id = Nat.count (IsFresh inputs) (k + 1) := by
      intro k r handed
      rw [getElem?_outputs, Option.map_eq_some_iff] at handed
      obtain ⟨input, given, rfl⟩ := handed
      exact id_output given
    have identical : a.id = b.id ↔ ∀ k, i < k → k ≤ j → ¬ IsFresh inputs k := by
      rw [numbered first, numbered later]
      exact count_eq_iff (Nat.le_of_lt lt)
    refine ⟨identical.trans none_fresh_iff, fun same => ?_⟩
    exact output_eq (Nat.le_of_lt lt) (identical.mp same) first later

/-- One reference twice, an equal one, and the first one again. -/
def returning : List (Reference Bool) := [⟨1, true⟩, ⟨1, true⟩, ⟨2, true⟩, ⟨1, true⟩]

theorem memoisation_of_returning :
    Steady returning ∧ ((new not).outputs returning).map Reference.value = returning.map (!·.value) ∧
      ((new not).after returning).computations = 3 ∧
      ((new not).outputs returning).map Reference.id = [1, 1, 2, 3] := by
  have steady : Steady returning := by
    intro k a b given given' _
    match k with
    | 0 | 1 | 2 =>
      cases given
      cases given'
      rfl
    | k + 3 => cases given'
  have memoised := memoisation_is_exact not returning
  exact ⟨steady, memoised.1 steady, memoised.2.1.trans (by decide), rfl⟩

end LoginCard.Selector
