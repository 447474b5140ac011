import Mathlib.Data.List.TakeWhile
import LoginCard.Text.Blank

/-!
# Trimmed texts and pieces of texts

To trim a text takes its blank ends away and nothing else, and the pieces between separators are
those that the separators were put between.
-/

namespace LoginCard.Text

/-- There is no blank at either end. -/
def Trimmed (cs : List Char) : Prop :=
  (∀ c ∈ cs.head?, isBlank c = false) ∧ ∀ c ∈ cs.getLast?, isBlank c = false

instance (cs : List Char) : Decidable (Trimmed cs) :=
  inferInstanceAs (Decidable (_ ∧ _))

section Ends

variable {cs : List Char}

theorem head?_dropWhile_isBlank (cs : List Char) {c : Char}
    (first : c ∈ (cs.dropWhile isBlank).head?) : isBlank c = false := by
  have stops := List.head?_dropWhile_not isBlank cs
  rwa [Option.mem_def.mp first] at stops

theorem dropWhile_isBlank (h : ∀ c ∈ cs.head?, isBlank c = false) : cs.dropWhile isBlank = cs := by
  cases cs with
  | nil => rfl
  | cons c cs => exact List.dropWhile_cons_of_neg (by simp [h c rfl])

theorem dropBlankEnd_begins (cs : List Char) : dropBlankEnd cs <+: cs := by
  have kept := List.reverse_prefix.mpr (List.dropWhile_suffix isBlank (l := cs.reverse))
  rwa [List.reverse_reverse] at kept

theorem trimmed_trim (cs : List Char) : Trimmed (trim cs) := by
  constructor
  · intro c first
    obtain ⟨ending, whole⟩ := dropBlankEnd_begins (cs.dropWhile isBlank)
    apply head?_dropWhile_isBlank cs
    rw [trim, Option.mem_def] at first
    rw [← whole, List.head?_append, first]
    rfl
  · intro c last
    rw [trim, dropBlankEnd, List.getLast?_reverse] at last
    exact head?_dropWhile_isBlank _ last

theorem trim_eq_self (h : Trimmed cs) : trim cs = cs := by
  have reversed : cs.reverse.dropWhile isBlank = cs.reverse :=
    dropWhile_isBlank (by rw [List.head?_reverse]; exact h.2)
  rw [trim, dropWhile_isBlank h.1, dropBlankEnd, reversed, List.reverse_reverse]

theorem trim_subset (cs : List Char) : trim cs ⊆ cs :=
  List.Subset.trans (dropBlankEnd_begins _).subset (List.dropWhile_suffix isBlank).subset

end Ends

section Pieces

variable {sep : Char}

theorem pieces_eq_splitOn (sep : Char) (cs : List Char) : pieces sep cs = cs.splitOn sep := by
  induction cs with
  | nil => rfl
  | cons c cs ih =>
    rw [List.splitOn, List.splitOnP_cons_eq_if_modifyHead, ← List.splitOn, ← ih]
    simp only [pieces, beq_iff_eq]
    split
    · rfl
    · cases next : pieces sep cs with
      | nil => exact absurd next (pieces_ne_nil sep cs)
      | cons p ps => rfl

theorem pieces_intercalate {ps : List (List Char)} (free : ∀ p ∈ ps, sep ∉ p) (nonempty : ps ≠ []) :
    pieces sep ([sep].intercalate ps) = ps := by
  rw [pieces_eq_splitOn, List.splitOn_intercalate sep free nonempty]

theorem mem_intercalate {c : Char} {ps : List (List Char)} (member : c ∈ [sep].intercalate ps) :
    c = sep ∨ ∃ p ∈ ps, c ∈ p := by
  induction ps with
  | nil => cases member
  | cons p ps ih =>
    cases ps with
    | nil => exact .inr ⟨p, List.mem_cons_self, by simpa using member⟩
    | cons q ps =>
      rw [List.intercalate_cons_cons, List.append_assoc] at member
      rcases List.mem_append.mp member with here | later
      · exact .inr ⟨p, List.mem_cons_self, here⟩
      · rcases List.mem_append.mp later with between | later
        · exact .inl (List.mem_singleton.mp between)
        · rcases ih later with same | ⟨r, named, within⟩
          · exact .inl same
          · exact .inr ⟨r, List.mem_cons_of_mem p named, within⟩

/-- A piece holds no separator, and nothing that was not in the text. -/
theorem mem_piece {cs p : List Char} (member : p ∈ pieces sep cs) : sep ∉ p ∧ p ⊆ cs := by
  induction cs generalizing p with
  | nil =>
    obtain rfl := List.mem_singleton.mp member
    simp
  | cons c cs ih =>
    have later : ∀ {p}, p ∈ pieces sep cs → sep ∉ p ∧ p ⊆ c :: cs := fun member =>
      ⟨(ih member).1, List.subset_cons_of_subset c (ih member).2⟩
    simp only [pieces] at member
    split at member
    · rcases List.mem_cons.mp member with rfl | member
      · simp
      · exact later member
    · rename_i other
      cases next : pieces sep cs with
      | nil => exact absurd next (pieces_ne_nil sep cs)
      | cons q ps =>
        rw [next] at member
        rcases List.mem_cons.mp member with rfl | member
        · obtain ⟨free, subset⟩ := ih (p := q) (next ▸ List.mem_cons_self)
          exact ⟨by simp [free, Ne.symm other], List.cons_subset_cons c subset⟩
        · exact later (next ▸ List.mem_cons_of_mem q member)

end Pieces

section Stops

variable {stop : Char} {cs : List Char} (free : stop ∉ cs)

include free

theorem passes_stop : ∀ c ∈ cs, decide (c ≠ stop) = true := by
  intro c member
  exact decide_eq_true fun same => free (same ▸ member)

theorem takeWhile_stop (rest : List Char) : (cs ++ stop :: rest).takeWhile (· ≠ stop) = cs := by
  rw [List.takeWhile_append_of_pos (passes_stop free)]
  simp

theorem dropWhile_stop (rest : List Char) :
    (cs ++ stop :: rest).dropWhile (· ≠ stop) = stop :: rest := by
  rw [List.dropWhile_append_of_pos (passes_stop free)]
  simp

theorem takeWhile_free : cs.takeWhile (· ≠ stop) = cs :=
  List.takeWhile_eq_self_iff.mpr (passes_stop free)

theorem dropWhile_free : cs.dropWhile (· ≠ stop) = [] :=
  List.dropWhile_eq_nil_iff.mpr (passes_stop free)

end Stops

end LoginCard.Text
