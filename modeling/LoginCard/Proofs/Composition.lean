import LoginCard.Proofs.Printing
import LoginCard.Template.Render

/-!
# Templates compose

A text that closes every slot it opens can be read by itself. Whatever is written behind it, the
two texts are read and filled in one after the other, up to a literal that goes on across the seam.
The literals of a template are what stands outside the slots of its text.
-/

namespace LoginCard

open Text

def Segment.literal? : Segment → Option String
  | .literal text => some text
  | .slot .. => none

namespace Template

/-! ## Inside and outside of slots -/

/-- Whether a text is inside a slot behind `c`, from whether it is in front of it. -/
def scan (inside : Bool) (c : Char) : Bool := if inside then c ≠ '}' else c = '{'

/-- Every slot that the text opens is closed in it. -/
def Closed (source : String) : Prop := source.toList.foldl scan false = false

instance (source : String) : Decidable (Closed source) :=
  inferInstanceAs (Decidable (_ = _))

/-- The characters that stand outside the slots, their brackets left out too. -/
def outer : Bool → List Char → List Char
  | _, [] => []
  | inside, c :: cs =>
    if inside = true ∨ scan inside c = true then outer (scan inside c) cs
    else c :: outer (scan inside c) cs

theorem foldl_scan_free {cs : List Char} (free : '{' ∉ cs) : cs.foldl scan false = false := by
  induction cs with
  | nil => rfl
  | cons c cs ih =>
    obtain ⟨other, free⟩ := List.ne_and_not_mem_of_not_mem_cons free
    simpa [scan, other.symm] using ih free

theorem outer_free {cs : List Char} (free : '{' ∉ cs) (rest : List Char) :
    outer false (cs ++ rest) = cs ++ outer false rest := by
  induction cs with
  | nil => rfl
  | cons c cs ih =>
    obtain ⟨other, free⟩ := List.ne_and_not_mem_of_not_mem_cons free
    simp [outer, scan, other.symm, ih free]

/-- A slot is left out up to where it is cut. -/
theorem outer_cutSlot (cs : List Char) : outer true cs = outer false (cutSlot cs).2 := by
  induction cs with
  | nil => rfl
  | cons c cs ih => by_cases closes : c = '}' <;> simp_all [outer, scan, cutSlot]

/-- A slot that is left again has an end. -/
theorem exists_of_left {cs : List Char} (left : cs.foldl scan true = false) :
    ∃ body rest, '}' ∉ body ∧ cs = body ++ '}' :: rest ∧ rest.foldl scan false = false := by
  induction cs with
  | nil => cases left
  | cons c cs ih =>
    by_cases closes : c = '}'
    · subst closes
      exact ⟨[], cs, by simp, rfl, left⟩
    · have later : cs.foldl scan true = false := by simpa [scan, closes] using left
      obtain ⟨body, rest, unclosed, rfl, outside⟩ := ih later
      exact ⟨c :: body, rest, by simp [unclosed, Ne.symm closes], rfl, outside⟩

/-! ## Merging -/

theorem glue_glue (text next : String) (t : Template) :
    glue text (glue next t) = glue (text ++ next) t := by
  cases t with
  | nil => rfl
  | cons g t => cases g <;> simp [glue, String.append_assoc]

/-- What is behind counts only up to merging. -/
theorem merge_append_congr (t : Template) {u v : Template} (same : merge u = merge v) :
    merge (t ++ u) = merge (t ++ v) := by
  induction t with
  | nil => exact same
  | cons g t ih => cases g <;> simp only [List.cons_append, merge, ih]

theorem render_merge (t : Template) (strings : Strings) (vars : Variables) (color : Bool) :
    render (merge t) strings vars color = render t strings vars color :=
  join_map_merge (fun _ => rfl) t

theorem merge_parseChars_literal {text : List Char} (nonempty : text ≠ []) (free : '{' ∉ text)
    (rest : List Char) :
    merge (parseChars (text ++ rest)) = glue (String.ofList text) (merge (parseChars rest)) := by
  rw [parseChars_literal_append nonempty free]
  cases rest with
  | nil => simp [merge]
  | cons c cs =>
    by_cases opens : c = '{'
    · simp [opens, merge]
    · rw [parseChars_literal c cs opens, merge, merge, glue_glue]
      simp [opens]

/-! ## Reading across a seam -/

theorem merge_parseChars_append (cs : List Char) (closed : cs.foldl scan false = false)
    (rest : List Char) :
    merge (parseChars (cs ++ rest)) = merge (parseChars cs ++ parseChars rest) := by
  induction cs using parseChars.induct with
  | case1 => simp
  | case2 cs ih =>
    obtain ⟨body, tail, unclosed, rfl, outside⟩ := exists_of_left closed
    rw [cutSlot_append unclosed] at ih
    have cut := cutSlot_append unclosed (tail ++ rest)
    rw [List.cons_append, List.append_assoc, List.cons_append, parseChars_slot, parseChars_slot, cut,
      cutSlot_append unclosed, List.append_assoc]
    exact merge_append_congr _ (ih outside)
  | case3 c cs other ih =>
    have free := free_literal other cs
    have outside : (cs.dropWhile (· ≠ '{')).foldl scan false = false := by
      rwa [← literal_append c cs, List.foldl_append, foldl_scan_free free] at closed
    calc merge (parseChars (c :: cs ++ rest))
        = glue (String.ofList (c :: cs.takeWhile (· ≠ '{')))
            (merge (parseChars (cs.dropWhile (· ≠ '{') ++ rest))) := by
          rw [← merge_parseChars_literal (List.cons_ne_nil _ _) free, ← List.append_assoc,
            literal_append]
      _ = merge (parseChars (c :: cs) ++ parseChars rest) := by
          rw [ih outside, parseChars_literal c cs other, List.cons_append, merge]

/-! ## Literals -/

/-- What a template shows whatever its slots stand for, in order. -/
def literals (t : Template) : List String := t.filterMap Segment.literal?

theorem literals_slotOf (body : List Char) : literals (slotOf body) = [] := by
  refine List.filterMap_eq_nil_iff.mpr fun g member => ?_
  obtain ⟨-, rfl⟩ := mem_slotOf.mp member
  rfl

theorem join_literals (cs : List Char) :
    String.join (literals (parseChars cs)) = String.ofList (outer false cs) := by
  induction cs using parseChars.induct with
  | case1 => simp [literals, outer]
  | case2 cs ih =>
    have none : List.filterMap Segment.literal? (slotOf (cutSlot cs).1) = [] := literals_slotOf _
    have step : outer false ('{' :: cs) = outer true cs := rfl
    rw [parseChars_slot, literals, List.filterMap_append, none, List.nil_append, ← literals, ih, step,
      outer_cutSlot]
  | case3 c cs other ih =>
    have whole : outer false (c :: cs) = (c :: cs.takeWhile (· ≠ '{')) ++
        outer false (cs.dropWhile (· ≠ '{')) := by
      rw [← outer_free (free_literal other cs), literal_append]
    rw [parseChars_literal c cs other, whole, String.ofList_append, ← ih, ← String.join_cons]
    rfl

/-- For all texts, all strings and variables, with colour and without. -/
theorem parse_composes :
    (∀ a b : String, Closed a →
      merge (parse (a ++ b)) = merge (parse a ++ parse b) ∧
        ∀ (strings : Strings) (vars : Variables) (color : Bool),
          render (parse (a ++ b)) strings vars color =
            render (parse a) strings vars color ++ render (parse b) strings vars color) ∧
      ∀ source : String,
        String.join (literals (parse source)) = String.ofList (outer false source.toList) := by
  have together : ∀ a b : String, Closed a →
      merge (parse (a ++ b)) = merge (parse a ++ parse b) := by
    intro a b closed
    rw [parse, String.toList_append]
    exact merge_parseChars_append a.toList closed b.toList
  refine ⟨fun a b closed => ⟨together a b closed, ?_⟩, fun source => join_literals source.toList⟩
  intro strings vars color
  rw [← render_merge (parse (a ++ b)), together a b closed, render_merge, render_append]

/-- A literal goes on across the seam, past an empty slot, and the last slot is not closed. -/
theorem composes_past_empty_slot :
    let a := "\x7bk:bold\x7d x\x7b \x7d"
    let b := "y\x7d\x7bz"
    Closed a ∧ merge (parse (a ++ b)) = [.slot "k" ["bold"], .literal " xy\x7d", .slot "z" []] ∧
      ∀ (strings : Strings) (vars : Variables) (color : Bool),
        render (parse (a ++ b)) strings vars color =
          render (parse a) strings vars color ++ render (parse b) strings vars color := by
  intro a b
  have closed : Closed a := by decide +kernel
  obtain ⟨together, filled⟩ := parse_composes.1 a b closed
  refine ⟨closed, ?_, filled⟩
  rw [together]
  decide +kernel

end Template

end LoginCard
