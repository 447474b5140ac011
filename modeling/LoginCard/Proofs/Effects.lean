import Mathlib.Data.List.Dedup
import LoginCard.Proofs.Styles
import LoginCard.Proofs.Terminal

/-!
# What a list of style names does to a text

Two lists of style names print every text alike exactly when the same attributes occur in both and
the same colour last. Nothing else of a list shows: not the names that nobody knows, not a name that
comes again, and not where the attributes stand.
-/

namespace LoginCard

def Color.name : Color → String
  | .red => "red"
  | .green => "green"
  | .yellow => "yellow"
  | .blue => "blue"
  | .magenta => "magenta"
  | .cyan => "cyan"
  | .white => "white"

@[simp] theorem Color.ofName?_name (c : Color) : ofName? c.name = some c := by
  cases c <;> rfl

theorem Color.name_injective : Function.Injective Color.name := by
  intro c d same
  have named := congrArg ofName? same
  rwa [ofName?_name, ofName?_name, Option.some_inj] at named

namespace Style

/-- The names that mean a colour. -/
def colorNames : List String := ["red", "green", "yellow", "blue", "magenta", "cyan", "white"]

/-- The last name in a list that means a colour. -/
def lastColor? (list : List String) : Option String := (list.filter (· ∈ colorNames)).getLast?

/-- The same attributes occur in both lists, and the same colour last, or none in either. -/
structure SameEffect (xs ys : List String) : Prop where
  bold : "bold" ∈ xs ↔ "bold" ∈ ys
  dimmed : ("dim" ∈ xs ∨ "dimmed" ∈ xs) ↔ ("dim" ∈ ys ∨ "dimmed" ∈ ys)
  underline : "underline" ∈ xs ↔ "underline" ∈ ys
  italic : "italic" ∈ xs ↔ "italic" ∈ ys
  reversed : "reversed" ∈ xs ↔ "reversed" ∈ ys
  color : lastColor? xs = lastColor? ys

/-! ## The style that a list means -/

theorem ofName?_eq_none {name : String} (other : name ∉ colorNames) : Color.ofName? name = none := by
  simp only [colorNames, List.mem_cons, List.not_mem_nil, or_false, not_or] at other
  simp [Color.ofName?, other]

theorem exists_color {name : String} (known : name ∈ colorNames) : ∃ c : Color, name = c.name := by
  simp only [colorNames, List.mem_cons, List.not_mem_nil, or_false] at known
  rcases known with rfl | rfl | rfl | rfl | rfl | rfl | rfl
  · exact ⟨.red, rfl⟩
  · exact ⟨.green, rfl⟩
  · exact ⟨.yellow, rfl⟩
  · exact ⟨.blue, rfl⟩
  · exact ⟨.magenta, rfl⟩
  · exact ⟨.cyan, rfl⟩
  · exact ⟨.white, rfl⟩

theorem filter_colorNames (list : List String) :
    list.filter (· ∈ colorNames) = (list.filterMap Color.ofName?).map Color.name := by
  induction list with
  | nil => rfl
  | cons name list ih =>
    by_cases known : name ∈ colorNames
    · obtain ⟨c, rfl⟩ := exists_color known
      rw [List.filter_cons_of_pos (by simpa using known), ih,
        List.filterMap_cons_some (Color.ofName?_name c), List.map_cons]
    · rw [List.filter_cons_of_neg (by simpa using known), ih,
        List.filterMap_cons_none (ofName?_eq_none known)]

theorem lastColor?_eq_iff {xs ys : List String} :
    lastColor? xs = lastColor? ys ↔ (named xs).color = (named ys).color := by
  rw [lastColor?, lastColor?, filter_colorNames, filter_colorNames, List.getLast?_map,
    List.getLast?_map]
  exact (Option.map_injective Color.name_injective).eq_iff

/-- Lists mean the same style exactly when they have the same effect. -/
theorem ofNames_eq_iff {xs ys : List String} : ofNames xs = ofNames ys ↔ SameEffect xs ys := by
  rw [ofNames_eq_named, ofNames_eq_named]
  constructor
  · intro same
    have colors := lastColor?_eq_iff.mpr (congrArg color same)
    simp only [named, Style.mk.injEq, decide_eq_decide] at same
    obtain ⟨bold, dimmed, underline, reversed, italic, -⟩ := same
    exact ⟨bold, dimmed, underline, italic, reversed, colors⟩
  · intro same
    have colors := lastColor?_eq_iff.mp same.color
    simp only [named, Style.mk.injEq, decide_eq_decide]
    exact ⟨same.bold, same.dimmed, same.underline, same.reversed, same.italic, colors⟩

/-- Only the names that mean something and the last colour have to be compared. -/
theorem SameEffect.of_mem {xs ys : List String}
    (same : ∀ name ∈ names, name ∉ colorNames → (name ∈ xs ↔ name ∈ ys))
    (color : lastColor? xs = lastColor? ys) : SameEffect xs ys where
  bold := same _ (by decide) (by decide)
  dimmed := or_congr (same _ (by decide) (by decide)) (same _ (by decide) (by decide))
  underline := same _ (by decide) (by decide)
  italic := same _ (by decide) (by decide)
  reversed := same _ (by decide) (by decide)
  color := color

theorem SameEffect.of_nil {list : List String} (same : SameEffect list []) {name : String}
    (member : name ∈ list) : name ∉ names := by
  intro known
  have colorless : name ∉ colorNames := by
    have empty : list.filter (· ∈ colorNames) = [] := List.getLast?_eq_none_iff.mp same.color
    have none := List.filter_eq_nil_iff.mp empty name member
    simpa using none
  obtain ⟨bold, dimmed, underline, italic, reversed, -⟩ := same
  simp only [List.not_mem_nil, or_self, iff_false, not_or] at bold dimmed underline italic reversed
  simp only [colorNames, names, List.mem_cons, List.not_mem_nil, or_false, not_or] at colorless known
  grind

theorem ofNames_eq_plain_iff {list : List String} :
    ofNames list = plain ↔ ∀ name ∈ list, name ∉ names := by
  have nothing : ofNames [] = plain := rfl
  rw [← nothing, ofNames_eq_iff]
  constructor
  · intro same name member
    exact same.of_nil member
  · intro unknown
    have colorless : list.filter (· ∈ colorNames) = [] := by
      have within : colorNames ⊆ names := by decide
      rw [List.filter_eq_nil_iff]
      intro name member known
      exact unknown name member (within (of_decide_eq_true known))
    refine .of_mem (fun name known _ => ?_) (by simp [lastColor?, colorless])
    exact iff_of_false (fun member => unknown name member known) List.not_mem_nil

/-! ## The text that a style prints -/

theorem length_reopen (opening cs : List Char) : cs.length ≤ (reopen opening cs).length := by
  fun_induction reopen opening cs with
  | case1 rest ih =>
    simp only [List.length_append, List.length_cons, reset]
    omega
  | case2 c rest other ih => simpa using ih
  | case3 => exact Nat.le_refl _

/-- A style that is not plain always shows. -/
theorem paint_eq_self_iff {s : Style} {text : String} : s.paint true text = text ↔ s = plain := by
  constructor
  · intro same
    by_contra marked
    -- The codes before and behind are in addition to what the text itself is kept as.
    have longer := congrArg String.length same
    rw [paint, if_pos ⟨rfl, marked⟩, String.length_ofList, ← String.length_toList] at longer
    have kept := length_reopen s.opening text.toList
    simp only [List.length_append, reset, List.length_cons] at longer
    omega
  · rintro rfl
    exact paint_plain true text

/-- The codes in front of a painted text tell its style. -/
theorem opening_append_inj {s t : Style} {more less : List Char}
    (same : s.opening ++ more = t.opening ++ less) : s = t := by
  rw [opening_append, opening_append] at same
  have behind := (List.cons.inj (List.cons.inj same).2).2
  -- No parameter is an `m`, so where the first `m` stands the parameters are over.
  have front : ∀ (u : Style) (rest : List Char),
      (u.parameters ++ 'm' :: rest).takeWhile Terminal.isParameter = u.parameters := by
    intro u rest
    have ends : Terminal.isParameter 'm' = false := by decide
    rw [List.takeWhile_append_of_pos (isParameter_parameters u)]
    simp [ends]
  have codes : s.parameters = t.parameters := by
    rw [← front s more, behind, front t less]
  rw [← switch_parameters s, codes, switch_parameters t]

theorem paint_inj {s t : Style} {text : String} :
    s.paint true text = t.paint true text ↔ s = t := by
  constructor
  · intro same
    by_cases bare : s = plain
    · subst bare
      rw [paint_plain] at same
      exact (paint_eq_self_iff.mp same.symm).symm
    · by_cases bare' : t = plain
      · subst bare'
        rw [paint_plain] at same
        exact paint_eq_self_iff.mp same
      · rw [paint, paint, if_pos ⟨rfl, bare⟩, if_pos ⟨rfl, bare'⟩, String.ofList_inj,
          List.append_assoc, List.append_assoc] at same
        exact opening_append_inj same
  · rintro rfl
    rfl

/-! ## What has no effect -/

section Without

variable (list : List String)

theorem lastColor?_cons (name : String) :
    lastColor? (name :: list) =
      (lastColor? list).or (if name ∈ colorNames then some name else none) := by
  unfold lastColor?
  by_cases known : name ∈ colorNames
  · rw [List.filter_cons_of_pos (by simpa using known), if_pos known, List.getLast?_cons]
    cases (list.filter (· ∈ colorNames)).getLast? <;> rfl
  · rw [List.filter_cons_of_neg (by simpa using known), if_neg known, Option.or_none]

/-- Of a colour that comes again, the first one does not count. -/
theorem lastColor?_again {name : String} (again : name ∈ list) :
    lastColor? (name :: list) = lastColor? list := by
  rw [lastColor?_cons]
  split
  · rename_i known
    have later : name ∈ list.filter (· ∈ colorNames) := List.mem_filter.mpr ⟨again, by simpa⟩
    have found : (lastColor? list).isSome := by
      rw [lastColor?, List.getLast?_isSome]
      exact List.ne_nil_of_mem later
    exact Option.or_of_isSome found
  · exact Option.or_none

/-- A name counts once, where it stands last. -/
theorem sameEffect_dedup : SameEffect list.dedup list := by
  refine .of_mem (fun name _ _ => List.mem_dedup) ?_
  induction list with
  | nil => rfl
  | cons name list ih =>
    by_cases again : name ∈ list
    · rw [List.dedup_cons_of_mem again, ih, lastColor?_again list again]
    · rw [List.dedup_cons_of_notMem again, lastColor?_cons, ih, ← lastColor?_cons]

theorem sameEffect_known : SameEffect (list.filter (· ∈ names)) list := by
  refine .of_mem (fun name known _ => by simp [known]) ?_
  have within : ∀ name, decide (name ∈ colorNames) = true → decide (name ∈ names) = true := by
    intro name known
    have subset : colorNames ⊆ names := by decide
    exact decide_eq_true (subset (of_decide_eq_true known))
  rw [lastColor?, List.filter_filter, lastColor?]
  congr 1
  exact List.filter_congr fun name _ => by
    cases known : decide (name ∈ colorNames)
    · rfl
    · exact within name known

end Without

theorem sameEffect_perm {xs ys : List String} (moved : xs.Perm ys)
    (colors : xs.filter (· ∈ colorNames) = ys.filter (· ∈ colorNames)) : SameEffect xs ys :=
  .of_mem (fun _ _ _ => moved.mem_iff) (congrArg List.getLast? colors)

/-- With colour the printed text tells what a list comes to, and without it nothing; a list comes to
the same without the names that mean nothing, without the earlier of two occurrences of a name, and
with its attributes in any other places. -/
theorem print_tells_effect (value : String) (xs ys : List String) :
    let print (color : Bool) (list : List String) : String := (ofNames list).paint color value
    (print true xs = print true ys ↔ SameEffect xs ys) ∧
      ∀ color : Bool,
        (SameEffect xs ys → print color xs = print color ys) ∧
        print color (xs.filter (· ∈ names)) = print color xs ∧
        print color xs.dedup = print color xs ∧
        (xs.Perm ys → xs.filter (· ∈ colorNames) = ys.filter (· ∈ colorNames) →
          print color xs = print color ys) ∧
        (print color xs = value ↔ color = false ∨ ∀ name ∈ xs, name ∉ names) := by
  intro print
  have told : print true xs = print true ys ↔ SameEffect xs ys := paint_inj.trans ofNames_eq_iff
  have alike : ∀ (color : Bool) {list other : List String}, SameEffect list other →
      print color list = print color other := fun color _ _ same =>
    congrArg (paint color · value) (ofNames_eq_iff.mpr same)
  refine ⟨told, fun color => ⟨alike color, alike color (sameEffect_known xs),
    alike color (sameEffect_dedup xs), ?_, ?_⟩⟩
  · intro moved colors
    exact alike color (sameEffect_perm moved colors)
  · cases color with
    | false => simp [print]
    | true => simpa [print] using paint_eq_self_iff.trans ofNames_eq_plain_iff

end Style

end LoginCard
