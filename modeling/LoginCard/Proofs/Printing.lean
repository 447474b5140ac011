import Mathlib.Data.List.Chain
import LoginCard.Proofs.Trimming
import LoginCard.Template

/-!
# Templates are read back as they are printed

What is read from any text are literals without `{` and slots with trimmed names. A list of such
segments is read back from its printed form, with adjacent literals as one.
-/

namespace LoginCard

open Text

namespace Segment

/-- A text that can be named in a slot: `stop` would end it, and so would `}`. -/
structure IsName (stop : Char) (text : String) : Prop where
  nonempty : text ≠ ""
  trimmed : Trimmed text.toList
  unstopped : stop ∉ text.toList
  unclosed : '}' ∉ text.toList

instance (stop : Char) (text : String) : Decidable (IsName stop text) :=
  decidable_of_iff
    (text ≠ "" ∧ Trimmed text.toList ∧ stop ∉ text.toList ∧ '}' ∉ text.toList)
    ⟨fun ⟨h₁, h₂, h₃, h₄⟩ => ⟨h₁, h₂, h₃, h₄⟩, fun ⟨h₁, h₂, h₃, h₄⟩ => ⟨h₁, h₂, h₃, h₄⟩⟩

def WellFormed : Segment → Prop
  | .literal text => text ≠ "" ∧ '{' ∉ text.toList
  | .slot key styles => IsName ':' key ∧ ∀ style ∈ styles, IsName ',' style

instance : (g : Segment) → Decidable g.WellFormed
  | .literal _ => inferInstanceAs (Decidable (_ ∧ _))
  | .slot _ _ => inferInstanceAs (Decidable (_ ∧ _))

/-- What is printed between the brackets of a slot. -/
def body (key : String) (styles : List String) : List Char :=
  key.toList ++ if styles = [] then [] else ':' :: [','].intercalate (styles.map String.toList)

theorem toList_print_slot (key : String) (styles : List String) :
    (slot key styles).print.toList = '{' :: (body key styles ++ ['}']) := by
  cases styles with
  | nil => simp [print, body]
  | cons style styles => simp [print, body, String.toList_intercalate]

def isLiteral : Segment → Bool
  | .literal _ => true
  | .slot .. => false

/-- At most one of two neighbours is a literal. -/
def Apart (g h : Segment) : Prop := g.isLiteral = false ∨ h.isLiteral = false

end Segment

namespace Template

/-! ## What is read is well formed -/

theorem isName_ofList {stop : Char} {cs body : List Char} (nonempty : trim cs ≠ [])
    (subset : cs ⊆ body) (unstopped : stop ∉ cs) (unclosed : '}' ∉ body) :
    Segment.IsName stop (String.ofList (trim cs)) where
  nonempty := by simpa using nonempty
  trimmed := by simpa using trimmed_trim cs
  unstopped := by simpa using fun member => unstopped (trim_subset cs member)
  unclosed := by simpa using fun member => unclosed (subset (trim_subset cs member))

theorem isName_styleNames {cs body : List Char} (subset : cs ⊆ body) (unclosed : '}' ∉ body)
    {style : String} (member : style ∈ styleNames cs) : Segment.IsName ',' style := by
  obtain ⟨_, named, rfl⟩ := List.mem_map.mp member
  obtain ⟨trimmed, nonempty⟩ := List.mem_filter.mp named
  obtain ⟨piece, cut, rfl⟩ := List.mem_map.mp trimmed
  obtain ⟨unstopped, within⟩ := mem_piece cut
  exact isName_ofList (of_decide_eq_true nonempty) (List.Subset.trans within subset) unstopped
    unclosed

/-- A slot that has a key is one segment, any other is none. -/
theorem mem_slotOf {body : List Char} {g : Segment} :
    g ∈ slotOf body ↔ trim (body.takeWhile (· ≠ ':')) ≠ [] ∧
      g = .slot (String.ofList (trim (body.takeWhile (· ≠ ':'))))
        (styleNames ((body.dropWhile (· ≠ ':')).drop 1)) := by
  unfold slotOf
  dsimp only
  split <;> simp_all

theorem wellFormed_slotOf {body : List Char} (unclosed : '}' ∉ body) {g : Segment}
    (member : g ∈ slotOf body) : g.WellFormed := by
  obtain ⟨nonempty, rfl⟩ := mem_slotOf.mp member
  constructor
  · refine isName_ofList nonempty (List.takeWhile_subset _) ?_ unclosed
    intro stopped
    simpa using List.mem_takeWhile_imp stopped
  · intro style named
    have subset : (body.dropWhile (· ≠ ':')).drop 1 ⊆ body :=
      List.Subset.trans (List.drop_subset _ _) (List.dropWhile_suffix _).subset
    exact isName_styleNames subset unclosed named

/-- A literal reaches to the next slot. -/
theorem free_literal {c : Char} (other : c ≠ '{') (cs : List Char) :
    '{' ∉ c :: cs.takeWhile (· ≠ '{') := by
  intro opened
  rcases List.mem_cons.mp opened with same | opened
  · exact other same.symm
  · simpa using List.mem_takeWhile_imp opened

theorem literal_append (c : Char) (cs : List Char) :
    (c :: cs.takeWhile (· ≠ '{')) ++ cs.dropWhile (· ≠ '{') = c :: cs := by
  rw [List.cons_append, List.takeWhile_append_dropWhile]

theorem wellFormed_parseChars (cs : List Char) {g : Segment} (member : g ∈ parseChars cs) :
    g.WellFormed := by
  induction cs using parseChars.induct with
  | case1 => simp at member
  | case2 cs ih =>
    rw [parseChars_slot] at member
    rcases List.mem_append.mp member with here | later
    · refine wellFormed_slotOf ?_ here
      intro closed
      simpa using List.mem_takeWhile_imp closed
    · exact ih later
  | case3 c cs other ih =>
    rw [parseChars_literal c cs other] at member
    rcases List.mem_cons.mp member with rfl | later
    · exact ⟨by simp, by simpa using free_literal other cs⟩
    · exact ih later

/-! ## What is printed is read back -/

/-- A literal in front of a template, as one with a literal that stands there. -/
def glue (text : String) : Template → Template
  | .literal next :: t => .literal (text ++ next) :: t
  | t => .literal text :: t

theorem glue_slot (text key : String) (styles : List String) (t : Template) :
    glue text (.slot key styles :: t) = .literal text :: .slot key styles :: t := rfl

/-- The template with adjacent literals as one. -/
def merge : Template → Template
  | [] => []
  | .literal text :: t => glue text (merge t)
  | .slot key styles :: t => .slot key styles :: merge t

theorem print_cons (g : Segment) (t : Template) : print (g :: t) = g.print ++ print t := by
  rw [print, List.map_cons, String.join_cons, ← print]

/-- A text made segment by segment, in which literals stand as they are, does not tell whether
adjacent literals are one. -/
theorem join_map_glue {f : Segment → String} (keeps : ∀ text, f (.literal text) = text)
    (text : String) (t : Template) :
    String.join ((glue text t).map f) = text ++ String.join (t.map f) := by
  unfold glue
  split
  · simp only [List.map_cons, String.join_cons, keeps, String.append_assoc]
  · rw [List.map_cons, String.join_cons, keeps]

theorem join_map_merge {f : Segment → String} (keeps : ∀ text, f (.literal text) = text)
    (t : Template) : String.join ((merge t).map f) = String.join (t.map f) := by
  induction t with
  | nil => rfl
  | cons g t ih =>
    cases g with
    | literal text => rw [merge, join_map_glue keeps, ih, List.map_cons, String.join_cons, keeps]
    | slot key styles => rw [merge, List.map_cons, String.join_cons, ih, List.map_cons,
        String.join_cons]

/-- Merging changes the segments and not the text. -/
theorem print_merge (t : Template) : print (merge t) = print t := join_map_merge (fun _ => rfl) t

theorem apart_glue {text : String} {t : Template} (apart : t.IsChain Segment.Apart) :
    (glue text t).IsChain Segment.Apart := by
  unfold glue
  split
  · cases apart with
    | singleton => exact .singleton _
    | cons_cons first rest => exact .cons_cons first rest
  · rename_i other
    cases t with
    | nil => exact .singleton _
    | cons g t =>
      refine .cons_cons ?_ apart
      cases g with
      | literal next => exact absurd rfl (other next t)
      | slot key styles => exact .inr rfl

theorem apart_merge (t : Template) : (merge t).IsChain Segment.Apart := by
  induction t with
  | nil => exact .nil
  | cons g t ih =>
    cases g with
    | literal text => exact apart_glue ih
    | slot key styles =>
      rw [merge]
      cases merged : merge t with
      | nil => exact .singleton _
      | cons g u => exact .cons_cons (.inl rfl) (merged ▸ ih)

theorem cutSlot_append {body : List Char} (unclosed : '}' ∉ body) (rest : List Char) :
    cutSlot (body ++ '}' :: rest) = (body, rest) := by
  rw [cutSlot, takeWhile_stop unclosed, dropWhile_stop unclosed]
  rfl

theorem styleNames_intercalate {styles : List String} (names : ∀ s ∈ styles, Segment.IsName ',' s)
    (styled : styles ≠ []) :
    styleNames ([','].intercalate (styles.map String.toList)) = styles := by
  have free : ∀ p ∈ styles.map String.toList, ',' ∉ p := by
    intro p member
    obtain ⟨s, named, rfl⟩ := List.mem_map.mp member
    exact (names s named).unstopped
  have trimmed : (styles.map String.toList).map trim = styles.map String.toList := by
    rw [List.map_map]
    exact List.map_congr_left fun s named => trim_eq_self (names s named).trimmed
  have kept : (styles.map String.toList).filter (· ≠ []) = styles.map String.toList := by
    rw [List.filter_eq_self]
    intro p member
    obtain ⟨s, named, rfl⟩ := List.mem_map.mp member
    simpa using (names s named).nonempty
  rw [styleNames, pieces_intercalate free (by simpa using styled), trimmed, kept, List.map_map]
  simp [Function.comp_def]

theorem styleNames_nil : styleNames [] = [] := rfl

theorem slotOf_body {key : String} {styles : List String}
    (formed : (Segment.slot key styles).WellFormed) :
    slotOf (Segment.body key styles) = [.slot key styles] := by
  obtain ⟨name, names⟩ := formed
  have nonempty : key.toList ≠ [] := by simpa using name.nonempty
  unfold slotOf Segment.body
  by_cases unstyled : styles = []
  · subst unstyled
    simp only [if_true, List.append_nil, takeWhile_free name.unstopped,
      dropWhile_free name.unstopped, trim_eq_self name.trimmed, nonempty, if_false,
      String.ofList_toList, List.drop_nil, styleNames_nil]
  · simp only [unstyled, if_false, takeWhile_stop name.unstopped, dropWhile_stop name.unstopped,
      trim_eq_self name.trimmed, nonempty, String.ofList_toList, List.drop_succ_cons, List.drop_zero,
      styleNames_intercalate names unstyled]

theorem unclosed_body {key : String} {styles : List String}
    (formed : (Segment.slot key styles).WellFormed) : '}' ∉ Segment.body key styles := by
  obtain ⟨name, names⟩ := formed
  intro closed
  rcases List.mem_append.mp closed with inKey | inStyles
  · exact name.unclosed inKey
  · split at inStyles
    · cases inStyles
    · rcases List.mem_cons.mp inStyles with same | inStyles
      · cases same
      · rcases mem_intercalate inStyles with same | ⟨_, style, within⟩
        · cases same
        · obtain ⟨s, named, rfl⟩ := List.mem_map.mp style
          exact (names s named).unclosed within

theorem parseChars_print_slot {key : String} {styles : List String}
    (formed : (Segment.slot key styles).WellFormed) (rest : List Char) :
    parseChars ((Segment.slot key styles).print.toList ++ rest) =
      .slot key styles :: parseChars rest := by
  have cut := cutSlot_append (unclosed_body formed) rest
  rw [Segment.toList_print_slot, List.cons_append, List.append_assoc, List.singleton_append,
    parseChars_slot, cut, slotOf_body formed]
  rfl

theorem parseChars_literal_append {text : List Char} (nonempty : text ≠ []) (free : '{' ∉ text)
    (rest : List Char) :
    parseChars (text ++ rest) =
      .literal (String.ofList (text ++ rest.takeWhile (· ≠ '{'))) ::
        parseChars (rest.dropWhile (· ≠ '{')) := by
  cases text with
  | nil => exact absurd rfl nonempty
  | cons c cs =>
    obtain ⟨other, free⟩ := List.ne_and_not_mem_of_not_mem_cons free
    rw [List.cons_append, parseChars_literal c _ other.symm,
      List.takeWhile_append_of_pos (passes_stop free),
      List.dropWhile_append_of_pos (passes_stop free)]
    rfl

/-- The printed form of a template begins with its literals up to the first slot. -/
theorem glue_parse_print {t : Template} (formed : ∀ g ∈ t, g.WellFormed) (text : String) :
    glue text (parse (print t)) =
      .literal (text ++ String.ofList ((print t).toList.takeWhile (· ≠ '{'))) ::
        parseChars ((print t).toList.dropWhile (· ≠ '{')) := by
  cases t with
  | nil => simp [print, parse, glue]
  | cons g t =>
    obtain ⟨first, _⟩ := List.forall_mem_cons.mp formed
    rw [parse, print_cons, String.toList_append]
    cases g with
    | slot key styles =>
      rw [parseChars_print_slot first, glue_slot, ← parseChars_print_slot first,
        Segment.toList_print_slot]
      simp
    | literal next =>
      have nonempty : next.toList ≠ [] := by simpa using first.1
      rw [Segment.print, parseChars_literal_append nonempty first.2, glue,
        List.takeWhile_append_of_pos (passes_stop first.2),
        List.dropWhile_append_of_pos (passes_stop first.2)]

theorem parse_print {t : Template} (formed : ∀ g ∈ t, g.WellFormed) : parse (print t) = merge t := by
  induction t with
  | nil => simp [print, parse, merge]
  | cons g t ih =>
    obtain ⟨first, rest⟩ := List.forall_mem_cons.mp formed
    have later := ih rest
    rw [print_cons, parse, String.toList_append]
    cases g with
    | slot key styles => rw [parseChars_print_slot first, ← parse, later, merge]
    | literal text =>
      have nonempty : text.toList ≠ [] := by simpa using first.1
      rw [Segment.print, parseChars_literal_append nonempty first.2, merge, ← later,
        glue_parse_print rest, String.ofList_append, String.ofList_toList]

/-- Any text is read as well-formed segments, and well-formed segments are read back from what they
are printed as, up to literals that stand side by side. To merge these changes nothing that is
printed, and leaves none. -/
theorem parse_undoes_print :
    (∀ (source : String) (g : Segment), g ∈ parse source → g.WellFormed) ∧
      (∀ t : Template, (∀ g ∈ t, g.WellFormed) → parse (print t) = merge t) ∧
      (∀ source : String, parse (print (parse source)) = merge (parse source)) ∧
      ∀ t : Template, print (merge t) = print t ∧ (merge t).IsChain Segment.Apart := by
  have formed : ∀ source, ∀ g ∈ parse source, g.WellFormed := fun source _ =>
    wellFormed_parseChars source.toList
  exact ⟨formed, fun _ => parse_print, fun source => parse_print (formed source),
    fun t => ⟨print_merge t, apart_merge t⟩⟩

/-- An empty slot parts two literals, a key and a style hold what a slot can hold, and the last slot
is not closed. -/
example : parse "a\x7b \x7db\x7b k\x7b : x:y ,, z \x7dc\x7d\x7bq" =
    [.literal "a", .literal "b", .slot "k\x7b" ["x:y", "z"], .literal "c\x7d", .slot "q" []] := by
  cbv

end Template

end LoginCard
