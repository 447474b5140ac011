import LoginCard.Proofs.Trimming
import LoginCard.Style

/-!
# What a terminal shows

A terminal reads a text from left to right. Codes between `ESC[` and `m`, parted by semicolons,
change the style that it is in, and every other character is shown in the style of the moment. Read
so, a painted text is the text in its style, and the style ends with the text.
-/

namespace LoginCard

open Text

/-- A character as it is shown. -/
structure Glyph where
  char : Char
  style : Style
  deriving DecidableEq, Repr

namespace Style

/-- What a code does to the style. A code that means none of these styles does nothing. -/
def switch (s : Style) : List Char → Style
  | [] => plain
  | ['0'] => plain
  | ['1'] => { s with bold := true }
  | ['2'] => { s with dimmed := true }
  | ['3'] => { s with italic := true }
  | ['4'] => { s with underline := true }
  | ['7'] => { s with reversed := true }
  | ['3', '1'] => { s with color := some .red }
  | ['3', '2'] => { s with color := some .green }
  | ['3', '3'] => { s with color := some .yellow }
  | ['3', '4'] => { s with color := some .blue }
  | ['3', '5'] => { s with color := some .magenta }
  | ['3', '6'] => { s with color := some .cyan }
  | ['3', '7'] => { s with color := some .white }
  | _ => s

end Style

namespace Terminal

def isParameter (c : Char) : Bool := c.isDigit || c = ';'

/-- The codes of a sequence at the front of a text, and what follows it. -/
def sequence? : List Char → Option (List (List Char) × List Char)
  | '\x1b' :: '[' :: cs =>
    match cs.dropWhile isParameter with
    | 'm' :: rest => some (pieces ';' (cs.takeWhile isParameter), rest)
    | _ => none
  | _ => none

theorem sequence?_other {c : Char} (other : c ≠ '\x1b') (cs : List Char) :
    sequence? (c :: cs) = none := by
  unfold sequence?
  split
  · rename_i same
    exact absurd (List.cons.inj same).1 other
  · rfl

theorem length_sequence? {cs rest : List Char} {codes : List (List Char)}
    (found : sequence? cs = some (codes, rest)) : rest.length < cs.length := by
  unfold sequence? at found
  split at found
  · rename_i cs
    split at found
    · rename_i behind
      obtain ⟨-, rfl⟩ := Prod.mk.inj (Option.some.inj found)
      have ends := (List.dropWhile_suffix isParameter (l := cs)).sublist.length_le
      rw [behind] at ends
      simp only [List.length_cons] at ends ⊢
      omega
    · cases found
  · cases found

/-- What is shown of a text that is read in a style, and the style behind it. -/
def read (s : Style) : List Char → List Glyph × Style
  | [] => ([], s)
  | c :: cs =>
    match found : sequence? (c :: cs) with
    | some (codes, rest) =>
      have := length_sequence? found
      read (codes.foldl Style.switch s) rest
    | none => (⟨c, s⟩ :: (read s cs).1, (read s cs).2)
  termination_by cs => cs.length
  decreasing_by
    · exact this
    · exact Nat.lt_succ_self _

@[simp] theorem read_nil (s : Style) : read s [] = ([], s) := by rw [read]

theorem read_other (s : Style) {c : Char} (other : c ≠ '\x1b') (cs : List Char) :
    read s (c :: cs) = (⟨c, s⟩ :: (read s cs).1, (read s cs).2) := by
  rw [read]
  split
  · rename_i found
    rw [sequence?_other other] at found
    cases found
  · rfl

/-- A sequence shows nothing. -/
theorem read_sequence (s : Style) {parameters : List Char}
    (only : ∀ c ∈ parameters, isParameter c = true) (rest : List Char) :
    read s ('\x1b' :: '[' :: (parameters ++ 'm' :: rest)) =
      read ((pieces ';' parameters).foldl Style.switch s) rest := by
  have found : sequence? ('\x1b' :: '[' :: (parameters ++ 'm' :: rest)) =
      some (pieces ';' parameters, rest) := by
    have ends : isParameter 'm' = false := by decide
    have first : (parameters ++ 'm' :: rest).takeWhile isParameter = parameters := by
      rw [List.takeWhile_append_of_pos only]
      simp [ends]
    have second : (parameters ++ 'm' :: rest).dropWhile isParameter = 'm' :: rest := by
      rw [List.dropWhile_append_of_pos only]
      simp [ends]
    simp only [sequence?, second, first]
  rw [read]
  split
  · rename_i codes behind found'
    rw [found] at found'
    cases found'
    rfl
  · rename_i missing
    rw [found] at missing
    cases missing

/-- A text without escapes is shown as it is. -/
theorem read_text (s : Style) {text : List Char} (free : '\x1b' ∉ text) (rest : List Char) :
    read s (text ++ rest) = (text.map (Glyph.mk · s) ++ (read s rest).1, (read s rest).2) := by
  induction text with
  | nil => rfl
  | cons c text ih =>
    obtain ⟨other, free⟩ := List.ne_and_not_mem_of_not_mem_cons free
    rw [List.cons_append, read_other s other.symm, ih free, List.map_cons, List.cons_append]

end Terminal

/-! ## The codes of a style -/

namespace Style

theorem foldl_switch_if (s : Style) (on : Bool) (code : String) :
    ((if on then [code] else []).map String.toList).foldl switch s =
      if on then s.switch code.toList else s := by
  cases on <;> rfl

theorem foldl_switch_color (s : Style) (color : Option Color) :
    ((color.map Color.code).toList.map String.toList).foldl switch s =
      { s with color := color.or s.color } := by
  cases color with
  | none => rfl
  | some c => cases c <;> rfl

/-- The codes of a style switch it on. -/
theorem foldl_switch_codes (s : Style) : (s.codes.map String.toList).foldl switch plain = s := by
  obtain ⟨bold, dimmed, underline, reversed, italic, color⟩ := s
  simp only [codes, List.map_append, List.foldl_append, foldl_switch_if, foldl_switch_color]
  cases bold <;> cases dimmed <;> cases underline <;> cases reversed <;> cases italic <;>
    simp [switch, plain]

theorem digits_codes {s : Style} {code : String} (member : code ∈ s.codes) :
    code.toList.all Char.isDigit = true := by
  simp only [codes, List.mem_append, List.mem_ite_nil_right, List.mem_singleton, Option.mem_toList,
    Option.map_eq_some_iff] at member
  rcases member with ((((⟨-, rfl⟩ | ⟨-, rfl⟩) | ⟨-, rfl⟩) | ⟨-, rfl⟩) | ⟨-, rfl⟩) | ⟨c, -, rfl⟩
  case inr => cases c <;> decide +kernel
  all_goals decide +kernel

/-- The codes of a style, as they stand in its sequence. -/
def parameters (s : Style) : List Char := [';'].intercalate (s.codes.map String.toList)

theorem opening_append (s : Style) (rest : List Char) :
    s.opening ++ rest = '\x1b' :: '[' :: (s.parameters ++ 'm' :: rest) := by
  simp [opening, parameters, String.toList_intercalate]

theorem isParameter_parameters (s : Style) : ∀ c ∈ s.parameters, Terminal.isParameter c = true := by
  intro c member
  rcases mem_intercalate member with rfl | ⟨_, coded, within⟩
  · rfl
  · obtain ⟨code, named, rfl⟩ := List.mem_map.mp coded
    simp [Terminal.isParameter, List.all_eq_true.mp (digits_codes named) c within]

/-- A style that is plain has no codes, and then the sequence is a reset. -/
theorem switch_parameters (s : Style) : (pieces ';' s.parameters).foldl switch plain = s := by
  by_cases bare : s.codes.map String.toList = []
  · have same := foldl_switch_codes s
    rw [bare] at same
    rw [parameters, bare]
    exact same
  · have free : ∀ code ∈ s.codes.map String.toList, ';' ∉ code := by
      intro _ coded parted
      obtain ⟨code, named, rfl⟩ := List.mem_map.mp coded
      exact absurd (List.all_eq_true.mp (digits_codes named) ';' parted) (by decide)
    rw [parameters, pieces_intercalate free bare, foldl_switch_codes]

/-- Without a reset in the text there is nothing to open again. -/
theorem reopen_free (opening : List Char) {text : List Char} (free : '\x1b' ∉ text) :
    reopen opening text = text := by
  fun_induction reopen opening text with
  | case1 rest ih => simp at free
  | case2 c rest other ih => rw [ih (List.not_mem_of_not_mem_cons free)]
  | case3 => rfl

end Style

/-! ## Painted texts -/

/-- There is no escape character in the text. -/
def NoEscape (text : String) : Prop := '\x1b' ∉ text.toList

instance (text : String) : Decidable (NoEscape text) := inferInstanceAs (Decidable (¬ _))

theorem noEscape_append {text more : String} :
    NoEscape (text ++ more) ↔ NoEscape text ∧ NoEscape more := by
  simp [NoEscape, not_or]

theorem noEscape_replicate (n : Nat) {c : Char} (other : c ≠ '\x1b') :
    NoEscape (String.ofList (List.replicate n c)) := by
  intro within
  rw [String.toList_ofList] at within
  exact other (List.eq_of_mem_replicate within).symm

theorem noEscape_join {texts : List String} (free : ∀ text ∈ texts, NoEscape text) :
    NoEscape (String.join texts) := by
  induction texts with
  | nil => exact List.not_mem_nil
  | cons text texts ih =>
    obtain ⟨first, rest⟩ := List.forall_mem_cons.mp free
    rw [String.join_cons]
    exact noEscape_append.mpr ⟨first, ih rest⟩

namespace Terminal

/-- Outside every style the text is shown as these glyphs and ends outside every style, whatever
follows it. -/
def Displays (text : String) (glyphs : List Glyph) : Prop :=
  ∀ rest, read .plain (text.toList ++ rest) =
    (glyphs ++ (read .plain rest).1, (read .plain rest).2)

namespace Displays

variable {text more : String} {glyphs others : List Glyph}

theorem read_eq (shown : Displays text glyphs) : read .plain text.toList = (glyphs, .plain) := by
  simpa using shown []

theorem append (first : Displays text glyphs) (second : Displays more others) :
    Displays (text ++ more) (glyphs ++ others) := by
  intro rest
  rw [String.toList_append, List.append_assoc, first, second, List.append_assoc]

theorem empty : Displays "" [] := fun _ => rfl

end Displays

theorem displays_text {text : String} (free : NoEscape text) :
    Displays text (text.toList.map (Glyph.mk · .plain)) := fun rest => read_text .plain free rest

/-- A painted text is shown in its style. -/
theorem displays_paint {text : String} (free : NoEscape text) (s : Style) :
    Displays (s.paint true text) (text.toList.map (Glyph.mk · s)) := by
  by_cases bare : s = .plain
  · subst bare
    rw [Style.paint_plain]
    exact displays_text free
  · intro rest
    have zero : ∀ c ∈ ['0'], isParameter c = true := List.all_eq_true.mp rfl
    have closed : read s (Style.reset ++ rest) = read .plain rest := read_sequence s zero rest
    rw [Style.paint, if_pos ⟨rfl, bare⟩, String.toList_ofList, Style.reopen_free _ free,
      List.append_assoc, List.append_assoc, Style.opening_append,
      read_sequence _ (Style.isParameter_parameters s), Style.switch_parameters, read_text s free,
      closed]

end Terminal

end LoginCard
