/-!
# Terminal styles

A style is a set of attributes and at most one foreground colour. Printing opens it with one SGR
sequence, codes in a fixed order, and closes it with a reset. Each reset inside the text is
followed by the opening again, so the style holds to its end.
-/

namespace LoginCard

inductive Color where
  | red | green | yellow | blue | magenta | cyan | white
  deriving DecidableEq, Repr

def Color.code : Color → String
  | .red => "31"
  | .green => "32"
  | .yellow => "33"
  | .blue => "34"
  | .magenta => "35"
  | .cyan => "36"
  | .white => "37"

structure Style where
  bold : Bool
  dimmed : Bool
  underline : Bool
  reversed : Bool
  italic : Bool
  color : Option Color
  deriving DecidableEq, Repr

namespace Style

def plain : Style := ⟨false, false, false, false, false, none⟩

/-- One more named style: attributes gather, a colour replaces the one before it, and a name
that nobody knows changes nothing. -/
def add (s : Style) (name : String) : Style :=
  if name = "red" then { s with color := some .red }
  else if name = "green" then { s with color := some .green }
  else if name = "yellow" then { s with color := some .yellow }
  else if name = "blue" then { s with color := some .blue }
  else if name = "magenta" then { s with color := some .magenta }
  else if name = "cyan" then { s with color := some .cyan }
  else if name = "white" then { s with color := some .white }
  else if name = "bold" then { s with bold := true }
  else if name = "dim" ∨ name = "dimmed" then { s with dimmed := true }
  else if name = "underline" then { s with underline := true }
  else if name = "italic" then { s with italic := true }
  else if name = "reversed" then { s with reversed := true }
  else s

def ofNames (names : List String) : Style := names.foldl add plain

def codes (s : Style) : List String :=
  (if s.bold then ["1"] else []) ++ (if s.dimmed then ["2"] else []) ++
    (if s.underline then ["4"] else []) ++ (if s.reversed then ["7"] else []) ++
    (if s.italic then ["3"] else []) ++ (s.color.map Color.code).toList

def reset : List Char := ['\x1b', '[', '0', 'm']

def opening (s : Style) : List Char :=
  '\x1b' :: '[' :: (";".intercalate s.codes).toList ++ ['m']

/-- Repeats `opening` after every reset in the text. -/
def reopen (opening : List Char) : List Char → List Char
  | '\x1b' :: '[' :: '0' :: 'm' :: rest => reset ++ opening ++ reopen opening rest
  | c :: rest => c :: reopen opening rest
  | [] => []

/-- The bare text when colour is off or the style is plain. An empty text still gets its codes. -/
def paint (color : Bool) (s : Style) (text : String) : String :=
  if color = true ∧ s ≠ plain then
    String.ofList (s.opening ++ reopen s.opening text.toList ++ reset)
  else text

@[simp] theorem paint_off (s : Style) (text : String) : s.paint false text = text := by
  simp [paint]

@[simp] theorem paint_plain (color : Bool) (text : String) : plain.paint color text = text := by
  simp [paint]

end Style

end LoginCard
