import LoginCard.Language.Strings
import LoginCard.Style
import LoginCard.Template

/-!
# Filling in a template

A slot is looked up among the strings of the card first and among the variables after them. A slot
that neither knows stays visible, without its styles.
-/

namespace LoginCard

/-- Variables by name; of two with one name the first counts. -/
abbrev Variables := List (String × String)

namespace Template

def value? (strings : Strings) (vars : Variables) (key : String) : Option String :=
  (strings.get? key).or (vars.lookup key)

def renderSegment (strings : Strings) (vars : Variables) (color : Bool) : Segment → String
  | .literal text => text
  | .slot key styles =>
    match value? strings vars key with
    | some text => (Style.ofNames styles).paint color text
    | none => "\x7b" ++ key ++ "\x7d"

def render (t : Template) (strings : Strings) (vars : Variables) (color : Bool) : String :=
  String.join (t.map (renderSegment strings vars color))

@[simp] theorem render_nil (strings : Strings) (vars : Variables) (color : Bool) :
    render [] strings vars color = "" := rfl

theorem render_append (t u : Template) (strings : Strings) (vars : Variables) (color : Bool) :
    render (t ++ u) strings vars color =
      render t strings vars color ++ render u strings vars color := by
  simp [render]

end Template

end LoginCard
