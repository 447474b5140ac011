import LoginCard.Form
import LoginCard.Route
import LoginCard.Template.Render

/-!
# Pages

The login card is a template filled in with the strings of a language and with what the form holds;
of the password only its length. The home page is one bold word.
-/

namespace LoginCard

namespace Page

def defaultTemplate : String :=
  "\x7bcardMetaTitle:bold\x7d\n\x7bcardMetaDescription:dimmed\x7d\n\n\x7busernameInputLabel\x7d\n" ++
  "  [\x7busername\x7d]\n\x7bpasswordInputLabel\x7d\n  [\x7bpassword\x7d]\n\n" ++
  "[ \x7blogInButtonText:cyan,bold\x7d ]  \x7bforgotPasswordLinkText:blue,underline\x7d\n" ++
  "\x7bdivider:dimmed\x7d\n\x7bfooterText:dimmed\x7d\n"

def divider : String := String.ofList (List.replicate 40 '─')

def fields (form : LoginForm) : Variables :=
  [("username", form.username), ("password", form.mask), ("divider", divider)]

def login (template : Template) (strings : Strings) (form : LoginForm) (color : Bool) : String :=
  template.render strings (fields form) color

def home (color : Bool) : String := (Style.ofNames ["bold"]).paint color "Home" ++ "\n"

/-- The page that a route shows. -/
def ofRoute (route : Route) (template : Template) (strings : Strings) (form : LoginForm)
    (color : Bool) : String :=
  match route with
  | .home => home color
  | .login => login template strings form color

/-- Submits the form of a page, and logs what the authority answered. -/
def submit (form : LoginForm) (a : Authority) : Except FormFault Submission × List LogRecord :=
  match form.submitTo a with
  | (.ok s, records) => (.ok s, records ++ [.answered s.authenticated])
  | failed => failed

end Page

end LoginCard
