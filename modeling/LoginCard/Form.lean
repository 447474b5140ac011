import LoginCard.LogRecord
import LoginCard.Text.Blank
import LoginCard.Text.Quoted

/-!
# The login form

A form is complete when its username has a character that is not blank and its password is not
empty. Only a complete form reaches an authority, with both texts as typed.
-/

namespace LoginCard

structure Credentials where
  username : String
  password : String
  deriving DecidableEq, Repr

/-- The printed form never shows the password. -/
def Credentials.describe (c : Credentials) : String :=
  "Credentials \x7b username: " ++ Text.quoted c.username ++ ", password: \"<redacted>\" \x7d"

structure LoginForm where
  username : String
  password : String
  deriving DecidableEq, Repr

namespace LoginForm

def empty : LoginForm := ⟨"", ""⟩

def submit (f : LoginForm) : Except FormFault Credentials :=
  if f.username.toList.all Text.isBlank then .error .missingUsername
  else if f.password = "" then .error .missingPassword
  else .ok ⟨f.username, f.password⟩

/-- One star for each character of the password. -/
def mask (f : LoginForm) : String := String.ofList (List.replicate f.password.length '*')

end LoginForm

/-- Answers whether the credentials sign somebody in, and says what it logged. -/
structure Authority where
  answer : Credentials → Bool
  records : Credentials → List LogRecord

namespace Authority

/-- Signs nobody in. -/
def nobody : Authority := ⟨fun _ => false, fun c => [.loginSubmitted c.username]⟩

def everybody : Authority := ⟨fun _ => true, fun _ => []⟩

end Authority

/-- What a submitted form comes to: the credentials that reached the authority, and its answer. -/
structure Submission where
  credentials : Credentials
  authenticated : Bool
  deriving DecidableEq, Repr

namespace LoginForm

/-- Hands a complete form to an authority. -/
def submitTo (f : LoginForm) (a : Authority) : Except FormFault Submission × List LogRecord :=
  match f.submit with
  | .error e => (.error e, [])
  | .ok c => (.ok ⟨c, a.answer c⟩, .formSubmitted c.username :: a.records c)

end LoginForm

end LoginCard
