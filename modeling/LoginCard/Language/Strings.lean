import LoginCard.Language

/-!
# The strings of the card

One immutable set of strings for each language, and the keys under which a template names them.
-/

namespace LoginCard

structure Strings where
  language : Language
  cardTitle : String
  cardDescription : String
  usernameLabel : String
  passwordLabel : String
  buttonText : String
  forgotPasswordText : String
  footerText : String
  deriving DecidableEq, Repr

namespace Strings

/-- Raised whenever the set of keys changes, so that an older stored choice is recognised. -/
def version : UInt32 := 1

/-- In the order of the page. -/
def keys : List String :=
  ["cardMetaTitle", "cardMetaDescription", "usernameInputLabel", "passwordInputLabel",
    "logInButtonText", "forgotPasswordLinkText", "footerText"]

def get? (s : Strings) (key : String) : Option String :=
  if key = "cardMetaTitle" then some s.cardTitle
  else if key = "cardMetaDescription" then some s.cardDescription
  else if key = "usernameInputLabel" then some s.usernameLabel
  else if key = "passwordInputLabel" then some s.passwordLabel
  else if key = "logInButtonText" then some s.buttonText
  else if key = "forgotPasswordLinkText" then some s.forgotPasswordText
  else if key = "footerText" then some s.footerText
  else none

theorem get?_isSome_iff (s : Strings) (key : String) : (s.get? key).isSome ↔ key ∈ keys := by
  simp only [get?, keys, List.mem_cons, List.not_mem_nil, or_false]
  grind

end Strings

def Language.strings : Language → Strings
  | .english =>
    { language := .english
      cardTitle := "Log in"
      cardDescription := "Log in into your account"
      usernameLabel := "Username or email"
      passwordLabel := "Password"
      buttonText := "Log in"
      forgotPasswordText := "Forgot password?"
      footerText := "Unable to access your account? To request an account, please contact your site administrators." }
  | .russian =>
    { language := .russian
      cardTitle := "Авторизация"
      cardDescription := "Войдите в свою учетную запись"
      usernameLabel := "Имя пользователя или email"
      passwordLabel := "Пароль"
      buttonText := "Авторизация"
      forgotPasswordText := "Забыли пароль?"
      footerText := "Еще не зарегистрированы? Чтобы получить аккаунт, пожалуйста, обратитесь к администраторам." }

@[simp] theorem Language.strings_language (l : Language) : l.strings.language = l := by
  cases l <;> rfl

end LoginCard
