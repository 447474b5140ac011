/-!
# The languages of the login card

Two languages, each named by exactly one tag, and the switches between them.
-/

namespace LoginCard

inductive Language where
  | english
  | russian
  deriving DecidableEq, Repr

namespace Language

def all : List Language := [.english, .russian]

/-- What is shown before anybody has chosen. -/
def default : Language := .english

def tag : Language → String
  | .english => "en_US"
  | .russian => "ru_RU"

/-- Case, separator and blanks count: no other text names a language. -/
def ofTag? (text : String) : Option Language :=
  if text = "en_US" then some .english
  else if text = "ru_RU" then some .russian
  else none

theorem ofTag?_eq_some_iff {text : String} {l : Language} : ofTag? text = some l ↔ text = l.tag := by
  unfold ofTag?
  split
  · subst_vars; cases l <;> simp [tag]
  · split
    · subst_vars; cases l <;> simp [tag]
    · cases l <;> simp_all [tag]

theorem ofTag?_eq_none_iff {text : String} : ofTag? text = none ↔ ∀ l : Language, text ≠ l.tag := by
  simp only [Option.eq_none_iff_forall_ne_some, ne_eq, ofTag?_eq_some_iff]

@[simp] theorem ofTag?_tag (l : Language) : ofTag? l.tag = some l := ofTag?_eq_some_iff.2 rfl

/-- The spelling in the printed form of a store. -/
def compactName : Language → String
  | .english => "EnUs"
  | .russian => "RuRu"

end Language

/-- A request to change the language. -/
inductive Switch where
  | toEnglish
  | toRussian
  deriving DecidableEq, Repr

namespace Switch

def target : Switch → Language
  | .toEnglish => .english
  | .toRussian => .russian

def toward : Language → Switch
  | .english => .toEnglish
  | .russian => .toRussian

@[simp] theorem target_toward (l : Language) : (toward l).target = l := by cases l <;> rfl

def name : Switch → String
  | .toEnglish => "SwitchToEnglish"
  | .toRussian => "SwitchToRussian"

end Switch

end LoginCard
