import LoginCard.Text.Blank
import LoginCard.Toml.Value

/-!
# Bare scalars

Booleans, numbers and date-times: the values that are written without quotes or brackets. Each is
read from a whole word. Whether a word is a number is told by its look, and of an integer with
underscores little more is looked at than what stands beside them; so there are words that are
numbers without a value.
-/

namespace LoginCard.Toml

/-- Digits of one base with single underscores between them, at least one digit: the digits alone. -/
def groupedDigits? (isDigit : Char → Bool) (cs : List Char) : Option (List Char) :=
  let rec go (afterDigit : Bool) : List Char → Option (List Char)
    | [] => if afterDigit then some [] else none
    | c :: rest =>
      if isDigit c then (go true rest).map (c :: ·)
      else if c = '_' ∧ afterDigit then go false rest
      else none
  go false cs

def digitValue (c : Char) : Nat :=
  if c.isDigit then c.toNat - 48
  else if 'a' ≤ c ∧ c ≤ 'f' then c.toNat - 87
  else c.toNat - 55

def isHexDigit (c : Char) : Bool := c.isDigit || ('a' ≤ c && c ≤ 'f') || ('A' ≤ c && c ≤ 'F')

def numberIn (base : Nat) (ds : List Char) : Nat := ds.foldl (fun n c => base * n + digitValue c) 0

/-- Decimal digits, without a zero in front of others. -/
def plainDigits? (cs : List Char) : Option (List Char) := do
  let ds ← groupedDigits? Char.isDigit cs
  if ds.length > 1 ∧ cs.head? = some '0' then none else some ds

/-- Whether a number is negative, and what follows its sign. -/
def cutSign : List Char → Bool × List Char
  | '+' :: cs => (false, cs)
  | '-' :: cs => (true, cs)
  | cs => (false, cs)

def signed (negative : Bool) (n : Nat) : Int := if negative then -n else n

def integer? : List Char → Option Int
  | '0' :: 'x' :: cs => (groupedDigits? isHexDigit cs).map fun ds => numberIn 16 ds
  | '0' :: 'o' :: cs =>
    (groupedDigits? (fun c => '0' ≤ c && c ≤ '7') cs).map fun ds => numberIn 8 ds
  | '0' :: 'b' :: cs =>
    (groupedDigits? (fun c => c = '0' || c = '1') cs).map fun ds => numberIn 2 ds
  | cs =>
    let (negative, cs) := cutSign cs
    (plainDigits? cs).map fun ds => signed negative (numberIn 10 ds)

def isExponentMark (c : Char) : Bool := c = 'e' || c = 'E'

/-- The exponent behind the mark: a sign and digits, zeros in front allowed. -/
def exponent? : List Char → Option Int
  | [] => some 0
  | _ :: cs =>
    let (negative, cs) := cutSign cs
    (groupedDigits? Char.isDigit cs).map fun ds => signed negative (numberIn 10 ds)

/-- The digits behind the point, none if there is no point. -/
def fractionDigits? : List Char → Option (List Char)
  | [] => some []
  | _ :: cs => groupedDigits? Char.isDigit cs

/-- A float has a fraction, an exponent or both. Its digits may stand for more than every finite
number. -/
def float? (cs : List Char) : Option Binary64 := do
  let (negative, cs) := cutSign cs
  if cs = ['i', 'n', 'f'] then some (.infinite negative)
  else if cs = ['n', 'a', 'n'] then some .nan
  else
    let mantissa := cs.takeWhile fun c => !isExponentMark c
    let power := cs.dropWhile fun c => !isExponentMark c
    let point := mantissa.dropWhile (· ≠ '.')
    if point = [] ∧ power = [] then none
    else
      let whole ← plainDigits? (mantissa.takeWhile (· ≠ '.'))
      let fraction ← fractionDigits? point
      let exponent ← exponent? power
      some (Binary64.ofDecimal negative (numberIn 10 (whole ++ fraction))
        (exponent - fraction.length))

/-- Only the word for infinity has it as its value; digits that overflow have none. -/
def floatValue (word : List Char) : Binary64 → Value
  | .infinite negative =>
    if word.any Char.isDigit then .unvalued (String.ofList word) else .float (.infinite negative)
  | x => .float x

/-- What may stand between underscores, and behind the last of them: digits of any base are asked
for beside an underscore and nowhere else. -/
def looksGrouped : List (List Char) → Bool
  | [] => true
  | [last] => last.head?.any isHexDigit
  | part :: rest => part.head?.any isHexDigit && part.getLast?.any isHexDigit && looksGrouped rest

/-- Whether a word with underscores passes for a decimal integer: digits come first, without a zero
in front, and nothing in it belongs to a float. -/
def looksDecimal (word : List Char) : Bool :=
  let (_, cs) := cutSign word
  match Text.pieces '_' cs with
  | [] => false
  | first :: rest =>
    first ≠ [] && first.all Char.isDigit && first.head? ≠ some '0' &&
      rest ≠ [] && looksGrouped rest &&
      cs.all fun c => c ≠ ' ' && c ≠ '.' && !isExponentMark c

/-- Whether a word passes for a number; a base without digits does too. -/
def looksNumeric (word : List Char) : Bool :=
  word = ['0', 'x'] || word = ['0', 'o'] || word = ['0', 'b'] || looksDecimal word

def scalar? (word : List Char) : Option Value :=
  if word = ['t', 'r', 'u', 'e'] then some (.boolean true)
  else if word = ['f', 'a', 'l', 's', 'e'] then some (.boolean false)
  else
    ((integer? word).map Value.integer).or <|
    ((float? word).map (floatValue word)).or <|
    ((DateTime.ofChars? word).map Value.dateTime).or <|
    if looksNumeric word then some (.unvalued (String.ofList word)) else none

end LoginCard.Toml
