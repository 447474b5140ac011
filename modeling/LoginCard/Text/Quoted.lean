import LoginCard.Text.Shapeless

/-!
# Quoted text

Text between double quotes in which every character can be told: quotes and backslashes are
escaped, and a character without a shape of its own is shown as its number.
-/

namespace LoginCard.Text

/-- Lower-case hexadecimal digits, at least one. -/
def hexText (n : Nat) : String := String.ofList (Nat.toDigits 16 n)

def quotedChar (c : Char) : String :=
  if c = '"' then "\\\""
  else if c = '\\' then "\\\\"
  else if c = '\t' then "\\t"
  else if c = '\n' then "\\n"
  else if c = '\r' then "\\r"
  else if c = '\x00' then "\\0"
  else if isShapeless c then "\\u\x7b" ++ hexText c.toNat ++ "\x7d"
  else String.singleton c

def quoted (text : String) : String :=
  "\"" ++ String.join (text.toList.map quotedChar) ++ "\""

end LoginCard.Text
