import LoginCard.Decimal.Shortest

/-!
# Numbers as text

A float is written with the fewest digits that read back, either positionally, with at least one
digit on each side of the point, or with an exponent.
-/

namespace LoginCard

namespace Decimal

def digitText (d : Decimal) : List Char := Nat.toDigits 10 d.digits

def positional (d : Decimal) : String :=
  let ds := d.digitText
  let zeros (n : Nat) := List.replicate n '0'
  if 0 ≤ d.exponent then String.ofList (ds ++ zeros d.exponent.toNat ++ ['.', '0'])
  else
    let places := (-d.exponent).toNat
    let padded := zeros (places + 1 - ds.length) ++ ds
    let whole := padded.length - places
    String.ofList (padded.take whole ++ '.' :: padded.drop whole)

def scientific (d : Decimal) : String :=
  let ds := d.digitText
  let order := d.exponent + ds.length - 1
  let fraction := if ds.length = 1 then [] else '.' :: ds.drop 1
  String.ofList (ds.take 1 ++ fraction ++ ['e']) ++ toString order

end Decimal

namespace Binary64

def signText (negative : Bool) : String := if negative then "-" else ""

/-- Never an exponent; `notANumber` is the word for that case. -/
def positional (notANumber : String) : Binary64 → String
  | .nan => notANumber
  | .infinite negative => signText negative ++ "inf"
  | .finite negative m e => signText negative ++ (Decimal.ofFinite m e).positional

/-- An exponent from `10 ^ 16` on, and below `10 ^ -4`. -/
def compact : Binary64 → String
  | .nan => "nan"
  | .infinite negative => signText negative ++ "inf"
  | .finite negative m e =>
    let d := Decimal.ofFinite m e
    let order := d.exponent + d.digitText.length - 1
    signText negative ++ if m ≠ 0 ∧ (order ≥ 16 ∨ order < -4) then d.scientific else d.positional

end Binary64

end LoginCard
