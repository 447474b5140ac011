import LoginCard.Decimal.Binary64

/-!
# The fewest digits that read back

For one digit, two digits and so on up to seventeen, the two neighbours of the value among the
decimals of that many digits are tested against the interval of numbers that round to it. The first
number of digits with a hit wins, and of two hits the nearer one, the upper one at a tie.
-/

namespace LoginCard

/-- The number `digits * 10 ^ exponent`. -/
structure Decimal where
  digits : Nat
  exponent : Int
  deriving DecidableEq, Repr

namespace Decimal

/-- An interval around `value`, all three over the common denominator `den`. -/
structure Window where
  low : Nat
  value : Nat
  high : Nat
  den : Nat
  closed : Bool
  deriving DecidableEq, Repr

/-- The numbers that round to `mantissa * 2 ^ exponent`: half a step to each side, a quarter below
a power of two, and the ends only around an even mantissa. -/
def Window.around (mantissa : Nat) (exponent : Int) : Window :=
  let unit := Nat.pow 2 exponent.toNat
  let value := 4 * mantissa * unit
  let below := if mantissa = Nat.pow 2 52 ∧ exponent > -1074 then unit else 2 * unit
  { low := value - below
    value := value
    high := value + 2 * unit
    den := 4 * Nat.pow 2 (-exponent).toNat
    closed := mantissa % 2 = 0 }

def Window.holds (w : Window) (d : Decimal) : Bool :=
  let n := d.digits * Nat.pow 10 d.exponent.toNat * w.den
  let scale := Nat.pow 10 (-d.exponent).toNat
  if w.closed then w.low * scale ≤ n && n ≤ w.high * scale
  else w.low * scale < n && n < w.high * scale

/-- The exponent of the first decimal digit of the value. -/
def Window.order (w : Window) : Int :=
  if w.den ≤ w.value then ((Nat.toDigits 10 (w.value / w.den)).length : Int) - 1
  else
    let places := (Nat.toDigits 10 (w.den / w.value)).length
    if w.den ≤ w.value * Nat.pow 10 (places - 1) then 1 - (places : Int) else -(places : Int)

/-- The neighbours of the value on the grid of the multiples of `10 ^ exponent`. -/
def Window.neighbours (w : Window) (exponent : Int) : Nat × Nat :=
  let c := w.value * Nat.pow 10 (-exponent).toNat / (w.den * Nat.pow 10 exponent.toNat)
  (c, c + 1)

/-- Whether the value has reached the middle between `c` and `c + 1` on the grid. -/
def Window.reachesMiddle (w : Window) (exponent : Int) (c : Nat) : Bool :=
  let twice := 2 * w.value * Nat.pow 10 (-exponent).toNat
  let middle := (2 * c + 1) * w.den * Nat.pow 10 exponent.toNat
  middle ≤ twice

def Window.pick? (w : Window) (exponent : Int) : Option Decimal :=
  let (c, c') := w.neighbours exponent
  let lower : Decimal := ⟨c, exponent⟩
  let upper : Decimal := ⟨c', exponent⟩
  match w.holds lower, w.holds upper with
  | true, true => some (if w.reachesMiddle exponent c then upper else lower)
  | true, false => some lower
  | false, true => some upper
  | false, false => none

def Window.shortest (w : Window) : Decimal :=
  let pick := (List.range 17).findSome? fun (n : Nat) => w.pick? (w.order - n)
  pick.getD ⟨(w.neighbours (w.order - 16)).1, w.order - 16⟩

/-- Moves zeros at the end of the digits into the exponent, at most `fuel` of them. -/
def dropZeros : Nat → Decimal → Decimal
  | 0, d => d
  | fuel + 1, d =>
    if d.digits ≠ 0 ∧ d.digits % 10 = 0 then dropZeros fuel ⟨d.digits / 10, d.exponent + 1⟩ else d

def ofFinite (mantissa : Nat) (exponent : Int) : Decimal :=
  if mantissa = 0 then ⟨0, 0⟩ else dropZeros 17 (Window.around mantissa exponent).shortest

end Decimal

end LoginCard
