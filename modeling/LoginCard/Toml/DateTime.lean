/-!
# Dates and times

Date-times with an offset, local ones, dates and times. Dates are those of the calendar, a second
may be the sixtieth, and of a fraction nine digits are kept. Seconds may be left out when reading
and are always written.
-/

namespace LoginCard.Toml

structure Date where
  year : Nat
  month : Nat
  day : Nat
  deriving DecidableEq, Repr

structure Time where
  hour : Nat
  minute : Nat
  second : Nat
  nanosecond : Nat
  deriving DecidableEq, Repr

inductive ZoneOffset where
  | utc
  | minutes (n : Int)
  deriving DecidableEq, Repr

inductive DateTime where
  | zoned (date : Date) (time : Time) (offset : ZoneOffset)
  | localDateTime (date : Date) (time : Time)
  | localDate (date : Date)
  | localTime (time : Time)
  deriving DecidableEq, Repr

def isLeapYear (year : Nat) : Bool :=
  year % 4 = 0 && (year % 100 ≠ 0 || year % 400 = 0)

def daysIn (year month : Nat) : Nat :=
  if month = 2 then (if isLeapYear year then 29 else 28)
  else if month = 4 ∨ month = 6 ∨ month = 9 ∨ month = 11 then 30
  else 31

def Date.isValid (d : Date) : Bool :=
  1 ≤ d.month && d.month ≤ 12 && 1 ≤ d.day && d.day ≤ daysIn d.year d.month

def Time.isValid (t : Time) : Bool := t.hour ≤ 23 && t.minute ≤ 59 && t.second ≤ 60

def digitsValue (cs : List Char) : Nat := cs.foldl (fun n c => 10 * n + (c.toNat - 48)) 0

/-- A number of exactly `n` digits. -/
def fixed? (n : Nat) (cs : List Char) : Option (Nat × List Char) :=
  let ds := cs.take n
  if ds.length = n ∧ ds.all Char.isDigit then some (digitsValue ds, cs.drop n) else none

def expect? (c : Char) : List Char → Option (List Char)
  | d :: rest => if c = d then some rest else none
  | [] => none

def Date.read? (cs : List Char) : Option (Date × List Char) := do
  let (year, cs) ← fixed? 4 cs
  let cs ← expect? '-' cs
  let (month, cs) ← fixed? 2 cs
  let cs ← expect? '-' cs
  let (day, cs) ← fixed? 2 cs
  let date : Date := ⟨year, month, day⟩
  if date.isValid then some (date, cs) else none

/-- The digits behind the point of a second, as nanoseconds. -/
def fraction? : List Char → Option (Nat × List Char)
  | '.' :: cs =>
    let ds := cs.takeWhile Char.isDigit
    if ds = [] then none
    else some (digitsValue ((ds ++ List.replicate 9 '0').take 9), cs.dropWhile Char.isDigit)
  | cs => some (0, cs)

def Time.read? (cs : List Char) : Option (Time × List Char) := do
  let (hour, cs) ← fixed? 2 cs
  let cs ← expect? ':' cs
  let (minute, cs) ← fixed? 2 cs
  let (second, nanosecond, cs) ← match expect? ':' cs with
    | none => some (0, 0, cs)
    | some cs => do
      let (second, cs) ← fixed? 2 cs
      let (nanosecond, cs) ← fraction? cs
      some (second, nanosecond, cs)
  let time : Time := ⟨hour, minute, second, nanosecond⟩
  if time.isValid then some (time, cs) else none

def ZoneOffset.read? : List Char → Option (ZoneOffset × List Char)
  | 'Z' :: cs => some (.utc, cs)
  | 'z' :: cs => some (.utc, cs)
  | sign :: cs =>
    if sign = '+' ∨ sign = '-' then do
      let (h, cs) ← fixed? 2 cs
      let cs ← expect? ':' cs
      let (m, cs) ← fixed? 2 cs
      let n : Int := 60 * h + m
      if h ≤ 23 ∧ m ≤ 59 then some (.minutes (if sign = '-' then -n else n), cs) else none
    else none
  | [] => none

/-- Reads a whole text. Between date and time stands a `T` of either case or one space. -/
def DateTime.ofChars? (cs : List Char) : Option DateTime :=
  match Date.read? cs with
  | some (date, []) => some (.localDate date)
  | some (date, sep :: rest) =>
    if sep = 'T' ∨ sep = 't' ∨ sep = ' ' then
      match Time.read? rest with
      | some (time, []) => some (.localDateTime date time)
      | some (time, rest) =>
        match ZoneOffset.read? rest with
        | some (offset, []) => some (.zoned date time offset)
        | _ => none
      | none => none
    else none
  | none =>
    match Time.read? cs with
    | some (time, []) => some (.localTime time)
    | _ => none

/-- The digits of `n`, with zeros in front up to `width`. -/
def padded (width n : Nat) : String :=
  let ds := Nat.toDigits 10 n
  String.ofList (List.replicate (width - ds.length) '0' ++ ds)

def Date.text (d : Date) : String :=
  padded 4 d.year ++ "-" ++ padded 2 d.month ++ "-" ++ padded 2 d.day

def fractionText (nanosecond : Nat) : String :=
  if nanosecond = 0 then ""
  else "." ++ String.ofList ((padded 9 nanosecond).toList.reverse.dropWhile (· = '0')).reverse

def Time.text (t : Time) : String :=
  padded 2 t.hour ++ ":" ++ padded 2 t.minute ++ ":" ++ padded 2 t.second ++
    fractionText t.nanosecond

def ZoneOffset.text : ZoneOffset → String
  | .utc => "Z"
  | .minutes n =>
    (if n < 0 then "-" else "+") ++ padded 2 (n.natAbs / 60) ++ ":" ++ padded 2 (n.natAbs % 60)

def DateTime.text : DateTime → String
  | .zoned date time offset => date.text ++ "T" ++ time.text ++ offset.text
  | .localDateTime date time => date.text ++ "T" ++ time.text
  | .localDate date => date.text
  | .localTime time => time.text

end LoginCard.Toml
