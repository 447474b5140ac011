import LoginCard.Toml.Scalar

/-!
# Quoted strings

Strings in double quotes know escapes, those in single quotes do not; tripled quotes let a string
run over several lines. A reader takes the text behind the opening quotes, and answers what the
string holds and what follows its closing quotes.
-/

namespace LoginCard.Toml

/-- The control characters: those that stand nowhere in a document, tab and line ends apart. -/
def isControl (c : Char) : Bool := c.toNat < 0x20 || c.toNat = 0x7F

def charOf? (n : Nat) : Option Char := if n.isValidChar then some (Char.ofNat n) else none

/-- A character given by exactly `n` hexadecimal digits. -/
def hexChar? (n : Nat) (cs : List Char) : Option (Char × List Char) :=
  let ds := cs.take n
  if ds.length = n ∧ ds.all isHexDigit then (charOf? (numberIn 16 ds)).map (·, cs.drop n) else none

/-- The character that an escape stands for, for the text behind the backslash. -/
def escape? : List Char → Option (Char × List Char)
  | 'b' :: cs => some ('\x08', cs)
  | 't' :: cs => some ('\t', cs)
  | 'n' :: cs => some ('\n', cs)
  | 'f' :: cs => some ('\x0c', cs)
  | 'r' :: cs => some ('\r', cs)
  | 'e' :: cs => some ('\x1b', cs)
  | '"' :: cs => some ('"', cs)
  | '\\' :: cs => some ('\\', cs)
  | 'x' :: cs => hexChar? 2 cs
  | 'u' :: cs => hexChar? 4 cs
  | 'U' :: cs => hexChar? 8 cs
  | _ => none

/-- What is left behind a line end, if there is one. -/
def newline? : List Char → Option (List Char)
  | '\n' :: cs => some cs
  | '\r' :: '\n' :: cs => some cs
  | _ => none

def isSpace (c : Char) : Bool := c = ' ' || c = '\t'

/-- Skips spaces and line ends. -/
def skipLines : List Char → List Char
  | '\r' :: '\n' :: cs => skipLines cs
  | c :: cs => if isSpace c ∨ c = '\n' then skipLines cs else c :: cs
  | [] => []

/-- A backslash at the end of a line takes the line end and all blanks after it out of the string:
what is left, for the text behind the backslash. -/
def continuation? (cs : List Char) : Option (List Char) :=
  (newline? (cs.dropWhile isSpace)).map skipLines

def put (c : Char) (read : Option (List Char × List Char)) : Option (List Char × List Char) :=
  read.map fun (text, rest) => (c :: text, rest)

/-- A run of `n` quotes inside a string of several lines closes it from the third quote on; up to
two quotes more belong to the text. -/
def closing? (quote : Char) (cs : List Char) : Option (List Char × List Char) :=
  let run := (cs.takeWhile (· = quote)).length
  if 3 ≤ run ∧ run ≤ 5 then some (List.replicate (run - 3) quote, cs.drop run) else none

def basic? : Nat → List Char → Option (List Char × List Char)
  | 0, _ => none
  | fuel + 1, cs =>
    match cs with
    | [] => none
    | '"' :: rest => some ([], rest)
    | '\\' :: rest => do
      let (c, rest) ← escape? rest
      put c (basic? fuel rest)
    | c :: rest => if isControl c ∧ c ≠ '\t' then none else put c (basic? fuel rest)

def literal? : List Char → Option (List Char × List Char)
  | [] => none
  | c :: rest =>
    if c = '\'' then some ([], rest)
    else if isControl c ∧ c ≠ '\t' then none
    else put c (literal? rest)

def longBasic? : Nat → List Char → Option (List Char × List Char)
  | 0, _ => none
  | fuel + 1, cs =>
    match cs with
    | [] => none
    | '"' :: '"' :: '"' :: _ => closing? '"' cs
    | '\\' :: rest =>
      match continuation? rest with
      | some rest => longBasic? fuel rest
      | none => do
        let (c, rest) ← escape? rest
        put c (longBasic? fuel rest)
    | '\r' :: '\n' :: rest => put '\r' (put '\n' (longBasic? fuel rest))
    | c :: rest =>
      if isControl c ∧ c ≠ '\t' ∧ c ≠ '\n' then none else put c (longBasic? fuel rest)

def longLiteral? : Nat → List Char → Option (List Char × List Char)
  | 0, _ => none
  | fuel + 1, cs =>
    match cs with
    | [] => none
    | '\'' :: '\'' :: '\'' :: _ => closing? '\'' cs
    | '\r' :: '\n' :: rest => put '\r' (put '\n' (longLiteral? fuel rest))
    | c :: rest =>
      if isControl c ∧ c ≠ '\t' ∧ c ≠ '\n' then none else put c (longLiteral? fuel rest)

/-- A line end right behind tripled quotes is not part of the string. -/
def dropFirstNewline (cs : List Char) : List Char := (newline? cs).getD cs

/-- A string on one line: the only kind that a key may be. -/
def shortString? : List Char → Option (String × List Char)
  | '"' :: cs => (basic? (cs.length + 1) cs).map fun (text, rest) => (String.ofList text, rest)
  | '\'' :: cs => (literal? cs).map fun (text, rest) => (String.ofList text, rest)
  | _ => none

def string? : List Char → Option (String × List Char)
  | '"' :: '"' :: '"' :: cs =>
    (longBasic? (cs.length + 1) (dropFirstNewline cs)).map fun (text, rest) =>
      (String.ofList text, rest)
  | '\'' :: '\'' :: '\'' :: cs =>
    (longLiteral? (cs.length + 1) (dropFirstNewline cs)).map fun (text, rest) =>
      (String.ofList text, rest)
  | cs => shortString? cs

end LoginCard.Toml
