import LoginCard.Toml.Quoted

/-!
# Printing documents

A table prints its plain values first, one a line, and then its tables and arrays of tables, each
under its header, with an empty line between blocks. A header is left out where it would stand over
nothing but further headers. A string takes the first of its written forms that needs no escapes.
-/

namespace LoginCard.Toml

/-- The length of the longest run of `c`. -/
def longestRun (c : Char) (cs : List Char) : Nat :=
  let rec go (run best : Nat) : List Char → Nat
    | [] => max run best
    | d :: rest => if d = c then go (run + 1) best rest else go 0 (max run best) rest
  go 0 0 cs

def upperHex (n : Nat) : Char := if n < 10 then Char.ofNat (48 + n) else Char.ofNat (55 + n)

/-- The character as a four-digit number. -/
def unicodeEscape (c : Char) : List Char :=
  let n := c.toNat
  ['\\', 'u', upperHex (n / 4096 % 16), upperHex (n / 256 % 16), upperHex (n / 16 % 16),
    upperHex (n % 16)]

def escapedChar (c : Char) : List Char :=
  if c = '\x08' then ['\\', 'b']
  else if c = '\t' then ['\\', 't']
  else if c = '\n' then ['\\', 'n']
  else if c = '\x0c' then ['\\', 'f']
  else if c = '\r' then ['\\', 'r']
  else if c = '"' then ['\\', '"']
  else if c = '\\' then ['\\', '\\']
  else if isControl c then unicodeEscape c
  else [c]

def escapedLine (cs : List Char) : List Char := cs.flatMap escapedChar

/-- Escapes for a string of several lines: line ends stay, and of a run of quotes each third one is
escaped. `run` counts the quotes just before. -/
def escapedLines (run : Nat) : List Char → List Char
  | [] => []
  | c :: rest =>
    if c = '\n' then c :: escapedLines 0 rest
    else if c = '"' then
      if run = 2 then '\\' :: '"' :: escapedLines 0 rest else '"' :: escapedLines (run + 1) rest
    else escapedChar c ++ escapedLines 0 rest

def stringChars (cs : List Char) : List Char :=
  let control := cs.any fun c => isControl c && c ≠ '\t' && c ≠ '\n'
  let backslash := cs.contains '\\'
  let lines := cs.contains '\n'
  let doubles := longestRun '"' cs
  let singles := longestRun '\'' cs
  let start := if lines then ['\n'] else []
  if !control && !backslash && !lines && doubles = 0 then '"' :: escapedLine cs ++ ['"']
  else if !control && !lines && singles = 0 then '\'' :: cs ++ ['\'']
  else if !control && !backslash && doubles ≤ 2 then
    ['"', '"', '"'] ++ start ++ escapedLines 0 cs ++ ['"', '"', '"']
  else if !control && singles ≤ 2 then ['\'', '\'', '\''] ++ start ++ cs ++ ['\'', '\'', '\'']
  else if lines then ['"', '"', '"'] ++ start ++ escapedLines 0 cs ++ ['"', '"', '"']
  else '"' :: escapedLine cs ++ ['"']

def stringText (text : String) : String := String.ofList (stringChars text.toList)

def keyChars (cs : List Char) : List Char :=
  let control := cs.any fun c => isControl c && c ≠ '\t'
  if cs ≠ [] ∧ cs.all (fun c => c.isAlphanum || c = '-' || c = '_') = true then cs
  else if !control && !cs.contains '\\' && !cs.contains '"' then '"' :: escapedLine cs ++ ['"']
  else if !control && !cs.contains '\'' then '\'' :: cs ++ ['\'']
  else '"' :: escapedLine cs ++ ['"']

def keyText (key : String) : String := String.ofList (keyChars key.toList)

mutual

/-- A value on the right of its key, or inside brackets. -/
def Value.inline : Value → String
  | .string text => stringText text
  | .integer n => toString n
  | .float x => x.positional "nan"
  | .unvalued word => word
  | .boolean b => toString b
  | .dateTime d => d.text
  | .array items => "[" ++ ", ".intercalate (inlineItems items) ++ "]"
  | .table [] => "\x7b\x7d"
  | .table entries => "\x7b " ++ ", ".intercalate (inlineEntries entries) ++ " \x7d"

def inlineItems : List Value → List String
  | [] => []
  | v :: rest => v.inline :: inlineItems rest

def inlineEntries : List (String × Value) → List String
  | [] => []
  | (k, v) :: rest => (keyText k ++ " = " ++ v.inline) :: inlineEntries rest

end

def Value.isTable : Value → Bool
  | .table _ => true
  | _ => false

/-- Whether a value stands under headers of its own. -/
def Value.hasHeader : Value → Bool
  | .table _ => true
  | .array items => !items.isEmpty && items.all Value.isTable
  | _ => false

def plainLines (entries : Table) : String :=
  String.join ((entries.filter fun e => !e.2.hasHeader).map fun (k, v) =>
    keyText k ++ " = " ++ v.inline ++ "\n")

def pathText (path : List String) : String := ".".intercalate (path.map keyText)

/-- The block of a table itself, where it has one. -/
def ownBlock (path : List String) (entries : Table) : List String :=
  if !entries.isEmpty && entries.all fun e => e.2.hasHeader then []
  else ["[" ++ pathText path ++ "]\n" ++ plainLines entries]

mutual

/-- The blocks of a value with headers, at its path. -/
def Value.blocks (path : List String) : Value → List String
  | .table entries => ownBlock path entries ++ entryBlocks path entries
  | .array items => if Value.hasHeader (.array items) then itemBlocks path items else []
  | _ => []

def entryBlocks (path : List String) : List (String × Value) → List String
  | [] => []
  | (k, v) :: rest => v.blocks (path ++ [k]) ++ entryBlocks path rest

def itemBlocks (path : List String) : List Value → List String
  | [] => []
  | .table entries :: rest =>
    ("[[" ++ pathText path ++ "]]\n" ++ plainLines entries) ::
      (entryBlocks path entries ++ itemBlocks path rest)
  | _ :: rest => itemBlocks path rest

end

/-- Prints a document. -/
def Table.print (entries : Table) : String :=
  let own := plainLines entries
  let blocks := entryBlocks [] entries
  "\n".intercalate (if own = "" then blocks else own :: blocks)

end LoginCard.Toml
