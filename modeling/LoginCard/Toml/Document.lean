import LoginCard.Toml.Quoted
import LoginCard.Toml.Tree

/-!
# Documents

A document is a sequence of statements, one a line: a header, the header of an array element, or a
key with its value. Reading answers nothing where the text is not TOML; an integer may have any
size here, and who uses a document says which sizes it takes.
-/

namespace LoginCard.Toml

inductive Statement where
  | header (path : List String) (key : String)
  | element (path : List String) (key : String)
  | entry (path : List String) (key : String) (v : Value)

/-- Arrays and inline tables stand at most this deep in one another. -/
def nestingLimit : Nat := 80

/-- A key with points between its parts has at most this many of them. -/
def keyLimit : Nat := 80

/-- Skips blanks, line ends and comments; `inComment` says that a comment has begun. -/
def skipGap? : Bool → List Char → Option (List Char)
  | _, [] => some []
  | _, '\n' :: cs => skipGap? false cs
  | _, '\r' :: '\n' :: cs => skipGap? false cs
  | true, c :: cs => if isControl c ∧ c ≠ '\t' then none else skipGap? true cs
  | false, '#' :: cs => skipGap? true cs
  | false, c :: cs => if isSpace c then skipGap? false cs else some (c :: cs)

/-- Skips blanks on the same line. -/
def skipSpaces? (cs : List Char) : Option (List Char) := some (cs.dropWhile isSpace)

/-- The end of a statement: blanks, perhaps a comment, and a line end or the end of the text. -/
def lineEnd? : Bool → List Char → Option (List Char)
  | _, [] => some []
  | _, '\n' :: cs => some cs
  | _, '\r' :: '\n' :: cs => some cs
  | true, c :: cs => if isControl c ∧ c ≠ '\t' then none else lineEnd? true cs
  | false, '#' :: cs => lineEnd? true cs
  | false, c :: cs => if isSpace c then lineEnd? false cs else none

def isBareKeyChar (c : Char) : Bool := c.isAlphanum || c = '-' || c = '_'

def simpleKey? (cs : List Char) : Option (String × List Char) :=
  match cs with
  | '"' :: _ => shortString? cs
  | '\'' :: _ => shortString? cs
  | _ =>
    let key := cs.takeWhile isBareKeyChar
    if key = [] then none else some (String.ofList key, cs.dropWhile isBareKeyChar)

/-- At most `limit` keys with points between them: the path, the last key, and what follows. -/
def dottedKey? : Nat → List Char → Option (List String × String × List Char)
  | 0, _ => none
  | limit + 1, cs => do
    let (key, cs) ← simpleKey? cs
    match cs.dropWhile isSpace with
    | '.' :: rest => do
      let (path, last, rest) ← dottedKey? limit (rest.dropWhile isSpace)
      some (key :: path, last, rest)
    | rest => some ([], key, rest)

def endsWord (c : Char) : Bool := "\r\n#,[]\x7b\x7d=".toList.contains c

def isQuote (c : Char) : Bool := c = '"' || c = '\''

/-- The word at the front. Blanks belong to it where it goes on behind them, as between a date and a
time. `inside` says that the character before is of the word too: a quote does not end a word, but
none begins with one. -/
def cutWord (inside : Bool) : List Char → List Char × List Char
  | [] => ([], [])
  | c :: cs =>
    if isSpace c then
      match cutWord false cs with
      | ([], _) => ([], c :: cs)
      | (more, rest) => (c :: more, rest)
    else if endsWord c || (isQuote c && !inside) then ([], c :: cs)
    else
      let (more, rest) := cutWord true cs
      (c :: more, rest)

def plainValue? (cs : List Char) : Option (Value × List Char) :=
  match cs with
  | '"' :: _ => (string? cs).map fun (text, rest) => (.string text, rest)
  | '\'' :: _ => (string? cs).map fun (text, rest) => (.string text, rest)
  | _ =>
    let (word, rest) := cutWord false cs
    (scalar? word).map (·, rest)

/-- The items of an array, for the text behind its bracket or behind a comma. -/
def items? (value : List Char → Option (Value × List Char)) :
    Nat → List Char → Option (List Value × List Char)
  | 0, _ => none
  | fuel + 1, cs => do
    match ← skipGap? false cs with
    | ']' :: rest => some ([], rest)
    | cs =>
      let (v, cs) ← value cs
      match ← skipGap? false cs with
      | ',' :: rest => do
        let (vs, rest) ← items? value fuel rest
        some (v :: vs, rest)
      | ']' :: rest => some ([v], rest)
      | _ => none

/-- A key, `=` and a value; `gap` skips what may stand around the `=`. -/
def keyAndValue? (gap : List Char → Option (List Char))
    (value : List Char → Option (Value × List Char)) (cs : List Char) :
    Option ((List String × String × Value) × List Char) := do
  let (path, key, cs) ← dottedKey? keyLimit cs
  let cs ← expect? '=' (← gap cs)
  let (v, cs) ← value (← gap cs)
  some ((path, key, v), cs)

/-- The entries of an inline table, added to those that were read before. -/
def fields? (value : List Char → Option (Value × List Char)) :
    Nat → Branches → List Char → Option (Branches × List Char)
  | 0, _, _ => none
  | fuel + 1, es, cs => do
    match ← skipGap? false cs with
    | '}' :: rest => some (es, rest)
    | cs =>
      let ((path, key, v), cs) ← keyAndValue? (skipGap? false) value cs
      let es ← es.addLeaf path key v
      match ← skipGap? false cs with
      | ',' :: rest => fields? value fuel es rest
      | '}' :: rest => some (es, rest)
      | _ => none

/-- A value that holds others at most `depth` deep. -/
def value? : Nat → List Char → Option (Value × List Char)
  | 0, cs => plainValue? cs
  | depth + 1, cs =>
    match cs with
    | '[' :: rest =>
      (items? (value? depth) (rest.length + 1) rest).map fun (vs, rest) => (.array vs, rest)
    | '{' :: rest =>
      (fields? (value? depth) (rest.length + 1) [] rest).map fun (es, rest) =>
        (.table (branchesValue es), rest)
    | _ => plainValue? cs

def headerKey? (cs : List Char) : Option (List String × String × List Char) := do
  let (path, key, cs) ← dottedKey? keyLimit (cs.dropWhile isSpace)
  let cs ← expect? ']' (cs.dropWhile isSpace)
  some (path, key, cs)

def statement? (cs : List Char) : Option (Statement × List Char) :=
  match cs with
  | '[' :: '[' :: rest => do
    let (path, key, rest) ← headerKey? rest
    let rest ← expect? ']' rest
    some (.element path key, rest)
  | '[' :: rest => do
    let (path, key, rest) ← headerKey? rest
    some (.header path key, rest)
  | _ => do
    let ((path, key, v), rest) ← keyAndValue? skipSpaces? (value? nestingLimit) cs
    some (.entry path key v, rest)

def statements? : Nat → List Char → Option (List Statement)
  | 0, _ => none
  | fuel + 1, cs => do
    match ← skipGap? false cs with
    | [] => some []
    | cs => do
      let (s, cs) ← statement? cs
      let cs ← lineEnd? false cs
      let ss ← statements? fuel cs
      some (s :: ss)

/-- A document in the making: its tables, and the header that entries are added under. -/
structure Draft where
  root : Branches
  header : List String

def Draft.add (d : Draft) : Statement → Option Draft
  | .header path key => (d.root.openTable path key).map (⟨·, path ++ [key]⟩)
  | .element path key => (d.root.openElement path key).map (⟨·, path ++ [key]⟩)
  | .entry path key v =>
    (d.root.atHeader (fun es => es.addLeaf path key v) d.header).map (⟨·, d.header⟩)

def ofStatements? (ss : List Statement) : Option Table :=
  (ss.foldlM Draft.add ⟨[], []⟩).map fun d => branchesValue d.root

/-- One byte order mark in front is not part of the text. -/
def dropMark : List Char → List Char
  | c :: cs => if c = '\ufeff' then cs else c :: cs
  | [] => []

/-- Reads a document. -/
def Table.parse? (text : String) : Option Table :=
  let cs := dropMark text.toList
  (statements? (cs.length + 1) cs).bind ofStatements?

end LoginCard.Toml
