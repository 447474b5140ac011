import LoginCard.Fault
import LoginCard.Language.Strings
import LoginCard.Text.Quoted
import LoginCard.Toml.Value

/-!
# Records of a choice

A chosen language is stored as a record of its tag and the version of the strings that it was chosen
under. A record is a table with those two keys, whatever else it holds, or an array of the two; the
version may be missing, and has 32 bits.
-/

namespace LoginCard

open Toml (Value)

/-- How a fault names a value of the wrong type. -/
def describe : Value → String
  | .string text => "string " ++ Text.quoted text
  | .integer n => "integer `" ++ toString n ++ "`"
  | .float x => "floating point `" ++ x.positional "NaN" ++ "`"
  | .unvalued word => "number `" ++ word ++ "`"
  | .boolean b => "boolean `" ++ toString b ++ "`"
  | .dateTime d => "string " ++ Text.quoted d.text
  | .array _ => "sequence"
  | .table _ => "map"

/-- A date-time counts as its text. -/
def textOf? : Value → Option String
  | .string text => some text
  | .dateTime d => some d.text
  | _ => none

def decodeVersion : Value → Except ShapeFault UInt32
  | .integer n =>
    if 0 ≤ n ∧ n < UInt32.size then .ok (UInt32.ofNat n.toNat)
    else .error (.wrongValue ("integer `" ++ toString n ++ "`") "u32")
  | v => .error (.wrongType (describe v) "u32")

/-- A record read with its own reading of the tag, and its own name in faults. -/
structure RecordReader (α : Type) where
  name : String
  tag : Value → Except ShapeFault α

namespace RecordReader

variable {α : Type} (r : RecordReader α)

/-- A fault of a field of a table names the field. -/
def inField {β : Type} (name : String) : Except ShapeFault β → Except DecodeFault β
  | .ok b => .ok b
  | .error e => .error ⟨e, some name⟩

def plain {β : Type} : Except ShapeFault β → Except DecodeFault β
  | .ok b => .ok b
  | .error e => .error ⟨e, none⟩

/-- Fields are read in the order of their keys, and only then is a field missed. -/
def ofTable (entries : Toml.Table) : Except DecodeFault (α × Option UInt32) := do
  let tag ← (Keyed.find? "locale" entries).mapM fun v => inField "locale" (r.tag v)
  let version ← (Keyed.find? "version" entries).mapM fun v => inField "version" (decodeVersion v)
  match tag with
  | some tag => .ok (tag, version)
  | none => .error ⟨.missingField "locale", none⟩

def ofArray : List Value → Except DecodeFault (α × Option UInt32)
  | [] => .error ⟨.tooShort r.name, none⟩
  | [tag] => do
    let tag ← plain (r.tag tag)
    .ok (tag, none)
  | tag :: version :: rest => do
    let tag ← plain (r.tag tag)
    let version ← plain (decodeVersion version)
    if rest.isEmpty then .ok (tag, some version)
    else .error ⟨.tooLong (rest.length + 2), none⟩

def read : Value → Except DecodeFault (α × Option UInt32)
  | .table entries => r.ofTable entries
  | .array items => r.ofArray items
  | v => .error ⟨.wrongType (describe v) r.name, none⟩

end RecordReader

/-- Takes any text for a tag. -/
def rawRecord : RecordReader String where
  name := "struct RawRecord"
  tag v := match textOf? v with
    | some text => .ok text
    | none => .error (.wrongType (describe v) "a string")

/-- Takes the tags of the languages alone. -/
def choiceRecord : RecordReader Language where
  name := "struct PersistedLocale"
  tag v := match textOf? v with
    | some text =>
      match Language.ofTag? text with
      | some l => .ok l
      | none => .error (.unknownVariant text)
    | none => .error (.wrongType (describe v) "string or table")

structure Choice where
  language : Language
  version : Option UInt32
  deriving DecidableEq, Repr

namespace Choice

def current (l : Language) : Choice := ⟨l, some Strings.version⟩

def encode (c : Choice) : Value :=
  .table <| ("locale", .string c.language.tag) ::
    match c.version with
    | some n => [("version", .integer n.toNat)]
    | none => []

def decode (v : Value) : Except DecodeFault Choice :=
  (choiceRecord.read v).map fun (l, version) => ⟨l, version⟩

end Choice

end LoginCard
