import LoginCard.Toml.Value

/-!
# Date-times in the shape of tables

A stored document may hold a date-time as a table too: one whose first key is a reserved one, with
the text of the date-time under it. Whatever else that table holds is not looked at. The entries of
the document itself are never taken for a date-time.
-/

namespace LoginCard.Toml

def dateTimeKey : String := "$__toml_private_datetime"

mutual

/-- The value with a date-time for every such table, nothing if one of them has no date-time's text
under the reserved key. -/
def Value.unmask? : Value → Option Value
  | .array items => (unmaskItems? items).map .array
  | .table [] => some (.table [])
  | .table ((k, v) :: rest) =>
    if k = dateTimeKey then
      match v with
      | .string text => (DateTime.ofChars? text.toList).map .dateTime
      | _ => none
    else
      match v.unmask?, unmaskEntries? rest with
      | some v, some rest => some (.table ((k, v) :: rest))
      | _, _ => none
  | v => some v

def unmaskItems? : List Value → Option (List Value)
  | [] => some []
  | v :: rest =>
    match v.unmask?, unmaskItems? rest with
    | some v, some rest => some (v :: rest)
    | _, _ => none

def unmaskEntries? : List (String × Value) → Option (List (String × Value))
  | [] => some []
  | (k, v) :: rest =>
    match v.unmask?, unmaskEntries? rest with
    | some v, some rest => some ((k, v) :: rest)
    | _, _ => none

end

end LoginCard.Toml
