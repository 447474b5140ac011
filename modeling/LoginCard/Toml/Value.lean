import LoginCard.Decimal.Text
import LoginCard.Keyed
import LoginCard.Toml.DateTime

/-!
# TOML values

Text, numbers, truth values, date-times, and arrays and tables of values. A document may also hold a
word that looks like a number and has no value, such as a float that overflows. It is kept as it is
written, since it is a fault only where a reader of the document comes to look at it.
-/

namespace LoginCard.Toml

inductive Value where
  | string (text : String)
  | integer (n : Int)
  | float (x : Binary64)
  | unvalued (word : String)
  | boolean (b : Bool)
  | dateTime (d : DateTime)
  | array (items : List Value)
  | table (entries : List (String × Value))
  deriving Repr

/-- The entries of a whole document, or of any other table. -/
abbrev Table := Keyed Value

mutual

/-- Whether every integer in the value lies between `low` and `high`, and no number in it is without
a value. -/
def Value.within (low high : Int) : Value → Bool
  | .integer n => low ≤ n && n ≤ high
  | .unvalued _ => false
  | .array items => itemsWithin low high items
  | .table entries => entriesWithin low high entries
  | _ => true

def itemsWithin (low high : Int) : List Value → Bool
  | [] => true
  | v :: rest => v.within low high && itemsWithin low high rest

def entriesWithin (low high : Int) : List (String × Value) → Bool
  | [] => true
  | (_, v) :: rest => v.within low high && entriesWithin low high rest

end

end LoginCard.Toml
