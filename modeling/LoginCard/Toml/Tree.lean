import LoginCard.Toml.Value

/-!
# Growing a document

While a document is read, its tables remember how they came about, because that decides who may add
to them: a header may define a table that other headers only passed through, and a dotted key may
add only to what dotted keys made.
-/

namespace LoginCard.Toml

/-- How a table came about. -/
inductive Origin where
  | header
  | passed
  | dotted
  deriving DecidableEq, Repr

inductive Tree where
  | leaf (v : Value)
  | branch (origin : Origin) (entries : List (String × Tree))
  | elements (tables : List (List (String × Tree)))

abbrev Branches := List (String × Tree)

mutual

def Tree.value : Tree → Value
  | .leaf v => v
  | .branch _ es => .table (branchesValue es)
  | .elements ts => .array (elementsValue ts)

def branchesValue : List (String × Tree) → Table
  | [] => []
  | (k, t) :: rest => Keyed.insert k t.value (branchesValue rest)

def elementsValue : List (List (String × Tree)) → List Value
  | [] => []
  | es :: rest => .table (branchesValue es) :: elementsValue rest

end

namespace Branches

/-- Changes what stands under `key`; `f` is given nothing where nothing stands. -/
def update (key : String) (f : Option Tree → Option Tree) : Branches → Option Branches
  | [] => (f none).map fun t => [(key, t)]
  | (k, t) :: rest =>
    if key = k then (f (some t)).map fun t' => (k, t') :: rest
    else (update key f rest).map ((k, t) :: ·)

/-- Changes the last of the tables of an array. -/
def updateLast (f : Branches → Option Branches) : List Branches → Option (List Branches)
  | [] => none
  | [es] => (f es).map ([·])
  | es :: rest => (updateLast f rest).map (es :: ·)

/-- Changes the table at a path of header keys, making what is missing. -/
def atHeader (f : Branches → Option Branches) : List String → Branches → Option Branches
  | [], es => f es
  | k :: ks, es =>
    update k (fun
      | none => (atHeader f ks []).map (.branch .passed)
      | some (.leaf _) => none
      | some (.branch origin inner) => (atHeader f ks inner).map (.branch origin)
      | some (.elements ts) => (updateLast (atHeader f ks) ts).map .elements) es

/-- Changes the table at a path of dotted keys. The path may not lead through a table with a header
of its own, and its last table has to be one that dotted keys made. -/
def atDotted (f : Branches → Option Branches) : List String → Branches → Option Branches
  | [], es => f es
  | [k], es =>
    update k (fun
      | none => (f []).map (.branch .dotted)
      | some (.branch .dotted inner) => (f inner).map (.branch .dotted)
      | some _ => none) es
  | k :: ks, es =>
    update k (fun
      | none => (atDotted f ks []).map (.branch .dotted)
      | some (.leaf _) => none
      | some (.branch .header _) => none
      | some (.branch origin inner) => (atDotted f ks inner).map (.branch origin)
      | some (.elements ts) => (updateLast (atDotted f ks) ts).map .elements) es

/-- Adds a value under a dotted key; a key that is taken is a fault. -/
def addLeaf (path : List String) (key : String) (v : Value) (es : Branches) : Option Branches :=
  atDotted (update key fun
    | none => some (.leaf v)
    | some _ => none) path es

def openTable (path : List String) (key : String) (es : Branches) : Option Branches :=
  atHeader (update key fun
    | none => some (.branch .header [])
    | some (.branch .passed inner) => some (.branch .header inner)
    | some _ => none) path es

def openElement (path : List String) (key : String) (es : Branches) : Option Branches :=
  atHeader (update key fun
    | none => some (.elements [[]])
    | some (.elements ts) => some (.elements (ts ++ [[]]))
    | some _ => none) path es

end Branches

end LoginCard.Toml
