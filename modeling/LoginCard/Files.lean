import LoginCard.Fault
import LoginCard.Text.Blank

/-!
# A tree of files

A place is the list of names that leads to it from the root, which is always a directory. Paths are
texts: names between slashes, `.` for the directory itself and `..` for the one above it. They are
followed name by name, from the root if they start with a slash and else from the working directory,
so what fails is the first name that cannot be entered.
-/

namespace LoginCard

inductive FileEntry where
  | directory
  | file (bytes : ByteArray)

/-- What stands at each place, and the working directory. -/
structure FileTree where
  base : List String
  entry : List String → Option FileEntry

namespace FileTree

def empty : FileTree := ⟨[], fun _ => none⟩

def look (t : FileTree) (place : List String) : Option FileEntry :=
  if place = [] then some .directory else t.entry place

def set (t : FileTree) (place : List String) (e : FileEntry) : FileTree :=
  { t with entry := fun p => if p = place then some e else t.entry p }

/-- Takes away whatever stands at a place or below it. -/
def remove (t : FileTree) (place : List String) : FileTree :=
  { t with entry := fun p => if place.isPrefixOf p then none else t.entry p }

/-- Takes away whatever stands below a place. -/
def removeBelow (t : FileTree) (place : List String) : FileTree :=
  { t with entry := fun p => if place.isPrefixOf p ∧ p ≠ place then none else t.entry p }

theorem look_set (t : FileTree) (place p : List String) (e : FileEntry) (h : place ≠ []) :
    (t.set place e).look p = if p = place then some e else t.look p := by
  unfold look set
  by_cases hp : p = []
  · simp [hp, Ne.symm h]
  · simp [hp]

end FileTree

/-- The names in a path, `.` and `..` among them. -/
def pathNames (path : String) : List String :=
  ((Text.pieces '/' path.toList).filter (· ≠ [])).map String.ofList

def isAbsolute (path : String) : Bool := path.toList.head? = some '/'

/-- A path that ends in a slash asks for a directory. -/
def asksDirectory (path : String) : Bool := path.toList.getLast? = some '/'

/-- The path of what has that name in a directory. -/
def below (directory name : String) : String :=
  if directory = "" ∨ asksDirectory directory = true then directory ++ name
  else directory ++ "/" ++ name

/-- Names are limited by their size in bytes, and so are whole paths. -/
def isTooLong (name : String) : Bool := name.utf8ByteSize > 255

def isPathTooLong (path : String) : Bool := path.utf8ByteSize > 4095

namespace FileTree

/-- Where a path starts from. -/
def start (t : FileTree) (path : String) : List String := if isAbsolute path then [] else t.base

/-- One name further, if that leads to a directory. -/
def enter (t : FileTree) (here : List String) (name : String) : Except FileFault (List String) :=
  if name = "." then .ok here
  else if name = ".." then .ok here.dropLast
  else if isTooLong name then .error .nameTooLong
  else match t.look (here ++ [name]) with
    | none => .error .missing
    | some .directory => .ok (here ++ [name])
    | some (.file _) => .error .notDirectory

/-- The places that a path leads through, were all of them directories. -/
def placesAlong (here : List String) : List String → List (List String)
  | [] => []
  | name :: names =>
    let next :=
      if name = "." then here else if name = ".." then here.dropLast else here ++ [name]
    next :: placesAlong next names

def placesOf (t : FileTree) (path : String) : List (List String) :=
  placesAlong (t.start path) (pathNames path)

def walk (t : FileTree) : List String → List String → Except FileFault (List String)
  | here, [] => .ok here
  | here, name :: names =>
    match t.enter here name with
    | .ok next => t.walk next names
    | .error e => .error e

/-- Follows a path up to its last name: where that leads, and the name. A path to a directory by its
form (`.`, `..`, the root) has no last name for a file. -/
def approach (t : FileTree) (path : String) : Except FileFault (List String × String) :=
  if path = "" then .error .missing
  else if path.toList.contains '\x00' then .error .nulInName
  else if isPathTooLong path then .error .nameTooLong
  else
    let names := pathNames path
    match names.getLast? with
    | none => .error .isDirectory
    | some last =>
      match t.walk (t.start path) names.dropLast with
      | .error e => .error e
      | .ok here =>
        if last = "." ∨ last = ".." then .error .isDirectory else .ok (here, last)

/-- The place that a path leads to. -/
def locate (t : FileTree) (path : String) : Except FileFault (List String) :=
  match t.approach path with
  | .error e => .error e
  | .ok (here, last) => if isTooLong last then .error .nameTooLong else .ok (here ++ [last])

/-- What a path leads to, and its place. A file is not there for a path that asks for a directory. -/
def find (t : FileTree) (path : String) : Except FileFault (List String × FileEntry) :=
  match t.locate path with
  | .error e => .error e
  | .ok place =>
    match t.look place with
    | none => .error .missing
    | some .directory => .ok (place, .directory)
    | some (.file bytes) =>
      if asksDirectory path then .error .notDirectory else .ok (place, .file bytes)

/-- Takes away what a path leads to. A directory whose path ends in `.` or `..` is only emptied. -/
def clear (t : FileTree) (path : String) : FileTree :=
  match t.find path with
  | .ok (place, _) => t.remove place
  | .error .isDirectory =>
    match t.walk (t.start path) (pathNames path) with
    | .ok place => t.removeBelow place
    | .error _ => t
  | .error _ => t

def readBytes (t : FileTree) (path : String) : Except FileFault ByteArray :=
  match t.find path with
  | .error e => .error e
  | .ok (_, .directory) => .error .isDirectory
  | .ok (_, .file bytes) => .ok bytes

def readText (t : FileTree) (path : String) : Except FileFault String :=
  match t.readBytes path with
  | .error e => .error e
  | .ok bytes =>
    match String.fromUTF8? bytes with
    | some text => .ok text
    | none => .error .notText

/-- Makes the directories along the names that are missing. Those made before a failure stay. A file
that stands where a directory is wanted is in the way. -/
def makeAlong (t : FileTree) (here : List String) : List String → Except FileFault Unit × FileTree
  | [] => (.ok (), t)
  | name :: names =>
    match t.enter here name with
    | .ok next => t.makeAlong next names
    | .error .missing =>
      (t.set (here ++ [name]) .directory).makeAlong (here ++ [name]) names
    | .error .notDirectory => (.error .exists, t)
    | .error e => (.error e, t)

/-- Makes the directories that a file at the path needs. -/
def makeParents (t : FileTree) (path : String) : Except FileFault Unit × FileTree :=
  t.makeAlong (t.start path) ((pathNames path).filter (· ≠ ".")).dropLast

def makeDirectories (t : FileTree) (path : String) : Except FileFault Unit × FileTree :=
  t.makeAlong (t.start path) (pathNames path)

/-- Replaces a file or makes it; a path that asks for a directory is refused whatever stands there.
A failing write changes nothing. -/
def writeBytes (t : FileTree) (path : String) (bytes : ByteArray) :
    Except FileFault Unit × FileTree :=
  match t.approach path with
  | .error e => (.error e, t)
  | .ok (here, last) =>
    if asksDirectory path then (.error .isDirectory, t)
    else if isTooLong last then (.error .nameTooLong, t)
    else match t.look (here ++ [last]) with
      | some .directory => (.error .isDirectory, t)
      | _ => (.ok (), t.set (here ++ [last]) (.file bytes))

end FileTree

end LoginCard
