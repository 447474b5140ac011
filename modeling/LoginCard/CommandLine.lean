/-!
# The command line

Six options with a value and two flags. A value stands behind `=` or in the next word; the options
with a letter also take it right behind the letter. The next word is no value if it starts with `-`,
except `-` alone. Nothing may be given twice, and nothing else may be given.
-/

namespace LoginCard

inductive UsageFault where
  | unknownArgument
  | invalidValue
  | tooManyValues
  | conflict
  | help
  | version
  deriving DecidableEq, Repr

inductive ValueOption where
  | path | locale | username | password | config | storage
  deriving DecidableEq, Repr

inductive Flag where
  | noPersist | noColor
  deriving DecidableEq, Repr

/-- One thing that the command line says. -/
inductive Occurrence where
  | value (o : ValueOption) (text : String)
  | flag (f : Flag)
  deriving DecidableEq, Repr

def ValueOption.ofName? (name : String) : Option ValueOption :=
  if name = "path" then some .path
  else if name = "locale" then some .locale
  else if name = "username" then some .username
  else if name = "password" then some .password
  else if name = "config" then some .config
  else if name = "storage" then some .storage
  else none

def Flag.ofName? (name : String) : Option Flag :=
  if name = "no-persist" then some .noPersist
  else if name = "no-color" then some .noColor
  else none

structure Arguments where
  path : String
  locale : Option String
  username : Option String
  password : Option String
  config : Option String
  storage : Option String
  noPersist : Bool
  noColor : Bool
  deriving DecidableEq, Repr

def Arguments.wantsSubmit (a : Arguments) : Bool := a.username.isSome || a.password.isSome

namespace CommandLine

/-- What one word means by itself. -/
inductive Word where
  | value (o : ValueOption) (text : String)
  | needsValue (o : ValueOption)
  | flag (f : Flag)
  | endOfOptions
  | fault (e : UsageFault)
  deriving DecidableEq, Repr

/-- A word that starts with two dashes, for what follows them. -/
def longWord (cs : List Char) : Word :=
  let name := String.ofList (cs.takeWhile (· ≠ '='))
  let attached := cs.dropWhile (· ≠ '=')
  match ValueOption.ofName? name with
  | some o =>
    match attached with
    | [] => .needsValue o
    | _ :: text => .value o (String.ofList text)
  | none =>
    let plain (w : Word) : Word := if attached = [] then w else .fault .tooManyValues
    match Flag.ofName? name with
    | some f => plain (.flag f)
    | none =>
      if name = "help" then plain (.fault .help)
      else if name = "version" then plain (.fault .version)
      else .fault .unknownArgument

/-- The text behind a letter; one `=` in front of it is not part of it. -/
def letterValue (o : ValueOption) : List Char → Word
  | [] => .needsValue o
  | c :: cs => .value o (String.ofList (if c = '=' then cs else c :: cs))

/-- A word that starts with one dash, for what follows it. -/
def shortWord : List Char → Word
  | 'l' :: cs => letterValue .locale cs
  | 'u' :: cs => letterValue .username cs
  | 'p' :: cs => letterValue .password cs
  | 'h' :: _ => .fault .help
  | 'V' :: _ => .fault .version
  | _ => .fault .unknownArgument

def classify (word : String) : Word :=
  match word.toList with
  | ['-', '-'] => .endOfOptions
  | '-' :: '-' :: cs => longWord cs
  | '-' :: cs => shortWord cs
  | _ => .fault .unknownArgument

/-- A file may not be named by the empty text. -/
def accepts (o : ValueOption) (text : String) : Bool :=
  text ≠ "" || (o ≠ .config && o ≠ .storage)

def isValue (word : String) : Bool := word = "-" || word.toList.head? ≠ some '-'

/-- What an occurrence is an occurrence of. -/
def subject : Occurrence → ValueOption ⊕ Flag
  | .value o _ => .inl o
  | .flag f => .inr f

/-- Why something is not taken: it was given before, or its text is no value for it. -/
def refusal? (given : List (ValueOption ⊕ Flag)) (o : Occurrence) : Option UsageFault :=
  if given.any (· = subject o) then some .conflict
  else match o with
    | .value o text => if accepts o text then none else some .invalidValue
    | .flag _ => none

/-- An option is taken when the next word is looked at. That word is told first if nobody knows it,
or if it is a flag with a value, and otherwise the fault of the option. -/
def overruled (e : UsageFault) : List String → UsageFault
  | [] => e
  | word :: rest =>
    match classify word with
    | .endOfOptions => if rest = [] then e else .unknownArgument
    | .fault .unknownArgument => .unknownArgument
    | .fault .tooManyValues => .tooManyValues
    | _ => e

/-- Reads the words from left to right, after those that gave these; the first faulty one decides. -/
def occurrences (given : List (ValueOption ⊕ Flag)) :
    List String → Except UsageFault (List Occurrence)
  | [] => .ok []
  | word :: rest =>
    match classify word with
    | .fault e => .error e
    | .endOfOptions => if rest = [] then .ok [] else .error .unknownArgument
    | .flag f =>
      match refusal? given (.flag f) with
      | some e => .error e
      | none => (occurrences (.inr f :: given) rest).map (.flag f :: ·)
    | .value o text =>
      match refusal? given (.value o text) with
      | some e => .error e
      | none => (occurrences (.inl o :: given) rest).map (.value o text :: ·)
    | .needsValue o =>
      match rest with
      | [] => .error .invalidValue
      | text :: rest =>
        if isValue text = false then .error (overruled .invalidValue (text :: rest))
        else match refusal? given (.value o text) with
          | some e => .error (overruled e rest)
          | none => (occurrences (.inl o :: given) rest).map (.value o text :: ·)

def valueOf (o : ValueOption) : List Occurrence → Option String
  | [] => none
  | .value o' text :: rest => if o = o' then some text else valueOf o rest
  | .flag _ :: rest => valueOf o rest

def has (f : Flag) (os : List Occurrence) : Bool := os.contains (.flag f)

/-- Whether a storage is given together with keeping nothing. -/
def conflicts (os : List Occurrence) : Bool :=
  has .noPersist os && (valueOf .storage os).isSome

def arguments (os : List Occurrence) : Arguments :=
  { path := (valueOf .path os).getD "/"
    locale := valueOf .locale os
    username := valueOf .username os
    password := valueOf .password os
    config := valueOf .config os
    storage := valueOf .storage os
    noPersist := has .noPersist os
    noColor := has .noColor os }

def parse (words : List String) : Except UsageFault Arguments :=
  match occurrences [] words with
  | .error e => .error e
  | .ok os => if conflicts os then .error .conflict else .ok (arguments os)

end CommandLine

end LoginCard
