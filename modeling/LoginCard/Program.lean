import LoginCard.CommandLine
import LoginCard.Config
import LoginCard.World.Dispatch

/-!
# The program

One run: arguments and configuration choose the storage, the language is restored from it, and the
page of the route is printed. A requested language is switched to and the page printed again. A form
with a username or a password is submitted at the end.
-/

namespace LoginCard

/-- What a run finds: the files, the directories where the user keeps configurations and data, if
there are such, and whether its output takes colour. What is printed for words that are refused, and
for help, is not this program's own. -/
structure Surroundings where
  files : FileTree
  configDirectory : Option String
  dataDirectory : Option String
  color : Bool
  usage : List String → UsageFault → String

/-- What a run leaves behind. -/
structure Outcome where
  code : Nat
  output : String
  errors : String
  files : FileTree
  records : List LogRecord

namespace Program

def version : String := "login-ui 0.1.0\n"

/-- Whether output takes colour: it can be forced, or else refused, and otherwise it goes to a
terminal where colour is wanted. -/
def takesColor (forced refused wanted : Option String) (terminal : Bool) : Bool :=
  forced.any (· ≠ "0") || (refused.isNone && terminal && wanted.all (· ≠ "0"))

/-- What is printed on the standard output for words that are no arguments. -/
def usageOutput (words : List String) (s : Surroundings) : UsageFault → String
  | .help => s.usage words .help
  | .version => version
  | _ => ""

/-- A usage fault ends a run before it touches a file. -/
def usageOutcome (words : List String) (s : Surroundings) (e : UsageFault) : Outcome :=
  let answered : Bool := e = .help || e = .version
  { code := if answered then 0 else 2
    output := usageOutput words s e
    errors := if answered then "" else s.usage words e
    files := s.files
    records := [.started] }

def loadConfig (a : Arguments) (s : Surroundings) : Config × List LogRecord :=
  match a.config with
  | some path => Config.load s.dataDirectory s.files path
  | none => Config.loadDefault s.configDirectory s.dataDirectory s.files

/-- The storage of a run: none on disk, the one that the arguments name, or the configured one, if
there is one. -/
def openStorage (a : Arguments) (c : Config) : Medium × List LogRecord :=
  if a.noPersist then (.memory MemoryStorage.empty, [])
  else match a.storage.or c.storagePath with
    | some path => (.file path, [])
    | none => (.memory MemoryStorage.empty, [.noDataDirectory])

def form (a : Arguments) : LoginForm := ⟨a.username.getD "", a.password.getD ""⟩

def painted (color : Bool) (names : List String) (text : String) : String :=
  (Style.ofNames names).paint color text

/-- What is printed for a submitted form: on the standard output, and on the standard error. -/
def submission (color : Bool) (form : LoginForm) : (String × String) × List LogRecord :=
  let (result, records) := Page.submit form .nobody
  match result with
  | .error e => (("", painted color ["red", "bold"] "Invalid form" ++ ": " ++ e.message ++ "\n"), records)
  | .ok answer =>
    let (home, more) := Route.navigate Route.home.path answer.authenticated
    let printed :=
      match home with
      | some .home => (painted color ["green", "bold"] "Signed in" ++ "\n", "")
      | _ => ("", painted color ["red", "bold"] "Authentication failed" ++ "\n")
    (printed, records ++ more)

/-- The warning for a requested language that there is not. -/
def switchWarning (color : Bool) (tag : String) : String :=
  match Language.ofTag? tag with
  | some _ => ""
  | none =>
    painted color ["yellow", "bold"] "Locale not switched" ++ ": " ++
      (LocaleFault.unsupportedTag tag).message ++ "\n"

/-- Asks the store for a language, and runs the cycle that comes of it. -/
def requestLanguage (w : World Empty) (store : Nat) (tag : String) : World Empty :=
  match w.requestLanguage store tag with
  | some (.accepted w c) => w.settle c.store c.state c.due
  | some (.refused w) => w
  | none => w

/-- The strings that a binding shows. -/
def strings (w : World Empty) (binding : Nat) : Strings :=
  match w.bindings[binding]? with
  | some b => b.current
  | none => Language.default.strings

/-- The part of a run on a known route, in a world with one store. -/
def showPages (a : Arguments) (c : Config) (color : Bool) (route : Route) (w : World Empty)
    (store : Nat) : Outcome :=
  let (binding, w) := (w.bind store).getD (0, w)
  let page (w : World Empty) : String :=
    Page.ofRoute route (Template.parse c.cardTemplate) (strings w binding) (form a) color ++ "\n"
  let first := page w
  let (second, warning, w) :=
    match a.locale with
    | none => ("", "", w)
    | some tag =>
      let w := requestLanguage w store tag
      (page w, switchWarning color tag, w)
  let ((answer, complaint), records) :=
    if route = .login ∧ a.wantsSubmit = true then submission color (form a) else (("", ""), [])
  { code := 0
    output := first ++ second ++ answer
    errors := warning ++ complaint
    files := w.files
    records := w.records.toList ++ records }

/-- A run with arguments that were understood. -/
def runWith (a : Arguments) (s : Surroundings) : Outcome :=
  let (c, loading) := loadConfig a s
  let color := s.color && !a.noColor && c.color
  let (medium, opening) := openStorage a c
  let (shelf, w) := (World.empty s.files : World Empty).addShelf (Shelf.new medium)
  let w := w.log (.started :: (loading ++ opening))
  match w.openStore shelf c.defaultLanguage with
  | none => ⟨1, "", "", s.files, w.records.toList⟩
  | some (store, w) =>
    let w := match w.stores[store]? with
      | some st => w.log [.startingIn st.state.value]
      | none => w
    let (route, hops) := Route.navigate a.path false
    let w := w.log hops
    match route with
    | none => ⟨1, "", "Error: no route for " ++ a.path ++ "\n", w.files, w.records.toList⟩
    | some route => showPages a c color route w store

/-- Where a run looks for its configuration, if anywhere. -/
def configPath (a : Arguments) (s : Surroundings) : Option String :=
  a.config.or (Config.defaultPath s.configDirectory)

/-- Where a run keeps the language, if on disk at all. -/
def storagePath (a : Arguments) (s : Surroundings) : Option String :=
  match (openStorage a (loadConfig a s).1).1 with
  | .file path => some path
  | .memory _ => none

def run (words : List String) (s : Surroundings) : Outcome :=
  match CommandLine.parse words with
  | .error e => usageOutcome words s e
  | .ok a => runWith a s

end Program

end LoginCard
