import LoginCard.Page
import LoginCard.World.Dispatch

/-!
# Scripts

A script is a list of steps on named objects. A subscriber's reaction is a script too. Names are
looked up when a step is performed, so a reaction meets whatever bears the name by then.
-/

namespace LoginCard.Session

inductive Step where
  | plantFile (path : String) (content : Option FileEntry)
  | viewFile (path : String)
  | clearFile (path : String)
  | storage (name : String) (path : Option String) (getFails setFails : Bool)
  | get (storage key : String)
  | set (storage key : String) (v : Toml.Value)
  | calls (storage : String)
  | save (storage : String) (l : Language)
  | load (storage : String)
  | restore (storage : String) (fallback : Language)
  | newStore (name : String) (l : Language)
  | openStore (name storage : String) (fallback : Language)
  | cloneStore (store name : String)
  | dropStore (store : String)
  | dispatch (store : String) (s : Switch)
  | setLocale (store tag : String)
  | locale (store : String)
  | describeStore (store : String)
  | subscribe (store name : String) (reaction : List Step)
  | unsubscribe (subscription : String)
  | dropSubscription (subscription : String)
  | describeSubscription (subscription : String)
  | snapshot (store name : String)
  | freshState (l : Language) (name : String)
  | sameState (first second : String)
  | selector (name : String) (button : Bool)
  | select (selector state name : String)
  | sameOutput (first second : String)
  | bind (store name : String)
  | binding (binding : String)
  | dropBinding (binding : String)
  | page (store name : String) (template : String)
  | fill (page : String) (username password : Option String)
  | render (page : String)
  | renderPath (page path : String) (authenticated : Bool)
  | pageInfo (page : String)
  | submit (page : String) (accept : Bool)
  | dropPage (page : String)
  | color (on : Bool)
  | unsupported (label : String) (cause : LocaleFault)
  | unreadable (label : String)

/-- What a subscriber runs: its steps, under the name that it was given. -/
structure Reaction where
  name : String
  steps : List Step

/-- What a selector of a session picks out of a language. -/
inductive Picked where
  | strings (s : Strings)
  | text (s : String)
  deriving DecidableEq, Repr

inductive Fault where
  | locale (cause : LocaleFault)
  | storage (cause : StorageFault)
  | form (cause : FormFault)
  deriving DecidableEq, Repr

inductive Reply where
  | done
  | invalid
  | fault (cause : Fault)
  | flag (b : Bool)
  | language (l : Language)
  | slot (v : Option Toml.Value)
  | calls (gets sets : Nat)
  | file (content : Option FileEntry)
  | text (t : String)
  | strings (s : Strings)
  | compared (same equal : Bool)
  | picked (p : Picked) (computations : Nat)
  | bound (l : Language) (renders : Nat)
  | page (s : Strings) (renders : Nat) (form : LoginForm)
  | shown (t : Option String)
  | submitted (authenticated : Bool) (seen : List Credentials) (home : Option Route)

def Fault.ofRestore : RestoreFault → Fault
  | .locale cause => .locale cause
  | .storage cause => .storage cause

end LoginCard.Session
