import LoginCard.LogRecord

/-!
# Routes

Two routes. The home route is guarded: a visitor who is not signed in is sent to the login route.
-/

namespace LoginCard

inductive Guarded (V : Type) where
  | render (view : V)
  | redirect (path : String)
  deriving DecidableEq, Repr

def guardView {V : Type} (authenticated : Bool) (view : V) (fallback : String) : Guarded V :=
  if authenticated then .render view else .redirect fallback

inductive Route where
  | home
  | login
  deriving DecidableEq, Repr

inductive Resolution where
  | show (route : Route)
  | redirect (path : String)
  | notFound (path : String)
  deriving DecidableEq, Repr

namespace Route

def path : Route → String
  | .home => "/"
  | .login => "/login"

def name : Route → String
  | .home => "Home"
  | .login => "Login"

def ofPath? (text : String) : Option Route :=
  if text = "/" then some .home
  else if text = "/login" then some .login
  else none

def resolve (text : String) (authenticated : Bool) : Resolution :=
  match ofPath? text with
  | some .home =>
    match guardView authenticated home login.path with
    | .render route => .show route
    | .redirect path => .redirect path
  | some route => .show route
  | none => .notFound text

/-- Follows at most `hops` redirects, and logs each. -/
def follow (authenticated : Bool) : Nat → String → Option Route × List LogRecord
  | 0, _ => (none, [])
  | hops + 1, text =>
    match resolve text authenticated with
    | .show route => (some route, [])
    | .redirect target =>
      let (route, records) := follow authenticated hops target
      (route, .redirected text target :: records)
    | .notFound _ => (none, [])

/-- With two routes, anything longer than four hops would be a loop. -/
def navigate (text : String) (authenticated : Bool) : Option Route × List LogRecord :=
  follow authenticated 4 text

end Route

end LoginCard
