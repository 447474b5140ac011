import LoginCard.Fault
import LoginCard.Language

/-!
# Log records

Everything that is ever logged, as what happened; level and wording are functions of it. No record
holds a password.
-/

namespace LoginCard

inductive LogLevel where
  | error | warn | info | debug | trace
  deriving DecidableEq, Repr

def LogLevel.name : LogLevel → String
  | .error => "ERROR"
  | .warn => "WARN"
  | .info => "INFO"
  | .debug => "DEBUG"
  | .trace => "TRACE"

inductive LogRecord where
  | started
  | startingIn (l : Language)
  | loadingConfig (path : String)
  | noConfigDirectory
  | malformedConfig (path : String)
  | unsupportedConfigTag (cause : LocaleFault) (used : Language)
  | noDataDirectory
  | corruptStorage (path : String)
  | restored (l : Language)
  | nothingStored (used : Language)
  | discarded (cause : LocaleFault) (used : Language)
  | unreadable (cause : StorageFault)
  | notPersisted (l : Language) (cause : StorageFault)
  | refusedSwitch (s : Switch)
  | switched (before after : Language)
  | ignoredSwitch (cause : LocaleFault)
  | refreshed (l : Language)
  | redirected (source target : String)
  | formSubmitted (username : String)
  | loginSubmitted (username : String)
  | answered (authenticated : Bool)
  deriving DecidableEq, Repr

namespace LogRecord

def level : LogRecord → LogLevel
  | started | startingIn _ | nothingStored _ | discarded .. | formSubmitted _
  | loginSubmitted _ => .info
  | noConfigDirectory | malformedConfig _ | unsupportedConfigTag .. | noDataDirectory
  | corruptStorage _ | unreadable _ | notPersisted .. | refusedSwitch _ => .warn
  | loadingConfig _ | restored _ | switched .. | ignoredSwitch _ | redirected .. | answered _ =>
    .debug
  | refreshed _ => .trace

def text : LogRecord → String
  | started => "Logger initialized"
  | startingIn l => "Starting with locale " ++ l.tag
  | loadingConfig path => "Loading config from " ++ path
  | noConfigDirectory => "Config dir not found, using default config"
  | malformedConfig path => "Ignoring malformed config " ++ path
  | unsupportedConfigTag cause used => cause.message ++ " in config, using " ++ used.tag
  | noDataDirectory => "Data dir not found, locale will not be persisted"
  | corruptStorage path => "Storage file " ++ path ++ " is corrupt, ignoring it"
  | restored l => "Restored persisted locale " ++ l.tag
  | nothingStored used => "No persisted locale, using " ++ used.tag
  | discarded cause used =>
    "Discarding persisted locale (" ++ cause.message ++ "), using " ++ used.tag
  | unreadable cause => "Failed to read persisted locale: " ++ cause.message
  | notPersisted l cause => "Failed to persist locale " ++ l.tag ++ ": " ++ cause.message
  | refusedSwitch s => "Ignoring " ++ s.name ++ " dispatched from a locale subscriber"
  | switched before after => "Locale " ++ before.tag ++ " -> " ++ after.tag
  | ignoredSwitch cause => "Ignoring locale switch: " ++ cause.message
  | refreshed l => "Locale binding refreshed to " ++ l.tag
  | redirected source target => "Redirect " ++ source ++ " -> " ++ target
  | formSubmitted username => "Login form submitted: username=" ++ username
  | loginSubmitted username => "Login submitted for " ++ username
  | answered authenticated =>
    "Auth provider answered AuthFlag \x7b is_authenticated: " ++ toString authenticated ++ " \x7d"

end LogRecord

end LoginCard
