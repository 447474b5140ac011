/-!
# Faults

What can go wrong, as causes, and the wording of each.
-/

namespace LoginCard

/-- Why a stored choice of language does not count. -/
inductive LocaleFault where
  | unsupportedTag (text : String)
  | nothingStored
  | stale (stored current : UInt32)
  deriving DecidableEq, Repr

def LocaleFault.message : LocaleFault → String
  | .unsupportedTag text => "unsupported locale tag: " ++ text
  | .nothingStored => "no persisted locale found"
  | .stale stored current =>
    "persisted locale version " ++ toString stored ++ " is older than " ++ toString current

/-- Why a file cannot be read or written. -/
inductive FileFault where
  | missing
  | isDirectory
  | notDirectory
  | exists
  | nameTooLong
  | nulInName
  | notText
  | injected
  deriving DecidableEq, Repr

def FileFault.message : FileFault → String
  | .missing => "No such file or directory (os error 2)"
  | .isDirectory => "Is a directory (os error 21)"
  | .notDirectory => "Not a directory (os error 20)"
  | .exists => "File exists (os error 17)"
  | .nameTooLong => "File name too long (os error 36)"
  | .nulInName => "file name contained an unexpected NUL byte"
  | .notText => "stream did not contain valid UTF-8"
  | .injected => "fault"

/-- Why a stored value is not a record. `expected` names what was looked for. -/
inductive ShapeFault where
  | wrongType (found expected : String)
  | wrongValue (found expected : String)
  | missingField (name : String)
  | unknownVariant (found : String)
  | tooShort (expected : String)
  | tooLong (length : Nat)
  deriving DecidableEq, Repr

/-- A shape fault together with the field that it was met in. -/
structure DecodeFault where
  cause : ShapeFault
  field : Option String
  deriving DecidableEq, Repr

def ShapeFault.message : ShapeFault → String
  | .wrongType found expected => "invalid type: " ++ found ++ ", expected " ++ expected
  | .wrongValue found expected => "invalid value: " ++ found ++ ", expected " ++ expected
  | .missingField name => "missing field `" ++ name ++ "`"
  | .unknownVariant found => "unknown variant `" ++ found ++ "`, expected `en_US` or `ru_RU`"
  | .tooShort expected => "invalid length 0, expected " ++ expected ++ " with 2 elements"
  | .tooLong length =>
    "invalid length " ++ toString length ++ ", expected fewer elements in array"

def DecodeFault.message (f : DecodeFault) : String :=
  f.cause.message ++ "\n" ++
    match f.field with
    | some name => "in `" ++ name ++ "`\n"
    | none => ""

inductive StorageFault where
  | read (path : String) (cause : FileFault)
  | write (path : String) (cause : FileFault)
  | decode (key : String) (cause : DecodeFault)
  deriving DecidableEq, Repr

def StorageFault.message : StorageFault → String
  | .read path cause => "failed to read " ++ path ++ ": " ++ cause.message
  | .write path cause => "failed to write " ++ path ++ ": " ++ cause.message
  | .decode key cause => "stored value under `" ++ key ++ "` is malformed: " ++ cause.message

/-- Why the stored choice cannot be used at the start. -/
inductive RestoreFault where
  | locale (cause : LocaleFault)
  | storage (cause : StorageFault)
  deriving DecidableEq, Repr

def RestoreFault.message : RestoreFault → String
  | .locale cause => cause.message
  | .storage cause => cause.message

inductive FormFault where
  | missingUsername
  | missingPassword
  deriving DecidableEq, Repr

def FormFault.message : FormFault → String
  | .missingUsername => "username is required"
  | .missingPassword => "password is required"

end LoginCard
