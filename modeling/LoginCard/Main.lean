import LoginCard.Program

/-!
# The command

Looks up on disk the files that a run may touch, runs, and writes back what the run changed.
-/

namespace LoginCard.Command

def textOfPlace (place : List String) : String := "/" ++ "/".intercalate place

/-- Notes what stands on disk at a place. Error 20 says that there is a file in the way. -/
def observe (t : FileTree) (place : List String) : IO FileTree := do
  try
    let bytes ← IO.FS.readBinFile (textOfPlace place)
    return t.set place (.file bytes)
  catch
    | .noFileOrDirectory .. => return t
    | .inappropriateType _ code _ => return if code = 20 then t else t.set place .directory
    | _ => return t.set place .directory

/-- Writes what a run made of a place. -/
def writeBack (before after : FileTree) (place : List String) : IO Unit := do
  match before.look place, after.look place with
  | none, some .directory => IO.FS.createDir (textOfPlace place)
  | none, some (.file new) => IO.FS.writeBinFile (textOfPlace place) new
  | some (.file old), some (.file new) =>
    if old.toList ≠ new.toList then IO.FS.writeBinFile (textOfPlace place) new
  | _, _ => return

def finish (o : Outcome) : IO UInt32 := do
  IO.print o.output
  IO.eprint o.errors
  return UInt32.ofNat o.code

/-- Where the user keeps files of one kind: in the directory that is set for them, if it is absolute,
and else in one below the home directory. -/
def userDirectory (setting name : String) : IO (Option String) := do
  let set := (← IO.getEnv setting).filter isAbsolute
  let home := (← IO.getEnv "HOME").filter (· ≠ "")
  return set.or (home.map (below · name))

/-- Stands in for the texts of the argument parser, with one line for each. -/
def usage (_ : List String) : UsageFault → String
  | .unknownArgument => "error: unexpected argument found\n"
  | .invalidValue => "error: a value is required\n"
  | .tooManyValues => "error: unexpected value found\n"
  | .conflict => "error: arguments cannot be used together\n"
  | .help => "Usage: login-ui [OPTIONS]\n"
  | .version => Program.version

def start (words : List String) : IO UInt32 := do
  let base := pathNames (← IO.currentDir).toString
  let terminal ← (← IO.getStdout).isTty
  let color := Program.takesColor (← IO.getEnv "CLICOLOR_FORCE") (← IO.getEnv "NO_COLOR")
    (← IO.getEnv "CLICOLOR") terminal
  let bare : Surroundings :=
    { files := { FileTree.empty with base }
      configDirectory := ← userDirectory "XDG_CONFIG_HOME" ".config"
      dataDirectory := ← userDirectory "XDG_DATA_HOME" ".local/share"
      color
      usage }
  match CommandLine.parse words with
  | .error _ => finish (Program.run words bare)
  | .ok a =>
    let configPlaces := ((Program.configPath a bare).map bare.files.placesOf).getD []
    let configured := { bare with files := ← configPlaces.foldlM observe bare.files }
    let places := ((Program.storagePath a configured).map bare.files.placesOf).getD []
    let s := { configured with files := ← places.foldlM observe configured.files }
    let o := Program.run words s
    places.forM (writeBack s.files o.files)
    finish o

end LoginCard.Command

def main (words : List String) : IO UInt32 := LoginCard.Command.start words
