import LoginCard.Files
import LoginCard.LogRecord
import LoginCard.Page
import LoginCard.Toml.Document

/-!
# Configuration

A configuration file sets any of four keys; other keys mean nothing. One key of the wrong type, or a
file that is not TOML, and the whole file counts for nothing. An unsupported language tag alone
leaves the other keys as they are. A user may have no directory for configurations, and none for
data.
-/

namespace LoginCard

/-- Without a storage path a language is not kept on disk. -/
structure Config where
  defaultLanguage : Language
  storagePath : Option String
  cardTemplate : String
  color : Bool
  deriving DecidableEq, Repr

/-- What a configuration file sets. -/
structure ConfigFile where
  defaultLocale : Option String
  storagePath : Option String
  cardTemplate : Option String
  color : Option Bool
  deriving DecidableEq, Repr

namespace ConfigFile

def empty : ConfigFile := ⟨none, none, none, none⟩

/-- Nothing when the key has another type than text; a missing key is no fault. -/
def text? (doc : Toml.Table) (key : String) : Option (Option String) :=
  match Keyed.find? key doc with
  | none => some none
  | some (.string text) => some (some text)
  | some _ => none

def boolean? (doc : Toml.Table) (key : String) : Option (Option Bool) :=
  match Keyed.find? key doc with
  | none => some none
  | some (.boolean b) => some (some b)
  | some _ => none

/-- No integer in the file may need more than 128 bits, and all numbers in it have a value, whatever
key they are under. -/
def ofTable? (doc : Toml.Table) : Option ConfigFile := do
  let defaultLocale ← text? doc "default_locale"
  let storagePath ← text? doc "storage_path"
  let cardTemplate ← text? doc "card_template"
  let color ← boolean? doc "color"
  if Toml.entriesWithin (-Nat.pow 2 127) (Nat.pow 2 128 - 1) doc then
    some ⟨defaultLocale, storagePath, cardTemplate, color⟩
  else none

/-- A file that cannot be read sets nothing, and so does one that is malformed, with a warning. -/
def load (files : FileTree) (path : String) : ConfigFile × List LogRecord :=
  match files.readText path with
  | .error _ => (empty, [])
  | .ok text =>
    match (Toml.Table.parse? text).bind ofTable? with
    | some file => (file, [])
    | none => (empty, [.malformedConfig path])

end ConfigFile

namespace Config

/-- Below the directory where a user keeps configurations, if there is one. -/
def defaultPath (configDirectory : Option String) : Option String :=
  configDirectory.map fun directory => below (below directory "login-ui") "config.toml"

/-- Below the directory where a user keeps data, if there is one. -/
def defaultStoragePath (dataDirectory : Option String) : Option String :=
  dataDirectory.map fun directory => below (below directory "login-ui") "storage.toml"

def default (dataDirectory : Option String) : Config :=
  { defaultLanguage := Language.default
    storagePath := defaultStoragePath dataDirectory
    cardTemplate := Page.defaultTemplate
    color := true }

def languageOf (file : ConfigFile) (base : Language) : Language × List LogRecord :=
  match file.defaultLocale with
  | none => (base, [])
  | some tag =>
    match Language.ofTag? tag with
    | some l => (l, [])
    | none => (base, [.unsupportedConfigTag (.unsupportedTag tag) base])

def ofFile (dataDirectory : Option String) (file : ConfigFile) : Config × List LogRecord :=
  let base := default dataDirectory
  let (language, records) := languageOf file base.defaultLanguage
  ({ defaultLanguage := language
     storagePath := file.storagePath.or base.storagePath
     cardTemplate := file.cardTemplate.getD base.cardTemplate
     color := file.color.getD base.color }, records)

def load (dataDirectory : Option String) (files : FileTree) (path : String) :
    Config × List LogRecord :=
  let (file, records) := ConfigFile.load files path
  let (config, more) := ofFile dataDirectory file
  (config, records ++ more)

/-- From the place where a user keeps configurations. -/
def loadDefault (configDirectory dataDirectory : Option String) (files : FileTree) :
    Config × List LogRecord :=
  match defaultPath configDirectory with
  | some path =>
    let (config, records) := load dataDirectory files path
    (config, .loadingConfig path :: records)
  | none => (default dataDirectory, [.noConfigDirectory])

end Config

end LoginCard
