import LoginCard.Files
import LoginCard.Storage.Basic
import LoginCard.Toml.Document
import LoginCard.Toml.Masked
import LoginCard.Toml.Print

/-!
# Storages in a file

The file holds one TOML document, a key for each slot. A file that is not there is an empty
document, and so is one that is not TOML, with a warning; one that cannot be read is a fault. To set
a slot, the whole document is read, changed and printed again.
-/

namespace LoginCard

/-- Integers of a stored document have 64 bits, and all its numbers have a value. -/
def Toml.Table.fits (doc : Toml.Table) : Bool :=
  Toml.entriesWithin (-9223372036854775808) 9223372036854775807 doc

/-- What the keys of a date-time in the shape of a table hold is dropped before it is looked at. -/
def Toml.Table.stored? (text : String) : Option Toml.Table :=
  ((Toml.Table.parse? text).bind Toml.unmaskEntries?).filter Toml.Table.fits

/-- A path, together with the tree of files that it is used on. -/
structure FileStorage where
  path : String
  files : FileTree

namespace FileStorage

def document (s : FileStorage) : Except StorageFault Toml.Table × List LogRecord :=
  match s.files.readText s.path with
  | .error .missing => (.ok [], [])
  | .error e => (.error (.read s.path e), [])
  | .ok text =>
    match Toml.Table.stored? text with
    | some doc => (.ok doc, [])
    | none => (.ok [], [.corruptStorage s.path])

def get (s : FileStorage) (key : String) : Access FileStorage (Option Toml.Value) :=
  match s.document with
  | (.error e, records) => ⟨.error e, s, records⟩
  | (.ok doc, records) => ⟨.ok (Keyed.find? key doc), s, records⟩

/-- Writes a document to the file, after making the directories that it needs. -/
def write (s : FileStorage) (doc : Toml.Table) : Except StorageFault Unit × FileStorage :=
  match s.files.makeParents s.path with
  | (.error e, files) => (.error (.write s.path e), { s with files })
  | (.ok (), files) =>
    match files.writeBytes s.path (Toml.Table.print doc).toUTF8 with
    | (.error e, files) => (.error (.write s.path e), { s with files })
    | (.ok (), files) => (.ok (), { s with files })

def set (s : FileStorage) (key : String) (v : Toml.Value) : Access FileStorage Unit :=
  match s.document with
  | (.error e, records) => ⟨.error e, s, records⟩
  | (.ok doc, records) =>
    let (result, s) := s.write (Keyed.insert key v doc)
    ⟨result, s, records⟩

instance : Storage FileStorage := ⟨get, set⟩

end FileStorage

end LoginCard
