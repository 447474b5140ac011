import LoginCard.Choice.Record
import LoginCard.Storage.Basic

/-!
# Keeping the choice

The choice stands in the slot `locale`. Whatever keeps a stored choice from being used, the fallback
is used instead and stored, so that the next start finds a current record.
-/

namespace LoginCard

open Toml (Value)

namespace Choice

def key : String := "locale"

/-- A bare text is a tag from before records had versions. -/
def rawOf : Value → Except DecodeFault (String × Option UInt32)
  | .string tag => .ok (tag, none)
  | v => rawRecord.read v

/-- The language of a record: first its shape counts, then its tag, then its version. -/
def languageOf (raw : String × Option UInt32) : Except LocaleFault Language :=
  match Language.ofTag? raw.1 with
  | none => .error (.unsupportedTag raw.1)
  | some l =>
    let stored := raw.2.getD 0
    if stored < Strings.version then .error (.stale stored Strings.version) else .ok l

/-- What the slot says, for what stands in it. -/
def ofSlot : Option Value → Except RestoreFault Language
  | none => .error (.locale .nothingStored)
  | some v =>
    match rawOf v with
    | .error e => .error (.storage (.decode key e))
    | .ok raw => (languageOf raw).mapError .locale

variable {σ : Type} [Storage σ]

def save (s : σ) (l : Language) : Access σ Unit := Storage.set s key (current l).encode

/-- The stored language, with the storage and the log after the call. -/
def load (s : σ) : Except RestoreFault Language × σ × List LogRecord :=
  let access := Storage.get s key
  let result :=
    match access.result with
    | .error e => .error (.storage e)
    | .ok slot => ofSlot slot
  (result, access.after, access.records)

def failureRecord (fallback : Language) : RestoreFault → LogRecord
  | .locale .nothingStored => .nothingStored fallback
  | .locale cause => .discarded cause fallback
  | .storage cause => .unreadable cause

/-- Stores a language, and logs a failure to do so. -/
def saveOrWarn (s : σ) (l : Language) : σ × List LogRecord :=
  let access := save s l
  match access.result with
  | .ok () => (access.after, access.records)
  | .error e => (access.after, access.records ++ [.notPersisted l e])

def restore (s : σ) (fallback : Language) : Language × σ × List LogRecord :=
  match load s with
  | (.ok l, s, records) => (l, s, records ++ [.restored l])
  | (.error e, s, records) =>
    let (s, more) := saveOrWarn s fallback
    (fallback, s, records ++ failureRecord fallback e :: more)

end Choice

end LoginCard
