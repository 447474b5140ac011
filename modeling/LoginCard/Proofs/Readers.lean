import LoginCard.Proofs.Repair
import LoginCard.Proofs.Verdicts

/-!
# Two readers of a record

A record is read in two ways: with any text for its tag, so that a fault can name it, and with the
tags of the languages alone. They agree: what the second one reads are the records that the first
one reads whose tag is that of a language. Whatever is written as a record, both read back.
-/

namespace LoginCard

open Toml (Value)

namespace Records

variable {α β : Type} {means : Value → α → Prop} {means' : Value → β → Prop} {v : Value} {a : α}
  {b : β} {version : Option UInt32}

/-- A record stays one if its tag does. -/
theorem of_tag (record : Records means v a version) (tag : ∀ t, means t a → means' t b) :
    Records means' v b version := by
  cases record with
  | table found meant versioned => exact .table found (tag _ meant) versioned
  | single meant => exact .single (tag _ meant)
  | pair meant => exact .pair (tag _ meant)

end Records

namespace Choice

/-- The text that stands where a record has its tag. -/
def tagText? : Value → Option String
  | .table entries => (Keyed.find? "locale" entries).bind textOf?
  | .array (t :: _) => textOf? t
  | _ => none

section Values

variable {v : Value} {tag : String} {version : Option UInt32} {c : Choice}

theorem Says.tagText (record : Says v tag version) : tagText? v = some tag := by
  cases record with
  | table found meant => simpa [tagText?, found] using meant
  | single meant => exact meant
  | pair meant => exact meant

/-- A value with text for a tag is no bare text. -/
theorem ne_text_of_tagText (text : tagText? v = some tag) (bare : String) : v ≠ .string bare := by
  rintro rfl
  cases text

theorem choiceRecord_tag_iff (t : Value) (l : Language) :
    choiceRecord.tag t = .ok l ↔ textOf? t = some l.tag := by
  simp only [choiceRecord]
  cases textOf? t with
  | none => simp
  | some text =>
    rw [Option.some.injEq, ← Language.ofTag?_eq_some_iff]
    cases known : Language.ofTag? text <;> simp [known]

/-- The stricter reader takes the records of a language. -/
theorem choiceRecord_iff {l : Language} :
    choiceRecord.read v = .ok (l, version) ↔ Says v l.tag version := by
  rw [RecordReader.read_iff choiceRecord_tag_iff]
  constructor <;> exact fun record => record.of_tag fun _ meant => meant

theorem decode_iff : decode v = .ok c ↔ Says v c.language.tag c.version := by
  rw [← choiceRecord_iff, decode]
  cases choiceRecord.read v with
  | error e => simp [Except.map]
  | ok read =>
    obtain ⟨l, version⟩ := read
    simp only [Except.map, Except.ok.injEq, Prod.mk.injEq]
    constructor
    · rintro rfl
      exact ⟨rfl, rfl⟩
    · rintro ⟨rfl, rfl⟩
      rfl

/-- A choice that is decoded is loaded if its version is not old. -/
theorem ofSlot_of_decode (decoded : decode v = .ok c) :
    ofSlot (some v) = (languageOf (c.language.tag, c.version)).mapError .locale :=
  ofSlot_record (decode_iff.mp decoded)

/-- Nothing but an old version keeps what is decoded from being loaded. -/
theorem ofSlot_refused (decoded : decode v = .ok c) :
    (∀ k e, ofSlot (some v) ≠ .error (.storage (.decode k e))) ∧
      ∀ text, ofSlot (some v) ≠ .error (.locale (.unsupportedTag text)) := by
  rw [ofSlot_of_decode decoded]
  rcases UInt32.lt_or_le (c.version.getD 0) Strings.version with old | recent
  · rw [languageOf_stale rfl old]
    exact ⟨nofun, nofun⟩
  · rw [languageOf_ok_iff.mpr ⟨rfl, recent⟩]
    exact ⟨nofun, nofun⟩

/-- What is refused neither for its shape nor for its tag is decoded. -/
theorem decoded_of_ofSlot (other : ∀ text, v ≠ .string text)
    (shaped : ∀ k e, ofSlot (some v) ≠ .error (.storage (.decode k e)))
    (supported : ∀ text, ofSlot (some v) ≠ .error (.locale (.unsupportedTag text))) :
    ∃ c, decode v = .ok c := by
  by_cases record : ∃ tag version, Says v tag version
  · obtain ⟨tag, version, record⟩ := record
    cases known : Language.ofTag? tag with
    | some l =>
      obtain rfl := Language.ofTag?_eq_some_iff.mp known
      exact ⟨⟨l, version⟩, decode_iff.mpr record⟩
    | none =>
      have fault : ofSlot (some v) = .error (.locale (.unsupportedTag tag)) := by
        rw [ofSlot_record record, languageOf_unsupported (Language.ofTag?_eq_none_iff.mp known)]
        rfl
      exact absurd fault (supported tag)
  · obtain ⟨e, fault⟩ :=
      ofSlot_decode other fun tag version known => record ⟨tag, version, known⟩
    exact absurd fault (shaped key e)

end Values

section Encoding

/-- The entries of a record as it is written. -/
def entries (c : Choice) : Toml.Table :=
  ("locale", .string c.language.tag) :: (c.version.map fun n => ("version", .integer n.toNat)).toList

theorem encode_eq (c : Choice) : c.encode = .table c.entries := by
  rw [encode, entries]
  cases c.version <;> rfl

theorem find?_version_entries (c : Choice) :
    Keyed.find? "version" c.entries = c.version.map fun n => .integer n.toNat := by
  rw [entries]
  cases c.version <;> rfl

theorem says_encode (c : Choice) : Says c.encode c.language.tag c.version := by
  rw [encode_eq]
  exact .table rfl rfl (find?_version_entries c)

theorem decode_encode (c : Choice) : decode c.encode = .ok c := decode_iff.mpr (says_encode c)

end Encoding

/-- For every value with text for a tag, every choice, and every storage that answers. -/
theorem readers_agree :
    (∀ (σ : Type) [Storage σ] (s : σ) (v : Value) (tag : String),
      (Storage.get s key).result = .ok (some v) → tagText? v = some tag →
      let loaded := (load s).1
      ((∃ c, decode v = .ok c) ↔
        (∀ k e, loaded ≠ .error (.storage (.decode k e))) ∧
          ∀ text, loaded ≠ .error (.locale (.unsupportedTag text))) ∧
      ∀ c, decode v = .ok c → c.language.tag = tag ∧
        (Strings.version ≤ c.version.getD 0 → loaded = .ok c.language) ∧
        (c.version.getD 0 < Strings.version →
          loaded = .error (.locale (.stale (c.version.getD 0) Strings.version)))) ∧
    (∀ c : Choice, decode c.encode = .ok c ∧ ∃ entries, c.encode = .table entries ∧
      (Keyed.find? "version" entries = none ↔ c.version = none)) ∧
    (∀ (σ : Type) [Storage σ] (s : σ) (l : Language),
      (Storage.get (save s l).after key).result = .ok (some (current l).encode) →
      (load (save s l).after).1 = .ok l) ∧
    ∀ (m : MemoryStorage) (l : Language), (load (save m l).after).1 = .ok l := by
  refine ⟨?_, ?_, ?_, ?_⟩
  · intro σ _ s v tag answered text loaded
    have said : loaded = ofSlot (some v) := load_of_answer answered
    rw [said]
    refine ⟨⟨?_, ?_⟩, ?_⟩
    · rintro ⟨c, decoded⟩
      exact ofSlot_refused decoded
    · rintro ⟨shaped, supported⟩
      exact decoded_of_ofSlot (ne_text_of_tagText text) shaped supported
    · intro c decoded
      have record := decode_iff.mp decoded
      refine ⟨Option.some.inj (record.tagText.symm.trans text), ?_, ?_⟩
      · intro recent
        rw [ofSlot_of_decode decoded, languageOf_ok_iff.mpr ⟨rfl, recent⟩]
        rfl
      · intro old
        rw [ofSlot_of_decode decoded, languageOf_stale rfl old]
        rfl
  · intro c
    refine ⟨decode_encode c, c.entries, encode_eq c, ?_⟩
    rw [find?_version_entries, Option.map_eq_none_iff]
  · intro σ _ s l answered
    rw [load_of_answer answered]
    exact ofSlot_current l
  · exact load_save

/-- A record by position, of the last version there can be. -/
def positional : Value := .array [.string "ru_RU", .integer 4294967295]

theorem readers_agree_by_position :
    decode positional = .ok ⟨.russian, some 4294967295⟩ ∧
      (load (MemoryStorage.mk [("locale", positional)])).1 = .ok .russian := by
  have decoded : decode positional = .ok ⟨.russian, some 4294967295⟩ := by rfl
  have agree := readers_agree.1 _ (MemoryStorage.mk [("locale", positional)]) positional "ru_RU" rfl
    rfl
  exact ⟨decoded, (agree.2 _ decoded).2.1 (by decide)⟩

end Choice

end LoginCard
