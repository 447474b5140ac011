import LoginCard.Proofs.Restoring

/-!
# Which stored values count

A value in the slot is a record of a tag, with a version or without one, or it is no record. A
record counts if its tag is that of a language and its version is not below that of today's strings,
and its tag is looked at first. A bare text is a tag without a version, so it never counts.
-/

namespace LoginCard

open Toml (Value)

/-- The value is a record, with `means` for the tag: a table with the two keys, whatever else it
holds, or an array of the two. The version may be missing. -/
inductive Records {α : Type} (means : Value → α → Prop) : Value → α → Option UInt32 → Prop where
  | table {entries : Toml.Table} {tag : Value} {a : α} {version : Option UInt32} :
      Keyed.find? "locale" entries = some tag → means tag a →
      Keyed.find? "version" entries = version.map (fun n => .integer n.toNat) →
      Records means (.table entries) a version
  | single {tag : Value} {a : α} : means tag a → Records means (.array [tag]) a none
  | pair {tag : Value} {a : α} {n : UInt32} : means tag a →
      Records means (.array [tag, .integer n.toNat]) a (some n)

/-- A version is an integer of 32 bits, and no other value is one. -/
theorem decodeVersion_iff {v : Value} {n : UInt32} :
    decodeVersion v = .ok n ↔ v = .integer n.toNat := by
  cases v with
  | integer k =>
    simp only [decodeVersion, Value.integer.injEq]
    split
    · rename_i fits
      obtain ⟨low, high⟩ := fits
      rw [Except.ok.injEq, ← UInt32.toNat_inj, UInt32.toNat_ofNat']
      simp only [UInt32.size] at high
      omega
    · rename_i unfit
      constructor
      · intro decoded
        cases decoded
      · rintro rfl
        have bound := n.toNat_lt_size
        omega
  | _ => simp [decodeVersion]

/-- A computation comes to a result by a result on the way. -/
theorem bind_eq_ok {ε α β : Type} {x : Except ε α} {f : α → Except ε β} {b : β} :
    x >>= f = .ok b ↔ ∃ a, x = .ok a ∧ f a = .ok b := by
  cases x <;> simp [bind, Except.bind]

theorem mapError_ok_iff {ε ε' α : Type} {x : Except ε α} {f : ε → ε'} {a : α} :
    x.mapError f = .ok a ↔ x = .ok a := by
  cases x with
  | error e =>
    show (Except.error (f e) : Except ε' α) = .ok a ↔ _
    simp
  | ok b =>
    show (Except.ok b : Except ε' α) = .ok a ↔ _
    simp

namespace RecordReader

theorem plain_iff {β : Type} {x : Except ShapeFault β} {b : β} : plain x = .ok b ↔ x = .ok b := by
  cases x <;> simp [plain]

/-- A field is read if it is there, and may be missing. -/
theorem field_iff {β : Type} {read : Value → Except ShapeFault β} {found : Option Value}
    {name : String} {o : Option β} :
    (found.mapM fun v => inField name (read v)) = Except.ok o ↔
      (found = none ∧ o = none) ∨ ∃ v b, found = some v ∧ read v = .ok b ∧ o = some b := by
  cases found with
  | none =>
    show Except.ok none = Except.ok o ↔ _
    simp [eq_comm]
  | some v =>
    show (inField name (read v)).map some = Except.ok o ↔ _
    cases result : read v <;> simp [inField, result, eq_comm, Except.map]

theorem version_iff {found : Option Value} {version : Option UInt32} :
    (found.mapM fun v => inField "version" (decodeVersion v)) = Except.ok version ↔
      found = version.map fun n => .integer n.toNat := by
  simp only [field_iff, decodeVersion_iff]
  cases version <;> simp

variable {α : Type} {r : RecordReader α} {means : Value → α → Prop} {a : α}
  {version : Option UInt32}

theorem ofTable_iff (reads : ∀ t a, r.tag t = .ok a ↔ means t a) {entries : Toml.Table} :
    r.ofTable entries = .ok (a, version) ↔ Records means (.table entries) a version := by
  simp only [ofTable, bind_eq_ok, version_iff]
  constructor
  · rintro ⟨tag, tagged, version', versioned, result⟩
    cases tag with
    | none => cases result
    | some a' =>
      obtain ⟨rfl, rfl⟩ := Prod.mk.inj (Except.ok.inj result)
      obtain ⟨_, missing⟩ | ⟨t, _, found, read, same⟩ := field_iff.mp tagged
      · cases missing
      · obtain rfl := Option.some.inj same
        exact .table found ((reads t _).mp read) versioned
  · rintro (⟨found, meant, versioned⟩)
    exact ⟨some a, field_iff.mpr (.inr ⟨_, a, found, (reads _ a).mpr meant, rfl⟩), version,
      versioned, rfl⟩

theorem ofArray_iff (reads : ∀ t a, r.tag t = .ok a ↔ means t a) {items : List Value} :
    r.ofArray items = .ok (a, version) ↔ Records means (.array items) a version := by
  match items with
  | [] => constructor <;> intro h <;> cases h
  | [t] =>
    simp only [ofArray, bind_eq_ok, plain_iff]
    constructor
    · rintro ⟨a', read, result⟩
      obtain ⟨rfl, rfl⟩ := Prod.mk.inj (Except.ok.inj result)
      exact .single ((reads t _).mp read)
    · rintro (_ | meant)
      exact ⟨a, (reads t a).mpr meant, rfl⟩
  | t :: v :: rest =>
    simp only [ofArray, bind_eq_ok, plain_iff, decodeVersion_iff]
    constructor
    · rintro ⟨a', read, n, rfl, result⟩
      split at result
      · rename_i last
        obtain ⟨rfl, rfl⟩ := Prod.mk.inj (Except.ok.inj result)
        obtain rfl := List.isEmpty_iff.mp last
        exact .pair ((reads t _).mp read)
      · cases result
    · rintro (_ | _ | meant)
      exact ⟨a, (reads t a).mpr meant, _, rfl, rfl⟩

/-- What a reader reads are the records of the tags that it reads. -/
theorem read_iff (reads : ∀ t a, r.tag t = .ok a ↔ means t a) {v : Value} :
    r.read v = .ok (a, version) ↔ Records means v a version := by
  cases v with
  | table entries => exact ofTable_iff reads
  | array items => exact ofArray_iff reads
  | _ => constructor <;> intro h <;> cases h

end RecordReader

namespace Choice

/-- The value is a record of this text. -/
def Says (v : Value) (tag : String) (version : Option UInt32) : Prop :=
  Records (fun t tag => textOf? t = some tag) v tag version

theorem rawRecord_iff {v : Value} {tag : String} {version : Option UInt32} :
    rawRecord.read v = .ok (tag, version) ↔ Says v tag version := by
  apply RecordReader.read_iff
  intro t tag
  simp only [rawRecord]
  cases textOf? t <;> simp

section Slots

variable {v : Value} {tag : String} {version : Option UInt32}

theorem languageOf_unsupported (unsupported : ∀ l : Language, tag ≠ l.tag) :
    languageOf (tag, version) = .error (.unsupportedTag tag) := by
  simp [languageOf, Language.ofTag?_eq_none_iff.mpr unsupported]

theorem languageOf_stale {l : Language} (supported : tag = l.tag)
    (old : version.getD 0 < Strings.version) :
    languageOf (tag, version) = .error (.stale (version.getD 0) Strings.version) := by
  simp [languageOf, supported, old]

/-- A record counts if it has the tag of a language, and a version that is not old. -/
theorem languageOf_ok_iff {l : Language} :
    languageOf (tag, version) = .ok l ↔ tag = l.tag ∧ Strings.version ≤ version.getD 0 := by
  rw [← Language.ofTag?_eq_some_iff]
  cases known : Language.ofTag? tag with
  | none => simp [languageOf, known]
  | some l' =>
    simp only [languageOf, known]
    split
    · rename_i old
      simp [UInt32.not_le.mpr old]
    · rename_i recent
      simp [UInt32.not_lt.mp recent]

/-- What a value says that is no bare text. -/
theorem ofSlot_record (record : Says v tag version) :
    ofSlot (some v) = (languageOf (tag, version)).mapError .locale := by
  have read := rawRecord_iff.mpr record
  have raw : rawOf v = rawRecord.read v := by
    cases record <;> rfl
  simp only [ofSlot, raw, read]

theorem ofSlot_decode (other : ∀ text, v ≠ .string text)
    (none : ∀ tag version, ¬ Says v tag version) :
    ∃ e, ofSlot (some v) = .error (.storage (.decode key e)) := by
  have raw : rawOf v = rawRecord.read v := by
    cases v with
    | string text => exact absurd rfl (other text)
    | _ => rfl
  cases read : rawRecord.read v with
  | ok raw' => exact absurd (rawRecord_iff.mp read) (none raw'.1 raw'.2)
  | error e => exact ⟨e, by simp only [ofSlot, raw, read]⟩

/-- A bare text is a tag without a version. -/
theorem ofSlot_text (text : String) :
    ofSlot (some (.string text)) = (languageOf (text, none)).mapError .locale := rfl

/-- Only current records of a language count. -/
theorem ofSlot_ok_iff {slot : Option Value} {l : Language} :
    ofSlot slot = .ok l ↔
      ∃ v n, slot = some v ∧ Says v l.tag (some n) ∧ Strings.version ≤ n := by
  constructor
  · intro loaded
    cases slot with
    | none => cases loaded
    | some v =>
      by_cases bare : ∃ text, v = .string text
      · obtain ⟨text, rfl⟩ := bare
        rw [ofSlot_text, mapError_ok_iff, languageOf_ok_iff] at loaded
        exact absurd loaded.2 (by decide)
      by_cases record : ∃ tag version, Says v tag version
      · obtain ⟨tag, version, record⟩ := record
        rw [ofSlot_record record, mapError_ok_iff, languageOf_ok_iff] at loaded
        obtain ⟨rfl, recent⟩ := loaded
        cases version with
        | none => exact absurd recent (by decide)
        | some n => exact ⟨v, n, rfl, record, recent⟩
      · obtain ⟨e, fault⟩ := ofSlot_decode (fun text same => bare ⟨text, same⟩)
          fun tag version known => record ⟨tag, version, known⟩
        rw [fault] at loaded
        cases loaded
  · rintro ⟨v, n, rfl, record, recent⟩
    rw [ofSlot_record record, mapError_ok_iff, languageOf_ok_iff]
    exact ⟨rfl, recent⟩

end Slots

/-- For every storage that answers, and every value in the slot. -/
theorem load_verdicts {σ : Type} [Storage σ] (s : σ) (slot : Option Value)
    (answered : (Storage.get s key).result = .ok slot) :
    let loaded := (load s).1
    (slot = none → loaded = .error (.locale .nothingStored)) ∧
    (∀ text, slot = some (.string text) →
      ((∀ l : Language, text ≠ l.tag) → loaded = .error (.locale (.unsupportedTag text))) ∧
      ((∃ l : Language, text = l.tag) → loaded = .error (.locale (.stale 0 Strings.version)))) ∧
    (∀ v, slot = some v → (∀ text, v ≠ .string text) →
      ((∀ tag version, ¬ Says v tag version) →
        ∃ e, loaded = .error (.storage (.decode key e))) ∧
      ∀ tag version, Says v tag version →
        ((∀ l : Language, tag ≠ l.tag) → loaded = .error (.locale (.unsupportedTag tag))) ∧
        ((∃ l : Language, tag = l.tag) → version.getD 0 < Strings.version →
          loaded = .error (.locale (.stale (version.getD 0) Strings.version))) ∧
        ∀ l : Language, tag = l.tag → Strings.version ≤ version.getD 0 → loaded = .ok l) ∧
    ∀ l : Language, loaded = .ok l ↔
      ∃ v n, slot = some v ∧ Says v l.tag (some n) ∧ Strings.version ≤ n := by
  intro loaded
  have said : loaded = ofSlot slot := by simp [loaded, load, answered]
  rw [said]
  refine ⟨?_, ?_, ?_, fun l => ofSlot_ok_iff⟩
  · rintro rfl
    rfl
  · rintro text rfl
    rw [ofSlot_text]
    constructor
    · intro unsupported
      rw [languageOf_unsupported unsupported]
      rfl
    · rintro ⟨l, supported⟩
      rw [languageOf_stale supported (by decide)]
      rfl
  · rintro v rfl other
    refine ⟨ofSlot_decode other, fun tag version record => ?_⟩
    rw [ofSlot_record record]
    refine ⟨?_, ?_, ?_⟩
    · intro unsupported
      rw [languageOf_unsupported unsupported]
      rfl
    · rintro ⟨l, supported⟩ old
      rw [languageOf_stale supported old]
      rfl
    · intro l supported recent
      exact mapError_ok_iff.mpr (languageOf_ok_iff.mpr ⟨supported, recent⟩)

/-- A record whose tag names no language and whose version is old. -/
def foreign : MemoryStorage :=
  ⟨[("locale", .table [("locale", .string "de_DE"), ("origin", .array []),
    ("version", .integer 0)])]⟩

theorem load_foreign :
    (load foreign).1 = .error (.locale (.unsupportedTag "de_DE")) := by
  have verdicts := load_verdicts foreign _ rfl
  have record : Says (.table [("locale", .string "de_DE"), ("origin", .array []),
      ("version", .integer 0)]) "de_DE" (some 0) := .table rfl rfl rfl
  refine ((verdicts.2.2.1 _ rfl (by simp)).2 "de_DE" (some 0) record).1 ?_
  intro l
  cases l <;> decide

end Choice

end LoginCard
