import Mathlib.Tactic.ByContra
import LoginCard.Config
import LoginCard.Toml.Equality

/-!
# What a configuration file settles

A file counts for nothing as a whole or is read key by key. It counts for nothing when it cannot be
read, is no text or no TOML, or holds a value of the wrong type under one of the four keys. Otherwise
each setting is what the value under its own key says, and nothing else in the file matters to it.
-/

namespace LoginCard

/-- What a configuration file may set. -/
inductive Setting where
  | defaultLocale | storagePath | cardTemplate | color
  deriving DecidableEq, Repr

namespace Setting

def key : Setting → String
  | defaultLocale => "default_locale"
  | storagePath => "storage_path"
  | cardTemplate => "card_template"
  | color => "color"

/-- The values that are of the type of the setting. -/
def Takes : Setting → Toml.Value → Prop
  | color, v => ∃ b, v = .boolean b
  | _, v => ∃ text, v = .string text

/-- What a configuration holds for the setting. -/
abbrev Held : Setting → Type
  | defaultLocale => Language
  | storagePath => Option String
  | cardTemplate => String
  | color => Bool

def of (c : Config) : (s : Setting) → s.Held
  | defaultLocale => c.defaultLanguage
  | storagePath => c.storagePath
  | cardTemplate => c.cardTemplate
  | color => c.color

/-- What a setting comes to by the value under its key, if there is one. -/
def means (dataDirectory : Option String) : (s : Setting) → Option Toml.Value → s.Held
  | defaultLocale, some (.string tag) => (Language.ofTag? tag).getD Language.default
  | defaultLocale, _ => Language.default
  | storagePath, some (.string text) => some text
  | storagePath, _ => Config.defaultStoragePath dataDirectory
  | cardTemplate, some (.string text) => text
  | cardTemplate, _ => Page.defaultTemplate
  | color, some (.boolean b) => b
  | color, _ => true

end Setting

theorem Config.ext_settings {c d : Config} (same : ∀ s : Setting, s.of c = s.of d) : c = d := by
  obtain ⟨language, path, template, color⟩ := c
  obtain ⟨language', path', template', color'⟩ := d
  have first : language = language' := same .defaultLocale
  have second : path = path' := same .storagePath
  have third : template = template' := same .cardTemplate
  have fourth : color = color' := same .color
  rw [first, second, third, fourth]

theorem FileTree.readText_eq_ok_iff {t : FileTree} {path text : String} :
    t.readText path = .ok text ↔
      ∃ bytes, t.readBytes path = .ok bytes ∧ String.fromUTF8? bytes = some text := by
  unfold readText
  cases t.readBytes path with
  | error e => simp
  | ok bytes => cases decoded : String.fromUTF8? bytes <;> simp [decoded]

namespace ConfigFile

/-- What a text is read as, if it is TOML. TOML has a reader refuse a number that it cannot hold, here
one that has no value or needs more than 128 bits, whatever key it is under. -/
def document? (text : String) : Option Toml.Table :=
  (Toml.Table.parse? text).filter (Toml.entriesWithin (-Nat.pow 2 127) (Nat.pow 2 128 - 1))

/-- The file at the path holds the document. -/
def Holds (files : FileTree) (path : String) (doc : Toml.Table) : Prop :=
  ∃ text, files.readText path = .ok text ∧ document? text = some doc

/-- Each of the four keys that is there has a value of its type. -/
def WellTyped (doc : Toml.Table) : Prop :=
  ∀ (s : Setting) (v : Toml.Value), Keyed.find? s.key doc = some v → s.Takes v

/-- Why a file is left out altogether. -/
inductive CountsForNothing (files : FileTree) (path : String) : Prop where
  | unreadable {e : FileFault} : files.readBytes path = .error e → CountsForNothing files path
  | notText {bytes : ByteArray} : files.readBytes path = .ok bytes →
      String.fromUTF8? bytes = none → CountsForNothing files path
  | notToml {text : String} : files.readText path = .ok text → document? text = none →
      CountsForNothing files path
  | wrongType {doc : Toml.Table} {s : Setting} {v : Toml.Value} : Holds files path doc →
      Keyed.find? s.key doc = some v → ¬ s.Takes v → CountsForNothing files path

/-! ## Reading a document -/

def textOf : Option Toml.Value → Option String
  | some (.string text) => some text
  | _ => none

def truthOf : Option Toml.Value → Option Bool
  | some (.boolean b) => some b
  | _ => none

theorem text?_eq_some_iff {doc : Toml.Table} {key : String} {t : Option String} :
    text? doc key = some t ↔
      (∀ v, Keyed.find? key doc = some v → ∃ text, v = .string text) ∧
        textOf (Keyed.find? key doc) = t := by
  unfold text?
  cases Keyed.find? key doc with
  | none => simp [textOf]
  | some v => cases v <;> simp [textOf]

theorem boolean?_eq_some_iff {doc : Toml.Table} {key : String} {t : Option Bool} :
    boolean? doc key = some t ↔
      (∀ v, Keyed.find? key doc = some v → ∃ b, v = .boolean b) ∧
        truthOf (Keyed.find? key doc) = t := by
  unfold boolean?
  cases Keyed.find? key doc with
  | none => simp [truthOf]
  | some v => cases v <;> simp [truthOf]

theorem WellTyped.congr {doc doc' : Toml.Table} (typed : WellTyped doc)
    (agree : ∀ s : Setting, Keyed.find? s.key doc = Keyed.find? s.key doc') : WellTyped doc' := by
  intro s v found
  exact typed s v ((agree s).trans found)

/-- What a well-typed document sets. -/
def told (doc : Toml.Table) : ConfigFile :=
  { defaultLocale := textOf (Keyed.find? Setting.defaultLocale.key doc)
    storagePath := textOf (Keyed.find? Setting.storagePath.key doc)
    cardTemplate := textOf (Keyed.find? Setting.cardTemplate.key doc)
    color := truthOf (Keyed.find? Setting.color.key doc) }

theorem ofTable?_eq_some_iff {doc : Toml.Table} {file : ConfigFile} :
    ofTable? doc = some file ↔
      Toml.entriesWithin (-Nat.pow 2 127) (Nat.pow 2 128 - 1) doc = true ∧ WellTyped doc ∧
        told doc = file := by
  simp only [ofTable?, Option.bind_eq_bind, Option.bind_eq_some_iff, text?_eq_some_iff,
    boolean?_eq_some_iff, Option.ite_none_right_eq_some, Option.some.injEq]
  constructor
  · rintro ⟨_, ⟨locale, rfl⟩, _, ⟨path, rfl⟩, _, ⟨template, rfl⟩, _, ⟨color, rfl⟩, within, rfl⟩
    refine ⟨within, fun s v found => ?_, rfl⟩
    cases s with
    | defaultLocale => exact locale v found
    | storagePath => exact path v found
    | cardTemplate => exact template v found
    | color => exact color v found
  · rintro ⟨within, typed, rfl⟩
    exact ⟨_, ⟨typed .defaultLocale, rfl⟩, _, ⟨typed .storagePath, rfl⟩, _,
      ⟨typed .cardTemplate, rfl⟩, _, ⟨typed .color, rfl⟩, within, rfl⟩

theorem document?_eq_some_iff {text : String} {doc : Toml.Table} :
    document? text = some doc ↔
      Toml.Table.parse? text = some doc ∧
        Toml.entriesWithin (-Nat.pow 2 127) (Nat.pow 2 128 - 1) doc = true :=
  Option.filter_eq_some_iff

/-- A text is read when it is a document of well-typed values. -/
theorem parse_bind_ofTable? {text : String} {file : ConfigFile} :
    (Toml.Table.parse? text).bind ofTable? = some file ↔
      ∃ doc, document? text = some doc ∧ WellTyped doc ∧ told doc = file := by
  simp only [Option.bind_eq_some_iff, ofTable?_eq_some_iff, document?_eq_some_iff, and_assoc]

/-! ## Reading a file -/

section Loading

variable {files : FileTree} {path : String}

theorem load_fst (files : FileTree) (path : String) :
    (load files path).1 =
      ((files.readText path).toOption.bind fun text =>
        (Toml.Table.parse? text).bind ofTable?).getD empty := by
  unfold load
  cases files.readText path with
  | error e => rfl
  | ok text =>
    simp only [Except.toOption, Option.bind_some]
    cases (Toml.Table.parse? text).bind ofTable? <;> rfl

theorem load_of_holds {doc : Toml.Table} (holds : Holds files path doc) (typed : WellTyped doc) :
    (load files path).1 = told doc := by
  obtain ⟨text, read, document⟩ := holds
  have file := parse_bind_ofTable?.mpr ⟨doc, document, typed, rfl⟩
  rw [load_fst, read, Except.toOption, Option.bind_some, file, Option.getD_some]

/-- A file holds one document at most. -/
theorem Holds.unique {doc doc' : Toml.Table} (first : Holds files path doc)
    (second : Holds files path doc') : doc = doc' := by
  obtain ⟨text, read, document⟩ := first
  obtain ⟨text', read', document'⟩ := second
  obtain rfl := Except.ok.inj (read.symm.trans read')
  exact Option.some.inj (document.symm.trans document')

theorem not_countsForNothing_iff :
    ¬ CountsForNothing files path ↔ ∃ doc, Holds files path doc ∧ WellTyped doc := by
  constructor
  · intro counts
    cases found : files.readBytes path with
    | error e => exact absurd (.unreadable found) counts
    | ok bytes =>
      cases decoded : String.fromUTF8? bytes with
      | none => exact absurd (.notText found decoded) counts
      | some content =>
        have read : files.readText path = .ok content :=
          FileTree.readText_eq_ok_iff.mpr ⟨bytes, found, decoded⟩
        cases document : document? content with
        | none => exact absurd (.notToml read document) counts
        | some doc =>
          have holds : Holds files path doc := ⟨content, read, document⟩
          refine ⟨doc, holds, fun s v there => ?_⟩
          by_contra wrong
          exact counts (.wrongType holds there wrong)
  · rintro ⟨doc, holds, typed⟩ nothing
    obtain ⟨text, read, document⟩ := id holds
    obtain ⟨bytes, found, decoded⟩ := FileTree.readText_eq_ok_iff.mp read
    cases nothing with
    | unreadable failed => cases failed.symm.trans found
    | notText found' undecoded =>
      obtain rfl := Except.ok.inj (found.symm.trans found')
      cases undecoded.symm.trans decoded
    | notToml read' refused =>
      obtain rfl := Except.ok.inj (read.symm.trans read')
      cases refused.symm.trans document
    | wrongType holds' found wrong =>
      obtain rfl := holds.unique holds'
      exact wrong (typed _ _ found)

theorem load_of_nothing (nothing : CountsForNothing files path) : (load files path).1 = empty := by
  rw [load_fst]
  cases read : files.readText path with
  | error e => rfl
  | ok text =>
    cases file : (Toml.Table.parse? text).bind ofTable? with
    | none => simp [Except.toOption, file]
    | some _ =>
      obtain ⟨doc, document, typed, -⟩ := parse_bind_ofTable?.mp file
      exact absurd nothing (not_countsForNothing_iff.mpr ⟨doc, ⟨text, read, document⟩, typed⟩)

theorem CountsForNothing.of_untyped {doc : Toml.Table} (holds : Holds files path doc)
    (untyped : ¬ WellTyped doc) : CountsForNothing files path := by
  by_contra counts
  obtain ⟨doc', holds', typed⟩ := not_countsForNothing_iff.mp counts
  exact untyped (holds'.unique holds ▸ typed)

end Loading

end ConfigFile

namespace Config

open ConfigFile

variable (dataDirectory : Option String)

theorem load_fst (files : FileTree) (path : String) :
    (load dataDirectory files path).1 =
      (ofFile dataDirectory (ConfigFile.load files path).1).1 := rfl

theorem ofFile_empty : (ofFile dataDirectory ConfigFile.empty).1 = default dataDirectory := rfl

/-- Each setting is told by its own key. -/
theorem of_ofFile_told (doc : Toml.Table) (s : Setting) :
    s.of (ofFile dataDirectory (told doc)).1 =
      s.means dataDirectory (Keyed.find? s.key doc) := by
  cases s with
  | defaultLocale =>
    show (languageOf (told doc) Language.default).1 = _
    unfold languageOf told
    dsimp only
    cases Keyed.find? Setting.defaultLocale.key doc with
    | none => rfl
    | some v =>
      cases v with
      | string tag => cases known : Language.ofTag? tag <;> simp [textOf, Setting.means, known]
      | _ => rfl
  | storagePath =>
    show (textOf _).or _ = _
    cases Keyed.find? Setting.storagePath.key doc with
    | none => rfl
    | some v => cases v <;> rfl
  | cardTemplate =>
    show (textOf _).getD _ = _
    cases Keyed.find? Setting.cardTemplate.key doc with
    | none => rfl
    | some v => cases v <;> rfl
  | color =>
    show (truthOf _).getD _ = _
    cases Keyed.find? Setting.color.key doc with
    | none => rfl
    | some v => cases v <;> rfl

variable {dataDirectory} {files files' : FileTree} {path path' : String} {doc doc' : Toml.Table}

theorem default_of_nothing (nothing : CountsForNothing files path) :
    (load dataDirectory files path).1 = default dataDirectory := by
  rw [load_fst, load_of_nothing nothing, ofFile_empty]

theorem of_wellTyped (holds : Holds files path doc) (typed : WellTyped doc) (s : Setting) :
    s.of (load dataDirectory files path).1 = s.means dataDirectory (Keyed.find? s.key doc) := by
  rw [load_fst, load_of_holds holds typed, of_ofFile_told]

/-- What else two documents hold makes no difference. -/
theorem load_congr (holds : Holds files path doc) (holds' : Holds files' path' doc')
    (agree : ∀ s : Setting, Keyed.find? s.key doc = Keyed.find? s.key doc') :
    (load dataDirectory files path).1 = (load dataDirectory files' path').1 := by
  -- Types are looked at under the four keys only, so the documents are well-typed or not together.
  by_cases typed : WellTyped doc
  · have typed' := typed.congr agree
    refine ext_settings fun s => ?_
    rw [of_wellTyped holds typed, of_wellTyped holds' typed', agree]
  · have untyped : ¬ WellTyped doc' := fun typed' =>
      typed (typed'.congr fun s => (agree s).symm)
    rw [default_of_nothing (.of_untyped holds typed), default_of_nothing (.of_untyped holds' untyped)]

/-- A file that counts for nothing leaves every setting at its default, whatever else is in it. In any
other, each setting is what the value under its own key says: so two documents settle alike whatever
they agree on, and two that agree on the four keys come to the same, well-typed or not. -/
theorem load_by_key (dataDirectory : Option String) (files : FileTree) (path : String) :
    let loaded := (load dataDirectory files path).1
    (CountsForNothing files path → loaded = default dataDirectory) ∧
      (¬ CountsForNothing files path → ∃ doc, Holds files path doc ∧ WellTyped doc ∧
        ∀ s : Setting, s.of loaded = s.means dataDirectory (Keyed.find? s.key doc)) ∧
      ∀ doc, Holds files path doc → ∀ (files' : FileTree) (path' : String) (doc' : Toml.Table),
        Holds files' path' doc' →
          let loaded' := (load dataDirectory files' path').1
          (WellTyped doc → WellTyped doc' → ∀ s : Setting,
            Keyed.find? s.key doc = Keyed.find? s.key doc' → s.of loaded = s.of loaded') ∧
          ((∀ s : Setting, Keyed.find? s.key doc = Keyed.find? s.key doc') → loaded = loaded') := by
  intro loaded
  refine ⟨default_of_nothing, ?_, ?_⟩
  · intro counts
    obtain ⟨doc, holds, typed⟩ := not_countsForNothing_iff.mp counts
    exact ⟨doc, holds, typed, of_wellTyped holds typed⟩
  · intro doc holds files' path' doc' holds'
    refine ⟨fun typed typed' s same => ?_, load_congr holds holds'⟩
    rw [of_wellTyped holds typed, of_wellTyped holds' typed', same]

/-- Values under three of the four keys, one of them a tag of no language. -/
def knownKeys : String := "default_locale = \"xx_XX\"\nstorage_path = \"s.toml\"\ncolor = false\n"

/-- The same with a table of other keys, which are of other types. -/
def foreignKeys : String := knownKeys ++ "[theme]\ncolor = 7\nstorage_path = []\n"

def knownDoc : Toml.Table :=
  [("color", .boolean false), ("default_locale", .string "xx_XX"), ("storage_path", .string "s.toml")]

def foreignDoc : Toml.Table :=
  knownDoc ++ [("theme", .table [("color", .integer 7), ("storage_path", .array [])])]

/-- Files with one file, of that text. -/
def planted (text : String) : FileTree := FileTree.empty.set ["c.toml"] (.file text.toUTF8)

theorem holds_planted {text : String} (document : document? text = some doc) :
    Holds (planted text) "c.toml" doc := by
  have decoded : String.fromUTF8? text.toUTF8 = some text := dif_pos text.isValidUTF8
  exact ⟨text, FileTree.readText_eq_ok_iff.mpr ⟨text.toUTF8, rfl, decoded⟩, document⟩

theorem wellTyped_foreignDoc : WellTyped foreignDoc := by
  intro s v found
  cases s with
  | defaultLocale => exact ⟨"xx_XX", (Option.some.inj found).symm⟩
  | storagePath => exact ⟨"s.toml", (Option.some.inj found).symm⟩
  | cardTemplate => cases found
  | color => exact ⟨false, (Option.some.inj found).symm⟩

theorem foreign_keys_change_nothing :
    let loaded := (load none (planted foreignKeys) "c.toml").1
    loaded = ⟨.english, some "s.toml", Page.defaultTemplate, false⟩ ∧
      loaded = (load none (planted knownKeys) "c.toml").1 := by
  intro loaded
  have holds : Holds (planted foreignKeys) "c.toml" foreignDoc := holds_planted (by decide +kernel)
  have holds' : Holds (planted knownKeys) "c.toml" knownDoc := holds_planted (by decide +kernel)
  have counts := not_countsForNothing_iff.mpr ⟨foreignDoc, holds, wellTyped_foreignDoc⟩
  obtain ⟨-, settled, alike⟩ := load_by_key none (planted foreignKeys) "c.toml"
  obtain ⟨doc, held, -, told⟩ := settled counts
  obtain rfl := held.unique holds
  constructor
  · refine ext_settings fun s => (told s).trans ?_
    cases s <;> rfl
  · exact (alike foreignDoc holds (planted knownKeys) "c.toml" knownDoc holds').2 fun s => by
      cases s <;> rfl

end Config

end LoginCard
