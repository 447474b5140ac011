import LoginCard.Proofs.Coloring
import LoginCard.Proofs.Printing
import LoginCard.Proofs.Runs
import LoginCard.Proofs.Spellings

/-!
# Runs without colour

Colour is decided before a run prints anything, and nothing else depends on it. So a run that is told
to print without colour ends as the same run does with it, leaves the same files, and prints the same
texts without the sequences of codes in them.
-/

namespace LoginCard

/-- A text as it is shown, without the sequences of codes in it. -/
def Terminal.visible (text : String) : String :=
  String.ofList ((read .plain text.toList).1.map Glyph.char)

/-- `on` is shown as `off`, which has no codes in it, whatever is printed behind them. -/
structure Painted (on off : String) : Prop where
  shown : ∃ glyphs, Terminal.Displays on glyphs ∧ glyphs.map Glyph.char = off.toList
  free : NoEscape off

namespace Painted

variable {on off more less : String}

theorem visible (painted : Painted on off) : Terminal.visible on = off := by
  obtain ⟨glyphs, shown, same⟩ := painted.shown
  rw [Terminal.visible, shown.read_eq, same, String.ofList_toList]

theorem append (first : Painted on off) (second : Painted more less) :
    Painted (on ++ more) (off ++ less) := by
  obtain ⟨glyphs, shown, same⟩ := first.shown
  obtain ⟨others, behind, equal⟩ := second.shown
  exact ⟨⟨glyphs ++ others, shown.append behind, by rw [List.map_append, same, equal,
    String.toList_append]⟩, noEscape_append.mpr ⟨first.free, second.free⟩⟩

theorem text (free : NoEscape off) : Painted off off :=
  ⟨⟨_, Terminal.displays_text free, by simp [Function.comp_def]⟩, free⟩

theorem empty : Painted "" "" := text List.not_mem_nil

/-- What is printed with colour or without is painted over what is printed without, when it shows
the same characters with colour. -/
theorem either (printed : Bool → String) {glyphs : List Glyph}
    (shown : Terminal.Displays (printed true) glyphs)
    (same : glyphs.map Glyph.char = (printed false).toList) (free : NoEscape (printed false))
    (color : Bool) : Painted (printed color) (printed false) := by
  cases color with
  | false => exact text free
  | true => exact ⟨⟨glyphs, shown, same⟩, free⟩

theorem paint (free : NoEscape off) (s : Style) (color : Bool) :
    Painted (s.paint color off) (s.paint false off) :=
  either (s.paint · off) (Terminal.displays_paint free s) (by simp [Function.comp_def])
    (by rwa [Style.paint_off]) color

end Painted

/-! ## Pages -/

namespace Template

open Text

theorem subset_slotOf {body : List Char} {g : Segment} (member : g ∈ slotOf body) :
    g.text.toList ⊆ body := by
  obtain ⟨-, rfl⟩ := mem_slotOf.mp member
  rw [Segment.text, String.toList_ofList]
  exact List.Subset.trans (trim_subset _) (List.takeWhile_subset _)

/-- The segments of a text have their texts from it. -/
theorem subset_parseChars (cs : List Char) {g : Segment} (member : g ∈ parseChars cs) :
    g.text.toList ⊆ cs := by
  induction cs using parseChars.induct with
  | case1 => simp at member
  | case2 cs ih =>
    rw [parseChars_slot] at member
    rcases List.mem_append.mp member with here | later
    · have body : (cutSlot cs).1 ⊆ '{' :: cs :=
        List.subset_cons_of_subset _ (List.takeWhile_subset _)
      exact List.Subset.trans (subset_slotOf here) body
    · have behind : (cutSlot cs).2 ⊆ '{' :: cs := List.subset_cons_of_subset _
        (List.Subset.trans (List.drop_subset _ _) (List.dropWhile_suffix _).subset)
      exact List.Subset.trans (ih later) behind
  | case3 c cs other ih =>
    rw [parseChars_literal c cs other] at member
    rw [← literal_append c cs]
    rcases List.mem_cons.mp member with rfl | later
    · rw [Segment.text, String.toList_ofList]
      exact List.subset_append_left _ _
    · exact List.subset_append_of_subset_right _ (ih later)

theorem painted_render {t : Template} {strings : Strings} {vars : Variables}
    (free : ∀ g ∈ t, NoEscape g.text)
    (texts : ∀ key text, strings.get? key = some text → NoEscape text)
    (values : ∀ entry ∈ vars, NoEscape entry.2) (color : Bool) :
    Painted (t.render strings vars color) (t.render strings vars false) :=
  .either (t.render strings vars) (displays_render texts values free)
    (chars_render t strings vars) (noEscape_render texts values free) color

end Template

theorem Page.noEscape_defaultTemplate : NoEscape defaultTemplate := by
  unfold defaultTemplate
  simp only [noEscape_append]
  decide +kernel

theorem Page.noEscape_fields {form : LoginForm} (username : NoEscape form.username) :
    ∀ entry ∈ fields form, NoEscape entry.2 := by
  intro entry member
  simp only [fields, List.mem_cons, List.not_mem_nil, or_false] at member
  rcases member with rfl | rfl | rfl
  · exact username
  · exact noEscape_replicate _ (by decide)
  · exact noEscape_replicate _ (by decide)

theorem Page.painted_login {source : String} {form : LoginForm} (template : NoEscape source)
    (username : NoEscape form.username) (l : Language) (color : Bool) :
    Painted (login (Template.parse source) l.strings form color)
      (login (Template.parse source) l.strings form false) := by
  have free : ∀ g ∈ Template.parse source, NoEscape g.text := fun g member within =>
    template (Template.subset_parseChars source.toList member within)
  have texts : ∀ key text, l.strings.get? key = some text → NoEscape text := fun _ _ found =>
    l.noEscape_strings found
  unfold login
  exact Template.painted_render free texts (noEscape_fields username) color

/-! ## The flag against colour -/

/-- The same arguments with the flag. -/
def Arguments.withoutColor (a : Arguments) : Arguments := { a with noColor := true }

namespace CommandLine

theorem consistent_noColor {os : List Occurrence} (consistent : Consistent os)
    (fresh : .flag .noColor ∉ os) : Consistent (.flag .noColor :: os) := by
  have single : .inr .noColor ∉ os.map subject := by
    intro member
    obtain ⟨o, within, same⟩ := List.mem_map.mp member
    cases o with
    | value v text => cases same
    | flag f => exact fresh (Sum.inr.inj same ▸ within)
  constructor
  case once => exact List.nodup_cons.mpr ⟨single, consistent.once⟩
  case storage =>
    intro flagged text
    simpa using consistent.storage (by simpa using flagged) text

theorem arguments_noColor (os : List Occurrence) :
    arguments (.flag .noColor :: os) = (arguments os).withoutColor := by
  simp [arguments, Arguments.withoutColor, has, valueOf]

/-- The flag may stand in front of any words that do not have it yet. -/
theorem parse_noColor {words : List String} {a : Arguments}
    (parsed : parse words = .ok a) (fresh : a.noColor = false) :
    parse ("--no-color" :: words) = .ok a.withoutColor := by
  obtain ⟨os, told, consistent, rfl⟩ := parse_eq_ok_iff.mp parsed
  have word : "--" ++ Flag.name .noColor = "--no-color" := by decide
  have apart : .flag .noColor ∉ os := by simpa [arguments, has] using fresh
  have more := consistent_noColor consistent apart
  obtain ⟨first, rest⟩ := fresh_cons.mp (consistent_iff.mp more).1
  have longer := says_cons (.flag .noColor) (refusal?_eq_none_iff.mpr ⟨first, trivial⟩)
    ⟨told.spelled, told.fills, rest⟩
  rw [word] at longer
  exact parse_eq_ok_iff.mpr ⟨_, longer, more, arguments_noColor os⟩

end CommandLine

/-! ## Runs -/

/-- Two runs come to the same, the second without colour. -/
structure Outcome.PaintedOver (on off : Outcome) : Prop where
  code : on.code = off.code
  files : on.files = off.files
  output : Painted on.output off.output
  errors : Painted on.errors off.errors

namespace Program

/-- What is printed of something that went wrong: what it is, in colour, and why. -/
theorem painted_complaint {title reason : String} (first : NoEscape title)
    (second : NoEscape reason) (names : List String) (color : Bool) :
    Painted (painted color names title ++ ": " ++ reason ++ "\n")
      (painted false names title ++ ": " ++ reason ++ "\n") := by
  have colon : NoEscape ": " := by decide +kernel
  have newline : NoEscape "\n" := by decide +kernel
  exact (((Painted.paint first _ color).append (.text colon)).append (.text second)).append
    (.text newline)

theorem painted_switchWarning {tag : String} (free : NoEscape tag) (color : Bool) :
    Painted (switchWarning color tag) (switchWarning false tag) := by
  unfold switchWarning
  cases Language.ofTag? tag with
  | some l => exact .empty
  | none =>
    have reason : NoEscape (LocaleFault.unsupportedTag tag).message :=
      noEscape_append.mpr ⟨by decide +kernel, free⟩
    exact painted_complaint (by decide +kernel) reason _ color

theorem painted_submission (form : LoginForm) (color : Bool) :
    Painted (submission color form).1.2 (submission false form).1.2 := by
  unfold submission Page.submit LoginForm.submitTo
  cases form.submit with
  | error e =>
    have reason : NoEscape e.message := by cases e <;> decide +kernel
    exact painted_complaint (by decide +kernel) reason _ color
  | ok c => exact (Painted.paint (by decide +kernel) _ color).append (.text (by decide +kernel))

theorem showPages_errors (a : Arguments) (c : Config) (color : Bool) (route : Route)
    (w : World Empty) (store : Nat) :
    (showPages a c color route w store).errors =
      (a.locale.map (switchWarning color)).getD "" ++
        (if route = .login ∧ a.wantsSubmit = true then submission color (form a)
          else (("", ""), [])).1.2 := by
  unfold showPages
  cases a.locale <;> rfl

section Outcomes

variable (a : Arguments) (s : Surroundings)

@[simp] theorem color_withoutColor : color a.withoutColor s = false := by
  simp [color, Arguments.withoutColor]

theorem loadConfig_withoutColor : loadConfig a.withoutColor s = loadConfig a s := rfl

/-- A run without colour does not depend on why it has none. -/
theorem runWith_withoutColor (bare : color a s = false) :
    runWith a.withoutColor s = runWith a s := by
  rw [runWith_eq, runWith_eq, color_withoutColor, bare]
  rfl

/-- The texts that a run is given to print have no escape characters. -/
structure Calm : Prop where
  template : NoEscape (loadConfig a s).1.cardTemplate
  username : ∀ text ∈ a.username, NoEscape text
  path : NoEscape a.path
  locale : ∀ text ∈ a.locale, NoEscape text

variable {a s} (calm : Calm a s)

include calm

theorem Calm.card (l : Language) : Painted (card a s l) (card a.withoutColor s l) := by
  have username : NoEscape (form a).username := by
    unfold Program.form
    cases given : a.username with
    | none => exact List.not_mem_nil
    | some text => exact calm.username text given
  unfold Program.card
  rw [color_withoutColor]
  exact (Page.painted_login calm.template username l _).append (.text (by decide +kernel))

theorem Calm.warning (color : Bool) :
    Painted ((a.locale.map (switchWarning color)).getD "")
      ((a.locale.map (switchWarning false)).getD "") := by
  cases asked : a.locale with
  | none => exact .empty
  | some tag => exact painted_switchWarning (calm.locale tag asked) color

theorem showPages_painted (l : Language) (m : Mounted) (records : Array LogRecord) :
    Outcome.PaintedOver
      (showPages a (loadConfig a s).1 (color a s) .login (opened l m records) 0)
      (showPages a.withoutColor (loadConfig a s).1 false .login (opened l m records) 0) := by
  have pages := showPages_login a s l m records
  have others := showPages_login a.withoutColor s l m records
  rw [color_withoutColor, loadConfig_withoutColor] at others
  obtain ⟨code, output, files, -⟩ := pages
  obtain ⟨code', output', files', -⟩ := others
  constructor
  case code => exact code.trans code'.symm
  case files => exact files.trans files'.symm
  case output =>
    have locale : a.withoutColor.locale = a.locale := rfl
    rw [output, output', locale]
    cases a.locale with
    | none =>
      rw [Option.map_none, Option.map_none, Option.toList_none, String.join_cons, String.join_cons]
      exact (calm.card l).append .empty
    | some tag =>
      rw [Option.map_some, Option.map_some, Option.toList_some, Option.toList_some,
        String.join_cons, String.join_cons, String.join_cons, String.join_cons]
      exact (calm.card l).append ((calm.card _).append .empty)
  case errors =>
    rw [showPages_errors, showPages_errors]
    refine (calm.warning _).append ?_
    have same : form a.withoutColor = form a ∧ a.withoutColor.wantsSubmit = a.wantsSubmit :=
      ⟨rfl, rfl⟩
    rw [same.1, same.2]
    split
    · exact painted_submission (form a) _
    · exact .empty

/-- A run and the same run without colour. -/
theorem runWith_painted : Outcome.PaintedOver (runWith a s) (runWith a.withoutColor s) := by
  have path : a.withoutColor.path = a.path := rfl
  rw [runWith_eq, runWith_eq, color_withoutColor, path]
  cases Route.ofPath? a.path with
  | none =>
    have lost : NoEscape ("Error: no route for " ++ a.path ++ "\n") :=
      noEscape_append.mpr ⟨noEscape_append.mpr ⟨by decide +kernel, calm.path⟩, by decide +kernel⟩
    exact ⟨rfl, rfl, .empty, .text lost⟩
  | some route => exact showPages_painted calm _ _ _

end Outcomes

/-- For all words that are understood, all files and all configurations, whether or not the
surroundings take colour; the flag may be given anywhere, and always in front. -/
theorem noColor_takes_codes_away (words : List String) (a : Arguments) (s : Surroundings)
    (parsed : CommandLine.parse words = .ok a) (calm : Calm a s) :
    let on := run words s
    (∀ words', CommandLine.parse words' = .ok a.withoutColor →
      let off := run words' s
      on.code = off.code ∧ on.files = off.files ∧
        Terminal.visible on.output = off.output ∧ Terminal.visible on.errors = off.errors ∧
        NoEscape off.output ∧ NoEscape off.errors) ∧
      (a.noColor = false → CommandLine.parse ("--no-color" :: words) = .ok a.withoutColor) ∧
      ((loadConfig a s).1.color = false → NoEscape on.output ∧ NoEscape on.errors) := by
  intro on
  have ran : on = runWith a s := by simp only [on, run, parsed]
  have painted := runWith_painted calm
  rw [← ran] at painted
  refine ⟨?_, CommandLine.parse_noColor parsed, ?_⟩
  · intro words' parsed' off
    have bare : off = runWith a.withoutColor s := by simp only [off, run, parsed']
    rw [← bare] at painted
    exact ⟨painted.code, painted.files, painted.output.visible, painted.errors.visible,
      painted.output.free, painted.errors.free⟩
  · intro colorless
    have same : runWith a.withoutColor s = on := by
      rw [ran]
      exact runWith_withoutColor a s (by simp [color, colorless])
    rw [same] at painted
    exact ⟨painted.output.free, painted.errors.free⟩

/-- A run with a warning and a complaint, both in colour. -/
theorem complaints_lose_their_codes :
    let s : Surroundings := ⟨FileTree.empty, none, none, true, fun _ _ => ""⟩
    let on := run ["-uada", "-lxx"] s
    let off := run ["-uada", "--no-color", "-lxx"] s
    on.errors = "\x1b[1;33mLocale not switched\x1b[0m: unsupported locale tag: xx\n" ++
        "\x1b[1;31mInvalid form\x1b[0m: password is required\n" ∧
      on.code = off.code ∧ on.files = off.files ∧ Terminal.visible on.output = off.output ∧
      Terminal.visible on.errors = off.errors ∧ NoEscape off.output ∧ NoEscape off.errors := by
  intro s on off
  let a : Arguments := ⟨"/", some "xx", some "ada", none, none, none, false, false⟩
  have template : (loadConfig a s).1.cardTemplate = Page.defaultTemplate := by decide +kernel
  have calm : Calm a s :=
    { template := template ▸ Page.noEscape_defaultTemplate
      username := by decide +kernel
      path := by decide +kernel
      locale := by decide +kernel }
  have errors : on.errors = "\x1b[1;33mLocale not switched\x1b[0m: unsupported locale tag: xx\n" ++
      "\x1b[1;31mInvalid form\x1b[0m: password is required\n" := by decide +kernel
  have parsed : CommandLine.parse ["-uada", "-lxx"] = .ok a := by rfl
  have parsed' : CommandLine.parse ["-uada", "--no-color", "-lxx"] = .ok a.withoutColor := by rfl
  exact ⟨errors, (noColor_takes_codes_away ["-uada", "-lxx"] a s parsed calm).1 _ parsed'⟩

end Program

end LoginCard
