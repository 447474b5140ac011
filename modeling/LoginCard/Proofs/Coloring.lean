import LoginCard.Proofs.Styles
import LoginCard.Proofs.Terminal
import LoginCard.Template.Render

/-!
# Styles stay in their slots

Read by a terminal, a template that is filled in with colour shows the same characters as without.
A slot that stands for something is shown in the style that it names, all else in no style, and no
style is left on behind it.
-/

namespace LoginCard

namespace Segment

/-- The text of a segment that may be shown; of a slot, its key. -/
def text : Segment → String
  | .literal text => text
  | .slot key _ => key

/-- How a segment is shown: a slot that stands for a text as this text, with the attributes that
the slot names and the last of its colours. -/
def glyphs (strings : Strings) (vars : Variables) : Segment → List Glyph
  | .literal text => text.toList.map (Glyph.mk · .plain)
  | .slot key styles =>
    match Template.value? strings vars key with
    | some text => text.toList.map (Glyph.mk · (Style.named styles))
    | none => ("\x7b" ++ key ++ "\x7d").toList.map (Glyph.mk · .plain)

end Segment

theorem Language.noEscape_strings (l : Language) {key text : String}
    (found : l.strings.get? key = some text) : NoEscape text := by
  have all : ∀ named ∈ Strings.keys, ∀ text ∈ l.strings.get? named, NoEscape text := by
    cases l <;> decide +kernel
  have named : key ∈ Strings.keys :=
    (Strings.get?_isSome_iff l.strings key).mp (Option.isSome_of_eq_some found)
  exact all key named text found

namespace Template

section Filled

variable {strings : Strings} {vars : Variables}
  (texts : ∀ key text, strings.get? key = some text → NoEscape text)
  (values : ∀ entry ∈ vars, NoEscape entry.2)

include texts values

theorem noEscape_value? {key text : String} (found : value? strings vars key = some text) :
    NoEscape text := by
  rcases Option.or_eq_some_iff.mp found with first | ⟨-, second⟩
  · exact texts key text first
  · obtain ⟨before, behind, rfl, -⟩ := List.lookup_eq_some_iff.mp second
    exact values (key, text) (by simp)

/-- Without colour a segment shows no escape character. -/
theorem noEscape_segment {g : Segment} (free : NoEscape g.text) :
    NoEscape (renderSegment strings vars false g) := by
  cases g with
  | literal text => exact free
  | slot key styles =>
    cases found : value? strings vars key with
    | none =>
      have brackets : NoEscape "\x7b" ∧ NoEscape "\x7d" := by decide +kernel
      simp only [renderSegment, found]
      exact noEscape_append.mpr ⟨noEscape_append.mpr ⟨brackets.1, free⟩, brackets.2⟩
    | some text =>
      simp only [renderSegment, found, Style.paint_off]
      exact noEscape_value? texts values found

theorem noEscape_render {t : Template} (free : ∀ g ∈ t, NoEscape g.text) :
    NoEscape (t.render strings vars false) := by
  refine noEscape_join fun text shown => ?_
  obtain ⟨g, member, rfl⟩ := List.mem_map.mp shown
  exact noEscape_segment texts values (free g member)

theorem displays_segment {g : Segment} (free : NoEscape g.text) :
    Terminal.Displays (renderSegment strings vars true g) (g.glyphs strings vars) := by
  have bare := noEscape_segment texts values free
  cases g with
  | literal text => exact Terminal.displays_text free
  | slot key styles =>
    cases found : value? strings vars key with
    | none =>
      simp only [renderSegment, Segment.glyphs, found] at bare ⊢
      exact Terminal.displays_text bare
    | some text =>
      simp only [renderSegment, Segment.glyphs, found, Style.ofNames_eq_named]
      exact Terminal.displays_paint (noEscape_value? texts values found) _

theorem displays_render {t : Template} (free : ∀ g ∈ t, NoEscape g.text) :
    Terminal.Displays (t.render strings vars true) (t.flatMap (Segment.glyphs strings vars)) := by
  induction t with
  | nil => exact Terminal.Displays.empty
  | cons g t ih =>
    obtain ⟨first, rest⟩ := List.forall_mem_cons.mp free
    rw [render, List.map_cons, String.join_cons, ← render, List.flatMap_cons]
    exact (displays_segment texts values first).append (ih rest)

end Filled

/-- Styles do not change the characters. -/
theorem chars_glyphs (strings : Strings) (vars : Variables) (g : Segment) :
    (g.glyphs strings vars).map Glyph.char = (renderSegment strings vars false g).toList := by
  cases g with
  | literal text => simp [Segment.glyphs, renderSegment, Function.comp_def]
  | slot key styles =>
    cases found : value? strings vars key <;>
      simp [Segment.glyphs, renderSegment, found, Function.comp_def]

theorem chars_render (t : Template) (strings : Strings) (vars : Variables) :
    (t.flatMap (Segment.glyphs strings vars)).map Glyph.char =
      (t.render strings vars false).toList := by
  induction t with
  | nil => rfl
  | cons g t ih =>
    rw [List.flatMap_cons, List.map_append, chars_glyphs, ih, render, render, List.map_cons,
      String.join_cons, String.toList_append]

/-- For every template, strings and variables without escape characters in their texts. -/
theorem styles_stay_in_slots (t : Template) (strings : Strings) (vars : Variables)
    (free : ∀ g ∈ t, NoEscape g.text)
    (texts : ∀ key text, strings.get? key = some text → NoEscape text)
    (values : ∀ entry ∈ vars, NoEscape entry.2) :
    let shown := t.flatMap (Segment.glyphs strings vars)
    Terminal.read .plain (t.render strings vars true).toList = (shown, .plain) ∧
      shown.map Glyph.char = (t.render strings vars false).toList :=
  ⟨(displays_render texts values free).read_eq, chars_render t strings vars⟩

/-- Of several colours the last one counts, an unknown slot has none, and an empty text shows
nothing of its style. -/
theorem styles_stay_in_slots_of_card :
    let t : Template := [.literal "a", .slot "user" ["red", "bold", "blink", "blue"],
      .slot "who" ["red"], .slot "rest" ["dim"]]
    let vars : Variables := [("user", "da"), ("rest", "")]
    let loud : Style := { Style.plain with bold := true, color := some .blue }
    let shown : List Glyph := [⟨'a', .plain⟩, ⟨'d', loud⟩, ⟨'a', loud⟩, ⟨'\x7b', .plain⟩,
      ⟨'w', .plain⟩, ⟨'h', .plain⟩, ⟨'o', .plain⟩, ⟨'\x7d', .plain⟩]
    (∀ g ∈ t, NoEscape g.text) ∧ (∀ entry ∈ vars, NoEscape entry.2) ∧
      Terminal.read .plain (t.render Language.russian.strings vars true).toList = (shown, .plain) ∧
      shown.map Glyph.char = (t.render Language.russian.strings vars false).toList := by
  intro t vars loud shown
  have free : ∀ g ∈ t, NoEscape g.text := by decide +kernel
  have values : ∀ entry ∈ vars, NoEscape entry.2 := by decide +kernel
  have looks : t.flatMap (Segment.glyphs Language.russian.strings vars) = shown := by
    decide +kernel
  have stay := styles_stay_in_slots t Language.russian.strings vars free
    (fun _ _ => Language.noEscape_strings .russian) values
  rw [looks] at stay
  exact ⟨free, values, stay⟩

end Template

end LoginCard
