import LoginCard.Proofs.Composition

/-!
# Slots that stand for nothing

A slot that neither the strings nor the variables know stays visible as its key between brackets.
A text in which all slots are so is filled in with its own slots, bare of blanks and styles, and
such a text is filled in with itself.
-/

namespace LoginCard

namespace Segment

def key? : Segment → Option String
  | .literal _ => none
  | .slot key _ => some key

/-- The segment without its styles. -/
def bare : Segment → Segment
  | .literal text => .literal text
  | .slot key _ => .slot key []

/-- How a segment looks when nothing is known about it. -/
def visible : Segment → String
  | .literal text => text
  | .slot key _ => "\x7b" ++ key ++ "\x7d"

theorem print_bare (g : Segment) : g.bare.print = g.visible := by cases g <;> rfl

@[simp] theorem visible_bare (g : Segment) : g.bare.visible = g.visible := by cases g <;> rfl

@[simp] theorem key?_bare (g : Segment) : g.bare.key? = g.key? := by cases g <;> rfl

theorem WellFormed.bare {g : Segment} (formed : g.WellFormed) : g.bare.WellFormed := by
  cases g with
  | literal text => exact formed
  | slot key styles => exact ⟨formed.1, by simp⟩

end Segment

namespace Template

/-- The keys of the slots, in order. -/
def keys (t : Template) : List String := t.filterMap Segment.key?

@[simp] theorem keys_map_bare (t : Template) : keys (t.map Segment.bare) = keys t := by
  simp [keys, List.filterMap_map]

theorem keys_merge (t : Template) : keys (merge t) = keys t := by
  have glued : ∀ text u, keys (glue text u) = keys u := by
    intro text u
    unfold glue
    split <;> rfl
  induction t with
  | nil => rfl
  | cons g t ih =>
    cases g with
    | literal text => rw [merge, glued, ih]; rfl
    | slot key styles => exact congrArg (key :: ·) ih

section Unknown

variable {strings : Strings} {vars : Variables}

theorem value?_eq_none_iff {key : String} :
    value? strings vars key = none ↔ key ∉ Strings.keys ∧ key ∉ vars.map Prod.fst := by
  rw [value?, Option.or_eq_none_iff, ← Strings.get?_isSome_iff strings,
    Option.not_isSome_iff_eq_none, List.lookup_eq_none_iff]
  refine and_congr_right fun _ => ⟨fun apart named => ?_, fun apart p member => ?_⟩
  · obtain ⟨p, member, rfl⟩ := List.mem_map.mp named
    simpa using apart p member
  · have other : key ≠ p.1 := fun same => apart (same ▸ List.mem_map_of_mem member)
    simpa using other

/-- Colour makes no difference to a slot that stands for nothing. -/
theorem render_unknown {t : Template} (unknown : ∀ key ∈ keys t, value? strings vars key = none)
    (color : Bool) : render t strings vars color = String.join (t.map Segment.visible) := by
  have segments : t.map (renderSegment strings vars color) = t.map Segment.visible := by
    refine List.map_congr_left fun g member => ?_
    cases g with
    | literal text => rfl
    | slot key styles =>
      have named : key ∈ keys t := List.mem_filterMap.mpr ⟨_, member, rfl⟩
      rw [renderSegment, unknown key named, Segment.visible]
  rw [render, segments]

end Unknown

/-- What a text shows when nothing is known is read back as the same slots without their styles. -/
theorem parse_visible (source : String) :
    parse (String.join ((parse source).map Segment.visible)) =
      merge ((parse source).map Segment.bare) := by
  have formed : ∀ g ∈ (parse source).map Segment.bare, g.WellFormed := by
    intro g member
    obtain ⟨g, read, rfl⟩ := List.mem_map.mp member
    exact (wellFormed_parseChars source.toList read).bare
  have printed : print ((parse source).map Segment.bare) =
      String.join ((parse source).map Segment.visible) := by
    simp only [print, List.map_map, Function.comp_def, Segment.print_bare]
  rw [← printed, parse_print formed]

/-- For every text whose slots name no string and no variable. -/
theorem unknown_slots_stay (source : String) (strings : Strings) (vars : Variables)
    (unknown : ∀ key ∈ keys (parse source), key ∉ Strings.keys ∧ key ∉ vars.map Prod.fst) :
    let shown := String.join ((parse source).map Segment.visible)
    (∀ color, render (parse source) strings vars color = shown) ∧
      keys (parse shown) = keys (parse source) ∧
      ∀ color, render (parse shown) strings vars color = shown := by
  intro shown
  have nothing : ∀ key ∈ keys (parse source), value? strings vars key = none := fun key named =>
    value?_eq_none_iff.mpr (unknown key named)
  have again : keys (parse shown) = keys (parse source) := by
    rw [parse_visible, keys_merge, keys_map_bare]
  refine ⟨render_unknown nothing, again, fun color => ?_⟩
  have still : ∀ key ∈ keys ((parse source).map Segment.bare), value? strings vars key = none := by
    simpa using nothing
  calc render (parse shown) strings vars color
      = render ((parse source).map Segment.bare) strings vars color := by
        rw [parse_visible, render_merge]
    _ = shown := by
        rw [render_unknown still, List.map_map]
        simp only [Function.comp_def, Segment.visible_bare, shown]

/-- A key that holds a bracket and blanks, an empty slot, and one that is not closed. -/
theorem unknown_slots_stay_open :
    let source := "a\x7b x\x7b y : bold \x7db\x7b:red\x7dc\x7d\x7b z,1"
    let shown := "a\x7bx\x7b y\x7dbc\x7d\x7bz,1\x7d"
    let vars : Variables := [("user", "ada")]
    keys (parse source) = ["x\x7b y", "z,1"] ∧
      ∀ color, render (parse source) Language.english.strings vars color = shown ∧
        render (parse shown) Language.english.strings vars color = shown := by
  intro source shown vars
  have named : keys (parse source) = ["x\x7b y", "z,1"] := by decide +kernel
  have looks : String.join ((parse source).map Segment.visible) = shown := by decide +kernel
  have unknown : ∀ key ∈ keys (parse source),
      key ∉ Strings.keys ∧ key ∉ vars.map Prod.fst := by
    rw [named]
    decide +kernel
  obtain ⟨first, -, second⟩ :=
    unknown_slots_stay source Language.english.strings vars unknown
  rw [looks] at first second
  exact ⟨named, fun color => ⟨first color, second color⟩⟩

end Template

end LoginCard
