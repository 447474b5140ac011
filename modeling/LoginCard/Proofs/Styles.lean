import Mathlib.Data.List.Induction
import LoginCard.Style

/-!
# What a list of style names comes to

Of the names in a list count the attributes that occur in it, wherever and however often, and the
last colour.
-/

namespace LoginCard

def Color.ofName? (name : String) : Option Color :=
  if name = "red" then some .red
  else if name = "green" then some .green
  else if name = "yellow" then some .yellow
  else if name = "blue" then some .blue
  else if name = "magenta" then some .magenta
  else if name = "cyan" then some .cyan
  else if name = "white" then some .white
  else none

namespace Style

/-- The attributes that are named, and the last colour that is. -/
def named (list : List String) : Style :=
  { bold := decide ("bold" ∈ list)
    dimmed := decide ("dim" ∈ list ∨ "dimmed" ∈ list)
    underline := decide ("underline" ∈ list)
    reversed := decide ("reversed" ∈ list)
    italic := decide ("italic" ∈ list)
    color := (list.filterMap Color.ofName?).getLast? }

/-- The names that mean a style. -/
def names : List String :=
  ["red", "green", "yellow", "blue", "magenta", "cyan", "white", "bold", "dim", "dimmed",
    "underline", "italic", "reversed"]

/-- One more name switches its attribute on, or gives the colour. -/
theorem add_eq (s : Style) (name : String) :
    s.add name =
      { bold := s.bold || name = "bold"
        dimmed := s.dimmed || (name = "dim" || name = "dimmed")
        underline := s.underline || name = "underline"
        reversed := s.reversed || name = "reversed"
        italic := s.italic || name = "italic"
        color := (Color.ofName? name).or s.color } := by
  by_cases known : name ∈ names
  · simp only [names, List.mem_cons, List.not_mem_nil, or_false] at known
    rcases known with rfl | rfl | rfl | rfl | rfl | rfl | rfl | rfl | rfl | rfl | rfl | rfl | rfl <;>
      simp [add, Color.ofName?]
  · simp only [names, List.mem_cons, List.not_mem_nil, or_false, not_or] at known
    simp [add, Color.ofName?, known]

theorem named_concat (before : List String) (name : String) :
    named (before ++ [name]) = (named before).add name := by
  have last : ((before ++ [name]).filterMap Color.ofName?).getLast? =
      (Color.ofName? name).or (before.filterMap Color.ofName?).getLast? := by
    rw [List.filterMap_append, List.getLast?_append]
    cases found : Color.ofName? name <;> simp [found]
  have either : ∀ wanted, wanted ∈ before ++ [name] ↔
      wanted ∈ before ∨ name = wanted := by
    intro wanted
    rw [List.mem_append, List.mem_singleton, eq_comm]
  rw [add_eq]
  simp only [named, last, either, Bool.decide_or, Bool.or_assoc, Bool.or_left_comm]

theorem ofNames_concat (before : List String) (name : String) :
    ofNames (before ++ [name]) = (ofNames before).add name := by
  rw [ofNames, List.foldl_append]
  rfl

/-- Gathering the names one by one gives the attributes that are named and the last colour. -/
theorem ofNames_eq_named (list : List String) : ofNames list = named list := by
  induction list using List.reverseRecOn with
  | nil => rfl
  | append_singleton before name ih => rw [ofNames_concat, named_concat, ih]

end Style

end LoginCard
