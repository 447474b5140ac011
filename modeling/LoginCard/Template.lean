import LoginCard.Text.Blank

/-!
# Card templates

A template is a text with slots. `{` opens a slot, which reaches to the next `}` or to the end of
the text; its key stands before the first `:`, its style names after it, between commas. Blanks at
the ends of keys and names are not part of them, a slot without a key is nothing, and a `}` outside
a slot is ordinary text.
-/

namespace LoginCard

inductive Segment where
  | literal (text : String)
  | slot (key : String) (styles : List String)
  deriving DecidableEq, Repr

abbrev Template := List Segment

namespace Template

open Text

/-- What a slot holds and what follows it, for the text behind its `{`. -/
def cutSlot (cs : List Char) : List Char × List Char :=
  (cs.takeWhile (· ≠ '}'), (cs.dropWhile (· ≠ '}')).drop 1)

theorem length_cutSlot_snd (cs : List Char) : (cutSlot cs).2.length ≤ cs.length := by
  have := (List.dropWhile_suffix (fun x => decide (x ≠ '}')) (l := cs)).sublist.length_le
  simp only [cutSlot, List.length_drop]
  omega

def styleNames (cs : List Char) : List String :=
  (((pieces ',' cs).map trim).filter (· ≠ [])).map String.ofList

def slotOf (body : List Char) : List Segment :=
  let key := trim (body.takeWhile (· ≠ ':'))
  if key = [] then []
  else [.slot (String.ofList key) (styleNames ((body.dropWhile (· ≠ ':')).drop 1))]

def parseChars : List Char → Template
  | [] => []
  | c :: cs =>
    if c = '{' then slotOf (cutSlot cs).1 ++ parseChars (cutSlot cs).2
    else
      .literal (String.ofList (c :: cs.takeWhile (· ≠ '{'))) :: parseChars (cs.dropWhile (· ≠ '{'))
  termination_by cs => cs.length
  decreasing_by
    · simpa [Nat.lt_succ_iff] using length_cutSlot_snd cs
    · simpa [Nat.lt_succ_iff] using
        (List.dropWhile_suffix (fun x => decide (x ≠ '{')) (l := cs)).sublist.length_le

@[simp] theorem parseChars_nil : parseChars [] = [] := by rw [parseChars]

theorem parseChars_slot (cs : List Char) :
    parseChars ('{' :: cs) = slotOf (cutSlot cs).1 ++ parseChars (cutSlot cs).2 := by
  rw [parseChars, if_pos rfl]

theorem parseChars_literal (c : Char) (cs : List Char) (h : c ≠ '{') :
    parseChars (c :: cs) =
      .literal (String.ofList (c :: cs.takeWhile (· ≠ '{'))) ::
        parseChars (cs.dropWhile (· ≠ '{')) := by
  rw [parseChars, if_neg h]

def parse (source : String) : Template := parseChars source.toList

end Template

def Segment.print : Segment → String
  | .literal text => text
  | .slot key [] => "\x7b" ++ key ++ "\x7d"
  | .slot key styles => "\x7b" ++ key ++ ":" ++ ",".intercalate styles ++ "\x7d"

def Template.print (t : Template) : String := String.join (t.map Segment.print)

end LoginCard
