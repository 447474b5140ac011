import Mathlib.Data.List.Nodup
import LoginCard.CommandLine
import LoginCard.Proofs.Trimming

/-!
# How a command line is spelled

The words of a command line say one thing after another, each in one of a few forms. They are
understood exactly when they do, when nothing is said twice and no storage is named that is not to be
kept, and what they come to depends on what is said and not on its order or its form.
-/

namespace LoginCard

open Text

/-- Behind two dashes. -/
def ValueOption.name : ValueOption → String
  | .path => "path"
  | .locale => "locale"
  | .username => "username"
  | .password => "password"
  | .config => "config"
  | .storage => "storage"

/-- Behind one dash. -/
def ValueOption.letter? : ValueOption → Option Char
  | .locale => some 'l'
  | .username => some 'u'
  | .password => some 'p'
  | _ => none

def Flag.name : Flag → String
  | .noPersist => "no-persist"
  | .noColor => "no-color"

namespace CommandLine

/-- The word names an option and leaves its value to the next word. -/
inductive Names : ValueOption → String → Prop where
  | long (o : ValueOption) : Names o ("--" ++ o.name)
  | short {o : ValueOption} {letter : Char} :
      o.letter? = some letter → Names o ("-" ++ String.singleton letter)

/-- The words that say one thing. -/
inductive Spells : Occurrence → List String → Prop where
  | flag (f : Flag) : Spells (.flag f) ["--" ++ f.name]
  | long (o : ValueOption) (text : String) : Spells (.value o text) ["--" ++ o.name ++ "=" ++ text]
  | short {o : ValueOption} {letter : Char} (text : String) : o.letter? = some letter →
      Spells (.value o text) ["-" ++ String.singleton letter ++ "=" ++ text]
  | glued {o : ValueOption} {letter : Char} {text : String} : o.letter? = some letter →
      text ≠ "" → text.toList.head? ≠ some '=' →
        Spells (.value o text) ["-" ++ String.singleton letter ++ text]
  | apart {o : ValueOption} {word text : String} : Names o word →
      text = "-" ∨ text.toList.head? ≠ some '-' → Spells (.value o text) [word, text]

/-- The words that say these things, in this order. -/
inductive Spelled : List Occurrence → List String → Prop where
  | nil : Spelled [] []
  | cons {o : Occurrence} {os : List Occurrence} {first rest : List String} :
      Spells o first → Spelled os rest → Spelled (o :: os) (first ++ rest)

/-- What a word may be taken for: for what it says by itself, or for a fault. -/
inductive Meant : Word → String → Prop where
  | value {o : ValueOption} {text word : String} : Spells (.value o text) [word] →
      Meant (.value o text) word
  | needsValue {o : ValueOption} {word : String} : Names o word → Meant (.needsValue o) word
  | flag {f : Flag} {word : String} : Spells (.flag f) [word] → Meant (.flag f) word
  | endOfOptions : Meant .endOfOptions "--"
  | fault (e : UsageFault) (word : String) : Meant (.fault e) word

/-! ## Words with two dashes -/

theorem ofName?_eq_some_iff {name : String} {o : ValueOption} :
    ValueOption.ofName? name = some o ↔ name = o.name := by
  unfold ValueOption.ofName?
  cases o <;> grind [ValueOption.name]

theorem flag_ofName?_eq_some_iff {name : String} {f : Flag} :
    Flag.ofName? name = some f ↔ name = f.name := by
  unfold Flag.ofName?
  cases f <;> grind [Flag.name]

theorem option_name_free (o : ValueOption) : '=' ∉ o.name.toList := by
  cases o <;> decide

theorem flag_name_free (f : Flag) : '=' ∉ f.name.toList := by
  cases f <;> decide

theorem ofName?_flag_name (f : Flag) : ValueOption.ofName? f.name = none := by
  cases f <;> decide

theorem longWord_value (o : ValueOption) (text : String) :
    longWord (o.name.toList ++ '=' :: text.toList) = .value o text := by
  have named : ValueOption.ofName? o.name = some o := ofName?_eq_some_iff.mpr rfl
  simp only [longWord, takeWhile_stop (option_name_free o), dropWhile_stop (option_name_free o),
    String.ofList_toList, named]

theorem longWord_name (o : ValueOption) : longWord o.name.toList = .needsValue o := by
  have named : ValueOption.ofName? o.name = some o := ofName?_eq_some_iff.mpr rfl
  simp only [longWord, takeWhile_free (option_name_free o), dropWhile_free (option_name_free o),
    String.ofList_toList, named]

theorem longWord_flag (f : Flag) : longWord f.name.toList = .flag f := by
  have named : Flag.ofName? f.name = some f := flag_ofName?_eq_some_iff.mpr rfl
  simp only [longWord, takeWhile_free (flag_name_free f), dropWhile_free (flag_name_free f),
    String.ofList_toList, ofName?_flag_name, named, if_true]

/-- A text is what stands before the first stop, and the stop with what follows it, if there is one. -/
theorem cut_at (stop : Char) (cs : List Char) :
    (cs.dropWhile (· ≠ stop) = [] ∧ cs = cs.takeWhile (· ≠ stop)) ∨
      ∃ rest, cs.dropWhile (· ≠ stop) = stop :: rest ∧ cs = cs.takeWhile (· ≠ stop) ++ stop :: rest := by
  have whole := List.takeWhile_append_dropWhile (p := fun c => decide (c ≠ stop)) (l := cs)
  have stops := List.head?_dropWhile_not (fun c => decide (c ≠ stop)) cs
  cases behind : cs.dropWhile (· ≠ stop) with
  | nil =>
    rw [behind, List.append_nil] at whole
    exact .inl ⟨rfl, whole.symm⟩
  | cons c rest =>
    rw [behind] at whole stops
    obtain rfl : c = stop := by simpa using stops
    exact .inr ⟨rest, rfl, whole.symm⟩

theorem meant_longWord {word : String} {cs : List Char} (front : word.toList = '-' :: '-' :: cs) :
    Meant (longWord cs) word := by
  unfold longWord
  cases named : ValueOption.ofName? (String.ofList (cs.takeWhile (· ≠ '='))) with
  | some o =>
    have name := congrArg String.toList (ofName?_eq_some_iff.mp named)
    rw [String.toList_ofList] at name
    rcases cut_at '=' cs with ⟨none, whole⟩ | ⟨rest, behind, whole⟩
    · have same := whole.trans name
      obtain rfl : word = "--" ++ o.name := String.toList_inj.mp (by simp [front, same])
      simp only [named, none]
      exact .needsValue (.long o)
    · rw [name] at whole
      obtain rfl : word = "--" ++ o.name ++ "=" ++ String.ofList rest :=
        String.toList_inj.mp (by simp [front, whole])
      simp only [named, behind]
      exact .value (.long o _)
  | none =>
    cases flagged : Flag.ofName? (String.ofList (cs.takeWhile (· ≠ '='))) with
    | some f =>
      have name := congrArg String.toList (flag_ofName?_eq_some_iff.mp flagged)
      rw [String.toList_ofList] at name
      rcases cut_at '=' cs with ⟨none, whole⟩ | ⟨rest, behind, whole⟩
      · have same := whole.trans name
        obtain rfl : word = "--" ++ f.name := String.toList_inj.mp (by simp [front, same])
        simp only [named, flagged, none, if_true]
        exact .flag (.flag f)
      · simp only [named, flagged, behind, reduceCtorEq, if_false]
        exact .fault _ _
    | none =>
      simp only [named, flagged]
      split
      · split <;> exact .fault _ _
      · split
        · split <;> exact .fault _ _
        · exact .fault _ _

/-! ## Words with one dash -/

theorem shortWord_letter {o : ValueOption} {letter : Char} (known : o.letter? = some letter)
    (cs : List Char) : shortWord (letter :: cs) = letterValue o cs := by
  cases o <;> cases known <;> rfl

theorem letter_ne_dash {o : ValueOption} {letter : Char} (known : o.letter? = some letter) :
    letter ≠ '-' := by
  cases o <;> cases known <;> decide

theorem letterValue_equals (o : ValueOption) (text : String) :
    letterValue o ('=' :: text.toList) = .value o text := by
  simp [letterValue]

theorem letterValue_glued (o : ValueOption) {text : String} (there : text ≠ "")
    (plain : text.toList.head? ≠ some '=') : letterValue o text.toList = .value o text := by
  cases chars : text.toList with
  | nil => exact absurd (String.toList_eq_nil_iff.mp chars) there
  | cons c cs =>
    have other : c ≠ '=' := by simpa [chars] using plain
    rw [letterValue, if_neg other, ← chars, String.ofList_toList]

theorem meant_letterValue {o : ValueOption} {letter : Char} (known : o.letter? = some letter)
    {word : String} {cs : List Char} (front : word.toList = '-' :: letter :: cs) :
    Meant (letterValue o cs) word := by
  cases cs with
  | nil =>
    obtain rfl : word = "-" ++ String.singleton letter := String.toList_inj.mp (by simp [front])
    exact .needsValue (.short known)
  | cons c cs =>
    by_cases equals : c = '='
    · subst equals
      obtain rfl : word = "-" ++ String.singleton letter ++ "=" ++ String.ofList cs :=
        String.toList_inj.mp (by simp [front])
      rw [letterValue, if_pos rfl]
      exact .value (.short _ known)
    · obtain rfl : word = "-" ++ String.singleton letter ++ String.ofList (c :: cs) :=
        String.toList_inj.mp (by simp [front])
      rw [letterValue, if_neg equals]
      exact .value (.glued known (by simp) (by simpa using equals))

theorem meant_shortWord {word : String} {cs : List Char} (front : word.toList = '-' :: cs) :
    Meant (shortWord cs) word := by
  unfold shortWord
  split
  · exact meant_letterValue (o := .locale) rfl front
  · exact meant_letterValue (o := .username) rfl front
  · exact meant_letterValue (o := .password) rfl front
  · exact .fault _ _
  · exact .fault _ _
  · exact .fault _ _

/-! ## Words -/

theorem meant_classify (word : String) : Meant (classify word) word := by
  unfold classify
  split
  · rename_i front
    obtain rfl : word = "--" := String.toList_inj.mp front
    exact .endOfOptions
  · rename_i front
    exact meant_longWord front
  · rename_i front
    exact meant_shortWord front
  · exact .fault _ _

theorem meant_of_classify {word : String} {w : Word} (found : classify word = w) : Meant w word :=
  found ▸ meant_classify word

theorem classify_long {word : String} {cs : List Char} (front : word.toList = '-' :: '-' :: cs)
    (there : cs ≠ []) : classify word = longWord cs := by
  unfold classify
  rw [front]
  cases cs with
  | nil => exact absurd rfl there
  | cons c cs => rfl

theorem classify_short {o : ValueOption} {letter : Char} (known : o.letter? = some letter)
    {word : String} {cs : List Char} (front : word.toList = '-' :: letter :: cs) :
    classify word = letterValue o cs := by
  unfold classify
  rw [front, ← shortWord_letter known]
  have other := letter_ne_dash known
  split <;> simp_all

theorem classify_of_names {o : ValueOption} {word : String} (named : Names o word) :
    classify word = .needsValue o := by
  cases named with
  | long =>
    have front : ("--" ++ o.name).toList = '-' :: '-' :: o.name.toList := by simp
    rw [classify_long front (by cases o <;> decide), longWord_name]
  | @short letter known =>
    have front : ("-" ++ String.singleton letter).toList = ['-', letter] := by simp
    rw [classify_short known front, letterValue]

theorem classify_of_flag (f : Flag) : classify ("--" ++ f.name) = .flag f := by
  have front : ("--" ++ f.name).toList = '-' :: '-' :: f.name.toList := by simp
  rw [classify_long front (by cases f <;> decide), longWord_flag]

theorem classify_of_value {o : ValueOption} {text word : String}
    (spelled : Spells (.value o text) [word]) : classify word = .value o text := by
  cases spelled with
  | long =>
    have front : ("--" ++ o.name ++ "=" ++ text).toList =
        '-' :: '-' :: (o.name.toList ++ '=' :: text.toList) := by simp
    rw [classify_long front (by simp), longWord_value]
  | @short _ letter _ known =>
    have front : ("-" ++ String.singleton letter ++ "=" ++ text).toList =
        '-' :: letter :: '=' :: text.toList := by simp
    rw [classify_short known front, letterValue_equals]
  | @glued _ letter _ known there plain =>
    have front : ("-" ++ String.singleton letter ++ text).toList =
        '-' :: letter :: text.toList := by simp
    rw [classify_short known front, letterValue_glued o there plain]

/-! ## Command lines -/

/-- The text may be the value of what is said: the name of a file is not empty. -/
def Fills : Occurrence → Prop
  | .value o text => text ≠ "" ∨ o ≠ .config ∧ o ≠ .storage
  | .flag _ => True

theorem accepts_iff {o : ValueOption} {text : String} :
    accepts o text = true ↔ Fills (.value o text) := by
  simp [accepts, Fills]

theorem isValue_iff {text : String} :
    isValue text = true ↔ text = "-" ∨ text.toList.head? ≠ some '-' := by
  simp [isValue]

/-- Nothing is said twice, and nothing that was given before. -/
structure Fresh (given : List (ValueOption ⊕ Flag)) (os : List Occurrence) : Prop where
  once : (os.map subject).Nodup
  apart : ∀ o ∈ os, subject o ∉ given

section Reading

variable {given : List (ValueOption ⊕ Flag)} {o : Occurrence} {os : List Occurrence}
  {first words tail : List String}

theorem fresh_cons : Fresh given (o :: os) ↔ subject o ∉ given ∧ Fresh (subject o :: given) os := by
  constructor
  · rintro ⟨once, apart⟩
    obtain ⟨here, later⟩ := List.forall_mem_cons.mp apart
    obtain ⟨single, once⟩ := List.nodup_cons.mp once
    refine ⟨here, once, fun o' member => ?_⟩
    rw [List.mem_cons, not_or]
    exact ⟨fun same => single (same ▸ List.mem_map_of_mem member), later o' member⟩
  · rintro ⟨here, once, apart⟩
    have single : subject o ∉ os.map subject := by
      intro again
      obtain ⟨o', member, same⟩ := List.mem_map.mp again
      exact apart o' member (same ▸ List.mem_cons_self)
    refine ⟨List.nodup_cons.mpr ⟨single, once⟩, List.forall_mem_cons.mpr ⟨here, ?_⟩⟩
    exact fun o' member old => apart o' member (List.mem_cons_of_mem _ old)

theorem refusal?_eq_none_iff : refusal? given o = none ↔ subject o ∉ given ∧ Fills o := by
  unfold refusal?
  by_cases again : subject o ∈ given
  · simp [again]
  · cases o with
    | flag f => simp [again, Fills]
    | value o text => simp [again, ← accepts_iff]

theorem refusal?_of_given (again : subject o ∈ given) : refusal? given o = some .conflict := by
  simp [refusal?, again]

theorem classify_dashes : classify "--" = .endOfOptions := by decide

/-- The words of one thing are read off the front of a command line. -/
theorem occurrences_append (spelled : Spells o first) (fills : Fills o) (fresh : subject o ∉ given)
    (rest : List String) :
    occurrences given (first ++ rest) = (occurrences (subject o :: given) rest).map (o :: ·) := by
  have taken := refusal?_eq_none_iff.mpr ⟨fresh, fills⟩
  cases o with
  | flag f =>
    cases spelled
    rw [List.singleton_append, occurrences, classify_of_flag]
    simp only [taken]
    rfl
  | value o text =>
    match first, spelled with
    | [word], spelled =>
      rw [List.singleton_append, occurrences, classify_of_value spelled]
      simp only [taken]
      rfl
    | [word, _], .apart named valued =>
      have value := isValue_iff.mpr valued
      simp only [List.cons_append, List.nil_append, occurrences, classify_of_names named, value,
        taken, Bool.true_eq_false, if_false]
      rfl

/-- What was given before is refused at once, or when the next word is looked at. -/
theorem occurrences_again (spelled : Spells o first) (again : subject o ∈ given)
    {rest : List String} (next : overruled .conflict rest = .conflict) :
    occurrences given (first ++ rest) = .error .conflict := by
  have refused := refusal?_of_given again
  cases o with
  | flag f =>
    cases spelled
    rw [List.singleton_append, occurrences, classify_of_flag]
    simp only [refused]
  | value o text =>
    match first, spelled with
    | [word], spelled =>
      rw [List.singleton_append, occurrences, classify_of_value spelled]
      simp only [refused]
    | [word, _], .apart named valued =>
      have value := isValue_iff.mpr valued
      simp only [List.cons_append, List.nil_append, occurrences, classify_of_names named, value,
        refused, next, Bool.true_eq_false, if_false]

example : parse ["--no-color", "--no-color", "--help"] = .error .conflict ∧
    parse ["-la", "-l", "b", "--help"] = .error .conflict ∧
    parse ["-la", "-l", "b", "-x"] = .error .unknownArgument := ⟨rfl, rfl, rfl⟩

/-- Words that say something overrule no fault. -/
theorem overruled_of_spelled (spelled : Spelled os words) (ending : tail = [] ∨ tail = ["--"])
    (e : UsageFault) : overruled e (words ++ tail) = e := by
  cases spelled with
  | nil => rcases ending with rfl | rfl <;> simp [overruled, classify_dashes]
  | @cons o os first rest spelled _ =>
    cases o with
    | flag f =>
      cases spelled
      simp [overruled, classify_of_flag]
    | value o text =>
      match first, spelled with
      | [word], spelled => simp [overruled, classify_of_value spelled]
      | [word, _], .apart named _ => simp [overruled, classify_of_names named]

/-- Words are read as what they say, and refused if that is something once more. -/
theorem occurrences_of_spelled (spelled : Spelled os words) (fills : ∀ o ∈ os, Fills o)
    (ending : tail = [] ∨ tail = ["--"]) (given : List (ValueOption ⊕ Flag)) :
    (Fresh given os → occurrences given (words ++ tail) = .ok os) ∧
      (¬ Fresh given os → occurrences given (words ++ tail) = .error .conflict) := by
  induction spelled generalizing given with
  | nil =>
    refine ⟨fun _ => ?_, fun stale => absurd ⟨List.nodup_nil, by simp⟩ stale⟩
    rcases ending with rfl | rfl <;> simp [occurrences, classify_dashes]
  | @cons o os first words spelled later ih =>
    obtain ⟨fill, fills⟩ := List.forall_mem_cons.mp fills
    rw [List.append_assoc, fresh_cons]
    by_cases again : subject o ∈ given
    · have refused := occurrences_again spelled again (overruled_of_spelled later ending .conflict)
      exact ⟨fun fresh => absurd again fresh.1, fun _ => refused⟩
    · obtain ⟨taken, refused⟩ := ih fills (subject o :: given)
      rw [occurrences_append spelled fill again]
      constructor
      · rintro ⟨-, fresh⟩
        rw [taken fresh, Except.map]
      · intro stale
        rw [refused fun fresh => stale ⟨again, fresh⟩, Except.map]

end Reading

theorem map_eq_ok {ε α β : Type} {x : Except ε α} {f : α → β} {b : β} (mapped : x.map f = .ok b) :
    ∃ a, x = .ok a ∧ f a = b := by
  cases x with
  | error e => cases mapped
  | ok a => exact ⟨a, rfl, Except.ok.inj mapped⟩

/-- The words say these things, up to a mark that nothing more is said. -/
structure Says (given : List (ValueOption ⊕ Flag)) (os : List Occurrence) (words : List String) :
    Prop where
  spelled : ∃ said, (words = said ∨ words = said ++ ["--"]) ∧ Spelled os said
  fills : ∀ o ∈ os, Fills o
  fresh : Fresh given os

section Soundness

variable {given : List (ValueOption ⊕ Flag)} {o : Occurrence} {os : List Occurrence}
  {first words rest : List String}

theorem says_nil (ending : words = [] ∨ words = ["--"]) : Says given [] words where
  spelled := ⟨[], ending, .nil⟩
  fills := by simp
  fresh := ⟨List.nodup_nil, by simp⟩

/-- The words of one thing may stand in front of others. -/
theorem says_cons (spelled : Spells o first) (taken : refusal? given o = none)
    (later : Says (subject o :: given) os rest) : Says given (o :: os) (first ++ rest) := by
  obtain ⟨fresh, fills⟩ := refusal?_eq_none_iff.mp taken
  obtain ⟨said, ending, spelled'⟩ := later.spelled
  constructor
  case spelled =>
    refine ⟨first ++ said, ?_, .cons spelled spelled'⟩
    rcases ending with rfl | rfl
    · exact .inl rfl
    · exact .inr (List.append_assoc _ _ _).symm
  case fills => exact List.forall_mem_cons.mpr ⟨fills, later.fills⟩
  case fresh => exact fresh_cons.mpr ⟨fresh, later.fresh⟩

/-- What is read was said. -/
theorem says_of_occurrences (read : occurrences given words = .ok os) : Says given os words := by
  fun_induction occurrences given words generalizing os with
  | case1 =>
    cases read
    exact says_nil (.inl rfl)
  | case3 given word found =>
    cases read
    cases meant_of_classify found
    exact says_nil (.inr rfl)
  | case6 given word rest f found taken ih =>
    obtain ⟨os, later, rfl⟩ := map_eq_ok read
    cases meant_of_classify found with
    | flag spelled => exact says_cons spelled taken (ih later)
  | case8 given word rest o text found taken ih =>
    obtain ⟨os, later, rfl⟩ := map_eq_ok read
    cases meant_of_classify found with
    | value spelled => exact says_cons spelled taken (ih later)
  | case12 given word o found text rest value taken ih =>
    obtain ⟨os, later, rfl⟩ := map_eq_ok read
    cases meant_of_classify found with
    | needsValue named =>
      have valued := isValue_iff.mp (Bool.of_not_eq_false value)
      exact says_cons (.apart named valued) taken (ih later)
  -- All other cases are faults, and a fault is no reading.
  | _ => cases read

end Soundness

/-! ## Arguments -/

/-- Nothing is said twice, and not both to keep nothing and where to keep it. -/
structure Consistent (os : List Occurrence) : Prop where
  once : (os.map subject).Nodup
  storage : .flag .noPersist ∈ os → ∀ text, .value .storage text ∉ os

end CommandLine

/-- The value of an option. -/
def Arguments.value? (a : Arguments) : ValueOption → Option String
  | .path => some a.path
  | .locale => a.locale
  | .username => a.username
  | .password => a.password
  | .config => a.config
  | .storage => a.storage

def Arguments.flag (a : Arguments) : Flag → Bool
  | .noPersist => a.noPersist
  | .noColor => a.noColor

/-- The value of an option that is not given. -/
def ValueOption.default? : ValueOption → Option String
  | .path => some "/"
  | _ => none

/-- The arguments are those that were given, and all others are at their defaults. -/
structure Arguments.Follow (a : Arguments) (os : List Occurrence) : Prop where
  given : ∀ (o : ValueOption) (text : String), .value o text ∈ os → a.value? o = some text
  absent : ∀ o : ValueOption, (∀ text, .value o text ∉ os) → a.value? o = o.default?
  flags : ∀ f : Flag, a.flag f = true ↔ .flag f ∈ os

namespace CommandLine

section Values

variable {o : ValueOption} {text : String} {os : List Occurrence}

theorem mem_of_valueOf (found : valueOf o os = some text) : .value o text ∈ os := by
  induction os with
  | nil => cases found
  | cons first os ih =>
    cases first with
    | flag f => exact List.mem_cons_of_mem _ (ih found)
    | value o' text' =>
      rw [valueOf] at found
      split at found
      · rename_i same
        rw [same, Option.some.inj found]
        exact List.mem_cons_self
      · exact List.mem_cons_of_mem _ (ih found)

theorem valueOf_eq_none_iff : valueOf o os = none ↔ ∀ text, .value o text ∉ os := by
  induction os with
  | nil => simp [valueOf]
  | cons first os ih =>
    cases first with
    | flag f => simp [valueOf, ih]
    | value o' text' =>
      by_cases same : o = o'
      · subst same
        refine iff_of_false (by simp [valueOf]) fun absent => ?_
        exact absent text' List.mem_cons_self
      · simp [valueOf, same, ih]

/-- An option that is given once has the value that is given. -/
theorem valueOf_of_mem (once : (os.map subject).Nodup) (given : .value o text ∈ os) :
    valueOf o os = some text := by
  cases found : valueOf o os with
  | none => exact absurd given (valueOf_eq_none_iff.mp found text)
  | some other =>
    have same := List.inj_on_of_nodup_map once (mem_of_valueOf found) given rfl
    cases same
    rfl

end Values

theorem has_iff {f : Flag} {os : List Occurrence} : has f os = true ↔ .flag f ∈ os := by
  simp [has]

theorem conflicts_eq_false_iff {os : List Occurrence} :
    conflicts os = false ↔ (.flag .noPersist ∈ os → ∀ text, .value .storage text ∉ os) := by
  have named : (valueOf .storage os).isSome = false ↔ ∀ text, .value .storage text ∉ os := by
    rw [Option.isSome_eq_false_iff, Option.isNone_iff_eq_none, valueOf_eq_none_iff]
  simp only [conflicts, Bool.and_eq_false_imp, has_iff, named]

theorem consistent_iff {os : List Occurrence} :
    Consistent os ↔ Fresh [] os ∧ conflicts os = false := by
  rw [conflicts_eq_false_iff]
  constructor
  · rintro ⟨once, storage⟩
    exact ⟨⟨once, by simp⟩, storage⟩
  · rintro ⟨fresh, storage⟩
    exact ⟨fresh.once, storage⟩

theorem value?_arguments (os : List Occurrence) (o : ValueOption) :
    (arguments os).value? o = (valueOf o os).or o.default? := by
  cases o with
  | path => cases found : valueOf .path os <;> simp [arguments, Arguments.value?, found,
      ValueOption.default?]
  | _ => simp [arguments, Arguments.value?, ValueOption.default?]

theorem flag_arguments (os : List Occurrence) (f : Flag) : (arguments os).flag f = has f os := by
  cases f <;> rfl

theorem follow_arguments {os : List Occurrence} (once : (os.map subject).Nodup) :
    (arguments os).Follow os where
  given o text given := by rw [value?_arguments, valueOf_of_mem once given, Option.some_or]
  absent o absent := by rw [value?_arguments, valueOf_eq_none_iff.mpr absent, Option.none_or]
  flags f := by rw [flag_arguments, has_iff]

end CommandLine

namespace Arguments

theorem ext_given {a b : Arguments} (values : ∀ o, a.value? o = b.value? o)
    (flags : ∀ f, a.flag f = b.flag f) : a = b := by
  obtain ⟨path, locale, username, password, config, storage, noPersist, noColor⟩ := a
  have first := values .path
  simp only [value?, Option.some.injEq] at first
  have second := values .locale
  have third := values .username
  have fourth := values .password
  have fifth := values .config
  have sixth := values .storage
  have seventh := flags .noPersist
  have eighth := flags .noColor
  simp only [value?, flag] at second third fourth fifth sixth seventh eighth
  subst_vars
  rfl

variable {a b : Arguments} {os os' : List Occurrence}

/-- What is said settles the arguments. -/
theorem Follow.unique (first : a.Follow os) (second : b.Follow os) : a = b := by
  refine ext_given (fun o => ?_) (fun f => ?_)
  · by_cases given : ∃ text, .value o text ∈ os
    · obtain ⟨text, given⟩ := given
      rw [first.given o text given, second.given o text given]
    · have absent : ∀ text, .value o text ∉ os := fun text member => given ⟨text, member⟩
      rw [first.absent o absent, second.absent o absent]
  · rw [Bool.eq_iff_iff, first.flags, second.flags]

/-- The order in which things are said does not matter. -/
theorem Follow.perm (follow : a.Follow os) (moved : os.Perm os') : a.Follow os' where
  given o text given := follow.given o text (moved.mem_iff.mpr given)
  absent o absent := follow.absent o fun text given => absent text (moved.mem_iff.mp given)
  flags f := (follow.flags f).trans moved.mem_iff

end Arguments

namespace CommandLine

theorem Consistent.perm {os os' : List Occurrence} (consistent : Consistent os)
    (moved : os.Perm os') : Consistent os' where
  once := (moved.map subject).nodup_iff.mp consistent.once
  storage flagged text named :=
    consistent.storage (moved.mem_iff.mpr flagged) text (moved.mem_iff.mpr named)

/-- Words are understood when they say things that are consistent. -/
theorem parse_eq_ok_iff {words : List String} {a : Arguments} :
    parse words = .ok a ↔ ∃ os, Says [] os words ∧ Consistent os ∧ arguments os = a := by
  unfold parse
  constructor
  · intro parsed
    cases read : occurrences [] words with
    | error e => simp [read] at parsed
    | ok os =>
      have told := says_of_occurrences read
      cases odds : conflicts os with
      | true => simp [read, odds] at parsed
      | false =>
        have same : arguments os = a := by simpa [read, odds] using parsed
        exact ⟨os, told, consistent_iff.mpr ⟨told.fresh, odds⟩, same⟩
  · rintro ⟨os, told, consistent, rfl⟩
    obtain ⟨fresh, calm⟩ := consistent_iff.mp consistent
    obtain ⟨said, ending, spelled⟩ := told.spelled
    have read : occurrences [] words = .ok os := by
      rcases ending with rfl | rfl
      · simpa using (occurrences_of_spelled spelled told.fills (.inl rfl) []).1 fresh
      · exact (occurrences_of_spelled spelled told.fills (.inr rfl) []).1 fresh
    simp [read, calm]

section Spelled

variable {os os' : List Occurrence} {words words' : List String}

theorem says_of_spelled (spelled : Spelled os words) (fills : ∀ o ∈ os, Fills o)
    (consistent : Consistent os) : Says [] os words :=
  ⟨⟨words, .inl rfl, spelled⟩, fills, (consistent_iff.mp consistent).1⟩

theorem parse_of_spelled (spelled : Spelled os words) (fills : ∀ o ∈ os, Fills o)
    (consistent : Consistent os) : parse words = .ok (arguments os) :=
  parse_eq_ok_iff.mpr ⟨os, says_of_spelled spelled fills consistent, consistent, rfl⟩

theorem parse_of_inconsistent (spelled : Spelled os words) (fills : ∀ o ∈ os, Fills o)
    (inconsistent : ¬ Consistent os) : parse words = .error .conflict := by
  have reading := occurrences_of_spelled spelled fills (.inl rfl) []
  rw [List.append_nil] at reading
  by_cases fresh : Fresh [] os
  · have odds : conflicts os = true :=
      Bool.of_not_eq_false fun calm => inconsistent (consistent_iff.mpr ⟨fresh, calm⟩)
    simp [parse, reading.1 fresh, odds]
  · simp [parse, reading.2 fresh]

theorem parse_of_perm (spelled : Spelled os words) (spelled' : Spelled os' words')
    (moved : os.Perm os') (fills : ∀ o ∈ os, Fills o) : parse words = parse words' := by
  have fills' : ∀ o ∈ os', Fills o := fun o member => fills o (moved.mem_iff.mpr member)
  by_cases consistent : Consistent os
  · have consistent' := consistent.perm moved
    have follow := (follow_arguments consistent.once).perm moved
    rw [parse_of_spelled spelled fills consistent, parse_of_spelled spelled' fills' consistent',
      follow.unique (follow_arguments consistent'.once)]
  · have inconsistent' : ¬ Consistent os' := fun consistent' => consistent (consistent'.perm moved.symm)
    rw [parse_of_inconsistent spelled fills consistent,
      parse_of_inconsistent spelled' fills' inconsistent']

end Spelled

/-- What is said in any order and any of its forms is understood and followed. What is understood
was said so, up to two dashes at the end; and to say the same in another order and in other forms comes
to the same, also when it is refused. -/
theorem parse_reads_what_is_said :
    (∀ (os : List Occurrence) (words : List String), Spelled os words → (∀ o ∈ os, Fills o) →
      Consistent os →
        (∃ a : Arguments, a.Follow os) ∧ ∀ a : Arguments, a.Follow os → parse words = .ok a) ∧
      (∀ (words : List String) (a : Arguments), parse words = .ok a →
        ∃ (os : List Occurrence) (said : List String),
          (words = said ∨ words = said ++ ["--"]) ∧ Spelled os said ∧ (∀ o ∈ os, Fills o) ∧
            Consistent os ∧ a.Follow os) ∧
      ∀ (os os' : List Occurrence) (words words' : List String), Spelled os words →
        Spelled os' words' → os.Perm os' → (∀ o ∈ os, Fills o) → parse words = parse words' := by
  refine ⟨?_, ?_, fun _ _ _ _ => parse_of_perm⟩
  · intro os words spelled fills consistent
    have follows := follow_arguments consistent.once
    refine ⟨⟨_, follows⟩, fun a follow => ?_⟩
    rw [parse_of_spelled spelled fills consistent, follows.unique follow]
  · intro words a parsed
    obtain ⟨os, told, consistent, rfl⟩ := parse_eq_ok_iff.mp parsed
    obtain ⟨said, ending, spelled⟩ := told.spelled
    exact ⟨os, said, ending, spelled, told.fills, consistent, follow_arguments consistent.once⟩

end CommandLine

end LoginCard
