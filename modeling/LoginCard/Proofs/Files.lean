import LoginCard.Files

/-!
# What is written can be read

A path leads through directories only, so a file that stands where no directory stood is in nobody's
way. What was written to a path is there to be read by it, and the path can be written to again.
-/

namespace LoginCard.FileTree

section Placing

variable {t : FileTree} {place : List String} {bytes : ByteArray}

theorem look_directory_set (free : t.look place ≠ some .directory) {p : List String}
    (known : t.look p = some .directory) :
    (t.set place (.file bytes)).look p = some .directory := by
  have proper : place ≠ [] := by
    rintro rfl
    exact free rfl
  have other : p ≠ place := by
    rintro rfl
    exact free known
  rw [look_set t place p _ proper, if_neg other, known]

theorem enter_set (free : t.look place ≠ some .directory) {here next : List String} {name : String}
    (entered : t.enter here name = .ok next) :
    (t.set place (.file bytes)).enter here name = .ok next := by
  unfold enter at entered ⊢
  by_cases dot : name = "."
  · simpa [dot] using entered
  by_cases up : name = ".."
  · simpa [up] using entered
  by_cases long : isTooLong name = true
  · simp [dot, up, long] at entered
  simp only [dot, up, long, ↓reduceIte] at entered ⊢
  cases known : t.look (here ++ [name]) with
  | none => simp [known] at entered
  | some e =>
    cases e with
    | file _ => simp [known] at entered
    | directory => simpa [known, look_directory_set free known] using entered

theorem walk_set (free : t.look place ≠ some .directory) {here there : List String}
    {names : List String} (walked : t.walk here names = .ok there) :
    (t.set place (.file bytes)).walk here names = .ok there := by
  induction names generalizing here with
  | nil => exact walked
  | cons name names ih =>
    rw [walk] at walked ⊢
    cases entered : t.enter here name with
    | error e => simp [entered] at walked
    | ok next =>
      rw [entered] at walked
      rw [enter_set free entered]
      exact ih walked

end Placing

/-- The name `.` leads nowhere, so it can be left out. -/
theorem walk_filter (t : FileTree) (here : List String) (names : List String) :
    t.walk here (names.filter (· ≠ ".")) = t.walk here names := by
  induction names generalizing here with
  | nil => rfl
  | cons name names ih =>
    by_cases dot : name = "."
    · subst dot
      simpa [walk, enter] using ih here
    · rw [List.filter_cons_of_pos (by simpa using dot), walk, walk]
      cases t.enter here name with
      | error e => rfl
      | ok next => exact ih next

/-- Where all directories are there, none is made. -/
theorem makeAlong_of_walk {t : FileTree} {here there : List String} {names : List String}
    (walked : t.walk here names = .ok there) : t.makeAlong here names = (.ok (), t) := by
  induction names generalizing here with
  | nil => rfl
  | cons name names ih =>
    rw [walk] at walked
    rw [makeAlong]
    cases entered : t.enter here name with
    | error e => simp [entered] at walked
    | ok next =>
      rw [entered] at walked
      exact ih walked

/-- A path that leads to a name in a directory is followed through all the names before it. -/
theorem approach_eq {t : FileTree} {path last : String} {here : List String}
    (led : t.approach path = .ok (here, last)) :
    ∃ names, pathNames path = names ++ [last] ∧ t.walk (t.start path) names = .ok here ∧
      last ≠ "." ∧ last ≠ ".." := by
  unfold approach at led
  split at led
  · cases led
  split at led
  · cases led
  split at led
  · cases led
  dsimp only at led
  split at led
  · cases led
  · rename_i name ended
    obtain ⟨names, split⟩ := List.getLast?_eq_some_iff.mp ended
    rw [split, List.dropLast_concat] at led
    split at led
    · cases led
    · rename_i there walked
      split at led
      · cases led
      · rename_i plain
        obtain ⟨rfl, rfl⟩ := Prod.mk.inj (Except.ok.inj led)
        exact ⟨names, split, walked, fun dot => plain (.inl dot), fun up => plain (.inr up)⟩

/-- Where every walk goes as before, every path leads as before. -/
theorem approach_of_walks {t t' : FileTree} {path last : String} {here : List String}
    (base : t'.base = t.base)
    (walks : ∀ {names there}, t.walk (t.start path) names = .ok there →
      t'.walk (t.start path) names = .ok there)
    (led : t.approach path = .ok (here, last)) : t'.approach path = .ok (here, last) := by
  have same : t'.start path = t.start path := by rw [start, start, base]
  unfold approach at led ⊢
  rw [same]
  split at led
  · cases led
  split at led
  · cases led
  split at led
  · cases led
  rename_i named nul long
  rw [if_neg named, if_neg nul, if_neg long]
  dsimp only at led ⊢
  split at led
  · cases led
  · split at led
    · cases led
    · rename_i there walked
      rw [walks walked]
      exact led

section Writing

variable {t t' : FileTree} {path : String} {bytes : ByteArray}

/-- What a write does that succeeds. -/
theorem writeBytes_eq (written : t.writeBytes path bytes = (.ok (), t')) :
    ∃ here last, t.approach path = .ok (here, last) ∧ asksDirectory path = false ∧
      isTooLong last = false ∧ t.look (here ++ [last]) ≠ some .directory ∧
      t' = t.set (here ++ [last]) (.file bytes) := by
  unfold writeBytes at written
  cases led : t.approach path with
  | error e => simp [led] at written
  | ok found =>
    obtain ⟨here, last⟩ := found
    simp only [led] at written
    split at written
    · simp at written
    · rename_i plain
      split at written
      · simp at written
      · rename_i short
        split at written
        · simp at written
        · rename_i free
          refine ⟨here, last, rfl, by simpa using plain, by simpa using short, free, ?_⟩
          exact (Prod.mk.inj written).2.symm

/-- Whether a write succeeds is no matter of what is written. -/
theorem writeBytes_succeeds (written : t.writeBytes path bytes = (.ok (), t')) (other : ByteArray) :
    (t.writeBytes path other).1 = .ok () := by
  obtain ⟨here, last, led, plain, short, _, _⟩ := writeBytes_eq written
  simp [writeBytes, led, plain, short]

/-- A write that fails changes nothing. -/
theorem writeBytes_failed {e : FileFault} (failed : t.writeBytes path bytes = (.error e, t')) :
    t' = t := by
  unfold writeBytes at failed
  cases led : t.approach path with
  | error cause =>
    rw [led] at failed
    exact (Prod.mk.inj failed).2.symm
  | ok way =>
    obtain ⟨here, last⟩ := way
    simp only [led] at failed
    split at failed
    · exact (Prod.mk.inj failed).2.symm
    split at failed
    · exact (Prod.mk.inj failed).2.symm
    split at failed
    · exact (Prod.mk.inj failed).2.symm
    · cases (Prod.mk.inj failed).1

theorem approach_written (written : t.writeBytes path bytes = (.ok (), t')) :
    t'.approach path = t.approach path := by
  obtain ⟨here, last, led, _, _, free, rfl⟩ := writeBytes_eq written
  rw [led]
  exact approach_of_walks (t := t) rfl (walk_set free) led

theorem look_written (written : t.writeBytes path bytes = (.ok (), t')) {here : List String}
    {last : String} (led : t.approach path = .ok (here, last)) :
    t'.look (here ++ [last]) = some (.file bytes) := by
  obtain ⟨here₁, last₁, led₁, _, _, _, rfl⟩ := writeBytes_eq written
  obtain ⟨rfl, rfl⟩ := Prod.mk.inj (Except.ok.inj (led₁.symm.trans led))
  rw [look_set t _ _ _ (by simp), if_pos rfl]

/-- What was written is there to be read. -/
theorem readBytes_written (written : t.writeBytes path bytes = (.ok (), t')) :
    t'.readBytes path = .ok bytes := by
  obtain ⟨here, last, led, plain, short, _, _⟩ := writeBytes_eq written
  have located : t'.locate path = .ok (here ++ [last]) := by
    simp [locate, approach_written written, led, short]
  have found : t'.find path = .ok (here ++ [last], .file bytes) := by
    simp [find, located, look_written written led, plain]
  rw [readBytes, found]

theorem readText_written {text : String}
    (written : t.writeBytes path text.toUTF8 = (.ok (), t')) : t'.readText path = .ok text := by
  have decoded : String.fromUTF8? text.toUTF8 = some text := dif_pos text.isValidUTF8
  simp only [readText, readBytes_written written, decoded]

/-- The directories that a file needs are there once it is written. -/
theorem makeParents_written (written : t.writeBytes path bytes = (.ok (), t')) :
    t'.makeParents path = (.ok (), t') := by
  obtain ⟨here, last, led, _⟩ := writeBytes_eq written
  rw [← approach_written written] at led
  obtain ⟨names, split, walked, proper, _⟩ := approach_eq led
  have parents : ((pathNames path).filter (· ≠ ".")).dropLast = names.filter (· ≠ ".") := by
    rw [split, List.filter_append, List.filter_cons_of_pos (by simpa using proper),
      List.filter_nil, List.dropLast_concat]
  rw [makeParents, parents]
  exact makeAlong_of_walk ((walk_filter t' _ names).trans walked)

/-- A file that was written can be written again, with whatever content. -/
theorem writeBytes_again (written : t.writeBytes path bytes = (.ok (), t')) (next : ByteArray) :
    (t'.writeBytes path next).1 = .ok () := by
  obtain ⟨here, last, led, plain, short, _, _⟩ := writeBytes_eq written
  simp [writeBytes, approach_written written, led, plain, short, look_written written led]

/-- The directories that a file at the path needs are there or can be made, and then it can be
written. -/
def CanWrite (t : FileTree) (path : String) : Prop :=
  ∃ t', t.makeParents path = (.ok (), t') ∧ ∀ bytes, (t'.writeBytes path bytes).1 = .ok ()

theorem CanWrite.written (written : t.writeBytes path bytes = (.ok (), t')) : t'.CanWrite path :=
  ⟨t', makeParents_written written, writeBytes_again written⟩

end Writing

end LoginCard.FileTree
