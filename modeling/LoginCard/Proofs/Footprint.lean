import LoginCard.Proofs.FileStorage

/-!
# What a write leaves alone

To set a slot of a storage in a file makes the directories on the way to the file that are missing,
and writes the file. Whether that succeeds or fails on the way, every other place is as it was, and
nothing that was there is gone.
-/

namespace LoginCard

namespace FileTree

/-- Where a path leads once all directories on the way are there. -/
def placeOf (t : FileTree) (path : String) : List String :=
  (t.placesOf path).getLast?.getD (t.start path)

/-- The places on the way to where a path leads. -/
def ancestorsOf (t : FileTree) (path : String) : List (List String) := (t.placesOf path).dropLast

example : (FileTree.mk ["home"] fun _ => none).placeOf "./a/../b" = ["home", "b"] ∧
    (FileTree.mk ["home"] fun _ => none).ancestorsOf "./a/../b" =
      [["home"], ["home", "a"], ["home"]] := by
  decide

/-- What may become of a place where only these directories are made and these files written. -/
inductive Fares (directories files : List (List String)) (t t' : FileTree) (place : List String) :
    Prop where
  | same : t'.look place = t.look place → Fares directories files t t' place
  | made : place ∈ directories → t.look place = none → t'.look place = some .directory →
      Fares directories files t t' place
  | written (bytes : ByteArray) : place ∈ files → t.look place ≠ some .directory →
      t'.look place = some (.file bytes) → Fares directories files t t' place

/-- Nothing happens to the tree but that such directories are made and such files written. -/
structure Spares (directories files : List (List String)) (t t' : FileTree) : Prop where
  base : t'.base = t.base
  fares : ∀ place, Fares directories files t t' place

namespace Spares

variable {directories files directories' files' : List (List String)} {t t' t'' : FileTree}
  {place : List String}

theorem refl (directories files : List (List String)) (t : FileTree) :
    Spares directories files t t :=
  ⟨rfl, fun _ => .same rfl⟩

theorem mono (spares : Spares directories files t t') (more : directories ⊆ directories')
    (more' : files ⊆ files') : Spares directories' files' t t' := by
  refine ⟨spares.base, fun place => ?_⟩
  cases spares.fares place with
  | same kept => exact .same kept
  | made member none after => exact .made (more member) none after
  | written bytes member free after => exact .written bytes (more' member) free after

theorem trans (first : Spares directories files t t') (second : Spares directories files t' t'') :
    Spares directories files t t'' := by
  refine ⟨second.base.trans first.base, fun place => ?_⟩
  cases second.fares place with
  | same kept =>
    cases first.fares place with
    | same before => exact .same (kept.trans before)
    | made member none after => exact .made member none (kept.trans after)
    | written bytes member free after => exact .written bytes member free (kept.trans after)
  | made member none after =>
    cases first.fares place with
    | same before => exact .made member (before.symm.trans none) after
    | made _ _ there => simp [there] at none
    | written _ _ _ there => simp [there] at none
  | written bytes member free after =>
    cases first.fares place with
    | same before => exact .written bytes member (before ▸ free) after
    | made _ _ there => exact absurd there free
    | written _ _ free' _ => exact .written bytes member free' after

theorem set_directory (absent : t.look place = none) :
    Spares [place] [] t (t.set place .directory) := by
  have proper : place ≠ [] := by
    rintro rfl
    cases absent
  refine ⟨rfl, fun p => ?_⟩
  have after := look_set t place p .directory proper
  by_cases here : p = place
  · subst here
    exact .made List.mem_cons_self absent (by simpa using after)
  · exact .same (by simpa [here] using after)

theorem set_file (free : t.look place ≠ some .directory) (bytes : ByteArray) :
    Spares [] [place] t (t.set place (.file bytes)) := by
  have proper : place ≠ [] := by
    rintro rfl
    exact free rfl
  refine ⟨rfl, fun p => ?_⟩
  have after := look_set t place p (.file bytes) proper
  by_cases here : p = place
  · subst here
    exact .written bytes List.mem_cons_self free (by simpa using after)
  · exact .same (by simpa [here] using after)

/-- Where no file is written, a place is as it was or is a directory that was made. -/
theorem as_before (spares : Spares directories files t t') (other : place ∉ files) :
    t'.look place = t.look place ∨
      place ∈ directories ∧ t.look place = none ∧ t'.look place = some .directory := by
  cases spares.fares place with
  | same kept => exact .inl kept
  | made member absent there => exact .inr ⟨member, absent, there⟩
  | written _ member _ _ => exact absurd member other

theorem file_iff (spares : Spares directories files t t') (other : place ∉ files)
    (bytes : ByteArray) :
    t'.look place = some (.file bytes) ↔ t.look place = some (.file bytes) := by
  rcases spares.as_before other with kept | ⟨_, absent, there⟩
  · rw [kept]
  · simp [absent, there]

theorem directory_kept (spares : Spares directories files t t')
    (stood : t.look place = some .directory) : t'.look place = some .directory := by
  cases spares.fares place with
  | same kept => exact kept.trans stood
  | made _ absent _ => simp [absent] at stood
  | written _ _ free _ => exact absurd stood free

theorem directory_before (spares : Spares directories files t t')
    (stands : t'.look place = some .directory) :
    t.look place = some .directory ∨ t.look place = none ∧ place ∈ directories := by
  cases spares.fares place with
  | same kept => exact .inl (kept.symm.trans stands)
  | made member absent _ => exact .inr ⟨absent, member⟩
  | written _ _ _ there => simp [there] at stands

/-- Paths go the same way as before. -/
theorem placesOf (spares : Spares directories files t t') (path : String) :
    t'.placesOf path = t.placesOf path := by
  rw [FileTree.placesOf, FileTree.placesOf, start, start, spares.base]

theorem placeOf (spares : Spares directories files t t') (path : String) :
    t'.placeOf path = t.placeOf path := by
  rw [FileTree.placeOf, FileTree.placeOf, spares.placesOf, start, start, spares.base]

theorem ancestorsOf (spares : Spares directories files t t') (path : String) :
    t'.ancestorsOf path = t.ancestorsOf path := by
  rw [FileTree.ancestorsOf, FileTree.ancestorsOf, spares.placesOf]

end Spares

section Walking

variable {t : FileTree} {here there : List String} {name : String} {names : List String}

/-- To enter a directory leads to the next place along the path. -/
theorem placesAlong_of_enter {next : List String} (entered : t.enter here name = .ok next)
    (names : List String) : placesAlong here (name :: names) = next :: placesAlong next names := by
  unfold enter at entered
  split at entered
  · rename_i dot
    obtain rfl := Except.ok.inj entered
    simp [placesAlong, dot]
  split at entered
  · rename_i up
    obtain rfl := Except.ok.inj entered
    simp [placesAlong, up]
  split at entered
  · cases entered
  rename_i dot up _
  split at entered
  · cases entered
  · obtain rfl := Except.ok.inj entered
    simp [placesAlong, dot, up]
  · cases entered

/-- A name that is missing is no `.` and no `..`, so it would lead one directory further. -/
theorem enter_missing (missing : t.enter here name = .error .missing) :
    t.look (here ++ [name]) = none ∧ ∀ names, placesAlong here (name :: names) =
      (here ++ [name]) :: placesAlong (here ++ [name]) names := by
  unfold enter at missing
  split at missing
  · cases missing
  split at missing
  · cases missing
  split at missing
  · cases missing
  rename_i dot up _
  split at missing
  · rename_i absent
    exact ⟨absent, fun names => by simp [placesAlong, dot, up]⟩
  · cases missing
  · cases missing

theorem placesAlong_of_walk (walked : t.walk here names = .ok there) (more : List String) :
    placesAlong here (names ++ more) = placesAlong here names ++ placesAlong there more := by
  induction names generalizing here with
  | nil =>
    obtain rfl := Except.ok.inj walked
    rfl
  | cons name names ih =>
    rw [walk] at walked
    cases entered : t.enter here name with
    | error e => simp [entered] at walked
    | ok next =>
      rw [entered] at walked
      rw [List.cons_append, placesAlong_of_enter entered, placesAlong_of_enter entered, ih walked,
        List.cons_append]

end Walking

/-- To follow a path leads where the path leads. -/
theorem placeOf_of_approach {t : FileTree} {path last : String} {here : List String}
    (led : t.approach path = .ok (here, last)) : t.placeOf path = here ++ [last] := by
  obtain ⟨names, pieces, walked, dot, up⟩ := approach_eq led
  rw [placeOf, placesOf, pieces, placesAlong_of_walk walked]
  simp [placesAlong, dot, up]

theorem placeOf_of_find {t : FileTree} {path : String} {place : List String} {e : FileEntry}
    (found : t.find path = .ok (place, e)) : place = t.placeOf path := by
  unfold find locate at found
  cases led : t.approach path with
  | error e => simp [led] at found
  | ok way =>
    obtain ⟨here, last⟩ := way
    rw [placeOf_of_approach led]
    simp only [led] at found
    split at found
    · cases found
    · rename_i place' located
      split at located
      · cases located
      obtain rfl := Except.ok.inj located
      split at found
      · cases found
      · exact (Prod.mk.inj (Except.ok.inj found)).1.symm
      · split at found
        · cases found
        · exact (Prod.mk.inj (Except.ok.inj found)).1.symm

section Making

/-- Of all places along the way only directories are made. -/
theorem makeAlong_spares (t : FileTree) (here : List String) (names : List String) :
    Spares (placesAlong here names) [] t (t.makeAlong here names).2 := by
  induction names generalizing t here with
  | nil => exact .refl _ _ t
  | cons name names ih =>
    rw [makeAlong]
    split
    · rename_i next entered
      rw [placesAlong_of_enter entered]
      exact (ih t next).mono (List.subset_cons_self _ _) (List.Subset.refl _)
    · rename_i missing
      obtain ⟨absent, places⟩ := enter_missing missing
      have head : [here ++ [name]] ⊆ placesAlong here (name :: names) := by simp [places]
      have tail : placesAlong (here ++ [name]) names ⊆ placesAlong here (name :: names) := by
        rw [places]
        exact List.subset_cons_self _ _
      exact ((Spares.set_directory absent).mono head (List.Subset.refl _)).trans
        ((ih _ _).mono tail (List.Subset.refl _))
    · exact .refl _ _ t
    · exact .refl _ _ t

/-- The names before the last one, the name `.` left out, lead through places before the last. -/
theorem placesAlong_filter_dropLast (here : List String) (names : List String) :
    placesAlong here (names.filter (· ≠ ".")).dropLast ⊆ (placesAlong here names).dropLast := by
  induction names generalizing here with
  | nil => exact List.Subset.refl _
  | cons name names ih =>
    have longer : ∀ next, (placesAlong next names).dropLast ⊆
        (next :: placesAlong next names).dropLast := by
      intro next
      cases placesAlong next names with
      | nil => exact List.Subset.refl _
      | cons => exact List.subset_cons_self _ _
    by_cases dot : name = "."
    · rw [List.filter_cons_of_neg (by simpa using dot)]
      simpa [placesAlong, dot] using List.Subset.trans (ih here) (longer here)
    · rw [List.filter_cons_of_pos (by simpa using dot)]
      cases left : names.filter (· ≠ ".") with
      | nil => exact List.nil_subset _
      | cons first rest =>
        -- A name is left behind this one, so this one is not the last of either list.
        obtain ⟨name', names', rfl⟩ : ∃ name' names', names = name' :: names' := by
          cases names with
          | nil => cases left
          | cons name' names' => exact ⟨name', names', rfl⟩
        rw [List.dropLast_cons_cons, ← left]
        exact List.cons_subset_cons _ (ih _)

theorem makeParents_spares (t : FileTree) (path : String) :
    Spares (t.ancestorsOf path) [] t (t.makeParents path).2 :=
  (makeAlong_spares t _ _).mono (placesAlong_filter_dropLast _ _) (List.Subset.refl _)

theorem writeBytes_spares (t : FileTree) (path : String) (bytes : ByteArray) :
    Spares [] [t.placeOf path] t (t.writeBytes path bytes).2 := by
  unfold writeBytes
  cases led : t.approach path with
  | error e => exact .refl _ _ t
  | ok way =>
    obtain ⟨here, last⟩ := way
    dsimp only
    split
    · exact .refl _ _ t
    split
    · exact .refl _ _ t
    split
    · exact .refl _ _ t
    · rename_i free
      rw [placeOf_of_approach led]
      exact .set_file free bytes

end Making

end FileTree

namespace FileStorage

open FileTree (Spares)

/-- To write a document that fails writes no file, and makes directories on the way at most. -/
theorem write_failed {s : FileStorage} {doc : Toml.Table} {e : StorageFault}
    (failed : (s.write doc).1 = .error e) :
    (∃ cause, e = .write s.path cause) ∧
      Spares (s.files.ancestorsOf s.path) [] s.files (s.write doc).2.files := by
  have made := FileTree.makeParents_spares s.files s.path
  unfold write at failed ⊢
  split at failed
  · rename_i cause files refused
    rw [refused] at made
    exact ⟨⟨cause, (Except.error.inj failed).symm⟩, made⟩
  · rename_i files succeeded
    rw [succeeded] at made
    split at failed
    · rename_i cause files' refused
      obtain rfl := FileTree.writeBytes_failed refused
      exact ⟨⟨cause, (Except.error.inj failed).symm⟩, made⟩
    · cases failed

/-- To write a document writes the file and makes the directories on the way to it. -/
theorem write_spares (s : FileStorage) (doc : Toml.Table) :
    Spares (s.files.ancestorsOf s.path) [s.files.placeOf s.path] s.files (s.write doc).2.files := by
  cases result : (s.write doc).1 with
  | error e => exact (write_failed result).2.mono (List.Subset.refl _) (List.nil_subset _)
  | ok =>
    obtain ⟨files, made, put⟩ := write_eq result
    have first := FileTree.makeParents_spares s.files s.path
    have second := FileTree.writeBytes_spares files s.path (Toml.Table.print doc).toUTF8
    rw [made] at first
    rw [put, first.placeOf] at second
    exact (first.mono (List.Subset.refl _) (List.nil_subset _)).trans
      (second.mono (List.nil_subset _) (List.Subset.refl _))

theorem set_spares (s : FileStorage) (key : String) (v : Toml.Value) :
    Spares (s.files.ancestorsOf s.path) [s.files.placeOf s.path] s.files
      (Storage.set s key v).after.files := by
  cases document : s.document.1 with
  | ok doc =>
    rw [(set_eq document key v).2]
    exact write_spares s _
  | error e =>
    rw [(set_unreadable document).2]
    exact .refl _ _ s.files

end FileStorage

end LoginCard
