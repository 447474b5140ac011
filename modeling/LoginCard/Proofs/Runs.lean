import LoginCard.Program
import LoginCard.Proofs.Saves

/-!
# Laws of a run

A run has one storage, one store and one binding. It starts in the language of its file, if it has
one that holds a language, or else of its configuration, prints the login page in it, and prints the
page once more when a language is requested. What it writes to its file are the languages it saves,
in turn; without a file it writes nothing.
-/

namespace LoginCard

/-- Both routes lead a visitor who is not signed in to the login page. -/
theorem Route.navigate_visitor (text : String) :
    (navigate text false).1 = (ofPath? text).map fun _ => login := by
  have home : (follow false 3 login.path).1 = some login := by rfl
  unfold navigate follow resolve
  cases ofPath? text with
  | none => rfl
  | some route =>
    cases route with
    | home => exact home
    | login => rfl

namespace Program

section Worlds

variable (l : Language) (m : Mounted) (records : Array LogRecord)

/-- The world of a run, once its store is open. -/
def opened : World Empty :=
  { files := m.files
    shelves := [m.shelf]
    stores := [⟨⟨0, l⟩, some 0, [], 0, false, 1⟩]
    bindings := []
    nextReference := 1
    records }

/-- The same world with the binding of the page. -/
def shown : World Empty :=
  { opened l m records with
    stores := [⟨⟨0, l⟩, some 0, [(0, .refresh 0)], 1, false, 1⟩]
    bindings := [⟨⟨0, 0⟩, ((Selector.new Language.strings).select ⟨0, l⟩).2, l.strings⟩] }

theorem bind_opened : (opened l m records).bind 0 = some (0, shown l m records) := rfl

theorem strings_shown : strings (shown l m records) 0 = l.strings := rfl

/-- A request that names a language changes what the binding shows, and saves that language. -/
theorem request_shown (tag : String) :
    let w := requestLanguage (shown l m records) 0 tag
    let saved := Choice.saveAll m (Language.ofTag? tag).toList
    strings w 0 = ((Language.ofTag? tag).getD l).strings ∧ w.files = saved.1.files ∧
      records.toList ++ saved.2 ⊆ w.records.toList := by
  cases known : Language.ofTag? tag with
  | none =>
    simp [requestLanguage, World.requestLanguage, known, shown, opened, World.log, strings,
      Choice.saveAll]
  | some l' =>
    -- The binding of the page is the only subscriber, so the cycle has one turn.
    by_cases same : l' = l <;>
      simp [requestLanguage, World.requestLanguage, known, shown, opened, World.dispatch,
        World.moveTo, same, World.newReference, World.log, World.persist, World.withShelf,
        World.onStore, World.settle, World.isDue, Store.isSubscribed, World.refresh,
        World.endCycle, strings, Selector.select, Selector.new, Selector.compute, Choice.saveAll]
    exact List.subset_append_of_subset_right _
      (List.subset_cons_of_subset _ (List.subset_append_left _ _))

end Worlds

section Outcomes

variable (a : Arguments) (s : Surroundings)

/-- Whether the pages of a run are painted. -/
def color : Bool := s.color && !a.noColor && (loadConfig a s).1.color

/-- The login page of a run in a language, as it is printed. -/
def card (l : Language) : String :=
  Page.login (Template.parse (loadConfig a s).1.cardTemplate) l.strings (form a) (color a s) ++ "\n"

/-- The language that a run starts in: the one in its file, or else the configured one. -/
def first : Language :=
  match storagePath a s with
  | some path =>
    Choice.loadedOr (FileStorage.mk path s.files) (loadConfig a s).1.defaultLanguage
  | none => (loadConfig a s).1.defaultLanguage

/-- The language that a run switches to: on a route, if one of that tag is requested. -/
def switchedTo : Option Language :=
  (Route.ofPath? a.path).bind fun _ => a.locale.bind Language.ofTag?

/-- The language that a run ends in. -/
def last : Language := (switchedTo a).getD (first a s)

/-- The pages that a run prints. -/
def pages : List String :=
  match Route.ofPath? a.path with
  | none => []
  | some _ => card a s (first a s) :: (a.locale.map fun _ => card a s (last a s)).toList

/-- Nobody is signed in, so a submitted form prints nothing on the standard output. -/
theorem submission_output (paint : Bool) (f : LoginForm) : (submission paint f).1.1 = "" := by
  unfold submission Page.submit LoginForm.submitTo
  cases f.submit <;> rfl

/-- The login page in the language that the store starts in, and in the one it is asked for. -/
theorem showPages_login (l : Language) (m : Mounted) (records : Array LogRecord) :
    let o := showPages a (loadConfig a s).1 (color a s) .login (opened l m records) 0
    let requested := a.locale.bind Language.ofTag?
    let saved := Choice.saveAll m requested.toList
    o.code = 0 ∧
      o.output = String.join
        (card a s l :: (a.locale.map fun _ => card a s (requested.getD l)).toList) ∧
      o.files = saved.1.files ∧ records.toList ++ saved.2 ⊆ o.records := by
  have silent : (if a.wantsSubmit = true then submission (color a s) (form a)
      else (("", ""), [])).1.1 = "" := by
    split
    · exact submission_output _ _
    · rfl
  cases asked : a.locale with
  | none =>
    simp only [showPages, bind_opened, asked, Option.getD_some, true_and, silent]
    refine ⟨?_, rfl, ?_⟩
    · simp [card, Page.ofRoute, strings_shown]
    · simp [shown, opened, Choice.saveAll]
  | some tag =>
    obtain ⟨now, files, logged⟩ := request_shown l m records tag
    simp only [showPages, bind_opened, asked, Option.getD_some, true_and, silent]
    refine ⟨?_, files, List.subset_append_of_subset_left _ logged⟩
    simp [card, Page.ofRoute, strings_shown, now]

/-- The languages that a run saves to restore one in its file. -/
def repairs : List Language :=
  match storagePath a s with
  | some path =>
    Choice.missing (FileStorage.mk path s.files) (loadConfig a s).1.defaultLanguage
  | none => []

/-- The languages that a run saves in its file. -/
def saves : List Language := repairs a s ++ (switchedTo a).toList

/-- The storage that a run opens. -/
def mounted : Mounted := ⟨Shelf.new (openStorage a (loadConfig a s).1).1, s.files⟩

/-- The language that a run restores, with the storage after it. -/
def restored : Language × Mounted × List LogRecord :=
  Choice.restore (mounted a s) (loadConfig a s).1.defaultLanguage

/-- What a run has logged when it looks for its route. -/
def records : Array LogRecord :=
  (#[] : Array LogRecord) ++
    (.started :: ((loadConfig a s).2 ++ (openStorage a (loadConfig a s).1).2) : List LogRecord) ++
    (restored a s).2.2 ++ ([.startingIn (restored a s).1] : List LogRecord) ++
      (Route.navigate a.path false).2

theorem storagePath_eq :
    storagePath a s =
      if a.noPersist then none else a.storage.or (loadConfig a s).1.storagePath := by
  unfold storagePath openStorage
  cases a.noPersist with
  | true => rfl
  | false => cases a.storage.or (loadConfig a s).1.storagePath <;> rfl

theorem openStorage_fst :
    (openStorage a (loadConfig a s).1).1 =
      ((storagePath a s).map Medium.file).getD (.memory MemoryStorage.empty) := by
  rw [storagePath_eq]
  unfold openStorage
  cases a.noPersist with
  | true => rfl
  | false => cases a.storage.or (loadConfig a s).1.storagePath <;> rfl

section OnDisk

variable {a s} {path : String} (kept : storagePath a s = some path)

include kept

theorem mounted_inFile : (mounted a s).InFile (FileStorage.mk path s.files) := by
  have medium : (openStorage a (loadConfig a s).1).1 = .file path := by
    rw [openStorage_fst, kept]
    rfl
  exact ⟨medium, Shelf.reliable_new _, rfl⟩

theorem restored_inFile :
    (restored a s).2.1.InFile (Choice.saveAll (FileStorage.mk path s.files) (repairs a s)).1 ∧
      (Choice.saveAll (FileStorage.mk path s.files) (repairs a s)).2 ⊆ (restored a s).2.2 := by
  obtain ⟨-, logged, after⟩ := (mounted_inFile kept).restore (loadConfig a s).1.defaultLanguage
  obtain ⟨written, told⟩ :=
    Choice.restore_file (FileStorage.mk path s.files) (loadConfig a s).1.defaultLanguage
  rw [repairs, kept]
  exact ⟨written ▸ after, logged ▸ told⟩

end OnDisk

/-- A run without a file has an empty storage in memory. -/
theorem mounted_eq (nowhere : storagePath a s = none) :
    mounted a s = ⟨Shelf.new (.memory MemoryStorage.empty), s.files⟩ := by
  rw [mounted, openStorage_fst, nowhere]
  rfl

theorem restored_aside (nowhere : storagePath a s = none) : (restored a s).2.1.Aside s.files := by
  have aside : (mounted a s).Aside s.files := by
    rw [mounted_eq a s nowhere]
    exact ⟨⟨_, rfl⟩, rfl⟩
  exact aside.restore _

theorem restored_fst : (restored a s).1 = first a s := by
  unfold first
  cases kept : storagePath a s with
  | some path =>
    obtain ⟨used, -, -⟩ := (mounted_inFile kept).restore (loadConfig a s).1.defaultLanguage
    exact used.trans (Choice.restore_fst _ _)
  | none =>
    rw [restored, mounted_eq a s kept]
    rfl

/-- A run restores its language from the storage that it opens, and then looks for its route. -/
theorem runWith_eq :
    runWith a s =
      match Route.ofPath? a.path with
      | none =>
        ⟨1, "", "Error: no route for " ++ a.path ++ "\n", (restored a s).2.1.files,
          (records a s).toList⟩
      | some _ =>
        showPages a (loadConfig a s).1 (color a s) .login
          (opened (first a s) (restored a s).2.1 (records a s)) 0 := by
  have run : runWith a s =
      match (Route.navigate a.path false).1 with
      | none =>
        ⟨1, "", "Error: no route for " ++ a.path ++ "\n", (restored a s).2.1.files,
          (records a s).toList⟩
      | some route =>
        showPages a (loadConfig a s).1 (color a s) route
          (opened (restored a s).1 (restored a s).2.1 (records a s)) 0 := rfl
  rw [run, Route.navigate_visitor, restored_fst]
  cases Route.ofPath? a.path <;> rfl

/-- What a run comes to. -/
structure Ran (o : Outcome) : Prop where
  code : o.code = if (Route.ofPath? a.path).isSome then 0 else 1
  output : o.output = String.join (pages a s)
  started : .startingIn (first a s) ∈ o.records
  aside : storagePath a s = none → o.files = s.files
  files : ∀ path, storagePath a s = some path →
    o.files = (Choice.saveAll (FileStorage.mk path s.files) (saves a s)).1.files
  saved : ∀ path, storagePath a s = some path →
    (Choice.saveAll (FileStorage.mk path s.files) (saves a s)).2 ⊆ o.records

theorem runWith_ran : Ran a s (runWith a s) := by
  have started : .startingIn (first a s) ∈ (records a s).toList := by simp [records, restored_fst]
  rw [runWith_eq a s]
  cases known : Route.ofPath? a.path with
  | none =>
    have same : saves a s = repairs a s := by simp [saves, switchedTo, known]
    constructor
    case code => simp [known]
    case output => simp [pages, known]
    case started => exact started
    case aside => exact fun nowhere => (restored_aside a s nowhere).2
    case files =>
      intro path kept
      rw [same]
      exact (restored_inFile kept).1.files
    case saved =>
      intro path kept record member
      rw [same] at member
      simp [records, (restored_inFile kept).2 member]
  | some route =>
    have asked : switchedTo a = a.locale.bind Language.ofTag? := by simp [switchedTo, known]
    have shown := showPages_login a s (first a s) (restored a s).2.1 (records a s)
    rw [← asked] at shown
    obtain ⟨code, output, files, logged⟩ := shown
    constructor
    case code => simp [known, code]
    case output =>
      simp only [pages, known, last]
      exact output
    case started => exact logged (List.mem_append_left _ started)
    case aside =>
      intro nowhere
      exact files.trans ((restored_aside a s nowhere).saveAll _).2
    case files =>
      intro path kept
      obtain ⟨-, after⟩ := (restored_inFile kept).1.saveAll (switchedTo a).toList
      rw [saves, Choice.saveAll_append]
      exact files.trans after.files
    case saved =>
      intro path kept
      obtain ⟨stands, told⟩ := restored_inFile kept
      obtain ⟨more, -⟩ := stands.saveAll (switchedTo a).toList
      rw [saves, Choice.saveAll_append, ← more]
      refine List.Subset.trans (List.append_subset.mpr ⟨?_, List.subset_append_right _ _⟩) logged
      intro record member
      exact List.mem_append_left _ (by simp [records, told member])

end Outcomes

end Program

end LoginCard
