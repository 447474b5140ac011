import LoginCard.Proofs.Runs

/-!
# A run goes on where the last one stopped

A run starts in the language of its file, or in the configured one where none can be loaded. It
leaves the language there that it ends in. So the next run on that file starts in that language,
whatever it is configured to, and its first page is the last one of the run before.
-/

namespace LoginCard

theorem Choice.load_of_sameText {s s' : FileStorage} {l : Language} (loaded : (load s).1 = .ok l)
    (same : s'.files.readText s'.path = s.files.readText s.path) : (load s').1 = .ok l := by
  cases document : s.document.1 with
  | error e =>
    rw [load_unreadable document] at loaded
    cases loaded
  | ok doc =>
    rw [← loaded, load_eq document, load_eq (FileStorage.document_of_sameText document same)]

namespace Program

variable {a : Arguments} {s : Surroundings} {o : Outcome}

section OnDisk

variable {path : String} (kept : storagePath a s = some path)

include kept

/-- The last language that a run saves is the one it ends in, and it saves none only where that one
is stored already. -/
theorem last_eq :
    ((saves a s).getLast?.map Except.ok).getD (Choice.load (FileStorage.mk path s.files)).1 =
      .ok (last a s) := by
  simp only [saves, repairs, last, first, kept, Choice.missing, Choice.loadedOr]
  cases switchedTo a <;> cases (Choice.load (FileStorage.mk path s.files)).1 <;> simp

/-- The language that a run ends in is stored. -/
theorem Ran.stored (ran : Ran a s o) (quiet : Choice.Quiet o.records)
    (readsBack : ∀ doc ∈ Call.documents (s.files.contents path) (Choice.saving (saves a s)),
      Toml.Table.ReadsBack doc) :
    (Choice.load (FileStorage.mk path o.files)).1 = .ok (last a s) := by
  have left : FileStorage.mk path o.files =
      (Choice.saveAll (FileStorage.mk path s.files) (saves a s)).1 := by
    rw [ran.files path kept]
    exact congrArg (FileStorage.mk · _)
      (Choice.path_saveAll (FileStorage.mk path s.files) (saves a s)).symm
  rw [left, Choice.load_saveAll _ _ (quiet.mono (ran.saved path kept)) readsBack]
  exact last_eq kept

/-- A run starts in a language that is stored. -/
theorem first_of_stored {l : Language} {t : FileStorage} (stored : (Choice.load t).1 = .ok l)
    (same : s.files.readText path = t.files.readText t.path) : first a s = l := by
  have loaded : (Choice.load (FileStorage.mk path s.files)).1 = .ok l :=
    Choice.load_of_sameText stored same
  simp only [first, kept, Choice.loadedOr, loaded]

end OnDisk

theorem run_ran {words : List String} (parsed : CommandLine.parse words = .ok a)
    (s : Surroundings) : Ran a s (run words s) := by
  rw [run, parsed]
  exact runWith_ran a s

theorem storagePath_of_named {path : String} (persists : a.noPersist = false)
    (named : a.storage = some path) : storagePath a s = some path := by
  simp [storagePath_eq, persists, named]

/-- The last page of a run is the card in the language that it ends in. -/
theorem getLast?_pages {page : String} (shown : (pages a s).getLast? = some page) :
    page = card a s (last a s) := by
  unfold pages at shown
  cases known : Route.ofPath? a.path with
  | none => simp [known] at shown
  | some route =>
    cases asked : a.locale with
    | none =>
      have same : last a s = first a s := by simp [last, switchedTo, asked]
      simpa [known, asked, same] using shown.symm
    | some tag => simpa [known, asked] using shown.symm

theorem head?_pages (known : (Route.ofPath? a.path).isSome) :
    (pages a s).head? = some (card a s (first a s)) := by
  obtain ⟨route, known⟩ := Option.isSome_iff_exists.mp known
  simp [pages, known]

/-- What a run shows and stores, and how the next run on its file begins. -/
structure Continues (a : Arguments) (s : Surroundings) (o : Outcome) : Prop where
  printed : o.output = String.join (pages a s)
  onRoute : ∀ route, Route.ofPath? a.path = some route →
    o.code = 0 ∧ last a s = (a.locale.bind Language.ofTag?).getD (first a s) ∧
      pages a s = card a s (first a s) :: (a.locale.map fun _ => card a s (last a s)).toList
  offRoute : Route.ofPath? a.path = none → o.code = 1 ∧ last a s = first a s ∧ pages a s = []
  file : storagePath a s = a.storage.or (loadConfig a s).1.storagePath
  stored : ∀ path, storagePath a s = some path →
    (Choice.load (FileStorage.mk path o.files)).1 = .ok (last a s)
  next : ∀ path, storagePath a s = some path → ∀ words' a' s' path',
    CommandLine.parse words' = .ok a' → storagePath a' s' = some path' →
    s'.files.readText path' = o.files.readText path →
    first a' s' = last a s ∧ .startingIn (last a s) ∈ (run words' s').records ∧
      (run words' s').output = String.join (pages a' s') ∧
      ((loadConfig a' s').1.cardTemplate = (loadConfig a s).1.cardTemplate → form a' = form a →
        color a' s' = color a s → (Route.ofPath? a'.path).isSome →
        ∀ page, (pages a s).getLast? = some page → (pages a' s').head? = some page)

/-- For every command line that is understood, every configuration and all files. -/
theorem run_continues (words : List String) (a : Arguments) (s : Surroundings)
    (parsed : CommandLine.parse words = .ok a) (persists : a.noPersist = false)
    (quiet : Choice.Quiet (run words s).records)
    (readsBack : ∀ path, storagePath a s = some path →
      ∀ doc ∈ Call.documents (s.files.contents path) (Choice.saving (saves a s)),
        Toml.Table.ReadsBack doc) :
    Continues a s (run words s) := by
  have ran := run_ran parsed s
  have stored : ∀ path, storagePath a s = some path →
      (Choice.load (FileStorage.mk path (run words s).files)).1 = .ok (last a s) :=
    fun path kept => ran.stored kept quiet (readsBack path kept)
  constructor
  case printed => exact ran.output
  case onRoute =>
    intro route known
    exact ⟨by rw [ran.code, known]; rfl, by rw [last, switchedTo, known]; rfl,
      by rw [pages, known]⟩
  case offRoute =>
    intro unknown
    exact ⟨by rw [ran.code, unknown]; rfl, by rw [last, switchedTo, unknown]; rfl,
      by rw [pages, unknown]⟩
  case file => simp [storagePath_eq, persists]
  case stored => exact stored
  case next =>
    intro path kept words' a' s' path' parsed' kept' same
    have ran' := run_ran parsed' s'
    have starts : first a' s' = last a s := first_of_stored kept' (stored path kept) same
    refine ⟨starts, starts ▸ ran'.started, ran'.output, ?_⟩
    intro template form color known page shown
    rw [head?_pages known, starts, getLast?_pages shown, card, card, template, form, color]

/-- A run that finds a record from before records had versions, and no directories of the user. -/
def stale : Surroundings :=
  { files := FileTree.empty.set ["card.toml"] (.file "locale = \"en_US\"\n".toUTF8)
    configDirectory := none
    dataDirectory := none
    color := false
    usage := fun _ _ => "" }

def plain : Arguments :=
  { path := "/"
    locale := none
    username := none
    password := none
    config := none
    storage := some "card.toml"
    noPersist := false
    noColor := false }

/-- The same run, asked for another language. -/
def russian : Arguments := { plain with locale := some "ru_RU" }

theorem stale_run_continues :
    let o := run ["--storage", "card.toml", "--locale", "ru_RU"] stale
    let next := run ["--storage", "card.toml"] { stale with files := o.files }
    (Choice.load (FileStorage.mk "card.toml" o.files)).1 = .ok .russian ∧
      .startingIn .russian ∈ next.records ∧
      ∃ before page, o.output = before ++ page ∧ next.output = page := by
  intro o next
  have quiet : Choice.Quiet o.records := by
    have records : o.records = [.started, .noConfigDirectory, .discarded (.stale 0 1) .english,
        .startingIn .english, .redirected "/" "/login", .switched .english .russian,
        .refreshed .russian] := by decide +kernel
    simp [Choice.Quiet, records]
  have readsBack : ∀ path, storagePath russian stale = some path →
      ∀ doc ∈ Call.documents (stale.files.contents path) (Choice.saving (saves russian stale)),
        Toml.Table.ReadsBack doc := by
    intro path named
    obtain rfl := Option.some.inj ((storagePath_of_named rfl rfl).symm.trans named)
    decide +kernel
  have ends : last russian stale = .russian := by decide +kernel
  have done : Continues russian stale o :=
    run_continues ["--storage", "card.toml", "--locale", "ru_RU"] russian stale rfl rfl quiet
      readsBack
  have file : storagePath russian stale = some "card.toml" := storagePath_of_named rfl rfl
  -- For all files, so that nothing has to look at those that the first run leaves.
  have found : ∀ files, (Surroundings.files { stale with files }).readText "card.toml" =
      files.readText "card.toml" := fun _ => rfl
  have config : ∀ files, (loadConfig plain { stale with files }).1 = (loadConfig russian stale).1 :=
    fun _ => rfl
  obtain ⟨-, starts, printed, same⟩ :=
    done.next "card.toml" file ["--storage", "card.toml"] plain { stale with files := o.files }
      "card.toml" rfl (storagePath_of_named rfl rfl) (found o.files)
  have stored := done.stored "card.toml" file
  rw [ends] at stored starts
  obtain ⟨_, _, both⟩ := done.onRoute .home rfl
  have one : ∀ s, pages plain s = [card plain s (first plain s)] := fun _ => rfl
  have shared := same (by rw [config]) rfl (by rw [color, color, config]; rfl) rfl
    (card russian stale (last russian stale)) (by rw [both]; rfl)
  rw [one] at printed shared
  refine ⟨stored, starts, card russian stale (first russian stale), _, ?_, printed⟩
  rw [done.printed, both, ← Option.some.inj shared]
  simp [russian]

end Program

end LoginCard
