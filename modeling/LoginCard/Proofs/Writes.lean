import LoginCard.Proofs.Keeping
import LoginCard.Proofs.Shelves

/-!
# What is written to a storage in memory

Besides the steps that set a slot by hand, two things are ever written: the target of a switch that
a store of the storage accepts, and the fallback of a store that is opened where no language can be
loaded. All that a storage in memory holds is what was written to it, in turn.
-/

namespace LoginCard

namespace World

variable {ρ : Type} {w w' : World ρ} {j : Nat} {slots : Toml.Table} {count : Nat}

/-- Storage `j` lies in memory with these slots, and was set that many times. -/
def Holds (w : World ρ) (j : Nat) (slots : Toml.Table) (count : Nat) : Prop :=
  ∃ shelf, w.shelves[j]? = some shelf ∧ shelf.Holds slots count

/-- The language that is loaded from storage `j`, if one can be. -/
def loaded? (w : World ρ) (j : Nat) : Option Language :=
  (w.shelves[j]?).bind fun shelf => (Choice.load (Mounted.mk shelf w.files)).1.toOption

/-- The storage that store `i` keeps its language in. -/
def storage? (w : World ρ) (i : Nat) : Option Nat := (w.stores[i]?).bind Store.storage

theorem loaded?_eq {m : Mounted} (there : w.shelves[j]? = some m.shelf)
    (files : m.files = w.files) : w.loaded? j = (Choice.load m).1.toOption := by
  rw [loaded?, there, ← files]
  rfl

theorem Holds.loaded?_eq (holds : w.Holds j slots count) :
    w.loaded? j = (Choice.ofSlot (Keyed.find? Choice.key slots)).toOption := by
  obtain ⟨shelf, there, holds⟩ := holds
  rw [World.loaded?_eq (m := ⟨shelf, w.files⟩) there rfl, (Mounted.load_memory holds).1]

/-- What is missing is the fallback where no language can be loaded. -/
theorem missing_eq {m : Mounted} (there : w.shelves[j]? = some m.shelf)
    (files : m.files = w.files) (fallback : Language) :
    Choice.missing m fallback = if w.loaded? j = none then [fallback] else [] := by
  rw [loaded?_eq there files, Choice.missing]
  cases (Choice.load m).1 <;> rfl

theorem Holds.of_shelves (holds : w.Holds j slots count) (same : w'.shelves = w.shelves) :
    w'.Holds j slots count := by
  rw [Holds, same]
  exact holds

theorem Holds.withShelf_isSome (holds : w.Holds j slots count) {α : Type}
    (f : Mounted → α × Mounted × List LogRecord) : ∃ a w', w.withShelf j f = some (a, w') := by
  obtain ⟨shelf, there, _⟩ := holds
  exact ⟨_, _, by rw [World.withShelf, there]; rfl⟩

/-- A storage that is there can be worked on, so one that cannot be is another one. -/
theorem Holds.other_of_idle (holds : w.Holds j slots count) {α : Type} {i : Nat}
    {f : Mounted → α × Mounted × List LogRecord} (idle : w.withShelf i f = none) : i ≠ j := by
  rintro rfl
  obtain ⟨_, _, worked⟩ := holds.withShelf_isSome f
  rw [worked] at idle
  cases idle

/-- Work on a storage is work on storage `j` or leaves it alone. -/
theorem Holds.withShelf (holds : w.Holds j slots count) {α : Type} {i : Nat}
    {f : Mounted → α × Mounted × List LogRecord} {a : α} {new : Keyed Toml.Value}
    (worked : w.withShelf i f = some (a, w'))
    (here : i = j → ∀ m : Mounted, w.shelves[j]? = some m.shelf → m.files = w.files →
      m.shelf.Holds slots count →
        (f m).2.1.shelf.Holds (Keyed.insertAll slots new) (count + new.length))
    (elsewhere : i ≠ j → new = []) :
    w'.Holds j (Keyed.insertAll slots new) (count + new.length) := by
  obtain ⟨shelf, there, holds⟩ := holds
  obtain ⟨shelf', there', made⟩ := Option.map_eq_some_iff.mp worked
  obtain ⟨-, rfl⟩ := Prod.mk.inj made
  by_cases same : i = j
  · subst same
    obtain rfl : shelf' = shelf := Option.some.inj (there'.symm.trans there)
    have known := (List.getElem?_eq_some_iff.mp there).1
    exact ⟨_, List.getElem?_set_self known, here rfl ⟨shelf', w.files⟩ there rfl holds⟩
  · rw [elsewhere same]
    exact ⟨shelf, (List.getElem?_set_ne same).trans there, holds⟩

theorem Holds.persist (holds : w.Holds j slots count) (storage : Option Nat) (l : Language) :
    let new := if storage = some j then [Choice.entry l] else []
    (w.persist storage l).Holds j (Keyed.insertAll slots new) (count + new.length) := by
  intro new
  cases storage with
  | none => exact holds
  | some i =>
    simp only [World.persist]
    cases worked : w.withShelf i fun m => ((), Choice.saveOrWarn m l) with
    | none =>
      have nothing : new = [] :=
        if_neg fun same => holds.other_of_idle worked (Option.some.inj same)
      rw [nothing]
      exact holds
    | some done =>
      refine holds.withShelf worked ?_ fun elsewhere =>
        if_neg fun same => elsewhere (Option.some.inj same)
      intro same m _ _ held
      have written : new = [Choice.entry l] := if_pos (congrArg some same)
      rw [written]
      exact Mounted.saveOrWarn_memory held l

theorem shelves_moveTo (w : World ρ) (i : Nat) (r : Reference Language) (l : Language) :
    (w.moveTo i r l).2.shelves = w.shelves := by
  unfold moveTo
  split <;> rfl

/-- A switch that is accepted is written to the storage of its store. -/
theorem Holds.dispatch (holds : w.Holds j slots count) {i : Nat} {switch : Switch} {c : Cycle ρ}
    (came : w.dispatch i switch = some (.accepted w' c)) :
    let new := if w.storage? i = some j then [Choice.entry switch.target] else []
    w'.Holds j (Keyed.insertAll slots new) (count + new.length) := by
  obtain ⟨store, there, came⟩ := Option.map_eq_some_iff.mp came
  have storage : w.storage? i = store.storage := by simp [storage?, there]
  split at came
  · cases came
  injection came with same
  subst same
  rw [storage]
  exact ((holds.of_shelves (shelves_moveTo w i store.state switch.target)).persist
    store.storage switch.target).of_shelves rfl

theorem shelves_unbind (w : World ρ) (number : Nat) : (w.unbind number).shelves = w.shelves := by
  unfold unbind
  split <;> rfl

end World

namespace Session

/-- The language that a step writes to storage `j` for a store. -/
def kept? (s : Session) (j : Nat) (step : Step) : Option Language :=
  match step with
  | .openStore _ storage fallback =>
    if Keyed.find? storage s.storages = some j ∧ s.world.loaded? j = none then some fallback
    else none
  | .dispatch .. | .setLocale .. =>
    match s.event? step with
    | some (.accepted i l) => if s.world.storage? i = some j then some l else none
    | _ => none
  | _ => none

/-- What a step writes to storage `j` by hand. -/
def byHand? (s : Session) (j : Nat) : Step → Option (String × Toml.Value)
  | .set storage key v => if Keyed.find? storage s.storages = some j then some (key, v) else none
  | .save storage l =>
    if Keyed.find? storage s.storages = some j then some (Choice.entry l) else none
  | .restore storage fallback =>
    if Keyed.find? storage s.storages = some j ∧ s.world.loaded? j = none
    then some (Choice.entry fallback) else none
  | _ => none

/-- What a step writes to storage `j`. -/
def writes (s : Session) (j : Nat) (step : Step) : List (String × Toml.Value) :=
  ((s.kept? j step).map Choice.entry).toList ++ (s.byHand? j step).toList

/-- The steps that work on storages, by hand or for a store. -/
def Step.onStorages : Step → Bool
  | .storage .. | .get .. | .set .. | .save .. | .load .. | .restore .. | .openStore ..
  | .dispatch .. | .setLocale .. => true
  | _ => false

/-- The steps that ask a store for a language. -/
def Step.isSwitch : Step → Bool
  | .dispatch .. | .setLocale .. => true
  | _ => false

/-- The storages of a session. -/
def shelves (s : Session) : List Shelf := s.world.shelves

section Shelves

variable {s : Session}

theorem shelves_dropHandle (s : Session) (i : Option Nat) :
    (s.dropHandle i).shelves = s.shelves := by
  cases i <;> rfl

theorem shelves_dropSubscription (s : Session) (sub : Option Subscription) :
    (s.dropSubscription sub).shelves = s.shelves := by
  cases sub <;> rfl

theorem shelves_dropBinding (s : Session) (b : Option Nat) :
    (s.dropBinding b).shelves = s.shelves := by
  cases b with
  | none => rfl
  | some b => exact World.shelves_unbind s.world b

theorem keeps_subscribe {store name : String} {reaction : List Step} :
    s.Keeps shelves (s.performSubscription (.subscribe store name reaction)) := by
  apply keeps_bind
  rintro ⟨i, _⟩ _
  apply keeps_bind
  rintro ⟨sub, w⟩ made
  obtain ⟨_, _, _, rfl⟩ := World.subscribe_eq made
  exact keeps_some (shelves_dropSubscription _ _)

theorem shelves_bind {w w' : World Reaction} {i b : Nat} (made : w.bind i = some (b, w')) :
    w'.shelves = w.shelves := by
  obtain ⟨_, _, _, _, _, _, rfl⟩ := World.bind_eq made
  rfl

theorem shelves_submit (p : OpenPage) (accept : Bool) :
    (s.submit p accept).session.shelves = s.shelves := by
  unfold submit
  dsimp only
  split <;> rfl

theorem keeps_performStore {step : Step} (other : step.onStorages = false) :
    s.Keeps shelves (s.performStore step) := by
  cases step with
  | openStore | dispatch | setLocale => cases other
  | newStore => exact keeps_some (shelves_dropHandle _ _)
  | cloneStore => exact keeps_bind fun _ _ => keeps_some (shelves_dropHandle _ _)
  | dropStore | locale | describeStore => exact keeps_bind fun _ _ => keeps_some rfl
  | _ => exact keeps_none

theorem keeps_performSubscription (step : Step) :
    s.Keeps shelves (s.performSubscription step) := by
  cases step with
  | subscribe => exact keeps_subscribe
  | unsubscribe | dropSubscription | describeSubscription =>
    exact keeps_bind fun _ _ => keeps_some rfl
  | _ => exact keeps_none

theorem keeps_performState (step : Step) : s.Keeps shelves (s.performState step) := by
  cases step with
  | freshState | selector => exact keeps_some rfl
  | snapshot => exact keeps_bind fun _ _ => keeps_some rfl
  | sameState | select | sameOutput =>
    exact keeps_bind fun _ _ => keeps_bind fun _ _ => keeps_some rfl
  | _ => exact keeps_none

theorem keeps_performPage (step : Step) : s.Keeps shelves (s.performPage step) := by
  cases step with
  | bind | page =>
    exact keeps_bind fun _ _ => keeps_bind fun _ made =>
      keeps_some ((shelves_dropBinding _ _).trans (shelves_bind made))
  | dropBinding | dropPage =>
    exact keeps_bind fun _ _ => keeps_some (World.shelves_unbind s.world _)
  | binding | fill | render | renderPath | pageInfo =>
    exact keeps_bind fun _ _ => keeps_some rfl
  | submit => exact keeps_bind fun _ _ => keeps_some (shelves_submit _ _)
  | _ => exact keeps_none

/-- Every other step leaves the storages as they are. -/
theorem shelves_perform {step : Step} (other : step.onStorages = false) :
    (s.perform step).session.shelves = s.shelves := by
  cases step with
  | storage | get | set | save | load | restore | openStore | dispatch | setLocale => cases other
  | plantFile path content =>
    cases content with
    | none => rfl
    | some entry => cases entry <;> rfl
  | viewFile | clearFile | color | unsupported | unreadable => rfl
  | calls =>
    exact Keeps.orInvalid (keeps_bind fun _ _ => keeps_bind fun _ _ => keeps_some rfl)
  | newStore | cloneStore | dropStore | locale | describeStore =>
    exact (keeps_performStore rfl).orInvalid
  | subscribe | unsubscribe | dropSubscription | describeSubscription =>
    exact (keeps_performSubscription _).orInvalid
  | snapshot | freshState | sameState | selector | select | sameOutput =>
    exact (keeps_performState _).orInvalid
  | bind | binding | dropBinding | page | fill | render | renderPath | pageInfo | submit
  | dropPage => exact (keeps_performPage _).orInvalid

end Shelves

section Writing

variable {s : Session} {j count : Nat} {slots : Toml.Table}

theorem holds_onStorage (holds : s.world.Holds j slots count) {α : Type} {name : String}
    {f : Mounted → α × Mounted × List LogRecord} (reply : α → Reply) {new : Keyed Toml.Value}
    (here : Keyed.find? name s.storages = some j → ∀ m : Mounted,
      s.world.shelves[j]? = some m.shelf → m.files = s.world.files → m.shelf.Holds slots count →
        (f m).2.1.shelf.Holds (Keyed.insertAll slots new) (count + new.length))
    (elsewhere : Keyed.find? name s.storages ≠ some j → new = []) :
    (s.onStorage name f reply).session.world.Holds j (Keyed.insertAll slots new)
      (count + new.length) := by
  unfold onStorage
  split
  · rename_i a w worked
    obtain ⟨i, found, worked⟩ := Option.bind_eq_some_iff.mp worked
    refine holds.withShelf worked (fun same => here (same ▸ found)) fun other => elsewhere ?_
    rw [found]
    exact fun same => other (Option.some.inj same)
  · rename_i idle
    rw [elsewhere]
    · exact holds
    · intro found
      rw [found] at idle
      exact holds.other_of_idle idle rfl

/-- A step that writes nothing and only looks at storages. -/
theorem holds_looking (holds : s.world.Holds j slots count) {α : Type} (name : String)
    {f : Mounted → α × Mounted × List LogRecord} (reply : α → Reply)
    (looks : ∀ m : Mounted, m.shelf.Holds slots count → (f m).2.1.shelf.Holds slots count) :
    (s.onStorage name f reply).session.world.Holds j slots count := by
  show (s.onStorage name f reply).session.world.Holds j (Keyed.insertAll slots [])
    (count + ([] : Keyed Toml.Value).length)
  exact holds_onStorage holds reply (fun _ m _ _ held => looks m held) fun _ => rfl

/-- A switch is kept in the storage of its store if it is accepted. -/
theorem kept?_asked {step : Step} {i : Nat} {l : Language} (asked : s.asks? step = some (i, l))
    (j : Nat) :
    s.kept? j step =
      if (s.perform step).isCycle ∧ s.world.storage? i = some j then some l else none := by
  have event := event?_asked asked
  cases step with
  | dispatch name switch | setLocale name tag =>
    simp only [kept?, event]
    split <;> simp_all
  | _ => simp [asks?] at asked

/-- Nobody writes by hand who asks for a switch. -/
theorem byHand?_asked {step : Step} {e : Nat × Language} (asked : s.asks? step = some e) (j : Nat) :
    s.byHand? j step = none := by
  cases step <;> first | rfl | cases asked

theorem of_kept? {step : Step} {l : Language} (kept : s.kept? j step = some l) :
    (∃ name storage, step = .openStore name storage l ∧
      Keyed.find? storage s.storages = some j ∧ s.world.loaded? j = none) ∨
    ∃ i, s.event? step = some (.accepted i l) ∧ s.world.storage? i = some j := by
  cases step with
  | openStore name storage fallback =>
    simp only [kept?] at kept
    split at kept
    · rename_i absent
      obtain rfl := Option.some.inj kept
      exact .inl ⟨name, storage, rfl, absent⟩
    · cases kept
  | dispatch | setLocale =>
    simp only [kept?] at kept
    split at kept
    · rename_i i l' event
      split at kept
      · rename_i storage
        obtain rfl := Option.some.inj kept
        exact .inr ⟨i, event, storage⟩
      · cases kept
    · cases kept
  | _ => cases kept

theorem holds_asked (holds : s.world.Holds j slots count) {step : Step} {i : Nat} {l : Language}
    (asked : s.asks? step = some (i, l)) :
    (s.perform step).session.world.Holds j (Keyed.insertAll slots (s.writes j step))
      (count + (s.writes j step).length) := by
  have kept := kept?_asked asked j
  have byHand := byHand?_asked asked j
  obtain ⟨store, switch, accepted, refused, _, there, rfl, performed⟩ := perform_asked asked
  rw [writes, kept, byHand, performed]
  cases came : s.world.dispatch i switch with
  | none => exact holds
  | some d =>
    cases d with
    | refused w =>
      obtain rfl := World.dispatch_refused there came
      exact holds
    | accepted w c =>
      have written := holds.dispatch came
      by_cases here : s.world.storage? i = some j <;>
        simpa [ofDispatched, Performed.isCycle, Performed.session, here] using written

/-- A step that would switch a store, but names none or no language, writes nothing. -/
theorem shelves_unasked {step : Step} (kind : step.isSwitch = true)
    (asked : s.asks? step = none) : (s.perform step).session.shelves = s.shelves := by
  cases step with
  | dispatch name switch =>
    have unknown := Option.map_eq_none_iff.mp asked
    simp [perform, performStore, unknown, orInvalid, Performed.session]
  | setLocale name tag =>
    cases known : Language.ofTag? tag with
    | none =>
      obtain ⟨records, r, ignored⟩ := perform_setLocale_unsupported known (s := s) name
      rw [ignored]
      rfl
    | some l =>
      have unknown : s.store? name = none := by simpa [asks?, known] using asked
      simp [perform, performStore, unknown, orInvalid, Performed.session]
  | _ => cases kind

theorem holds_switch (holds : s.world.Holds j slots count) {step : Step}
    (kind : step.isSwitch = true) :
    (s.perform step).session.world.Holds j (Keyed.insertAll slots (s.writes j step))
      (count + (s.writes j step).length) := by
  cases asked : s.asks? step with
  | some e => exact holds_asked holds asked
  | none =>
    have nothing : s.writes j step = [] := by
      cases step with
      | dispatch | setLocale => simp [writes, kept?, byHand?, event?, asked]
      | _ => cases kind
    rw [nothing]
    exact holds.of_shelves (shelves_unasked kind asked)

/-- What `openStore` comes to where there is such a storage. -/
theorem perform_openStore {storage : String} {i : Nat} {l : Language} {w : World Reaction}
    {fallback : Language} (found : Keyed.find? storage s.storages = some i)
    (restored : (s.world.withShelf i fun m => Choice.restore m fallback) = some (l, w))
    (name : String) :
    s.perform (.openStore name storage fallback) =
      .reply ({ s with world := (w.addStore l (some i)).2 }.nameStore name s.world.stores.length)
        .done := by
  simp [perform, performStore, found, World.openStore, restored, orInvalid, World.addStore,
    World.newReference, (World.withShelf_eq restored).1]

theorem holds_openStore (holds : s.world.Holds j slots count) (name storage : String)
    (fallback : Language) :
    (s.perform (.openStore name storage fallback)).session.world.Holds j
      (Keyed.insertAll slots (s.writes j (.openStore name storage fallback)))
      (count + (s.writes j (.openStore name storage fallback)).length) := by
  cases found : Keyed.find? storage s.storages with
  | none =>
    simpa [perform, performStore, found, orInvalid, Performed.session, writes, kept?, byHand?]
      using holds
  | some i =>
    cases restored : s.world.withShelf i fun m => Choice.restore m fallback with
    | none =>
      have other : i ≠ j := holds.other_of_idle restored
      simpa [perform, performStore, found, World.openStore, restored, orInvalid,
        Performed.session, writes, kept?, byHand?, other] using holds
    | some e =>
      obtain ⟨l, w⟩ := e
      rw [perform_openStore found restored name]
      refine World.Holds.of_shelves (w := w) ?_ (shelves_dropHandle _ _)
      refine holds.withShelf restored ?_ ?_
      · rintro rfl m there files held
        have restored := Mounted.restore_memory held fallback
        rw [World.missing_eq there files] at restored
        by_cases absent : s.world.loaded? i = none <;>
          simpa [writes, kept?, byHand?, found, absent] using restored
      · intro other
        simp [writes, kept?, byHand?, found, other]

/-- What storage `j` holds after a step is what it held before with all that the step writes. -/
theorem holds_perform (holds : s.world.Holds j slots count) (step : Step) :
    (s.perform step).session.world.Holds j (Keyed.insertAll slots (s.writes j step))
      (count + (s.writes j step).length) := by
  cases step with
  | storage name path getFails setFails =>
    obtain ⟨shelf, there, holds⟩ := holds
    have known := (List.getElem?_eq_some_iff.mp there).1
    exact ⟨shelf, (List.getElem?_append_left known).trans there, holds⟩
  | get name key =>
    exact holds_looking holds name _ fun m held => (Mounted.get_memory held key).2
  | load name => exact holds_looking holds name _ fun m held => (Mounted.load_memory held).2
  | set name key v =>
    refine holds_onStorage holds _ ?_ ?_
    · intro found m _ _ held
      simp [writes, kept?, byHand?, found]
      exact (Mounted.set_memory held key v).2
    · intro other
      simp [writes, kept?, byHand?, other]
  | save name l =>
    refine holds_onStorage holds _ ?_ ?_
    · intro found m _ _ held
      simp [writes, kept?, byHand?, found]
      exact (Mounted.set_memory held _ _).2
    · intro other
      simp [writes, kept?, byHand?, other]
  | restore name fallback =>
    refine holds_onStorage holds _ ?_ ?_
    · intro found m there files held
      have restored := Mounted.restore_memory held fallback
      rw [World.missing_eq there files] at restored
      by_cases absent : s.world.loaded? j = none <;>
        simpa [writes, kept?, byHand?, found, absent] using restored
    · intro other
      simp [writes, kept?, byHand?, other]
  | openStore name storage fallback => exact holds_openStore holds name storage fallback
  | dispatch | setLocale => exact holds_switch holds rfl
  | _ => exact holds.of_shelves (shelves_perform rfl)

end Writing

namespace Machine

/-- What the next move writes to storage `j`. -/
def writes (m : Machine) (j : Nat) : List (String × Toml.Value) :=
  match m.next? with
  | some step => m.session.writes j step
  | none => []

/-- All that `n` moves write to storage `j`. -/
def written (j : Nat) : Nat → Machine → List (String × Toml.Value)
  | 0, _ => []
  | n + 1, m => m.writes j ++ written j n m.move

theorem holds_move {m : Machine} {j count : Nat} {slots : Toml.Table}
    (holds : m.session.world.Holds j slots count) :
    m.move.session.world.Holds j (Keyed.insertAll slots (m.writes j))
      (count + (m.writes j).length) := by
  unfold writes
  cases next : m.next? with
  | some step =>
    rw [session_move_of_next next]
    exact holds_perform holds step
  | none =>
    obtain ⟨w, moved, same⟩ := session_move_of_none next
    rw [moved]
    exact holds.of_shelves same

/-- A storage in memory holds what was written to it, and was set once for each of that. -/
theorem holds_run {m : Machine} {j count : Nat} {slots : Toml.Table}
    (holds : m.session.world.Holds j slots count) (n : Nat) :
    (run n m).session.world.Holds j (Keyed.insertAll slots (written j n m))
      (count + (written j n m).length) := by
  induction n generalizing m slots count with
  | zero => exact holds
  | succ n ih =>
    rw [run_succ, written, Keyed.insertAll_append, List.length_append, ← Nat.add_assoc]
    exact ih (holds_move holds)

end Machine

end Session

end LoginCard
