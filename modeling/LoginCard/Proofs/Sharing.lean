import LoginCard.Proofs.Notification
import LoginCard.Proofs.Writes

/-!
# Stores that share a storage

Any number of stores may keep their language in one storage. Its history is that of the languages
that were chosen for it: the one in which a store was opened on it, and the target of each switch
that a store of it accepted. The last of them is the one that is loaded, at every moment.
-/

namespace LoginCard

variable {ρ : Type} {h h' : Holding ρ} {e : Option Event}

namespace Event

/-- The store that an event gives a language. -/
def chooser? : Event → Option Nat
  | .opened i _ | .accepted i _ => some i
  | _ => none

/-- The language that an event gives a store of storage `j`, where `storage` says which storage each
store has. -/
def choice? (storage : Nat → Option Nat) (j : Nat) : Event → Option Language
  | .opened i l | .accepted i l => if storage i = some j then some l else none
  | _ => none

theorem choice?_congr {storage storage' : Nat → Option Nat} {e : Event}
    (same : ∀ i, e.chooser? = some i → storage i = storage' i) (j : Nat) :
    e.choice? storage j = e.choice? storage' j := by
  cases e with
  | opened i l | accepted i l => simp only [choice?, same i rfl]
  | _ => rfl

/-- What an event gives one store is a target or the language it is opened in. -/
theorem choice?_some (i : Nat) (e : Event) :
    e.choice? some i = (e.target? i).or (e.opening? i) := by
  cases e <;> simp [choice?, target?, opening?]

end Event

/-- The languages that were chosen for storage `j`. -/
def choices (storage : Nat → Option Nat) (j : Nat) (es : List Event) : List Language :=
  es.filterMap (Event.choice? storage j)

theorem choices_append (storage : Nat → Option Nat) (j : Nat) (es : List Event) (e : Option Event) :
    choices storage j (es ++ e.toList) =
      choices storage j es ++ (e.bind (Event.choice? storage j)).toList := by
  rw [choices, List.filterMap_append, choices]
  congr 1
  cases e with
  | none => rfl
  | some e => cases given : e.choice? storage j <;> simp [given]

/-- The storages of the stores. -/
def Holding.storages (h : Holding ρ) : List (Option Nat) := h.world.column Store.storage

theorem World.storage?_eq (w : World ρ) (i : Nat) :
    w.storage? i = ((w.column Store.storage)[i]?).join := by
  rw [World.storage?, World.column, List.getElem?_map]
  cases w.stores[i]? <;> rfl

/-- Every store keeps its storage. -/
theorem Change.storages_prefix (change : Change h e h') : h.storages <+: h'.storages := by
  have kept : h'.storages = h.storages → h.storages <+: h'.storages := fun same =>
    same ▸ List.prefix_rfl
  cases change with
  | aside beside => exact kept (World.column_of_stores _ beside.stores)
  | arranged | passed => exact kept rfl
  | opened l storage => simp [Holding.storages, World.column, World.addStore, World.newReference]
  | retained | released | ended => exact kept (World.column_onStore fun _ => rfl)
  | subscribed _ made =>
    obtain ⟨s, _, _, rfl⟩ := World.subscribe_eq made
    exact kept (World.column_onStore fun _ => rfl)
  | detached => exact kept (World.column_detach _ _ fun _ _ => rfl)
  | bound _ made =>
    obtain ⟨s, bd, _, _, _, _, rfl⟩ := World.bind_eq made
    exact kept (World.column_onStore fun _ => rfl)
  | unbound => exact kept (World.column_unbind _ _ fun _ _ => rfl)
  | accepted _ came =>
    obtain ⟨s, there, _, _, _, _, _, _, stores⟩ := World.dispatch_accepted came
    exact kept (World.column_set_same there stores rfl)
  | refreshed => exact kept (World.column_refresh _ _ _ _)

/-- An event that gives a store a language is one of a store that is there. -/
theorem Change.chooser_known (change : Change h e h') {i : Nat}
    (chooser : e.bind Event.chooser? = some i) : i < h'.storages.length := by
  cases change with
  | opened l storage =>
    obtain rfl := Option.some.inj chooser
    simp [Holding.storages]
  | accepted _ came =>
    obtain rfl := Option.some.inj chooser
    obtain ⟨s, there, _, _, _, _, _, _, stores⟩ := World.dispatch_accepted came
    simpa [Holding.storages, stores] using (List.getElem?_eq_some_iff.mp there).1
  | _ => cases chooser

namespace Chain

variable {es : List Event}

theorem storages_prefix (chain : Chain h es h') : h.storages <+: h'.storages :=
  chain.preserves (P := fun h' => h.storages <+: h'.storages)
    (fun change before => before.trans change.storages_prefix) List.prefix_rfl

theorem chooser_known (chain : Chain h es h') :
    ∀ e ∈ es, ∀ i, e.chooser? = some i → i < h'.storages.length := by
  refine chain.history (P := fun es h' => ∀ e ∈ es, ∀ i, e.chooser? = some i →
    i < h'.storages.length) ?_ [] nofun
  intro h₁ h₂ e es change known e' member i chooser
  rcases List.mem_append.mp member with old | new
  · exact Nat.lt_of_lt_of_le (known e' old i chooser) change.storages_prefix.length_le
  · obtain rfl := Option.mem_toList.mp new
    exact change.chooser_known chooser

theorem storage?_of_known (chain : Chain h es h') {i : Nat} (known : i < h.storages.length) :
    h'.world.storage? i = h.world.storage? i := by
  obtain ⟨more, grown⟩ := chain.storages_prefix
  rw [World.storage?_eq, World.storage?_eq]
  change (h'.storages[i]?).join = (h.storages[i]?).join
  rw [← grown, List.getElem?_append_left known]

/-- A store that is opened in the course of a chain has the language that it was given last. -/
theorem tag?_eq (chain : Chain h es h') {i : Nat} (absent : h.tag? i = none) :
    h'.tag? i = (choices some i es).getLast? := by
  refine chain.history (P := fun es h' => h'.tag? i = (choices some i es).getLast?) ?_ [] absent
  intro h₁ h₂ e es change before
  rw [choices_append, List.getLast?_append]
  rw [Holding.tag?] at before ⊢
  have given : e.bind (Event.choice? some i) =
      (e.bind (Event.target? i)).or (e.bind (Event.opening? i)) := by
    cases e with
    | none => rfl
    | some e => exact Event.choice?_some i e
  rw [given]
  cases change.settles i with
  | same states target opening =>
    rw [states, before, target, opening]
    simp
  | opened r _ there event _ _ =>
    rw [there, event]
    simp [Event.target?, Event.opening?]
  | accepted r r' _ _ there event _ =>
    rw [there, event]
    simp [Event.target?]

end Chain

/-- What is restored on a storage is what is loaded from it, or else the fallback. -/
theorem World.withShelf_restore {w w' : World ρ} {j : Nat} {fallback l : Language}
    (worked : (w.withShelf j fun m => Choice.restore m fallback) = some (l, w')) :
    l = (w.loaded? j).getD fallback := by
  obtain ⟨shelf, there, made⟩ := Option.map_eq_some_iff.mp worked
  have restored : l = (Choice.restore (Mounted.mk shelf w.files) fallback).1 :=
    (Prod.mk.inj made).1.symm
  rw [restored, Choice.restore_fst, World.loaded?_eq (m := ⟨shelf, w.files⟩) there rfl,
    Choice.loadedOr]
  cases (Choice.load (Mounted.mk shelf w.files)).1 <;> rfl

namespace Session

section Choosing

variable {s : Session} {j count : Nat} {slots : Toml.Table} {step : Step} {i : Nat} {l : Language}

theorem column_nameStore {α : Type} {f : Store Reaction → α}
    (same : ∀ s handles, f { s with handles } = f s) (s : Session) (name : String) (i : Nat) :
    (s.nameStore name i).world.column f = s.world.column f := by
  unfold nameStore dropHandle
  split
  · exact World.column_onStore fun _ => same _ _
  · rfl

/-- The steps that open a store, and the language that they open it in. -/
theorem of_event?_opened (event : s.event? step = some (.opened i l)) :
    i = s.world.stores.length ∧
      ((∃ name, step = .newStore name l) ∨
        ∃ name storage fallback i' w, step = .openStore name storage fallback ∧
          Keyed.find? storage s.storages = some i' ∧
          (s.world.withShelf i' fun m => Choice.restore m fallback) = some (l, w)) := by
  cases step with
  | newStore name l' =>
    obtain ⟨rfl, rfl⟩ := Event.opened.inj (Option.some.inj event)
    exact ⟨rfl, .inl ⟨name, rfl⟩⟩
  | openStore name storage fallback =>
    obtain ⟨⟨l', w⟩, restored, same⟩ := Option.map_eq_some_iff.mp event
    obtain ⟨i', found, restored⟩ := Option.bind_eq_some_iff.mp restored
    obtain ⟨rfl, rfl⟩ := Event.opened.inj same
    exact ⟨rfl, .inr ⟨name, storage, fallback, i', w, rfl, found, restored⟩⟩
  | dispatch | setLocale =>
    simp only [event?] at event
    split at event
    · obtain ⟨_, _, same⟩ := Option.map_eq_some_iff.mp event
      cases same
    · cases event
  | _ => simp [event?] at event

theorem storage?_newStore (s : Session) (name : String) (l : Language) :
    (s.perform (.newStore name l)).session.world.storage? s.world.stores.length = none := by
  let opened : Session := { s with world := (s.world.addStore l none).2 }
  show (opened.nameStore name _).world.storage? _ = _
  rw [World.storage?_eq, column_nameStore fun _ _ => rfl, World.getElem?_column_addStore,
    if_pos rfl]
  rfl

theorem storage?_openStore {storage : String} {w : World Reaction} {fallback : Language}
    (found : Keyed.find? storage s.storages = some i)
    (restored : (s.world.withShelf i fun m => Choice.restore m fallback) = some (l, w))
    (name : String) :
    (s.perform (.openStore name storage fallback)).session.world.storage? s.world.stores.length =
      some i := by
  rw [perform_openStore found restored name]
  show (Session.nameStore { s with world := (w.addStore l (some i)).2 } name _).world.storage? _ = _
  rw [World.storage?_eq, column_nameStore fun _ _ => rfl, World.getElem?_column_addStore,
    if_pos (congrArg List.length (World.withShelf_eq restored).1).symm]
  rfl

end Choosing

namespace Machine

/-- What the next move writes to storage `j` by hand. -/
def byHand? (m : Machine) (j : Nat) : Option (String × Toml.Value) :=
  m.next?.bind (m.session.byHand? j)

/-- The language that the next move gives a store of storage `j`. -/
def choice? (m : Machine) (j : Nat) : Option Language :=
  m.event?.bind (Event.choice? m.move.session.world.storage? j)

/-- What a move writes to storage `j`: for a switch that a store of it accepts its target, whatever
the language before; for a store that is opened on it the fallback, if no language can be loaded;
and beyond that only what it writes by hand. -/
structure WritesOnce (m : Machine) (j : Nat) : Prop where
  accepted : ∀ i l, m.event? = some (.accepted i l) → m.move.session.world.storage? i = some j →
    m.writes j = [Choice.entry l]
  opened : ∀ i l, m.event? = some (.opened i l) → m.move.session.world.storage? i = some j →
    ∃ name storage fallback, m.next? = some (.openStore name storage fallback) ∧
      l = (m.session.world.loaded? j).getD fallback ∧
      m.writes j = if m.session.world.loaded? j = none then [Choice.entry fallback] else []
  otherwise : m.choice? j = none → m.writes j = (m.byHand? j).toList

section Moving

variable {m : Machine} {j count : Nat} {slots : Toml.Table} {step : Step} {i : Nat} {l : Language}

theorem event?_of_next (next : m.next? = some step) : m.event? = m.session.event? step := by
  unfold next? at next
  unfold event?
  split at next <;> rename_i top
  · simp [top, next?, Option.some.inj next]
  · simp [top, next?, Option.some.inj next]
  · cases next

/-- Only a step gives a store a language. -/
theorem next_of_event? {e : Event} (event : m.event? = some e) (gives : e.chooser?.isSome) :
    ∃ step, m.next? = some step ∧ m.session.event? step = some e := by
  unfold event? at event
  split at event
  · obtain rfl := Option.some.inj event
    split at gives <;> cases gives
  · exact Option.bind_eq_some_iff.mp event

theorem writes_of_next (next : m.next? = some step) : m.writes j = m.session.writes j step := by
  simp only [writes, next]

/-- A store that accepts a switch keeps its storage. -/
theorem storage?_of_accepted (event : m.event? = some (.accepted i l)) :
    m.move.session.world.storage? i = m.session.world.storage? i := by
  obtain ⟨s, c, there, _, _, _, _, _, _, stores, _, _, _⟩ := move_accepted event
  have known := (List.getElem?_eq_some_iff.mp there).1
  rw [World.storage?, World.storage?, stores, List.getElem?_set_self known, there]
  rfl

theorem writesOnce (holds : m.session.world.Holds j slots count) : m.WritesOnce j := by
  constructor
  case accepted =>
    intro i l event storage
    rw [storage?_of_accepted event] at storage
    obtain ⟨step, next, event⟩ := next_of_event? event rfl
    obtain ⟨asked, cycle⟩ := asked_of_event? event
    rw [writes_of_next next, Session.writes, kept?_asked asked, if_pos ⟨cycle, storage⟩,
      byHand?_asked asked]
    rfl
  case opened =>
    intro i l event storage
    obtain ⟨step, next, event⟩ := next_of_event? event rfl
    rw [session_move_of_next next] at storage
    obtain ⟨rfl, ⟨name, rfl⟩ | ⟨name, named, fallback, i, w, rfl, found, restored⟩⟩ :=
      of_event?_opened event
    · rw [storage?_newStore] at storage
      cases storage
    · rw [storage?_openStore found restored] at storage
      obtain rfl := Option.some.inj storage
      refine ⟨name, named, fallback, next, World.withShelf_restore restored, ?_⟩
      rw [writes_of_next next]
      by_cases absent : m.session.world.loaded? i = none <;>
        simp [Session.writes, kept?, Session.byHand?, found, absent]
  case otherwise =>
    intro unchosen
    cases next : m.next? with
    | none => simp [writes, byHand?, next]
    | some step =>
      rw [writes_of_next next, Session.writes]
      cases kept : m.session.kept? j step with
      | none => simp [byHand?, next]
      | some l =>
        rw [choice?, event?_of_next next] at unchosen
        rcases of_kept? kept with ⟨name, storage, rfl, found, absent⟩ | ⟨i, event, storage⟩
        · obtain ⟨l', w, restored⟩ := holds.withShelf_isSome fun m => Choice.restore m l
          have after := storage?_openStore found restored name
          rw [← session_move_of_next next] at after
          simp [Session.event?, found, restored, Event.choice?, after] at unchosen
        · have after := storage?_of_accepted ((event?_of_next next).trans event)
          simp [event, Event.choice?, after, storage] at unchosen

end Moving

end Machine

end Session

end LoginCard
