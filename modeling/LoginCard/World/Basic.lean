import LoginCard.Choice.Restore
import LoginCard.Selector
import LoginCard.Storage.File

/-!
# Stores, storages and bindings

A world holds any number of storages, language stores and bindings, each known by its number, and
the tree of files that storages in files work on. `ρ` is what a subscriber runs when it is called;
the world itself never runs it.
-/

namespace LoginCard

/-- Where a storage keeps its slots. -/
inductive Medium where
  | memory (m : MemoryStorage)
  | file (path : String)

/-- A storage that counts its calls and may be told which of them fail, by their numbers from
zero on. -/
structure Shelf where
  medium : Medium
  getFails : Nat → Bool
  setFails : Nat → Bool
  gets : Nat
  sets : Nat

def Shelf.new (medium : Medium) : Shelf := ⟨medium, fun _ => false, fun _ => false, 0, 0⟩

/-- A storage together with the files. -/
structure Mounted where
  shelf : Shelf
  files : FileTree

namespace Mounted

/-- The path that faults on demand name. -/
def faultPath : String := "/fault"

def get (m : Mounted) (key : String) : Access Mounted (Option Toml.Value) :=
  let shelf := { m.shelf with gets := m.shelf.gets + 1 }
  if shelf.getFails m.shelf.gets then ⟨.error (.read faultPath .injected), { m with shelf }, []⟩
  else
    match shelf.medium with
    | .memory memory =>
      let access := Storage.get memory key
      ⟨access.result, { m with shelf }, access.records⟩
    | .file path =>
      let access := Storage.get (FileStorage.mk path m.files) key
      ⟨access.result, ⟨shelf, access.after.files⟩, access.records⟩

def set (m : Mounted) (key : String) (v : Toml.Value) : Access Mounted Unit :=
  let shelf := { m.shelf with sets := m.shelf.sets + 1 }
  if shelf.setFails m.shelf.sets then ⟨.error (.write faultPath .injected), { m with shelf }, []⟩
  else
    match shelf.medium with
    | .memory memory =>
      let access := Storage.set memory key v
      ⟨access.result, ⟨{ shelf with medium := .memory access.after }, m.files⟩, access.records⟩
    | .file path =>
      let access := Storage.set (FileStorage.mk path m.files) key v
      ⟨access.result, ⟨shelf, access.after.files⟩, access.records⟩

instance : Storage Mounted := ⟨get, set⟩

end Mounted

/-- What a subscriber does when it is called. -/
inductive Callback (ρ : Type) where
  | refresh (binding : Nat)
  | run (program : ρ)

/-- A language store: its state, where it keeps the language, and who is told of a change.
`notifying` holds while its subscribers are being called; `handles` counts those who hold it. -/
structure Store (ρ : Type) where
  state : Reference Language
  storage : Option Nat
  subscribers : List (Nat × Callback ρ)
  nextId : Nat
  notifying : Bool
  handles : Nat

/-- A store lives while somebody holds it or a notification of it is going on. -/
def Store.isAlive {ρ : Type} (s : Store ρ) : Bool := s.handles > 0 || s.notifying

def Store.isSubscribed {ρ : Type} (s : Store ρ) (id : Nat) : Bool :=
  s.subscribers.any fun e => e.1 = id

/-- The place of one subscriber: its store, and its number there. -/
structure Subscription where
  store : Nat
  id : Nat
  deriving DecidableEq, Repr

/-- Strings that follow the language of a store. -/
structure Binding where
  subscription : Subscription
  selector : Selector Language Strings
  current : Strings

def Binding.renders (b : Binding) : Nat := b.selector.computations

structure World (ρ : Type) where
  files : FileTree
  shelves : List Shelf
  stores : List (Store ρ)
  bindings : List Binding
  nextReference : Nat
  records : Array LogRecord

namespace World

variable {ρ : Type}

def empty (files : FileTree) : World ρ := ⟨files, [], [], [], 0, #[]⟩

def log (w : World ρ) (records : List LogRecord) : World ρ :=
  { w with records := w.records ++ records }

def onStore (w : World ρ) (i : Nat) (f : Store ρ → Store ρ) : World ρ :=
  { w with stores := w.stores.modify i f }

@[simp] theorem getElem?_onStore (w : World ρ) (i j : Nat) (f : Store ρ → Store ρ) :
    (w.onStore i f).stores[j]? = if i = j then (w.stores[j]?).map f else w.stores[j]? := by
  simp only [onStore, List.getElem?_modify]
  split <;> cases w.stores[j]? <;> simp

/-- A new reference, different from all before it. -/
def newReference (w : World ρ) (l : Language) : Reference Language × World ρ :=
  (⟨w.nextReference, l⟩, { w with nextReference := w.nextReference + 1 })

def addShelf (w : World ρ) (shelf : Shelf) : Nat × World ρ :=
  (w.shelves.length, { w with shelves := w.shelves ++ [shelf] })

/-- Works on a storage, if there is one of that number. -/
def withShelf {α : Type} (w : World ρ) (i : Nat) (f : Mounted → α × Mounted × List LogRecord) :
    Option (α × World ρ) :=
  (w.shelves[i]?).map fun shelf =>
    let (a, m, records) := f ⟨shelf, w.files⟩
    (a, { w with
      files := m.files
      shelves := w.shelves.set i m.shelf
      records := w.records ++ records })

def addStore (w : World ρ) (l : Language) (storage : Option Nat) : Nat × World ρ :=
  let (state, w) := w.newReference l
  (w.stores.length, { w with stores := w.stores ++ [⟨state, storage, [], 0, false, 1⟩] })

/-- A store that starts in the language of its storage, and keeps every later one there. -/
def openStore (w : World ρ) (shelf : Nat) (fallback : Language) : Option (Nat × World ρ) :=
  (w.withShelf shelf fun m => Choice.restore m fallback).map fun (l, w) =>
    w.addStore l (some shelf)

theorem getElem?_addStore (w : World ρ) (l : Language) (storage : Option Nat) (j : Nat) :
    (w.addStore l storage).2.stores[j]? =
      if j = w.stores.length then some ⟨⟨w.nextReference, l⟩, storage, [], 0, false, 1⟩
      else w.stores[j]? := by
  simp only [addStore, newReference, List.getElem?_append]
  by_cases h : j < w.stores.length
  · rw [if_pos h, if_neg (by omega)]
  · rw [if_neg h]
    by_cases hj : j = w.stores.length
    · simp [hj]
    · have beyond : w.stores.length ≤ j := Nat.le_of_not_lt h
      have single : 1 ≤ j - w.stores.length := by omega
      rw [if_neg hj, List.getElem?_eq_none beyond, List.getElem?_eq_none single]

def retain (w : World ρ) (i : Nat) : World ρ :=
  w.onStore i fun s => { s with handles := s.handles + 1 }

def release (w : World ρ) (i : Nat) : World ρ :=
  w.onStore i fun s => { s with handles := s.handles - 1 }

def subscribe (w : World ρ) (i : Nat) (callback : Callback ρ) : Option (Subscription × World ρ) :=
  (w.stores[i]?).map fun s =>
    (⟨i, s.nextId⟩,
      w.onStore i fun s =>
        { s with
          subscribers := s.subscribers ++ [(s.nextId, callback)]
          nextId := s.nextId + 1 })

/-- Takes one subscriber off its store, if the store still lives. -/
def detach (w : World ρ) (sub : Subscription) : World ρ :=
  w.onStore sub.store fun s =>
    if s.isAlive then { s with subscribers := s.subscribers.filter fun e => e.1 ≠ sub.id } else s

/-- A binding derives its strings at once, and again whenever its store notifies. -/
def bind (w : World ρ) (i : Nat) : Option (Nat × World ρ) := do
  let s ← w.stores[i]?
  let (strings, selector) := (Selector.new Language.strings).select s.state
  let number := w.bindings.length
  let (sub, w) ← w.subscribe i (.refresh number)
  some (number, { w with bindings := w.bindings ++ [⟨sub, selector, strings.value⟩] })

def refresh (w : World ρ) (number : Nat) (state : Reference Language) : World ρ :=
  match w.bindings[number]? with
  | none => w
  | some b =>
    let (strings, selector) := b.selector.select state
    { w with
      bindings := w.bindings.set number { b with selector := selector, current := strings.value }
      records := w.records.push (.refreshed strings.value.language) }

def unbind (w : World ρ) (number : Nat) : World ρ :=
  match w.bindings[number]? with
  | none => w
  | some b => w.detach b.subscription

end World

end LoginCard
