import LoginCard.Proofs.States
import Mathlib.Data.List.Nodup

/-!
# The subscribers of a store

The roster of a store is the list of its subscribers with the number of the next one. A change adds
one entry at the end, takes some away, or leaves the roster as it is. So numbers are handed out in
order and never twice, and who was taken off a roster never comes back to it.
-/

namespace LoginCard

variable {ρ : Type}

/-- The subscribers of a store, and the number of the next one. -/
structure Roster (ρ : Type) where
  subscribers : List (Nat × Callback ρ)
  next : Nat

namespace Roster

variable {r : Roster ρ}

def ids (r : Roster ρ) : List Nat := r.subscribers.map Prod.fst

def add (r : Roster ρ) (callback : Callback ρ) : Roster ρ :=
  ⟨r.subscribers ++ [(r.next, callback)], r.next + 1⟩

def without (r : Roster ρ) (id : Nat) : Roster ρ :=
  ⟨r.subscribers.filter fun e => e.1 ≠ id, r.next⟩

/-- In the order of registration, and each number handed out before. -/
structure Ordered (r : Roster ρ) : Prop where
  sorted : r.ids.Pairwise (· < ·)
  below : ∀ id ∈ r.ids, id < r.next

theorem ids_add (callback : Callback ρ) : (r.add callback).ids = r.ids ++ [r.next] := by
  simp [add, ids]

theorem ids_without (id : Nat) : (r.without id).ids = r.ids.filter (· ≠ id) := by
  simp only [without, ids, List.filter_map]
  rfl

theorem Ordered.add (ordered : r.Ordered) (callback : Callback ρ) : (r.add callback).Ordered := by
  constructor
  · rw [ids_add, List.pairwise_append]
    refine ⟨ordered.sorted, List.pairwise_singleton _ _, ?_⟩
    intro id old new single
    exact List.mem_singleton.mp single ▸ ordered.below id old
  · rw [ids_add]
    intro id member
    rcases List.mem_append.mp member with old | new
    · have below := ordered.below id old
      change id < r.next + 1
      omega
    · obtain rfl := List.mem_singleton.mp new
      exact Nat.lt_succ_self _

theorem Ordered.without (ordered : r.Ordered) (id : Nat) : (r.without id).Ordered := by
  constructor
  · rw [ids_without]
    exact ordered.sorted.filter _
  · rw [ids_without]
    intro other member
    exact ordered.below other (List.mem_filter.mp member).1

theorem Ordered.nodup (ordered : r.Ordered) : r.ids.Nodup :=
  ordered.sorted.imp Nat.ne_of_lt

/-- Two entries of one number are one entry. -/
theorem Ordered.unique (ordered : r.Ordered) {id : Nat} {a b : Callback ρ}
    (ha : (id, a) ∈ r.subscribers) (hb : (id, b) ∈ r.subscribers) : a = b :=
  (Prod.mk.inj (List.inj_on_of_nodup_map ordered.nodup ha hb rfl)).2

/-- To take a number off the roster takes off one entry. -/
theorem Ordered.without_eq (ordered : r.Ordered) {id : Nat} {callback : Callback ρ}
    (member : (id, callback) ∈ r.subscribers) :
    ∃ before after, r.subscribers = before ++ (id, callback) :: after ∧
      (r.without id).subscribers = before ++ after := by
  obtain ⟨before, after, split⟩ := List.append_of_mem member
  have once := ordered.nodup
  rw [ids, split, List.map_append, List.map_cons, List.nodup_middle, List.nodup_cons] at once
  have other : ∀ e ∈ before ++ after, e.1 ≠ id := by
    intro e among same
    have named : e.1 ∈ (before ++ after).map Prod.fst := List.mem_map_of_mem among
    exact once.1 (List.map_append ▸ same ▸ named)
  refine ⟨before, after, split, ?_⟩
  have kept : (before ++ after).filter (fun e => e.1 ≠ id) = before ++ after :=
    List.filter_eq_self.mpr fun e he => by simpa using other e he
  rw [Roster.without, split, List.filter_append, List.filter_cons_of_neg (by simp),
    ← List.filter_append, kept]

/-- A change makes of a roster another one, with so many new subscribers. -/
inductive Becomes (r : Roster ρ) : Nat → Roster ρ → Prop where
  | same : r.Becomes 0 r
  | added (callback : Callback ρ) : r.Becomes 1 (r.add callback)
  | without (id : Nat) : r.Becomes 0 (r.without id)

namespace Becomes

variable {n : Nat} {r' : Roster ρ}

theorem ordered (becomes : r.Becomes n r') (ordered : r.Ordered) : r'.Ordered := by
  cases becomes with
  | same => exact ordered
  | added callback => exact ordered.add callback
  | without id => exact ordered.without id

theorem next (becomes : r.Becomes n r') : r'.next = r.next + n := by
  cases becomes <;> rfl

/-- Where nobody subscribed, there are only old entries. -/
theorem old (becomes : r.Becomes 0 r') {entry : Nat × Callback ρ}
    (member : entry ∈ r'.subscribers) : entry ∈ r.subscribers := by
  cases becomes with
  | same => exact member
  | without id => exact (List.mem_filter.mp member).1

/-- An entry that was not there before has a new number. -/
theorem old_or_new (becomes : r.Becomes n r') {entry : Nat × Callback ρ}
    (member : entry ∈ r'.subscribers) : entry ∈ r.subscribers ∨ r.next ≤ entry.1 := by
  cases becomes with
  | same => exact .inl member
  | added callback =>
    rcases List.mem_append.mp member with old | new
    · exact .inl old
    · obtain rfl := List.mem_singleton.mp new
      exact .inr (Nat.le_refl _)
  | without id => exact .inl (List.mem_filter.mp member).1

end Becomes

end Roster

def Store.roster (s : Store ρ) : Roster ρ := ⟨s.subscribers, s.nextId⟩

variable {h h' : Holding ρ} {e : Option Event}

def Holding.rosters (h : Holding ρ) : List (Roster ρ) := h.world.column Store.roster

/-- The rosters when one store has one more subscriber. -/
theorem World.roster_enrolled {w w' : World ρ} {i j : Nat} {s : Store ρ} {callback : Callback ρ}
    {r' : Roster ρ} (known : w.stores[i]? = some s)
    (stores : w'.stores = w.stores.set i (World.enrolled s callback))
    (there : (w'.column Store.roster)[j]? = some r') :
    ∃ r, (w.column Store.roster)[j]? = some r ∧ (i = j ∧ r' = r.add callback ∨ i ≠ j ∧ r' = r) := by
  rw [World.column_set Store.roster stores] at there
  rcases of_getElem?_set there with ⟨rfl, rfl⟩ | ⟨other, old⟩
  · exact ⟨s.roster, World.getElem?_column Store.roster known, .inl ⟨rfl, rfl⟩⟩
  · exact ⟨r', old, .inr ⟨other, rfl⟩⟩

/-- A number is due as long as some entry bears it. -/
theorem World.isDue_iff {w : World ρ} {i id : Nat} {r : Roster ρ}
    (there : (w.column Store.roster)[i]? = some r) :
    w.isDue i id = true ↔ ∃ callback, (id, callback) ∈ r.subscribers := by
  obtain ⟨s, known, rfl⟩ := World.of_column there
  simp [World.isDue, known, Store.isSubscribed, Store.roster]

/-- What a change does to the roster of one store, with so many new subscribers. -/
inductive Registers (h h' : Holding ρ) (i n : Nat) : Prop where
  | absent : n = 0 → h.rosters[i]? = none → h'.rosters[i]? = none → Registers h h' i n
  | opened : n = 0 → h.rosters[i]? = none → h'.rosters[i]? = some ⟨[], 0⟩ → Registers h h' i n
  | became (r r' : Roster ρ) : r.Becomes n r' → h.rosters[i]? = some r →
      h'.rosters[i]? = some r' → Registers h h' i n

namespace Registers

variable {i n : Nat}

theorem kept (none : n = 0) (same : h'.rosters[i]? = h.rosters[i]?) : Registers h h' i n := by
  subst none
  cases known : h.rosters[i]? with
  | none => exact .absent rfl known (same.trans known)
  | some r => exact .became r r .same known (same.trans known)

theorem added {j : Nat} {s : Store ρ} {callback : Callback ρ} (known : h.world.stores[j]? = some s)
    (stores : h'.world.stores = h.world.stores.set j (World.enrolled s callback)) :
    Registers h h' i ((some (Event.subscribed j)).toList.count (.subscribed i)) := by
  have column := World.column_set Store.roster stores
  have before := World.getElem?_column Store.roster known
  by_cases here : j = i
  · subst here
    refine .became s.roster (s.roster.add callback) ?_ before ?_
    · simpa using .added callback
    · rw [Holding.rosters, column]
      exact List.getElem?_set_self (List.getElem?_eq_some_iff.mp before).1
  · apply kept (by simp [here])
    rw [Holding.rosters, column]
    exact List.getElem?_set_ne here

theorem detached (sub : Subscription)
    (after : h'.rosters = (h.world.detach sub).column Store.roster) : Registers h h' i 0 := by
  have there : h'.rosters[i]? =
      ((h.world.detach sub).stores[i]?).map Store.roster := by
    rw [after, World.column, List.getElem?_map]
  rw [World.detach, World.getElem?_onStore] at there
  cases known : h.world.stores[i]? with
  | none =>
    exact .absent rfl (by simp [Holding.rosters, World.column, known]) (by simp [there, known])
  | some s =>
    have before : h.rosters[i]? = some s.roster := World.getElem?_column Store.roster known
    rw [known] at there
    split at there
    · rw [Option.map_some, Option.map_some] at there
      split at there
      · exact .became _ _ (.without sub.id) before there
      · exact .became _ _ .same before there
    · exact .became _ _ .same before there

end Registers

theorem Change.registers (change : Change h e h') (i : Nat) :
    Registers h h' i (e.toList.count (.subscribed i)) := by
  have kept : e.toList.count (.subscribed i) = 0 → h'.rosters = h.rosters →
      Registers h h' i (e.toList.count (.subscribed i)) := by
    intro none same
    exact .kept none (by rw [same])
  cases change with
  | aside beside => exact kept rfl (World.column_of_stores _ beside.stores)
  | arranged => exact kept rfl rfl
  | opened l storage =>
    have there := World.getElem?_column_addStore h.world l storage Store.roster i
    by_cases new : i = h.world.stores.length
    · subst new
      exact .opened rfl (by simp [Holding.rosters]) (there.trans (if_pos rfl))
    · exact .kept rfl (there.trans (if_neg new))
  | retained => exact kept rfl (World.column_onStore fun _ => rfl)
  | released => exact kept rfl (World.column_onStore fun _ => rfl)
  | subscribed _ made =>
    obtain ⟨s, known, rfl, rfl⟩ := World.subscribe_eq made
    exact .added known (World.stores_onStore_of known _)
  | detached => exact .detached _ rfl
  | bound _ made =>
    obtain ⟨s, bd, known, rfl, _, _, rfl⟩ := World.bind_eq made
    exact .added known (World.stores_onStore_of known _)
  | @unbound b _ _ =>
    cases there : h.world.bindings[b]? with
    | none => exact kept rfl (by simp [Holding.rosters, World.unbind, there])
    | some bd => exact .detached bd.subscription (by simp [Holding.rosters, World.unbind_eq there])
  | accepted _ came =>
    obtain ⟨s, known, _, rfl, _, _, _, _, stores⟩ := World.dispatch_accepted came
    exact kept rfl (World.column_set_same known stores rfl)
  | passed => exact kept rfl rfl
  | refreshed => exact kept rfl (World.column_refresh _ _ _ _)
  | ended => exact kept rfl (World.column_onStore fun _ => rfl)

/-- A roster is that of a new store, or it came of the one before. -/
theorem Change.roster (change : Change h e h') {i : Nat} {r' : Roster ρ}
    (there : h'.rosters[i]? = some r') :
    (h.rosters[i]? = none ∧ r' = ⟨[], 0⟩) ∨
      ∃ r, h.rosters[i]? = some r ∧ r.Becomes (e.toList.count (.subscribed i)) r' := by
  cases change.registers i with
  | absent _ _ after => simp [there] at after
  | opened _ before after => exact .inl ⟨before, Option.some.inj (there.symm.trans after)⟩
  | became r r₁ becomes before after =>
    obtain rfl : r₁ = r' := Option.some.inj (after.symm.trans there)
    exact .inr ⟨r, before, becomes⟩

/-- No roster is lost. -/
theorem Change.roster_of (change : Change h e h') {i : Nat} {r : Roster ρ}
    (known : h.rosters[i]? = some r) :
    ∃ r', h'.rosters[i]? = some r' ∧ r.Becomes (e.toList.count (.subscribed i)) r' := by
  cases change.registers i with
  | absent _ before _ => simp [known] at before
  | opened _ before _ => simp [known] at before
  | became r₁ r' becomes before after =>
    obtain rfl : r₁ = r := Option.some.inj (before.symm.trans known)
    exact ⟨r', after, becomes⟩

/-- Every roster is in order. -/
def Rostered (h : Holding ρ) : Prop :=
  ∀ (i : Nat) (r : Roster ρ), h.rosters[i]? = some r → r.Ordered

namespace Rostered

theorem start (files : FileTree) : Rostered (Holding.start files : Holding ρ) := by
  intro i r there
  simp [Holding.rosters, Holding.start, World.empty, World.column] at there

theorem step (change : Change h e h') (rostered : Rostered h) : Rostered h' := by
  intro i r' there
  rcases change.roster there with ⟨_, rfl⟩ | ⟨r, old, becomes⟩
  · exact ⟨List.Pairwise.nil, by simp [Roster.ids]⟩
  · exact becomes.ordered (rostered i r old)

end Rostered

/-- The next number of a store is the number of subscriptions that the history tells of. -/
def Numbered (es : List Event) (h : Holding ρ) : Prop :=
  ∀ i, ((h.rosters[i]?).map Roster.next).getD 0 = es.count (.subscribed i)

namespace Numbered

theorem start (files : FileTree) : Numbered [] (Holding.start files : Holding ρ) := by
  intro i
  simp [Holding.rosters, Holding.start, World.empty, World.column]

theorem step {es : List Event} (change : Change h e h') (numbered : Numbered es h) :
    Numbered (es ++ e.toList) h' := by
  intro i
  have before := numbered i
  rw [List.count_append, ← before]
  cases change.registers i with
  | absent none absent after => simp [none, absent, after]
  | opened none absent after => simp [none, absent, after]
  | became r r' becomes known after =>
    rw [known, after]
    exact becomes.next

end Numbered

end LoginCard
