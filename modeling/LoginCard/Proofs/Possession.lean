import LoginCard.Proofs.Holding
import LoginCard.Proofs.Keyed
import LoginCard.Session.Basic

/-!
# What a session holds

A session holds what its names name. To name an object holds it, and to give a name anew lets go of
what bore it.
-/

namespace LoginCard.Session

/-- What the session holds, in the midst of the given cycles. -/
def holding (s : Session) (cycles : List (Cycle Reaction)) : Holding Reaction where
  world := s.world
  handles := Keyed.values s.stores
  subscriptions := Keyed.values s.subscriptions
  bindings := Keyed.values s.bindings ++ (Keyed.values s.pages).map OpenPage.binding
  cycles := cycles

/-- Each name of a kind stands once. -/
structure Ordered (s : Session) : Prop where
  stores : Keyed.Ordered s.stores
  subscriptions : Keyed.Ordered s.subscriptions
  bindings : Keyed.Ordered s.bindings
  pages : Keyed.Ordered s.pages

section Dropping

variable (s : Session) (cycles : List (Cycle Reaction))

/-- What bore a name is let go of after the name has got its new object. -/
theorem dropHandle_chain {old : Option Nat} {handles : List Nat}
    (h : handles.Perm (old.toList ++ Keyed.values s.stores)) :
    Chain { s.holding cycles with handles } [] ((s.dropHandle old).holding cycles) := by
  have settled : Change { s.holding cycles with handles } none
      { s.holding cycles with handles := old.toList ++ Keyed.values s.stores } :=
    .arranged h (.refl _) (.refl _)
  cases old with
  | none => exact .one settled
  | some i => exact .quietly settled (.one (.released rfl))

theorem dropSubscription_chain {old : Option Subscription} {subscriptions : List Subscription}
    (h : subscriptions.Perm (old.toList ++ Keyed.values s.subscriptions)) :
    Chain { s.holding cycles with subscriptions } []
      ((s.dropSubscription old).holding cycles) := by
  have settled : Change { s.holding cycles with subscriptions } none
      { s.holding cycles with
        subscriptions := old.toList ++ Keyed.values s.subscriptions } :=
    .arranged (.refl _) h (.refl _)
  cases old with
  | none => exact .one settled
  | some sub => exact .quietly settled (.one (.detached rfl))

theorem dropBinding_chain {old : Option Nat} {bindings : List Nat}
    (h : bindings.Perm (old.toList ++ (s.holding cycles).bindings)) :
    Chain { s.holding cycles with bindings } [] ((s.dropBinding old).holding cycles) := by
  have settled : Change { s.holding cycles with bindings } none
      { s.holding cycles with bindings := old.toList ++ (s.holding cycles).bindings } :=
    .arranged (.refl _) (.refl _) h
  cases old with
  | none => exact .one settled
  | some b => exact .quietly settled (.one (.unbound rfl))

end Dropping

section Naming

variable {s : Session} (cycles : List (Cycle Reaction))

theorem nameStore_chain (h : s.Ordered) (name : String) (i : Nat) :
    Chain { s.holding cycles with handles := i :: (s.holding cycles).handles } []
      ((s.nameStore name i).holding cycles) :=
  dropHandle_chain { s with stores := Keyed.insert name i s.stores } cycles
    (Keyed.values_insert name i h.stores)

theorem nameSubscription_chain (h : s.Ordered) (name : String) (sub : Subscription) :
    Chain { s.holding cycles with subscriptions := sub :: (s.holding cycles).subscriptions } []
      ((s.nameSubscription name sub).holding cycles) :=
  dropSubscription_chain { s with subscriptions := Keyed.insert name sub s.subscriptions } cycles
    (Keyed.values_insert name sub h.subscriptions)

theorem nameBinding_chain (h : s.Ordered) (name : String) (b : Nat) :
    Chain { s.holding cycles with bindings := b :: (s.holding cycles).bindings } []
      ((s.nameBinding name b).holding cycles) := by
  apply dropBinding_chain { s with bindings := Keyed.insert name b s.bindings } cycles
  have named := (Keyed.values_insert name b h.bindings).append_right
    ((Keyed.values s.pages).map OpenPage.binding)
  simpa [holding, List.append_assoc] using named

/-- Pages hold their bindings under names of their own. -/
theorem pages_perm {pages pages' : List OpenPage} {p : OpenPage} {old : Option OpenPage}
    (bindings : List Nat) (h : (p :: pages).Perm (old.toList ++ pages')) :
    (p.binding :: (bindings ++ pages.map OpenPage.binding)).Perm
      ((old.map OpenPage.binding).toList ++ (bindings ++ pages'.map OpenPage.binding)) := by
  have held : (p.binding :: pages.map OpenPage.binding).Perm
      ((old.map OpenPage.binding).toList ++ pages'.map OpenPage.binding) := by
    cases old <;> simpa using h.map OpenPage.binding
  have regrouped :
      (bindings ++ ((old.map OpenPage.binding).toList ++ pages'.map OpenPage.binding)).Perm
        ((old.map OpenPage.binding).toList ++ (bindings ++ pages'.map OpenPage.binding)) := by
    rw [← List.append_assoc, ← List.append_assoc]
    exact List.perm_append_comm.append_right _
  exact List.perm_middle.symm.trans ((held.append_left bindings).trans regrouped)

theorem namePage_chain (h : s.Ordered) (name : String) (p : OpenPage) :
    Chain { s.holding cycles with bindings := p.binding :: (s.holding cycles).bindings } []
      ((s.namePage name p).holding cycles) :=
  dropBinding_chain { s with pages := Keyed.insert name p s.pages } cycles
    (pages_perm _ (Keyed.values_insert name p h.pages))

end Naming

section Ordering

variable {s : Session}

theorem Ordered.nameStore (h : s.Ordered) (name : String) (i : Nat) :
    (s.nameStore name i).Ordered := by
  have named := Keyed.ordered_insert name i h.stores
  cases he : Keyed.find? name s.stores <;> rw [Session.nameStore, he] <;>
    exact ⟨named, h.subscriptions, h.bindings, h.pages⟩

theorem Ordered.nameSubscription (h : s.Ordered) (name : String) (sub : Subscription) :
    (s.nameSubscription name sub).Ordered := by
  have named := Keyed.ordered_insert name sub h.subscriptions
  cases he : Keyed.find? name s.subscriptions <;> rw [Session.nameSubscription, he] <;>
    exact ⟨h.stores, named, h.bindings, h.pages⟩

theorem Ordered.nameBinding (h : s.Ordered) (name : String) (b : Nat) :
    (s.nameBinding name b).Ordered := by
  have named := Keyed.ordered_insert name b h.bindings
  cases he : Keyed.find? name s.bindings <;> rw [Session.nameBinding, he] <;>
    exact ⟨h.stores, h.subscriptions, named, h.pages⟩

theorem Ordered.namePage (h : s.Ordered) (name : String) (p : OpenPage) :
    (s.namePage name p).Ordered := by
  have named := Keyed.ordered_insert name p h.pages
  cases he : Keyed.find? name s.pages <;> rw [Session.namePage, he] <;>
    exact ⟨h.stores, h.subscriptions, h.bindings, named⟩

end Ordering

end LoginCard.Session
