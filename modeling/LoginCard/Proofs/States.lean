import LoginCard.Proofs.Flags

/-!
# The state of a store and the history

A store is given its state when it is opened, and another one only by a switch that it accepts. So
its language can be read off the history: it is the target of the last accepted switch, or the
language that the store was opened in.
-/

namespace LoginCard

variable {ρ : Type}

namespace Event

/-- The language that an event switches store `i` to. -/
def target? (i : Nat) : Event → Option Language
  | .accepted j l => if j = i then some l else none
  | _ => none

/-- The language that an event opens store `i` in. -/
def opening? (i : Nat) : Event → Option Language
  | .opened j l => if j = i then some l else none
  | _ => none

end Event

/-- The targets of the switches that store `i` accepted, in order. -/
def targets (i : Nat) (es : List Event) : List Language := es.filterMap (Event.target? i)

/-- The language that store `i` was opened in. -/
def opening? (i : Nat) (es : List Event) : Option Language := es.findSome? (Event.opening? i)

namespace Holding

def states (h : Holding ρ) : List (Reference Language) := h.world.column Store.state

def tag? (h : Holding ρ) (i : Nat) : Option Language := (h.states[i]?).map Reference.value

end Holding

variable {h h' : Holding ρ} {e : Option Event}

/-- References are numbered upwards. -/
theorem Change.nextReference_le (change : Change h e h') :
    h.world.nextReference ≤ h'.world.nextReference := by
  cases change with
  | aside beside => exact beside.next
  | arranged => exact Nat.le_refl _
  | opened l storage => exact Nat.le_succ _
  | retained | released | passed | ended | detached => exact Nat.le_refl _
  | subscribed _ made =>
    obtain ⟨s, _, _, rfl⟩ := World.subscribe_eq made
    exact Nat.le_refl _
  | bound _ made =>
    obtain ⟨s, bd, _, _, _, _, rfl⟩ := World.bind_eq made
    exact Nat.le_refl _
  | unbound =>
    unfold World.unbind
    split <;> exact Nat.le_refl _
  | @accepted i switch w c _ came =>
    obtain ⟨s, _, _, _, _, _, next, _, _⟩ := World.dispatch_accepted came
    show h.world.nextReference ≤ w.nextReference
    omega
  | refreshed =>
    unfold World.refresh
    split <;> exact Nat.le_refl _

/-- What a change does to the state of one store: nothing, or it gives it the first one, or it is
a switch that the store accepts. A state that was not there before is a new reference. -/
inductive Settles (h h' : Holding ρ) (i : Nat) (e : Option Event) : Prop where
  | same : h'.states[i]? = h.states[i]? → e.bind (Event.target? i) = none →
      e.bind (Event.opening? i) = none → Settles h h' i e
  | opened (r : Reference Language) : h.states[i]? = none → h'.states[i]? = some r →
      e = some (.opened i r.value) → r.id = h.world.nextReference →
      h'.world.nextReference = h.world.nextReference + 1 → Settles h h' i e
  | accepted (r r' : Reference Language) : h.flags[i]? = some false →
      h.states[i]? = some r → h'.states[i]? = some r' → e = some (.accepted i r'.value) →
      (r' = r ∨ r'.id = h.world.nextReference ∧
        h'.world.nextReference = h.world.nextReference + 1) → Settles h h' i e

theorem Change.settles (change : Change h e h') (i : Nat) : Settles h h' i e := by
  have kept : h'.states = h.states → e.bind (Event.target? i) = none →
      e.bind (Event.opening? i) = none → Settles h h' i e := by
    intro same
    exact .same (by rw [same])
  cases change with
  | aside beside => exact kept (World.column_of_stores _ beside.stores) rfl rfl
  | arranged => exact kept rfl rfl rfl
  | opened l storage =>
    have there := World.getElem?_column_addStore h.world l storage Store.state i
    by_cases new : i = h.world.stores.length
    · subst new
      rw [if_pos rfl] at there
      exact .opened _ (by simp [Holding.states]) there rfl rfl rfl
    · rw [if_neg new] at there
      exact .same there rfl (by simp [Event.opening?, Ne.symm new])
  | retained => exact kept (World.column_onStore fun _ => rfl) rfl rfl
  | released => exact kept (World.column_onStore fun _ => rfl) rfl rfl
  | subscribed _ made =>
    obtain ⟨s, _, _, rfl⟩ := World.subscribe_eq made
    exact kept (World.column_onStore fun _ => rfl) rfl rfl
  | detached => exact kept (World.column_detach _ _ fun _ _ => rfl) rfl rfl
  | bound _ made =>
    obtain ⟨s, bd, _, _, _, _, rfl⟩ := World.bind_eq made
    exact kept (World.column_onStore fun _ => rfl) rfl rfl
  | unbound => exact kept (World.column_unbind _ _ fun _ _ => rfl) rfl rfl
  | @accepted j switch w c _ came =>
    obtain ⟨s, there, free, rfl, _, value, next, _, stores⟩ := World.dispatch_accepted came
    have flag := World.getElem?_column Store.notifying there
    rw [free] at flag
    have column := World.column_set Store.state stores
    have before := World.getElem?_column Store.state there
    by_cases here : c.store = i
    · subst here
      have known := (List.getElem?_eq_some_iff.mp before).1
      have after := List.getElem?_set_self (a := c.state) known
      rw [← column] at after
      refine .accepted s.state c.state flag before after (by rw [value]) ?_
      exact next.imp And.left id
    · have after : (h.states.set c.store c.state)[i]? = h.states[i]? := List.getElem?_set_ne here
      rw [Holding.states, ← column] at after
      exact .same after (by simp [Event.target?, here]) rfl
  | passed => exact kept rfl rfl rfl
  | refreshed => exact kept (World.column_refresh _ _ _ _) rfl rfl
  | ended => exact kept (World.column_onStore fun _ => rfl) rfl rfl

/-- A store that accepts a switch is in no cycle. -/
theorem Change.idle_of_accepted {i : Nat} {l : Language}
    (change : Change h (some (.accepted i l)) h') (flagged : Flagged h) : i ∉ h.active := by
  intro busy
  have flag := (flagged.flag i).mpr busy
  cases change.settles i with
  | same _ quiet _ => simp [Event.target?] at quiet
  | opened _ _ _ event _ _ => cases event
  | accepted _ _ free _ _ _ _ => simp [flag] at free

/-- The history accounts for the language of every store. -/
def Recounted (es : List Event) (h : Holding ρ) : Prop :=
  ∀ i, h.tag? i = (targets i es).getLast?.or (opening? i es)

namespace Recounted

theorem start (files : FileTree) : Recounted [] (Holding.start files : Holding ρ) := by
  intro i
  simp [Holding.tag?, Holding.states, Holding.start, World.empty, World.column, targets, opening?]

theorem step {es : List Event} (change : Change h e h') (recounted : Recounted es h) :
    Recounted (es ++ e.toList) h' := by
  intro i
  have before := recounted i
  rw [Holding.tag?] at before ⊢
  have targets_add : targets i (es ++ e.toList) =
      targets i es ++ (e.bind (Event.target? i)).toList := by
    cases e <;> simp [targets, List.filterMap_cons]
    split <;> simp [*]
  have opening_add : opening? i (es ++ e.toList) =
      (opening? i es).or (e.bind (Event.opening? i)) := by
    cases e <;> simp [opening?, List.findSome?_append]
  rw [targets_add, opening_add, List.getLast?_append]
  cases change.settles i with
  | same states target opening =>
    rw [states, before, target, opening]
    simp
  | opened r absent there event _ _ =>
    rw [absent] at before
    obtain ⟨none_targets, none_opening⟩ := Option.or_eq_none_iff.mp before.symm
    rw [there, event, none_targets, none_opening]
    simp [Event.target?, Event.opening?]
  | accepted r r' _ _ there event _ =>
    rw [there, event]
    simp [Event.target?]

end Recounted

end LoginCard
