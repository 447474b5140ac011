import LoginCard.Proofs.Turns

/-!
# Switches and the flag that refuses them

A store has its flag set while a cycle of its own is on the stack, and at no other time. The flag
decides whether a switch is accepted, whoever asks for it and from within whatever cycles. What is
refused or names no language is noted in the records and changes nothing else, so the language of a
store is the target of the last switch that it accepted.
-/

namespace LoginCard.Session

/-- The flag alone decides whether a store accepts a switch. -/
theorem dispatch_isCycle {s : Session} {step : Step} {i : Nat} {l : Language}
    {store : Store Reaction} (asked : s.asks? step = some (i, l))
    (there : s.world.stores[i]? = some store) :
    (s.perform step).isCycle = true ↔ store.notifying = false := by
  obtain ⟨store₁, switch, accepted, refused, _, there₁, _, performed⟩ := perform_asked asked
  obtain rfl : store₁ = store := Option.some.inj (there₁.symm.trans there)
  rw [performed]
  cases flag : store₁.notifying <;>
    simp [World.dispatch, there, flag, ofDispatched, Performed.isCycle]

/-- Whoever asks by a dispatch is told whether it was accepted. -/
theorem dispatch_answer {s : Session} {name : String} {i : Nat} {store : Store Reaction}
    (found : s.store? name = some (i, store)) (switch : Switch) :
    (s.perform (.dispatch name switch)).answer = .flag (!store.notifying) := by
  have there := (store?_eq found).2
  have performed : s.perform (.dispatch name switch) =
      s.ofDispatched (.flag true) (.flag false) (s.world.dispatch i switch) := by
    simp [perform, performStore, found, orInvalid]
  rw [performed]
  cases flag : store.notifying <;>
    simp [World.dispatch, there, flag, ofDispatched, Performed.answer]

namespace Machine

/-- The machine is between two steps of its script, or at the end of it. -/
def AtRest (m : Machine) : Prop := m.stack = [] ∨ ∃ steps rest, m.stack = .script steps :: rest

/-- To perform the step adds to the records and changes nothing else. -/
def Ignores (m : Machine) (step : Step) : Prop :=
  ∀ (reply : Reply → Task) (below : List Task), ∃ records r,
    m.perform step reply below =
      { m with
        session := { m.session with world := m.session.world.log records }
        stack := reply r :: below }

theorem Orderly.cycles_of_atRest {m : Machine} (orderly : m.Orderly) (rest : m.AtRest) :
    m.cycles = [] := by
  have rooted := orderly.rooted
  rcases rest with empty | ⟨steps, below, top⟩
  · rw [cycles, empty]
    rfl
  · rw [top] at rooted
    rw [cycles, top]
    exact rooted.cyclesOf_script

/-- A switch that the flag refuses changes nothing. -/
theorem ignores_refused {m : Machine} {step : Step} {i : Nat} {l : Language}
    {s : Store Reaction} (asked : m.session.asks? step = some (i, l))
    (there : m.session.world.stores[i]? = some s) (busy : s.notifying = true) : m.Ignores step := by
  intro reply below
  obtain ⟨s₁, switch, accepted, refused, _, there₁, _, performed⟩ := perform_asked asked
  obtain rfl : s₁ = s := Option.some.inj (there₁.symm.trans there)
  refine ⟨[.refusedSwitch switch], refused, ?_⟩
  rw [perform, performed]
  simp [World.dispatch, there, busy, ofDispatched]

/-- A tag that names no language changes nothing. -/
theorem ignores_unsupported (m : Machine) (name : String) {tag : String}
    (unsupported : ∀ l : Language, tag ≠ l.tag) : m.Ignores (.setLocale name tag) := by
  intro reply below
  have unknown := Language.ofTag?_eq_none_iff.mpr unsupported
  obtain ⟨records, r, performed⟩ := perform_setLocale_unsupported unknown (s := m.session) name
  exact ⟨records, r, by rw [perform, performed]⟩

/-- At every moment of every run, inside reactions too. -/
theorem flag_guards_switches (root : String) (steps : List Step) (n : Nat) :
    let m := run n (start root steps)
    let history := (start root steps).events n
    (∀ (i : Nat) (s : Store Reaction), m.session.world.stores[i]? = some s →
      (s.notifying = true ↔ m.InCycle i)) ∧
    (m.cycles.map Cycle.store).Nodup ∧
    (m.AtRest → ∀ s ∈ m.session.world.stores, s.notifying = false) ∧
    (∀ (step : Step) (i : Nat) (l : Language) (s : Store Reaction),
      m.session.asks? step = some (i, l) → m.session.world.stores[i]? = some s →
      ((m.session.perform step).isCycle = true ↔ s.notifying = false) ∧
        (s.notifying = true → m.Ignores step)) ∧
    (∀ (name : String) (i : Nat) (s : Store Reaction) (switch : Switch),
      m.session.store? name = some (i, s) →
      m.session.asks? (.dispatch name switch) = some (i, switch.target) ∧
        (m.session.perform (.dispatch name switch)).answer = .flag (!s.notifying)) ∧
    (∀ name tag : String, (∀ l : Language, tag ≠ l.tag) → m.Ignores (.setLocale name tag)) ∧
    ∀ (i : Nat) (s : Store Reaction), m.session.world.stores[i]? = some s →
      some s.state.value = (targets i history).getLast?.or (opening? i history) := by
  intro m history
  have orderly : m.Orderly := orderly_run root steps n
  refine ⟨?_, ?_, ?_, ?_, ?_, ?_, ?_⟩
  · intro i s there
    exact orderly.notifying_iff there
  · exact orderly.sound.flagged.once
  · intro rest s member
    obtain ⟨i, inside, rfl⟩ := List.mem_iff_getElem.mp member
    have idle : ¬ m.InCycle i := by
      rw [inCycle_iff, Holding.active]
      simp [holding, Session.holding, orderly.cycles_of_atRest rest]
    have flag := orderly.notifying_iff (List.getElem?_eq_getElem inside)
    exact Bool.eq_false_iff.mpr fun busy => idle (flag.mp busy)
  · intro step i l s asked there
    exact ⟨dispatch_isCycle asked there, ignores_refused asked there⟩
  · intro name i s switch found
    exact ⟨by simp [asks?, found], dispatch_answer found switch⟩
  · intro name tag unsupported
    exact m.ignores_unsupported name unsupported
  · intro i s there
    have recounted := recounted_run root steps n i
    rw [Holding.tag?, state_of there] at recounted
    exact recounted

end Machine

end LoginCard.Session
