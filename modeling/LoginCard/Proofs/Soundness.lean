import LoginCard.Proofs.Moves
import LoginCard.Proofs.Tracking

/-!
# What every run keeps

A holding is sound when flags, counts, rosters, cycles and bindings agree with what is held. Nothing
is sound, every change keeps soundness, and so a machine is in order at every moment of every run.
-/

namespace LoginCard

variable {ρ : Type} {h h' : Holding ρ} {e : Option Event}

/-- All that is kept about a holding. -/
structure Sound (h : Holding ρ) : Prop where
  flagged : Flagged h
  counted : Counted h
  rostered : Rostered h
  enrolled : Enrolled h
  due : Due h
  owned : Owned h
  tracking : Tracking h

namespace Sound

theorem start (files : FileTree) : Sound (Holding.start files : Holding ρ) :=
  ⟨.start files, .start files, .start files, .start files, .start files, .start files,
    .start files⟩

theorem step (change : Change h e h') (sound : Sound h) : Sound h' where
  flagged := sound.flagged.step change
  counted := sound.counted.step change
  rostered := sound.rostered.step change
  enrolled := sound.enrolled.step change sound.flagged sound.counted sound.rostered
  due := sound.due.step change sound.flagged sound.rostered
  owned := sound.owned.step change sound.rostered
  tracking := sound.tracking.step change sound.flagged sound.enrolled sound.due sound.owned

end Sound

namespace Session

/-- A script stands at the bottom of the stack, and an answer right above it. -/
def Rooted : List Task → Prop
  | [] => True
  | .script _ :: rest => rest = []
  | .answer _ :: rest => ∃ steps, rest = [.script steps]
  | _ :: rest => Rooted rest

theorem Rooted.cyclesOf_script {steps : List Step} {rest : List Task}
    (rooted : Rooted (.script steps :: rest)) : cyclesOf (.script steps :: rest) = [] := by
  obtain rfl : rest = [] := rooted
  rfl

theorem Rooted.cyclesOf_answer {r : Reply} {rest : List Task}
    (rooted : Rooted (.answer r :: rest)) : cyclesOf (.answer r :: rest) = [] := by
  obtain ⟨steps, rfl⟩ := rooted
  rfl

namespace Machine

section Reading

variable {m : Machine} {i : Nat} {s : Store Reaction}

theorem flag_of (there : m.session.world.stores[i]? = some s) :
    m.holding.flags[i]? = some s.notifying :=
  World.getElem?_column Store.notifying there

theorem state_of (there : m.session.world.stores[i]? = some s) :
    m.holding.states[i]? = some s.state :=
  World.getElem?_column Store.state there

theorem roster_of (there : m.session.world.stores[i]? = some s) :
    m.holding.rosters[i]? = some s.roster :=
  World.getElem?_column Store.roster there

end Reading

/-- What a machine is at every moment: each name stands once, and all that is held agrees. -/
structure Orderly (m : Machine) : Prop where
  ordered : m.session.Ordered
  sound : Sound m.holding
  rooted : Rooted m.stack

theorem rooted_perform {m : Machine} {step : Step} {reply : Reply → Task} {below : List Task}
    (rooted : ∀ r, Rooted (reply r :: below)) : Rooted (m.perform step reply below).stack := by
  unfold perform
  split
  · exact rooted _
  · exact rooted _

theorem rooted_turn {m : Machine} {c : Cycle Reaction} {rest : List Task} (rooted : Rooted rest) :
    Rooted (m.turn c rest).stack := by
  unfold turn
  dsimp only
  split
  · exact rooted
  · split
    · split <;> exact rooted
    · exact rooted

/-- Nothing is ever put below the script, or between it and its answer. -/
theorem rooted_move {m : Machine} (rooted : Rooted m.stack) : Rooted m.move.stack := by
  unfold move
  split <;> rename_i top <;> rw [top] at rooted
  · exact top ▸ trivial
  · exact rooted_turn rooted
  · obtain rfl := rooted
    trivial
  · obtain rfl := rooted
    exact rooted_perform fun r => ⟨_, rfl⟩
  · exact rooted
  · exact rooted_perform fun r => rooted
  · obtain ⟨steps, rfl⟩ := rooted
    rfl
  · exact rooted

namespace Orderly

theorem start (root : String) (steps : List Step) : (start root steps).Orderly :=
  ⟨ordered_new root, Sound.start _, rfl⟩

theorem move {m : Machine} (orderly : m.Orderly) : m.move.Orderly := by
  obtain ⟨ordered, chain⟩ := move_chain m orderly.ordered
  exact ⟨ordered, chain.preserves Sound.step orderly.sound, rooted_move orderly.rooted⟩

theorem run {m : Machine} (orderly : m.Orderly) (n : Nat) : (run n m).Orderly := by
  induction n generalizing m with
  | zero => exact orderly
  | succ n ih =>
    rw [run_succ]
    exact ih orderly.move

end Orderly

section Reached

variable (root : String) (steps : List Step) (n : Nat)

/-- Every machine that a script comes to is in order. -/
theorem orderly_run : (run n (start root steps)).Orderly := (Orderly.start root steps).run n

/-- The history of a run accounts for the languages. -/
theorem recounted_run :
    Recounted ((start root steps).events n) (run n (start root steps)).holding := by
  have chain := (run_chain n (start root steps) (ordered_new root)).2
  exact chain.history Recounted.step [] (Recounted.start _)

/-- The history of a run accounts for the numbers of the subscribers. -/
theorem numbered_run :
    Numbered ((start root steps).events n) (run n (start root steps)).holding := by
  have chain := (run_chain n (start root steps) (ordered_new root)).2
  exact chain.history Numbered.step [] (Numbered.start _)

end Reached

end Machine

end Session

end LoginCard
