import LoginCard.Proofs.Turns

/-!
# What the reference of a state tells

A store gets another reference by a switch that changes its language, and by nothing else. A new
reference is numbered above all that were ever handed out. So a store shows the same reference at
two moments exactly if its language was not changed in between, and no two stores ever show the same
one.
-/

namespace LoginCard

variable {ρ : Type} {h h' : Holding ρ} {e : Option Event}

/-- A switch to the language that a store has keeps its reference. -/
theorem Change.keeps_reference {i : Nat} {r : Reference Language}
    (change : Change h (some (.accepted i r.value)) h') (before : h.states[i]? = some r) :
    h'.states[i]? = some r := by
  generalize asked : r.value = l at change
  cases change with
  | @accepted i switch w c _ came =>
    obtain ⟨s, there, _, _, _, _, _, _, stores⟩ := World.dispatch_accepted came
    have state := World.getElem?_column Store.state there
    obtain rfl : s.state = r := Option.some.inj (state.symm.trans before)
    have known := (List.getElem?_eq_some_iff.mp state).1
    rw [Holding.states, World.column_set Store.state stores, World.dispatch_same there asked.symm came]
    exact List.getElem?_set_self known

/-- What a change makes of the reference of a store that is there. -/
theorem Change.reference (change : Change h e h') {i : Nat} {r : Reference Language}
    (before : h.states[i]? = some r) :
    h'.states[i]? = some r ∧ (∀ l, e = some (.accepted i l) → l = r.value) ∨
      ∃ r', h'.states[i]? = some r' ∧ h.world.nextReference ≤ r'.id ∧
        e = some (.accepted i r'.value) ∧ r'.value ≠ r.value := by
  cases change.settles i with
  | same states quiet _ =>
    refine .inl ⟨states.trans before, ?_⟩
    rintro l rfl
    simp [Event.target?] at quiet
  | opened _ absent _ _ _ _ => simp [absent] at before
  | accepted r₀ r' _ there after event new =>
    obtain rfl : r₀ = r := Option.some.inj (there.symm.trans before)
    by_cases same : r'.value = r₀.value
    · have kept : h'.states[i]? = some r₀ := (same ▸ event ▸ change).keeps_reference before
      refine .inl ⟨kept, ?_⟩
      intro l asked
      obtain ⟨-, rfl⟩ := Event.accepted.inj (Option.some.inj (event.symm.trans asked))
      exact same
    · rcases new with rfl | ⟨fresh, _⟩
      · exact absurd rfl same
      · exact .inr ⟨r', after, Nat.le_of_eq fresh.symm, event, same⟩

/-- A reference that a store has after a change was its own before, or it is a new one and the
change is about this store. -/
theorem Change.reference_before (change : Change h e h') {i : Nat} {r : Reference Language}
    (there : h'.states[i]? = some r) :
    h.states[i]? = some r ∨ r.id = h.world.nextReference ∧
      (e = some (.opened i r.value) ∨ e = some (.accepted i r.value)) := by
  cases change.settles i with
  | same states _ _ => exact .inl (states ▸ there)
  | opened r₁ _ after event fresh _ =>
    obtain rfl : r₁ = r := Option.some.inj (after.symm.trans there)
    exact .inr ⟨fresh, .inl event⟩
  | accepted _ r₁ _ before after event new =>
    obtain rfl : r₁ = r := Option.some.inj (after.symm.trans there)
    rcases new with rfl | ⟨fresh, _⟩
    · exact .inl before
    · exact .inr ⟨fresh, .inr event⟩

namespace Chain

variable {es : List Event}

theorem nextReference_le (chain : Chain h es h') :
    h.world.nextReference ≤ h'.world.nextReference :=
  chain.preserves (P := fun h' => h.world.nextReference ≤ h'.world.nextReference)
    (fun change le => Nat.le_trans le change.nextReference_le) (Nat.le_refl _)

/-- What a chain makes of the reference of a store: it is kept until a switch changes the language,
and replaced by a newer one then. -/
theorem reference (chain : Chain h es h') {i : Nat} {r : Reference Language}
    (before : h.states[i]? = some r) :
    h'.states[i]? = some r ∧ (∀ l, .accepted i l ∈ es → l = r.value) ∨
      ∃ r', h'.states[i]? = some r' ∧ h.world.nextReference ≤ r'.id ∧
        ∃ l, .accepted i l ∈ es ∧ l ≠ r.value := by
  induction chain generalizing r with
  | nil h => exact .inl ⟨before, by simp⟩
  | @cons _ _ _ e es change rest ih =>
    rcases change.reference before with ⟨kept, quiet⟩ | ⟨r₁, new, above, event, changed⟩
    · rcases ih kept with ⟨after, quiet'⟩ | ⟨r', after, above, l, member, changed⟩
      · refine .inl ⟨after, ?_⟩
        intro l member
        rcases List.mem_append.mp member with first | later
        · exact quiet l (Option.mem_toList.mp first)
        · exact quiet' l later
      · exact .inr ⟨r', after, Nat.le_trans change.nextReference_le above, l,
          List.mem_append_right _ member, changed⟩
    · have member : Event.accepted i r₁.value ∈ e.toList ++ es := by simp [event]
      rcases ih new with ⟨after, _⟩ | ⟨r', after, above', _⟩
      · exact .inr ⟨r₁, after, above, r₁.value, member, changed⟩
      · exact .inr ⟨r', after, Nat.le_trans change.nextReference_le above', r₁.value, member,
          changed⟩

/-- A reference after a chain was there before it, or it is newer than all of that time. -/
theorem reference_before (chain : Chain h es h') {i : Nat} {r : Reference Language}
    (there : h'.states[i]? = some r) :
    h.states[i]? = some r ∨ h.world.nextReference ≤ r.id := by
  induction chain with
  | nil h => exact .inl there
  | cons change _ ih =>
    rcases ih there with between | above
    · rcases change.reference_before between with before | ⟨fresh, _⟩
      · exact .inl before
      · exact .inr (Nat.le_of_eq fresh.symm)
    · exact .inr (Nat.le_trans change.nextReference_le above)

end Chain

/-- No two stores have the same reference. -/
def Apart (h : Holding ρ) : Prop :=
  ∀ (i j : Nat) (r r' : Reference Language), i ≠ j → h.states[i]? = some r →
    h.states[j]? = some r' → r.id ≠ r'.id

namespace Apart

theorem start (files : FileTree) : Apart (Holding.start files : Holding ρ) := by
  intro i j r r' _ there
  simp [Holding.states, Holding.start, World.empty, World.column] at there

/-- A change hands out one reference at most, and to the store that it is about. -/
theorem step (change : Change h e h') (tracking : Tracking h) (apart : Apart h) : Apart h' := by
  intro i j r r' other there there'
  rcases change.reference_before there with before | ⟨fresh, about⟩ <;>
    rcases change.reference_before there' with before' | ⟨fresh', about'⟩
  · exact apart i j r r' other before before'
  · have old := tracking.issued i r before
    omega
  · have old := tracking.issued j r' before'
    omega
  · rcases about with rfl | rfl <;> simp [other] at about'

end Apart

namespace Session.Machine

/-- The next move is a switch that changes the language of store `i`. -/
def Changes (m : Machine) (i : Nat) : Prop :=
  ∃ l, m.event? = some (.accepted i l) ∧ m.holding.tag? i ≠ some l

section Moving

variable {m : Machine} {i : Nat} {s : Store Reaction}

/-- What `n` moves make of the reference of a store. -/
theorem reference_run (ordered : m.session.Ordered) (n : Nat)
    (there : m.session.world.stores[i]? = some s) :
    ∃ s', (run n m).session.world.stores[i]? = some s' ∧
      ((∀ k < n, ¬ (run k m).Changes i) ∧ s'.state = s.state ∨
        (∃ k < n, (run k m).Changes i) ∧ m.session.world.nextReference ≤ s'.state.id) := by
  induction n generalizing m s with
  | zero => exact ⟨s, there, .inl ⟨by simp, rfl⟩⟩
  | succ n ih =>
    obtain ⟨ordered', chain⟩ := move_chain m ordered
    have tag : m.holding.tag? i = some s.state.value := by
      rw [Holding.tag?, state_of there]
      rfl
    rcases chain.reference (state_of there) with ⟨kept, quiet⟩ | ⟨r, new, above, l, event, changed⟩
    · obtain ⟨s₁, there₁, same⟩ := World.of_column kept
      obtain ⟨s', after, rest⟩ := ih ordered' there₁
      have still : ¬ m.Changes i := by
        rintro ⟨l, event, changed⟩
        rw [quiet l (by simp [event])] at changed
        exact changed tag
      refine ⟨s', by rw [run_succ]; exact after, ?_⟩
      rcases rest with ⟨later, state⟩ | ⟨⟨k, lt, changes⟩, above⟩
      · refine .inl ⟨?_, state.trans same⟩
        intro k lt
        cases k with
        | zero => exact still
        | succ k =>
          rw [run_succ]
          exact later k (Nat.lt_of_succ_lt_succ lt)
      · refine .inr ⟨⟨k + 1, Nat.succ_lt_succ lt, by rwa [run_succ]⟩, ?_⟩
        exact Nat.le_trans chain.nextReference_le above
    · obtain ⟨s₁, there₁, same⟩ := World.of_column new
      obtain ⟨s', after, rest⟩ := ih ordered' there₁
      have here : m.Changes i := by
        refine ⟨l, Option.mem_toList.mp event, ?_⟩
        rw [tag]
        exact fun value => changed (Option.some.inj value).symm
      refine ⟨s', by rw [run_succ]; exact after, .inr ⟨⟨0, Nat.succ_pos n, here⟩, ?_⟩⟩
      rcases rest with ⟨_, state⟩ | ⟨_, above'⟩
      · rw [state, same]
        exact above
      · exact Nat.le_trans chain.nextReference_le above'

/-- While a cycle goes on, its store has the state that the cycle tells of. -/
theorem state_of_cycle (orderly : m.Orderly) {c : Cycle Reaction} (going : c ∈ m.cycles) :
    ∃ s, m.session.world.stores[c.store]? = some s ∧ s.state = c.state :=
  World.of_column (orderly.sound.due.state c going)

theorem cycle_of_logged {id : Nat} {callback : Callback Reaction} {r : Reference Language}
    (member : .called i id callback r ∈ m.logged) :
    ∃ c rest due, m.stack = .cycle c :: rest ∧ c.due = (id, callback) :: due ∧ c.store = i ∧
      c.state = r := by
  unfold logged at member
  split at member
  · rename_i c rest top
    split at member
    · cases member
    · rename_i id' callback' due next
      split at member
      · obtain ⟨rfl, rfl, rfl, rfl⟩ := LogEntry.called.inj (List.mem_singleton.mp member)
        exact ⟨c, rest, due, top, next, rfl, rfl⟩
      · cases member
  · simp at member
  · cases member

/-- A callback is called with the state that its store has then and when the callback begins. -/
theorem state_of_called (orderly : m.Orderly) {id : Nat} {callback : Callback Reaction}
    {r : Reference Language}
    (called : m.move.log.toList = m.log.toList ++ [.called i id callback r]) :
    (∃ s, m.session.world.stores[i]? = some s ∧ s.state = r) ∧
      ∃ s, m.move.session.world.stores[i]? = some s ∧ s.state = r := by
  have plain : ∀ r rest, m.stack ≠ .answer r :: rest := by
    intro r rest top
    simp [move, top, answer] at called
  rw [log_move plain, List.append_cancel_left_eq] at called
  obtain ⟨c, rest, due, top, next, rfl, rfl⟩ :=
    cycle_of_logged (called ▸ List.mem_singleton_self _)
  have after : { c with due } ∈ m.move.cycles := by
    rw [move, top]
    exact cycles_turn next ▸ List.mem_cons_self
  have then_state := state_of_cycle orderly (mem_cyclesOf.mpr (top ▸ List.mem_cons_self))
  have next_state := state_of_cycle orderly.move after
  exact ⟨then_state, next_state⟩

end Moving

section Reached

variable (root : String) (steps : List Step)

theorem apart_run (n : Nat) : Apart (run n (start root steps)).holding := by
  have chain := (run_chain n (start root steps) (ordered_new root)).2
  have both := chain.preserves (P := fun h => Sound h ∧ Apart h)
    (fun change kept => ⟨kept.1.step change, kept.2.step change kept.1.tracking⟩)
    ⟨Sound.start _, Apart.start _⟩
  exact both.2

variable {root steps}

/-- Two stores have different references, the second one at the same moment or later. -/
theorem reference_ne {k n i j : Nat} {s s' : Store Reaction} (le : k ≤ n) (other : i ≠ j)
    (there : (run k (start root steps)).session.world.stores[i]? = some s)
    (there' : (run n (start root steps)).session.world.stores[j]? = some s') :
    s.state.id ≠ s'.state.id := by
  have orderly := orderly_run root steps k
  have between := (run_chain (n - k) _ orderly.ordered).2
  rw [← run_add, Nat.add_sub_cancel' le] at between
  rcases between.reference_before (state_of there') with before | above
  · exact apart_run root steps k i j _ _ other (state_of there) before
  · have old := orderly.sound.tracking.issued i _ (state_of there)
    change (run k (start root steps)).session.world.nextReference ≤ s'.state.id at above
    change s.state.id < (run k (start root steps)).session.world.nextReference at old
    omega

/-- Two moments of a run, the first one not after the second. -/
theorem same_reference_iff {k n i : Nat} {s s' : Store Reaction} (le : k ≤ n)
    (there : (run k (start root steps)).session.world.stores[i]? = some s)
    (there' : (run n (start root steps)).session.world.stores[i]? = some s') :
    s.state = s'.state ∧ (∀ j, k ≤ j → j < n → ¬ (run j (start root steps)).Changes i) ∨
      s.state.id ≠ s'.state.id ∧ ∃ j, k ≤ j ∧ j < n ∧ (run j (start root steps)).Changes i := by
  have orderly := orderly_run root steps k
  obtain ⟨s₁, there₁, became⟩ := reference_run orderly.ordered (n - k) there
  rw [← run_add, Nat.add_sub_cancel' le] at there₁
  obtain rfl : s₁ = s' := Option.some.inj (there₁.symm.trans there')
  rcases became with ⟨quiet, same⟩ | ⟨⟨j, lt, changes⟩, above⟩
  · refine .inl ⟨same.symm, ?_⟩
    intro j from_k below changes
    apply quiet (j - k) (by omega)
    rwa [← run_add, Nat.add_sub_cancel' from_k]
  · have old := orderly.sound.tracking.issued i _ (state_of there)
    change s.state.id < (run k (start root steps)).session.world.nextReference at old
    refine .inr ⟨by omega, k + j, by omega, by omega, ?_⟩
    rwa [run_add]

end Reached

/-- At any two moments of any run, inside reactions too. -/
theorem references_tell_changes (root : String) (steps : List Step) :
    let m (n : Nat) : Machine := run n (start root steps)
    (∀ (k n i : Nat) (s : Store Reaction), k ≤ n →
      (m k).session.world.stores[i]? = some s →
      ∃ s', (m n).session.world.stores[i]? = some s' ∧
        (s.state.id = s'.state.id ↔ ∀ j, k ≤ j → j < n → ¬ (m j).Changes i) ∧
        (s.state.id = s'.state.id → s.state = s'.state)) ∧
    (∀ (k n i j : Nat) (s s' : Store Reaction), i ≠ j →
      (m k).session.world.stores[i]? = some s → (m n).session.world.stores[j]? = some s' →
      s.state.id ≠ s'.state.id) ∧
    (∀ (n i id : Nat) (callback : Callback Reaction) (r : Reference Language),
      (m (n + 1)).log.toList = (m n).log.toList ++ [.called i id callback r] →
      (∃ s, (m n).session.world.stores[i]? = some s ∧ s.state = r) ∧
        ∃ s, (m (n + 1)).session.world.stores[i]? = some s ∧ s.state = r) ∧
    ∀ (n : Nat) (c : Cycle Reaction), c ∈ (m n).cycles →
      ∃ s, (m n).session.world.stores[c.store]? = some s ∧ s.state = c.state := by
  intro m
  refine ⟨?_, ?_, ?_, ?_⟩
  · intro k n i s le there
    obtain ⟨s', there', _⟩ :=
      reference_run (orderly_run root steps k).ordered (n - k) there
    rw [← run_add, Nat.add_sub_cancel' le] at there'
    refine ⟨s', there', ?_, ?_⟩ <;>
      rcases same_reference_iff le there there' with ⟨same, quiet⟩ | ⟨other, j, from_k, below, changes⟩
    · exact iff_of_true (congrArg Reference.id same) quiet
    · exact iff_of_false other fun quiet => quiet j from_k below changes
    · exact fun _ => same
    · exact fun same => absurd same other
  · intro k n i j s s' other there there'
    rcases Nat.le_total k n with le | le
    · exact reference_ne le other there there'
    · exact (reference_ne le (Ne.symm other) there' there).symm
  · intro n i id callback r called
    have moved := run_move n (start root steps)
    change (run (n + 1) (start root steps)).log.toList = _ at called
    rw [← moved] at called
    have states := state_of_called (orderly_run root steps n) called
    rw [moved] at states
    exact states
  · intro n c going
    exact state_of_cycle (orderly_run root steps n) going

/-- To switch away and back gives an equal state with another reference. -/
def roundTrip : List Step :=
  [.newStore "s" .english, .dispatch "s" .toRussian, .dispatch "s" .toEnglish]

example :
    (run 2 (start "" roundTrip)).holding.states = [⟨0, .english⟩] ∧
      (run 20 (start "" roundTrip)).holding.states = [⟨2, .english⟩] := by decide

end Session.Machine

end LoginCard
