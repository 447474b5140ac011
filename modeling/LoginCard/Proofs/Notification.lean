import LoginCard.Proofs.Turns

/-!
# Who is called by a switch that is accepted

The subscribers at the moment when a store accepts a switch have one turn each, in the order in
which they registered, and are called in it if they are still registered by then. Nobody else is
called, whatever the reactions in between do to this store or to others.
-/

namespace LoginCard

variable {ρ : Type} {h h' : Holding ρ}

/-- Who stands on a roster under an old number stood on it before. -/
theorem Chain.registered_before {es : List Event} (chain : Chain h es h') {i : Nat}
    {r : Roster ρ} (known : h.rosters[i]? = some r) :
    ∃ r', h'.rosters[i]? = some r' ∧ r.next ≤ r'.next ∧
      ∀ entry ∈ r'.subscribers, entry.1 < r.next → entry ∈ r.subscribers := by
  refine chain.preserves (P := fun h' => ∃ r', h'.rosters[i]? = some r' ∧ r.next ≤ r'.next ∧
    ∀ entry ∈ r'.subscribers, entry.1 < r.next → entry ∈ r.subscribers) ?_
    ⟨r, known, Nat.le_refl _, fun _ member _ => member⟩
  rintro h₁ h₂ e change ⟨r₁, there, grown, old⟩
  obtain ⟨r₂, after, becomes⟩ := change.roster_of there
  refine ⟨r₂, after, ?_, ?_⟩
  · rw [becomes.next]
    exact Nat.le_add_right_of_le grown
  · intro entry member below
    rcases becomes.old_or_new member with before | new
    · exact old entry before below
    · omega

namespace Session

theorem asked_of_event? {s : Session} {step : Step} {i : Nat} {l : Language}
    (event : s.event? step = some (.accepted i l)) :
    s.asks? step = some (i, l) ∧ (s.perform step).isCycle = true := by
  have asked : ∀ {step : Step}, s.event? step =
      (if (s.perform step).isCycle then (s.asks? step).map fun e => .accepted e.1 e.2 else none) →
      s.event? step = some (.accepted i l) →
      s.asks? step = some (i, l) ∧ (s.perform step).isCycle = true := by
    intro step same event
    rw [same] at event
    split at event
    · rename_i cycle
      obtain ⟨⟨_, _⟩, asks, same⟩ := Option.map_eq_some_iff.mp event
      obtain ⟨rfl, rfl⟩ := Event.accepted.inj same
      exact ⟨asks, cycle⟩
    · cases event
  cases step with
  | dispatch | setLocale => exact asked rfl event
  | openStore =>
    obtain ⟨_, _, same⟩ := Option.map_eq_some_iff.mp event
    cases same
  | _ => simp [event?] at event

namespace Machine

/-- The entry stands among the subscribers of store `i`. -/
def Registered (m : Machine) (i : Nat) (entry : Nat × Callback Reaction) : Prop :=
  ∃ s, m.session.world.stores[i]? = some s ∧ entry ∈ s.subscribers

/-- What the move does by which a store accepts a switch. -/
theorem move_accepted {m : Machine} {i : Nat} {l : Language}
    (event : m.event? = some (.accepted i l)) :
    ∃ s c, m.session.world.stores[i]? = some s ∧ s.notifying = false ∧ i ∈ m.holding.handles ∧
      c ∈ m.move.cycles ∧ c.store = i ∧ c.due = s.subscribers ∧ c.state.value = l ∧
      m.move.session.world.stores =
        m.session.world.stores.set i { s with state := c.state, notifying := true } ∧
      m.move.session.world.bindings = m.session.world.bindings ∧
      m.move.holding.bindings = m.holding.bindings ∧ m.move.log = m.log := by
  have bound : m.next?.bind m.session.event? = some (.accepted i l) := by
    unfold event? at event
    split at event
    · split at event <;> cases event
    · exact event
  obtain ⟨step, next, event⟩ := Option.bind_eq_some_iff.mp bound
  obtain ⟨asked, cycle⟩ := asked_of_event? event
  obtain ⟨s₁, switch, accepted, refused, held, there₁, target, performed⟩ := perform_asked asked
  cases came : m.session.world.dispatch i switch with
  | none => simp [World.dispatch, there₁] at came
  | some d =>
    rw [came] at performed
    cases d with
    | refused w => simp [performed, ofDispatched, Performed.isCycle] at cycle
    | accepted w c =>
      obtain ⟨s, there, free, store, due, value, _, bindings, stores⟩ :=
        World.dispatch_accepted came
      obtain ⟨reply, below, moved, plain, _⟩ := move_of_next? next
      have after : m.move =
          { m with
            session := { m.session with world := w }
            stack := .cycle c :: reply accepted :: below } := by
        rw [moved, perform, performed]
        rfl
      rw [after]
      exact ⟨s, c, there, free, held, List.mem_cons_self, store, due, value.trans target, stores,
        bindings, rfl, rfl⟩

/-- `m` is the machine right after store `i` accepted a switch, with the subscribers that `s` had,
and `n` moves later the cycle of that switch is over. -/
structure Notifies (m : Machine) (i n : Nat) (s : Store Reaction) (state : Reference Language) :
    Prop where
  produced : (m.session.world.stores[i]?).map Store.state = some state
  turns : (m.turns i n).map Prod.snd = s.subscribers
  sorted : (s.subscribers.map Prod.fst).Pairwise (· < ·)
  called : ∃ new, (run n m).log.toList = m.log.toList ++ new ∧
    new.filterMap (LogEntry.call? i) = m.calls i n state
  due : ∀ k entry, (k, entry) ∈ m.turns i n →
    ((run k m).session.world.isDue i entry.1 = true ↔ (run k m).Registered i entry)
  removed : ∀ k entry, (k, entry) ∈ m.turns i n → ∀ j ≤ k, ¬ (run j m).Registered i entry →
    ¬ (run k m).Registered i entry
  added : ∀ k ≤ n, ∀ entry, (run k m).Registered i entry → entry ∉ s.subscribers →
    ∀ call ∈ m.calls i n state, call.1 ≠ entry.1

theorem registered_iff {m : Machine} {i : Nat} {entry : Nat × Callback Reaction} :
    m.Registered i entry ↔ ∃ r, m.holding.rosters[i]? = some r ∧ entry ∈ r.subscribers := by
  constructor
  · rintro ⟨s, there, member⟩
    exact ⟨s.roster, roster_of there, member⟩
  · rintro ⟨r, there, member⟩
    obtain ⟨s, known, rfl⟩ := World.of_column there
    exact ⟨s, known, member⟩

section Registration

variable {m : Machine} {i : Nat} {entry : Nat × Callback Reaction}

/-- An entry with an old number that is registered now was registered at every moment since. -/
theorem registered_of_later (orderly : m.Orderly) {r : Roster Reaction}
    (known : m.holding.rosters[i]? = some r) (old : entry.1 < r.next) {j k : Nat} (le : j ≤ k)
    (later : (run k m).Registered i entry) : (run j m).Registered i entry := by
  obtain ⟨r₁, roster₁, grown, _⟩ := (run_chain j m orderly.ordered).2.registered_before known
  have between := (run_chain (k - j) (run j m) (orderly.run j).ordered).2
  rw [← run_add, Nat.add_sub_cancel' le] at between
  obtain ⟨r₂, roster₂, _, before⟩ := between.registered_before roster₁
  obtain ⟨r₃, roster₃, member⟩ := registered_iff.mp later
  obtain rfl : r₃ = r₂ := Option.some.inj (roster₃.symm.trans roster₂)
  exact registered_iff.mpr ⟨r₁, roster₁, before entry member (Nat.lt_of_lt_of_le old grown)⟩

/-- In its turn an entry is registered if its number is. -/
theorem isDue_iff_registered (orderly : m.Orderly) (turn : m.turn? i = some entry) :
    m.session.world.isDue i entry.1 = true ↔ m.Registered i entry := by
  unfold turn? at turn
  split at turn
  · rename_i c rest top
    split at turn
    · rename_i store
      subst store
      obtain ⟨due, next⟩ := List.head?_eq_some_iff.mp turn
      have going : c ∈ m.cycles := mem_cyclesOf.mpr (top ▸ List.mem_cons_self)
      obtain ⟨s, there, _⟩ := World.of_column (orderly.sound.due.state c going)
      have roster := World.getElem?_column Store.roster there
      have agree := (orderly.sound.due.calls c going s.roster roster).agree entry
        (next ▸ List.mem_cons_self)
      rw [registered_iff]
      apply (World.isDue_iff roster).trans
      constructor
      · rintro ⟨callback, member⟩
        obtain rfl := agree callback member
        exact ⟨s.roster, roster, member⟩
      · rintro ⟨r, there, member⟩
        obtain rfl : r = s.roster := Option.some.inj (there.symm.trans roster)
        exact ⟨entry.2, member⟩
    · cases turn
  · cases turn

end Registration

/-- Every switch that a store accepts, at any moment of any run, and comes back from. -/
theorem accepted_switch_notifies (root : String) (steps : List Step) (a n i : Nat) (l : Language)
    (s : Store Reaction)
    (accepted : (run a (start root steps)).event? = some (.accepted i l))
    (there : (run a (start root steps)).session.world.stores[i]? = some s)
    (going : ∀ k < n, (run k (run (a + 1) (start root steps))).isNotifying i = true)
    (ended : (run n (run (a + 1) (start root steps))).isNotifying i = false) :
    ∃ state : Reference Language, state.value = l ∧
      (run (a + 1) (start root steps)).Notifies i n s state := by
  obtain ⟨s₁, c, there₁, _, _, begun, rfl, due, value, stores, _, _, _⟩ := move_accepted accepted
  obtain rfl : s₁ = s := Option.some.inj (there₁.symm.trans there)
  rw [run_move] at begun stores
  have orderly := orderly_run root steps (a + 1)
  generalize run (a + 1) (start root steps) = m at going ended begun stores orderly ⊢
  have known := (List.getElem?_eq_some_iff.mp there).1
  have here : m.session.world.stores[c.store]? =
      some { s₁ with state := c.state, notifying := true } := by
    rw [stores, List.getElem?_set_self known]
  have roster := roster_of here
  have ordered := orderly.sound.rostered _ _ roster
  have below : ∀ entry ∈ s₁.subscribers, entry.1 < s₁.nextId := fun entry member =>
    ordered.below entry.1 (List.mem_map_of_mem member)
  have busy : ∀ k < n, (run k m).InCycle c.store := fun k lt =>
    (orderly.run k).isNotifying_iff.mp (going k lt)
  have idle : ¬ (run n m).InCycle c.store := by
    rw [← (orderly.run n).isNotifying_iff, ended]
    exact Bool.false_ne_true
  have turns_eq := turns_of_returned orderly begun busy idle
  rw [due] at turns_eq
  have subscriber : ∀ k entry, (k, entry) ∈ m.turns c.store n → entry ∈ s₁.subscribers := by
    intro k entry member
    rw [← turns_eq]
    exact List.mem_map_of_mem member
  refine ⟨c.state, value, ?_, turns_eq, ordered.sorted, log_underway orderly begun busy, ?_, ?_, ?_⟩
  · rw [here]
    rfl
  · intro k entry member
    exact isDue_iff_registered (orderly.run k) (mem_turns.mp member).2
  · intro k entry member j le gone later
    exact gone (registered_of_later orderly roster (below _ (subscriber k entry member)) le later)
  · intro k _ entry registered new call member
    obtain ⟨⟨k₁, entry₁⟩, turn, rfl⟩ := List.mem_map.mp member
    have old := below _ (subscriber k₁ entry₁ (List.mem_filter.mp turn).1)
    intro same
    apply new
    have first := registered_of_later orderly roster (same ▸ old) (Nat.zero_le k) registered
    obtain ⟨s₂, there₂, member₂⟩ := first
    obtain rfl := Option.some.inj (there₂.symm.trans here)
    exact member₂

/-- The first subscriber drops the second, asks for another language and subscribes once more. -/
def reentrant : List Step :=
  [.newStore "s" .english,
    .subscribe "s" "u" [.unsubscribe "v", .dispatch "s" .toEnglish, .subscribe "s" "w" []],
    .subscribe "s" "v" [], .subscribe "s" "x" [], .dispatch "s" .toRussian]

theorem reentrant_switch_notifies :
    ∃ s state, state.value = .russian ∧ (run 9 (start "" reentrant)).Notifies 0 12 s state ∧
      ((run 9 (start "" reentrant)).calls 0 12 state).map Prod.fst = [0, 2] := by
  obtain ⟨s, there⟩ : ∃ s, (run 8 (start "" reentrant)).session.world.stores[0]? = some s :=
    Option.isSome_iff_exists.mp (by decide)
  obtain ⟨state, value, notifies⟩ := accepted_switch_notifies "" reentrant 8 12 0 .russian s
    (by decide) there (by decide) (by decide)
  have called : (((run 9 (start "" reentrant)).turns 0 12).filter fun t =>
      (run t.1 (run 9 (start "" reentrant))).session.world.isDue 0 t.2.1).map (·.2.1) = [0, 2] := by
    decide
  refine ⟨s, state, value, notifies, ?_⟩
  rw [calls, List.map_map]
  exact called

end Machine

end Session

end LoginCard
