import LoginCard.Proofs.Sharing

/-!
# The stored language is the one that was chosen last

Where nobody else writes the slot, the language that is loaded from a storage in memory is at every
moment the last one that was chosen for it, inside reactions too: a switch is written before its
subscribers are called. Whoever opens a store next starts in that language.
-/

namespace LoginCard.Session

namespace Machine

section Moving

variable {m : Machine} {j count : Nat} {slots : Toml.Table} {l : Language}

/-- A language that is chosen is loaded from then on. -/
theorem ofSlot_of_choice (holds : m.session.world.Holds j slots count)
    (chosen : m.choice? j = some l) :
    Choice.ofSlot (Keyed.find? Choice.key (Keyed.insertAll slots (m.writes j))) = .ok l := by
  have once := writesOnce holds
  have written : ∀ l, Choice.ofSlot (Keyed.find? Choice.key
      (Keyed.insertAll slots [Choice.entry l])) = .ok l := by
    intro l
    exact (congrArg Choice.ofSlot ((Keyed.find?_insert _ _ _ _).trans (if_pos rfl))).trans
      (Choice.ofSlot_current l)
  obtain ⟨e, event, given⟩ := Option.bind_eq_some_iff.mp chosen
  cases e with
  | accepted i l' =>
    obtain ⟨storage, same⟩ := Option.ite_none_right_eq_some.mp given
    obtain rfl := Option.some.inj same
    rw [once.accepted i l' event storage]
    exact written l'
  | opened i l' =>
    obtain ⟨storage, same⟩ := Option.ite_none_right_eq_some.mp given
    obtain rfl := Option.some.inj same
    obtain ⟨_, _, fallback, _, rfl, writes⟩ := once.opened i l' event storage
    rw [writes]
    cases loaded : m.session.world.loaded? j with
    | none => exact written fallback
    | some l =>
      rw [holds.loaded?_eq] at loaded
      cases stored : Choice.ofSlot (Keyed.find? Choice.key slots) with
      | error e => simp [stored, Except.toOption] at loaded
      | ok l' => simpa [stored, Except.toOption] using loaded
  | _ => cases given

/-- Where none is chosen, and nobody else writes the slot, it stays as it is. -/
theorem find?_of_no_choice (holds : m.session.world.Holds j slots count)
    (unchosen : m.choice? j = none) (alone : ∀ v, m.byHand? j ≠ some (Choice.key, v)) :
    Keyed.find? Choice.key (Keyed.insertAll slots (m.writes j)) = Keyed.find? Choice.key slots := by
  apply Keyed.find?_insertAll
  rw [(writesOnce holds).otherwise unchosen]
  rintro ⟨key, v⟩ member rfl
  exact alone v (Option.mem_toList.mp member)

end Moving

section Running

variable {m : Machine} {j count : Nat} {slots : Toml.Table} {l : Language}

theorem events_succ_last (n : Nat) (m : Machine) :
    m.events (n + 1) = m.events n ++ (run n m).event?.toList := by
  induction n generalizing m with
  | zero => simp
  | succ n ih => rw [events_succ, ih m.move, events_succ, run_succ, List.append_assoc]

theorem written_succ_last (j n : Nat) (m : Machine) :
    written j (n + 1) m = written j n m ++ (run n m).writes j := by
  induction n generalizing m with
  | zero => simp [written]
  | succ n ih => rw [written, ih m.move, written, run_succ, List.append_assoc]

/-- The languages that were chosen for storage `j` in `n` moves. -/
def chosen (m : Machine) (j n : Nat) : List Language :=
  choices (run n m).session.world.storage? j (m.events n)

/-- What was chosen before stays chosen: no store changes its storage. -/
theorem chosen_succ (ordered : m.session.Ordered) (j n : Nat) :
    m.chosen j (n + 1) = m.chosen j n ++ ((run n m).choice? j).toList := by
  obtain ⟨ordered', before⟩ := run_chain n m ordered
  have chain := (move_chain (run n m) ordered').2
  rw [chosen, events_succ_last, choices_append, choice?, run_move, chosen]
  congr 1
  -- Both sides look up who has which storage, one after the move and one before it.
  apply List.filterMap_congr
  intro e member
  apply Event.choice?_congr
  intro i chooser
  rw [← run_move]
  exact chain.storage?_of_known (before.chooser_known e member i chooser)

/-- The language that was chosen last is loaded. -/
theorem ofSlot_run (ordered : m.session.Ordered) (holds : m.session.world.Holds j slots count)
    {n : Nat} (alone : ∀ k < n, ∀ v, (run k m).byHand? j ≠ some (Choice.key, v))
    (last : (m.chosen j n).getLast? = some l) :
    Choice.ofSlot (Keyed.find? Choice.key (Keyed.insertAll slots (written j n m))) = .ok l := by
  induction n generalizing l with
  | zero => simp [chosen, choices] at last
  | succ n ih =>
    have now := holds_run holds n
    rw [chosen_succ ordered, List.getLast?_append] at last
    rw [written_succ_last, Keyed.insertAll_append]
    -- The last move chooses a language itself, or it leaves the slot as the moves before it did.
    cases choice : (run n m).choice? j with
    | some l' =>
      obtain rfl : l' = l := by simpa [choice] using last
      exact ofSlot_of_choice now choice
    | none =>
      rw [find?_of_no_choice now choice (alone n (Nat.lt_succ_self n))]
      exact ih (fun k lt => alone k (Nat.lt_succ_of_lt lt)) (by simpa [choice] using last)

/-- A store that is opened next starts in the language that is loaded, whatever its fallback. -/
theorem opens_in_loaded (holds : m.session.world.Holds j slots count)
    (loaded : m.session.world.loaded? j = some l) {storage : String}
    (found : Keyed.find? storage m.session.storages = some j) (name : String)
    (fallback : Language) :
    ∃ s, m.session.perform (.openStore name storage fallback) = .reply s .done ∧
      (s.world.stores[m.session.world.stores.length]?).map (fun st => st.state.value) = some l := by
  obtain ⟨l', w, restored⟩ := holds.withShelf_isSome fun m => Choice.restore m fallback
  obtain rfl : l' = l := (World.withShelf_restore restored).trans (by rw [loaded]; rfl)
  refine ⟨_, perform_openStore found restored name, ?_⟩
  rw [← List.getElem?_map]
  show (World.column _ fun st => st.state.value)[_]? = _
  rw [column_nameStore fun _ _ => rfl, World.getElem?_column_addStore,
    if_pos (congrArg List.length (World.withShelf_eq restored).1).symm]

end Running

section Sharing

variable {m : Machine} {j n i : Nat}

/-- A store of the storage that was not there before was opened since. -/
theorem tag?_of_unopened (ordered : m.session.Ordered)
    (unopened : ∀ i, m.session.world.storage? i ≠ some j)
    (storage : (run n m).session.world.storage? i = some j) :
    (run n m).holding.tag? i = (choices some i (m.events n)).getLast? := by
  have chain := (run_chain n m ordered).2
  apply chain.tag?_eq
  cases there : m.session.world.stores[i]? with
  | none => simp [Holding.tag?, Holding.states, World.column, holding, Session.holding, there]
  | some s =>
    have known : i < m.holding.storages.length := by
      have bound := (List.getElem?_eq_some_iff.mp there).1
      simpa [Holding.storages, holding, Session.holding] using bound
    exact absurd ((chain.storage?_of_known known).symm.trans storage) (unopened i)

/-- What was chosen for a storage that only one store has was chosen for that store. -/
theorem chosen_single (storage : (run n m).session.world.storage? i = some j)
    (single : ∀ i', (run n m).session.world.storage? i' = some j → i' = i) :
    m.chosen j n = choices some i (m.events n) := by
  apply List.filterMap_congr
  intro e _
  have same : ∀ i', (run n m).session.world.storage? i' = some j ↔ some i' = some i :=
    fun i' => ⟨fun there => congrArg some (single i' there), fun here =>
      Option.some.inj here ▸ storage⟩
  cases e with
  | opened i' l | accepted i' l => simp only [Event.choice?, same]
  | _ => rfl

theorem tag?_of (there : ∃ s, m.session.world.stores[i]? = some s ∧ s.state.value = l) :
    m.holding.tag? i = some l := by
  obtain ⟨s, there, rfl⟩ := there
  rw [Holding.tag?, state_of there]
  rfl

theorem chosen_of_open (ordered : m.session.Ordered)
    (unopened : ∀ i, m.session.world.storage? i ≠ some j)
    (storage : (run n m).session.world.storage? i = some j) : m.chosen j n ≠ [] := by
  obtain ⟨s, there, _⟩ := Option.bind_eq_some_iff.mp storage
  have last := tag?_of_unopened ordered unopened storage
  rw [tag?_of ⟨s, there, rfl⟩] at last
  obtain ⟨e, member, given⟩ := List.mem_filterMap.mp (List.mem_of_getLast? last.symm)
  have chosen : e.choice? (run n m).session.world.storage? j = some s.state.value := by
    cases e with
    | opened i' l | accepted i' l =>
      obtain ⟨same, value⟩ := Option.ite_none_right_eq_some.mp given
      obtain rfl := Option.some.inj same
      exact (if_pos storage).trans value
    | _ => cases given
  exact List.ne_nil_of_mem (List.mem_filterMap.mpr ⟨e, member, chosen⟩)

/-- What stores that share storage `j` make of it in `n` moves. -/
structure Shares (m : Machine) (j n : Nat) (slots : Toml.Table) (count : Nat) : Prop where
  once : ∀ k < n, (run k m).WritesOnce j
  held : (run n m).session.world.Holds j (Keyed.insertAll slots (written j n m))
    (count + (written j n m).length)
  begun : (∃ i, (run n m).session.world.storage? i = some j) → m.chosen j n ≠ []
  last : ∀ l, (m.chosen j n).getLast? = some l →
    (run n m).session.world.loaded? j = some l ∧
      ∀ name storage fallback, Keyed.find? storage (run n m).session.storages = some j →
        ∃ s, (run n m).session.perform (.openStore name storage fallback) = .reply s .done ∧
          (s.world.stores[(run n m).session.world.stores.length]?).map
            (fun st => st.state.value) = some l
  single : ∀ i s, (run n m).session.world.stores[i]? = some s → s.storage = some j →
    (∀ i', (run n m).session.world.storage? i' = some j → i' = i) →
      (run n m).session.world.loaded? j = some s.state.value

/-- From any moment of any run at which a storage lies in memory, whatever it holds, and no store
has been opened on it. -/
theorem storage_follows_choices (root : String) (steps : List Step) (a n j count : Nat)
    (slots : Toml.Table)
    (holds : (run a (start root steps)).session.world.Holds j slots count)
    (unopened : ∀ i, (run a (start root steps)).session.world.storage? i ≠ some j)
    (alone : ∀ k < n, ∀ v,
      (run k (run a (start root steps))).byHand? j ≠ some (Choice.key, v)) :
    (run a (start root steps)).Shares j n slots count := by
  have ordered := (orderly_run root steps a).ordered
  generalize run a (start root steps) = m at holds unopened alone ordered ⊢
  have held := holds_run holds n
  have loaded : ∀ l, (m.chosen j n).getLast? = some l →
      (run n m).session.world.loaded? j = some l := by
    intro l last
    rw [held.loaded?_eq, ofSlot_run ordered holds alone last]
    rfl
  constructor
  case once => exact fun k _ => writesOnce (holds_run holds k)
  case held => exact held
  case begun =>
    rintro ⟨i, storage⟩
    exact chosen_of_open ordered unopened storage
  case last =>
    intro l last
    exact ⟨loaded l last, fun name storage fallback found =>
      opens_in_loaded held (loaded l last) found name fallback⟩
  case single =>
    intro i s there kept alone
    have storage : (run n m).session.world.storage? i = some j := by
      rw [World.storage?, there]
      exact kept
    apply loaded
    rw [chosen_single storage alone, ← tag?_of_unopened ordered unopened storage]
    exact tag?_of ⟨s, there, rfl⟩

/-- Two stores on one storage, one of which is switched from within a cycle of the other. -/
def sharing : List Step :=
  [.storage "m" none false false, .openStore "a" "m" .english, .openStore "b" "m" .russian,
    .subscribe "a" "u" [.dispatch "b" .toEnglish], .dispatch "a" .toRussian]

theorem storage_follows_nested_choices :
    let m := run 2 (start "" sharing)
    m.Shares 0 9 [] 0 ∧ m.chosen 0 9 = [.english, .english, .russian, .english] ∧
      m.written 0 9 = [Choice.entry .english, Choice.entry .russian, Choice.entry .english] ∧
      (run 9 m).session.world.loaded? 0 = some .english ∧ (run 9 m).isNotifying 0 = true := by
  intro m
  have shares : m.Shares 0 9 [] 0 := by
    apply storage_follows_choices
    · exact ⟨_, rfl, rfl, Shelf.reliable_new _, rfl⟩
    · intro i
      cases i <;> nofun
    · have quiet : ∀ k < 9, (run k m).byHand? 0 = none := by decide
      intro k lt v
      rw [quiet k lt]
      nofun
  have chosen : m.chosen 0 9 = [.english, .english, .russian, .english] := by decide
  exact ⟨shares, chosen, by decide, (shares.last .english (by rw [chosen]; rfl)).1, by decide⟩

end Sharing

end Machine

end LoginCard.Session
