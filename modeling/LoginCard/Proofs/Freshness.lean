import LoginCard.Proofs.Notification
import LoginCard.Proofs.Pages

/-!
# Bindings and pages follow their store

Outside a cycle of its store, a binding that somebody holds shows the strings of the language of the
store, and a page shows what it would show if it were made anew. In a cycle, the bindings that had
their turn and those made since show the new strings, the others still those of before. Once a store
is gone, its bindings stay as they are.
-/

namespace LoginCard

variable {ρ : Type} {h h' : Holding ρ} {e : Option Event}

namespace Sound

/-- A binding whose store is in no cycle shows the state of the store. -/
theorem current_of_idle (sound : Sound h) {b : Nat} {bd : Binding} {r : Reference Language}
    (held : b ∈ h.bindings) (there : h.world.bindings[b]? = some bd)
    (state : h.states[bd.subscription.store]? = some r)
    (idle : ¬ h.Pending bd.subscription) : bd.current = r.value.strings := by
  obtain ⟨known, tracks⟩ := sound.tracking.shown b held bd r there state
  rw [tracks.shows.current, tracks.settled idle]

theorem pending_active {sub : Subscription} (pending : h.Pending sub) : sub.store ∈ h.active := by
  obtain ⟨c, going, store, _⟩ := pending
  exact store ▸ List.mem_map_of_mem going

/-- A binding that is held has a record, and a store. -/
theorem bound_to (sound : Sound h) {b : Nat} (held : b ∈ h.bindings) :
    ∃ bd s, h.world.bindings[b]? = some bd ∧ h.world.stores[bd.subscription.store]? = some s := by
  have there := List.getElem?_eq_getElem (sound.enrolled.bound b held)
  obtain ⟨r, roster, _⟩ := sound.owned.own b _ (World.subscription?_of there)
  exact ⟨_, _, there, List.getElem?_eq_getElem (known_of_roster roster)⟩

/-- What is gone comes back no more, and no binding to it changes. -/
theorem step_gone (sound : Sound h) (change : Change h e h') {b : Nat} {bd : Binding}
    (there : h.world.bindings[b]? = some bd) (gone : ¬ h.Lives bd.subscription.store) :
    h'.world.bindings[b]? = some bd ∧ ¬ h'.Lives bd.subscription.store := by
  have subscription := World.subscription?_of there
  obtain ⟨r, roster, _⟩ := sound.owned.own b _ subscription
  refine ⟨?_, fun lives => gone (change.lives_before (known_of_roster roster) lives)⟩
  cases change.rebinds b with
  | same bindings => exact bindings.trans there
  | made _ _ _ _ absent _ _ _ _ _ _ => simp [there] at absent
  | refreshed _ c id due rest held next called _ _ _ =>
    have going : c ∈ h.cycles := held ▸ List.mem_cons_self
    have own := sound.owned.of_called sound.due going (next ▸ List.mem_cons_self) called
    rw [subscription] at own
    have same := congrArg Subscription.store (Option.some.inj own)
    exact absurd (.inr (same ▸ List.mem_map_of_mem going)) gone

end Sound

namespace Session

/-- No step is a turn of a cycle. -/
theorem event?_ne_turned (s : Session) (step : Step) (i : Nat) :
    s.event? step ≠ some (.turned i) := by
  intro event
  cases step with
  | dispatch | setLocale =>
    simp only [event?] at event
    split at event
    · obtain ⟨_, _, same⟩ := Option.map_eq_some_iff.mp event
      cases same
    · cases event
  | openStore =>
    obtain ⟨_, _, same⟩ := Option.map_eq_some_iff.mp event
    cases same
  | _ => simp [event?] at event

namespace Machine

/-- Outside a cycle of its store no subscription is due. -/
theorem not_pending {m : Machine} (orderly : m.Orderly) {sub : Subscription} {s : Store Reaction}
    (there : m.session.world.stores[sub.store]? = some s) (free : s.notifying = false) :
    ¬ m.holding.Pending sub := by
  intro pending
  have busy := (orderly.notifying_iff there).mpr (inCycle_iff.mpr (Sound.pending_active pending))
  rw [free] at busy
  cases busy

/-- A binding changes only by the turn of its own entry. -/
theorem binding_move {m : Machine} (orderly : m.Orderly) {b : Nat} {bd : Binding}
    (there : m.session.world.bindings[b]? = some bd) :
    m.move.session.world.bindings[b]? = some bd ∨
      m.turn? bd.subscription.store = some (bd.subscription.id, .refresh b) := by
  by_cases top : ∃ c rest, m.stack = .cycle c :: rest
  · obtain ⟨c, rest, top⟩ := top
    have moved : m.move = m.turn c rest := by rw [move, top]
    rw [moved]
    cases next : c.due with
    | nil => exact .inl (by rw [turn_of_done next]; exact there)
    | cons entry due =>
      obtain ⟨id, callback⟩ := entry
      by_cases called : m.session.world.isDue c.store id = true
      · cases callback with
        | run program => exact .inl (by rw [turn_run next called]; exact there)
        | refresh b₁ =>
          by_cases same : b₁ = b
          · subst same
            have going : c ∈ m.cycles := mem_cyclesOf.mpr (top ▸ List.mem_cons_self)
            have own := orderly.sound.owned.of_called orderly.sound.due going
              (next ▸ List.mem_cons_self) called
            obtain ⟨bd₁, there₁, subscription⟩ := Option.map_eq_some_iff.mp own
            obtain rfl : bd₁ = bd := Option.some.inj (there₁.symm.trans there)
            exact .inr (by simp [turn?, top, next, subscription])
          · rw [turn_refresh next called]
            exact .inl ((World.getElem?_refresh_of_ne _ same _).trans there)
      · exact .inl (by rw [turn_of_removed next called]; exact there)
  · have chain := (move_chain m orderly.ordered).2
    refine .inl (chain.binding_kept ?_ there)
    intro i member
    have event : m.event? = some (.turned i) := by simpa using member
    unfold event? at event
    split at event
    · exact top ⟨_, _, ‹_›⟩
    · obtain ⟨step, _, event⟩ := Option.bind_eq_some_iff.mp event
      exact event?_ne_turned _ step i event

/-- Before the turn of its entry a binding stays as it is. -/
theorem binding_run {m : Machine} (orderly : m.Orderly) {b n : Nat} {bd : Binding}
    (there : m.session.world.bindings[b]? = some bd)
    (before : ∀ k < n, (run k m).turn? bd.subscription.store ≠
      some (bd.subscription.id, .refresh b)) :
    (run n m).session.world.bindings[b]? = some bd := by
  induction n with
  | zero => exact there
  | succ n ih =>
    have now := ih fun k lt => before k (by omega)
    rw [← run_move]
    rcases binding_move (orderly.run n) now with same | turn
    · exact same
    · exact absurd turn (before n (by omega))

/-- A store that is being notified accepted a switch some moves ago. -/
theorem accepted_before (root : String) (steps : List Step) {n i : Nat}
    (busy : (run n (start root steps)).InCycle i) :
    ∃ a k l, n = a + 1 + k ∧ (run a (start root steps)).event? = some (.accepted i l) ∧
      ∀ j ≤ k, (run (a + 1 + j) (start root steps)).InCycle i := by
  induction n with
  | zero =>
    obtain ⟨c, member, _⟩ := busy
    cases List.mem_singleton.mp member
  | succ n ih =>
    have chain := (move_chain _ (orderly_run root steps n).ordered).2
    rw [run_move] at chain
    rcases chain.active_before (inCycle_iff.mp busy) with before | ⟨l, member⟩
    · obtain ⟨a, k, l, rfl, event, going⟩ := ih (inCycle_iff.mpr before)
      refine ⟨a, k + 1, l, rfl, event, ?_⟩
      intro j le
      by_cases last : j = k + 1
      · subst last
        exact busy
      · exact going j (by omega)
    · refine ⟨n, 0, l, rfl, by simpa using member, ?_⟩
      intro j le
      obtain rfl : j = 0 := by omega
      exact busy

/-- Since the move of this machine, which began a cycle of store `i`, binding `b` was made, or in
one of the `k` moves after that it had its turn. -/
def Renews (m : Machine) (i k b id : Nat) : Prop :=
  m.session.world.bindings[b]? = none ∨ ∃ j, (j, id, .refresh b) ∈ m.move.turns i k

section Midway

variable {m : Machine} {i k b : Nat} {l : Language} {s : Store Reaction} {bd : Binding}

/-- In a cycle, what was not renewed shows the strings from before the switch. -/
theorem current_before_turn (orderly : m.Orderly) (event : m.event? = some (.accepted i l))
    (there : m.session.world.stores[i]? = some s) (held : b ∈ (run k m.move).holding.bindings)
    (now : (run k m.move).session.world.bindings[b]? = some bd)
    (store : bd.subscription.store = i) (old : ¬ m.Renews i k b bd.subscription.id) :
    bd.current = s.state.value.strings := by
  obtain ⟨s₁, c, there₁, free, _, _, _, _, _, _, bindings, _, _⟩ := move_accepted event
  obtain rfl : s₁ = s := Option.some.inj (there₁.symm.trans there)
  obtain ⟨made, late⟩ := not_or.mp old
  obtain ⟨bd₀, before⟩ := Option.ne_none_iff_exists'.mp made
  have chain := (run_chain (k + 1) m orderly.ordered).2
  rw [run_succ] at chain
  obtain ⟨kept, held_before⟩ := chain.binding_before (World.subscription?_of before)
  have same : bd₀.subscription = bd.subscription :=
    Option.some.inj (kept.symm.trans (World.subscription?_of now))
  have frozen := binding_run orderly.move (bindings ▸ before) fun j lt turn =>
    late ⟨j, mem_turns.mpr ⟨lt, by rwa [same, store] at turn⟩⟩
  obtain rfl : bd₀ = bd := Option.some.inj (frozen.symm.trans now)
  subst store
  exact orderly.sound.current_of_idle (held_before held) before (state_of there)
    (not_pending orderly there free)

/-- The entry of a binding that was made since has a new number. -/
theorem id_of_made (orderly : m.Orderly) {r : Roster Reaction}
    (roster : m.holding.rosters[bd.subscription.store]? = some r)
    (made : m.session.world.bindings[b]? = none) (held : b ∈ (run k m).holding.bindings)
    (now : (run k m).session.world.bindings[b]? = some bd)
    (lives : (run k m).holding.Lives bd.subscription.store) : r.next ≤ bd.subscription.id := by
  -- An entry with an older number was there already, and the binding with it.
  by_contra old
  have later := (orderly.run k).sound
  obtain ⟨r₁, there₁, registered₁⟩ :=
    later.owned.registered later.enrolled held (World.subscription?_of now) lives
  have first : m.Registered bd.subscription.store (bd.subscription.id, .refresh b) :=
    registered_of_later orderly roster (Nat.lt_of_not_le old) (Nat.zero_le k)
      (registered_iff.mpr ⟨r₁, there₁, registered₁⟩)
  obtain ⟨r₂, there₂, registered₂⟩ := registered_iff.mp first
  have own := orderly.sound.owned.entry _ _ _ _ there₂ registered₂
  obtain ⟨bd₀, before, _⟩ := Option.map_eq_some_iff.mp own
  cases before.symm.trans made

/-- What was renewed in a cycle is not due in it any more. -/
theorem not_pending_of_renewed (orderly : m.Orderly) (event : m.event? = some (.accepted i l))
    (going : ∀ j ≤ k, (run j m.move).InCycle i) (held : b ∈ (run k m.move).holding.bindings)
    (now : (run k m.move).session.world.bindings[b]? = some bd)
    (store : bd.subscription.store = i) (new : m.Renews i k b bd.subscription.id) :
    ¬ (run k m.move).holding.Pending bd.subscription := by
  obtain ⟨s, c₀, there, _, _, begun, rfl, due₀, _, stores, bindings, _, _⟩ := move_accepted event
  have orderly₁ := orderly.move
  obtain ⟨c, going_now, same_store, _, split⟩ := underway orderly₁ begun going
  have here : m.move.session.world.stores[c₀.store]? =
      some { s with state := c₀.state, notifying := true } := by
    rw [stores, List.getElem?_set_self (List.getElem?_eq_some_iff.mp there).1]
  have roster := roster_of here
  have ordered := orderly₁.sound.rostered _ _ roster
  rintro ⟨c₁, going₁, store₁, member⟩
  -- No store has two cycles, so the one in which it is due is the one that goes on.
  obtain rfl : c₁ = c := List.inj_on_of_nodup_map (orderly₁.run k).sound.flagged.once going₁
    going_now (store₁.trans (store.trans same_store.symm))
  obtain ⟨⟨id, callback⟩, still, same⟩ := List.mem_map.mp member
  change id = bd.subscription.id at same
  subst same
  rcases new with made | ⟨j, turn⟩
  · have subscriber : (bd.subscription.id, callback) ∈ s.subscribers := by
      rw [← due₀, ← split]
      exact List.mem_append_right _ still
    have below := ordered.below _ (List.mem_map_of_mem subscriber)
    have lives : (run k m.move).holding.Lives bd.subscription.store :=
      .inr (inCycle_iff.mp (store ▸ going k (Nat.le_refl k)))
    have above := id_of_made orderly₁ (store ▸ roster) (bindings ▸ made) held now lives
    omega
  · have nodup := ordered.nodup
    have passed := List.mem_map_of_mem (f := Prod.snd) turn
    change (s.subscribers.map Prod.fst).Nodup at nodup
    rw [← due₀, ← split, List.map_append, List.nodup_append] at nodup
    exact nodup.2.2 _ (List.mem_map_of_mem passed) _ (List.mem_map_of_mem still) rfl

/-- In a cycle, what was renewed shows the strings of the switch. -/
theorem current_after_turn (orderly : m.Orderly) (event : m.event? = some (.accepted i l))
    (going : ∀ j ≤ k, (run j m.move).InCycle i) (held : b ∈ (run k m.move).holding.bindings)
    (now : (run k m.move).session.world.bindings[b]? = some bd)
    (store : bd.subscription.store = i) (new : m.Renews i k b bd.subscription.id) :
    bd.current = l.strings := by
  have idle := not_pending_of_renewed orderly event going held now store new
  obtain ⟨_, c₀, _, _, _, begun, rfl, _, rfl, _, _, _, _⟩ := move_accepted event
  obtain ⟨c, going_now, same_store, same_state, _⟩ := underway orderly.move begun going
  have sound := (orderly.move.run k).sound
  have state := sound.due.state c going_now
  rw [same_store, same_state, ← store] at state
  exact sound.current_of_idle held now state idle

end Midway

/-- What is gone stays so, and its bindings with it. -/
theorem binding_of_gone {m : Machine} (orderly : m.Orderly) {b : Nat} {bd : Binding}
    {s : Store Reaction} (there : m.session.world.bindings[b]? = some bd)
    (known : m.session.world.stores[bd.subscription.store]? = some s)
    (gone : s.isAlive = false) (k : Nat) :
    (run k m).session.world.bindings[b]? = some bd ∧
      ¬ (run k m).holding.Lives bd.subscription.store := by
  have dead : ¬ m.holding.Lives bd.subscription.store := fun lives => by
    have alive := (Store.isAlive_iff orderly.sound.flagged orderly.sound.counted known).mpr lives
    rw [gone] at alive
    cases alive
  have chain := (run_chain k m orderly.ordered).2
  exact (chain.preserves (P := fun h => Sound h ∧ h.world.bindings[b]? = some bd ∧
      ¬ h.Lives bd.subscription.store)
    (fun change ⟨sound, now, dead⟩ => ⟨sound.step change, sound.step_gone change now dead⟩)
    ⟨orderly.sound, there, dead⟩).2

/-- A page shows what a page with its template and its form shows when it is made anew. -/
theorem render_page {m : Machine} (orderly : m.Orderly) (parsed : m.session.Parsed) {name : String}
    {p : OpenPage} {bd : Binding} {s : Store Reaction}
    (found : m.session.page? name = some (p, bd))
    (there : m.session.world.stores[bd.subscription.store]? = some s) (free : s.notifying = false) :
    ∃ template text, p.template = Template.parse template ∧
      m.session.perform (.render name) = .reply m.session (.text text) ∧
      ∀ root, ((remounted root m.session.color s.state.value template p.form).perform
        (.render "page")).answer = .text text := by
  obtain ⟨p₁, named, bound⟩ := Option.bind_eq_some_iff.mp found
  obtain ⟨bd₁, now, same⟩ := Option.bind_eq_some_iff.mp bound
  obtain ⟨rfl, rfl⟩ := Prod.mk.inj (Option.some.inj same)
  have page := Keyed.mem_values_of_find? named
  obtain ⟨template, parse⟩ := parsed p₁ page
  have held : p₁.binding ∈ m.holding.bindings :=
    List.mem_append_right _ (List.mem_map_of_mem page)
  have state := state_of there
  have current := orderly.sound.current_of_idle held now state (not_pending orderly there free)
  refine ⟨template, m.session.pageText p₁ bd₁ .login, parse, ?_, ?_⟩
  · simp [Session.perform, performPage, found, orInvalid]
  · intro root
    rw [render_remounted, pageText, parse, current]

/-- While a store is notifying, its bindings are split by the turns of the cycle. -/
theorem bindings_midway (root : String) (steps : List Step) {n i : Nat}
    (busy : (run n (start root steps)).isNotifying i = true) :
    ∃ a k l s, n = a + 1 + k ∧ (run a (start root steps)).event? = some (.accepted i l) ∧
      (run a (start root steps)).session.world.stores[i]? = some s ∧
      (∀ j ≤ k, (run j (run a (start root steps)).move).isNotifying i = true) ∧
      ∀ b ∈ (run n (start root steps)).holding.bindings, ∀ bd,
        (run n (start root steps)).session.world.bindings[b]? = some bd →
        bd.subscription.store = i →
        ((run a (start root steps)).Renews i k b bd.subscription.id → bd.current = l.strings) ∧
        (¬ (run a (start root steps)).Renews i k b bd.subscription.id →
          bd.current = s.state.value.strings) := by
  have notifying := (orderly_run root steps n).isNotifying_iff.mp busy
  obtain ⟨a, k, l, rfl, event, going⟩ := accepted_before root steps notifying
  have orderly := orderly_run root steps a
  obtain ⟨s, _, there, _⟩ := move_accepted event
  have after : ∀ j, run (a + 1 + j) (start root steps) = run j (run a (start root steps)).move := by
    intro j
    rw [run_add, run_move]
  refine ⟨a, k, l, s, rfl, event, there, ?_, ?_⟩
  · intro j le
    rw [← after]
    exact (orderly_run root steps _).isNotifying_iff.mpr (going j le)
  · intro b held bd now store
    rw [after k] at held now
    constructor
    · exact current_after_turn orderly event (fun j le => after j ▸ going j le) held now store
    · exact current_before_turn orderly event there held now store

/-- At every moment of every run, inside reactions too. -/
theorem bindings_follow_stores (root : String) (steps : List Step) (n : Nat) :
    let m := run n (start root steps)
    (∀ b ∈ m.holding.bindings, ∃ bd s, m.session.world.bindings[b]? = some bd ∧
      m.session.world.stores[bd.subscription.store]? = some s ∧
      (s.notifying = false → bd.current = s.state.value.strings)) ∧
    (∀ (name : String) (p : OpenPage) (bd : Binding) (s : Store Reaction),
      m.session.page? name = some (p, bd) →
      m.session.world.stores[bd.subscription.store]? = some s → s.notifying = false →
      ∃ template text, p.template = Template.parse template ∧
        m.session.perform (.render name) = .reply m.session (.text text) ∧
        ∀ root, ((remounted root m.session.color s.state.value template p.form).perform
          (.render "page")).answer = .text text) ∧
    ((∀ step, m.next? = some step → step.isPageStep = false) →
      m.move.session.pages = m.session.pages) ∧
    (∀ i, m.isNotifying i = true → ∃ a k l s, n = a + 1 + k ∧
      (run a (start root steps)).event? = some (.accepted i l) ∧
      (run a (start root steps)).session.world.stores[i]? = some s ∧
      (∀ j ≤ k, (run j (run a (start root steps)).move).isNotifying i = true) ∧
      ∀ b ∈ m.holding.bindings, ∀ bd, m.session.world.bindings[b]? = some bd →
        bd.subscription.store = i →
        ((run a (start root steps)).Renews i k b bd.subscription.id → bd.current = l.strings) ∧
        (¬ (run a (start root steps)).Renews i k b bd.subscription.id →
          bd.current = s.state.value.strings)) ∧
    ∀ (b : Nat) (bd : Binding) (s : Store Reaction), m.session.world.bindings[b]? = some bd →
      m.session.world.stores[bd.subscription.store]? = some s → s.isAlive = false →
      ∀ k, (run k m).session.world.bindings[b]? = some bd ∧
        ∃ s, (run k m).session.world.stores[bd.subscription.store]? = some s ∧
          s.isAlive = false := by
  intro m
  have orderly : m.Orderly := orderly_run root steps n
  refine ⟨?_, ?_, m.pages_move, ?_, ?_⟩
  · intro b held
    obtain ⟨bd, s, now, there⟩ := orderly.sound.bound_to held
    refine ⟨bd, s, now, there, fun free => ?_⟩
    have state := World.getElem?_column Store.state there
    exact orderly.sound.current_of_idle held now state (not_pending orderly there free)
  · intro name p bd s found there free
    exact render_page orderly (parsed_run root steps n) found there free
  · intro i busy
    exact bindings_midway root steps busy
  · intro b bd s now there gone k
    obtain ⟨later, dead⟩ := binding_of_gone orderly now there gone k
    have sound := (orderly.run k).sound
    obtain ⟨r, roster, _⟩ := sound.owned.own b bd.subscription (World.subscription?_of later)
    have here := List.getElem?_eq_getElem (known_of_roster roster)
    refine ⟨later, _, here, Bool.eq_false_iff.mpr fun alive => dead ?_⟩
    exact (Store.isAlive_iff sound.flagged sound.counted here).mp alive

/-- In the midst of a cycle, with one binding that had its turn, one that waits and a new one. -/
example :
    (run 14 (start "" [.newStore "s" .english, .bind "s" "a", .subscribe "s" "u" [.bind "s" "c"],
      .bind "s" "b", .dispatch "s" .toRussian])).session.world.bindings.map
        (fun b => b.current.language) = [.russian, .english, .russian] := by
  decide

end Machine

end Session

end LoginCard
