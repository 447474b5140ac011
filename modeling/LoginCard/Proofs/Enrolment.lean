import LoginCard.Proofs.Handles
import LoginCard.Proofs.Rosters

/-!
# The subscribers of a store and the subscriptions that are held

While a store lives, its subscribers are exactly those whose subscription somebody holds. So to let
go of a subscription takes one entry off one roster.
-/

namespace LoginCard

variable {ρ : Type} {h h' : Holding ρ} {e : Option Event}

/-- The numbers of those subscriptions that are of store `i`. -/
def Subscription.idsAt (i : Nat) (subs : List Subscription) : List Nat :=
  (subs.filter fun sub => sub.store = i).map Subscription.id

namespace Subscription

theorem idsAt_perm {subs subs' : List Subscription} (h : subs.Perm subs') (i : Nat) :
    (idsAt i subs).Perm (idsAt i subs') :=
  (h.filter _).map _

theorem idsAt_here {i : Nat} (sub : Subscription) (h : sub.store = i)
    (subs : List Subscription) : idsAt i (sub :: subs) = sub.id :: idsAt i subs := by
  simp [idsAt, h]

theorem idsAt_other {i : Nat} {sub : Subscription} (h : sub.store ≠ i)
    (subs : List Subscription) : idsAt i (sub :: subs) = idsAt i subs := by
  simp [idsAt, h]

theorem idsAt_eq_nil {i : Nat} {subs : List Subscription} (h : ∀ sub ∈ subs, sub.store ≠ i) :
    idsAt i subs = [] := by
  simpa [idsAt, List.filter_eq_nil_iff] using h

end Subscription

theorem known_of_roster {i : Nat} {r : Roster ρ} (there : h.rosters[i]? = some r) :
    i < h.world.stores.length := by
  simpa [Holding.rosters] using (List.getElem?_eq_some_iff.mp there).1

/-- The subscribers of each store that lives are those whose subscription is held. -/
structure Enrolled (h : Holding ρ) : Prop where
  held : ∀ (i : Nat) (r : Roster ρ), h.rosters[i]? = some r → h.Lives i →
    r.ids.Perm (Subscription.idsAt i h.issued)
  known : ∀ sub ∈ h.issued, sub.store < h.world.stores.length
  bound : ∀ b ∈ h.bindings, b < h.world.bindings.length

namespace Enrolled

theorem start (files : FileTree) : Enrolled (Holding.start files : Holding ρ) := by
  constructor <;>
    simp [Holding.rosters, Holding.start, World.empty, World.column, Holding.issued]

theorem of_same (enrolled : Enrolled h) (rosters : h'.rosters = h.rosters)
    (lives : ∀ i < h.world.stores.length, h'.Lives i → h.Lives i)
    (issued : h.issued.Perm h'.issued)
    (bound : ∀ b ∈ h'.bindings, b < h'.world.bindings.length) : Enrolled h' := by
  have length : h'.world.stores.length = h.world.stores.length := by
    simpa [Holding.rosters] using congrArg List.length rosters
  constructor
  · rw [rosters]
    intro i r hr alive
    have before := enrolled.held i r hr (lives i (known_of_roster hr) alive)
    exact before.trans (Subscription.idsAt_perm issued i)
  · rw [length]
    intro sub held
    exact enrolled.known sub (issued.mem_iff.mpr held)
  · exact bound

/-- One more subscriber, and one more subscription held. -/
theorem added (enrolled : Enrolled h) {i : Nat} {r : Roster ρ} {callback : Callback ρ}
    (there : h.rosters[i]? = some r) (rosters : h'.rosters = h.rosters.set i (r.add callback))
    (lives : ∀ j < h.world.stores.length, h'.Lives j → h.Lives j)
    (issued : (⟨i, r.next⟩ :: h.issued).Perm h'.issued)
    (bound : ∀ b ∈ h'.bindings, b < h'.world.bindings.length) : Enrolled h' := by
  have length : h'.world.stores.length = h.world.stores.length := by
    simpa [Holding.rosters] using congrArg List.length rosters
  have known := known_of_roster there
  have after : ∀ j r', h'.rosters[j]? = some r' →
      i = j ∧ r' = r.add callback ∨ i ≠ j ∧ h.rosters[j]? = some r' := by
    intro j r' hr
    rw [rosters] at hr
    exact of_getElem?_set hr
  constructor
  · intro j r' hr alive
    have ids := Subscription.idsAt_perm issued j
    rcases after j r' hr with ⟨rfl, rfl⟩ | ⟨other, old⟩
    · rw [Subscription.idsAt_here ⟨i, r.next⟩ rfl] at ids
      rw [Roster.ids_add]
      have before := enrolled.held i r there (lives i known alive)
      exact (List.perm_append_singleton _ _).trans ((before.cons _).trans ids)
    · rw [Subscription.idsAt_other other] at ids
      exact (enrolled.held j r' old (lives j (known_of_roster old) alive)).trans ids
  · rw [length]
    intro sub member
    rcases List.mem_cons.mp (issued.mem_iff.mpr member) with rfl | old
    · exact known
    · exact enrolled.known sub old
  · exact bound

/-- One subscription let go. Where its store lives, its own entry goes with it. -/
theorem removed (enrolled : Enrolled h) (rostered : Rostered h) (sub : Subscription)
    (issued : h.issued.Perm (sub :: h'.issued))
    (lives : ∀ j < h.world.stores.length, h'.Lives j → h.Lives j)
    (rosters : h.Lives sub.store → ∀ r, h.rosters[sub.store]? = some r →
      h'.rosters = h.rosters.set sub.store (r.without sub.id))
    (gone : ¬ h.Lives sub.store → h'.rosters = h.rosters)
    (bound : ∀ b ∈ h'.bindings, b < h'.world.bindings.length) : Enrolled h' := by
  have known := enrolled.known sub (issued.mem_iff.mpr List.mem_cons_self)
  obtain ⟨r, there⟩ : ∃ r, h.rosters[sub.store]? = some r :=
    ⟨_, List.getElem?_eq_getElem (by simpa [Holding.rosters] using known)⟩
  have ordered := rostered _ r there
  have after : ∀ j r', h'.rosters[j]? = some r' →
      h.rosters[j]? = some r' ∧ (h.Lives j → sub.store ≠ j) ∨
        sub.store = j ∧ r' = r.without sub.id := by
    intro j r' hr
    by_cases alive : h.Lives sub.store
    · rw [rosters alive r there] at hr
      rcases of_getElem?_set hr with here | ⟨other, old⟩
      · exact .inr here
      · exact .inl ⟨old, fun _ => other⟩
    · rw [gone alive] at hr
      exact .inl ⟨hr, fun live here => alive (here ▸ live)⟩
  have length : h'.world.stores.length = h.world.stores.length := by
    by_cases alive : h.Lives sub.store
    · simpa [Holding.rosters] using congrArg List.length (rosters alive r there)
    · simpa [Holding.rosters] using congrArg List.length (gone alive)
  constructor
  · intro j r' hr alive
    have ids := Subscription.idsAt_perm issued j
    rcases after j r' hr with ⟨old, other⟩ | ⟨rfl, rfl⟩
    · have alive := lives j (known_of_roster old) alive
      rw [Subscription.idsAt_other (other alive)] at ids
      exact (enrolled.held j r' old alive).trans ids
    · rw [Subscription.idsAt_here sub rfl] at ids
      have before := (enrolled.held _ r there (lives _ known alive)).trans ids
      -- No other subscription of this store has the number, so the filter takes just one.
      have once : sub.id ∉ Subscription.idsAt sub.store h'.issued :=
        (List.nodup_cons.mp (before.nodup_iff.mp ordered.nodup)).1
      have kept : (Subscription.idsAt sub.store h'.issued).filter (· ≠ sub.id) =
          Subscription.idsAt sub.store h'.issued := by
        apply List.filter_eq_self.mpr
        intro id member
        simpa using fun same : id = sub.id => once (same ▸ member)
      have left := before.filter (· ≠ sub.id)
      rw [List.filter_cons_of_neg (by simp), kept] at left
      rw [Roster.ids_without]
      exact left
  · rw [length]
    intro other member
    exact enrolled.known other (issued.mem_iff.mpr (List.mem_cons_of_mem _ member))
  · exact bound

/-- To let go of a subscription takes its number off the roster of a store that lives. -/
theorem rosters_detach (flagged : Flagged h) (counted : Counted h) (sub : Subscription) :
    (h.Lives sub.store → ∀ r, h.rosters[sub.store]? = some r →
        (h.world.detach sub).column Store.roster = h.rosters.set sub.store (r.without sub.id)) ∧
      (¬ h.Lives sub.store → (h.world.detach sub).column Store.roster = h.rosters) := by
  constructor
  · intro lives r hr
    obtain ⟨s, there, rfl⟩ := World.of_column hr
    have alive := (Store.isAlive_iff flagged counted there).mpr lives
    exact World.column_set Store.roster (World.detach_eq there alive)
  · intro dead
    rw [World.detach_gone, Holding.rosters]
    intro s there
    apply Bool.eq_false_iff.mpr
    intro alive
    exact dead ((Store.isAlive_iff flagged counted there).mp alive)

/-- Whatever comes to be held or is let go of, its entry comes and goes with it. -/
theorem step (change : Change h e h') (flagged : Flagged h) (counted : Counted h)
    (rostered : Rostered h) (enrolled : Enrolled h) : Enrolled h' := by
  have lives : ∀ i < h.world.stores.length, h'.Lives i → h.Lives i := fun _ =>
    change.lives_before
  cases change with
  | aside beside =>
    apply enrolled.of_same (World.column_of_stores _ beside.stores) lives
    · rw [Holding.issued, Holding.issued, World.subscription?_of_bindings beside.bindings]
    · simpa [beside.bindings] using enrolled.bound
  | arranged handles subscriptions bindings =>
    refine enrolled.of_same rfl lives (subscriptions.append (bindings.filterMap _)) ?_
    intro b member
    exact enrolled.bound b (bindings.mem_iff.mpr member)
  | opened l storage =>
    have after : ∀ i (r : Roster ρ),
        ((h.world.addStore l storage).2.column Store.roster)[i]? = some r →
          i = h.world.stores.length ∧ r = ⟨[], 0⟩ ∨
            i ≠ h.world.stores.length ∧ h.rosters[i]? = some r := by
      intro i r hr
      rw [World.getElem?_column_addStore] at hr
      split at hr
      · rename_i new
        exact .inl ⟨new, (Option.some.inj hr).symm⟩
      · rename_i old
        exact .inr ⟨old, hr⟩
    constructor
    · intro i r hr alive
      rcases after i r hr with ⟨rfl, rfl⟩ | ⟨_, old⟩
      · have none : Subscription.idsAt h.world.stores.length h.issued = [] :=
          Subscription.idsAt_eq_nil fun sub held => Nat.ne_of_lt (enrolled.known sub held)
        exact List.Perm.of_eq none.symm
      · exact enrolled.held i r old (lives i (known_of_roster old) alive)
    · intro sub held
      have known := enrolled.known sub held
      rw [World.length_addStore]
      omega
    · exact enrolled.bound
  | retained =>
    exact enrolled.of_same (World.column_onStore fun _ => rfl) lives (.refl _) enrolled.bound
  | released =>
    exact enrolled.of_same (World.column_onStore fun _ => rfl) lives (.refl _) enrolled.bound
  | subscribed held made =>
    obtain ⟨s, there, rfl, rfl⟩ := World.subscribe_eq made
    exact enrolled.added (World.getElem?_column Store.roster there)
      (World.column_set Store.roster (World.stores_onStore_of there _)) lives (.refl _)
      enrolled.bound
  | @detached sub rest held =>
    obtain ⟨alive, dead⟩ := rosters_detach flagged counted sub
    refine enrolled.removed rostered sub ?_ lives alive dead enrolled.bound
    rw [Holding.issued, held]
    exact .refl _
  | bound held made =>
    obtain ⟨s, bd, there, rfl, sub, shows, rfl⟩ := World.bind_eq made
    refine enrolled.added (World.getElem?_column Store.roster there)
      (World.column_set Store.roster (World.stores_onStore_of there _)) lives ?_ ?_
    · generalize bound : World.mk _ _ _ _ _ _ = w
      have old : ∀ b ∈ h.bindings, w.subscription? b = h.world.subscription? b := by
        intro b member
        rw [← bound, World.subscription?, World.subscription?,
          List.getElem?_append_left (enrolled.bound b member)]
      have new : w.subscription? h.world.bindings.length = some bd.subscription := by
        simp [← bound, World.subscription?]
      simp only [Holding.issued, List.filterMap_cons_some new, List.filterMap_congr old]
      exact sub ▸ List.perm_middle.symm
    · intro b member
      rw [List.length_append, List.length_singleton]
      rcases List.mem_cons.mp member with rfl | old
      · omega
      · have known := enrolled.bound b old
        omega
  | @unbound b rest held =>
    have known := enrolled.bound b (held ▸ List.mem_cons_self)
    have there := List.getElem?_eq_getElem known
    have same := World.unbind_eq there
    obtain ⟨alive, dead⟩ := rosters_detach flagged counted h.world.bindings[b].subscription
    rw [← same] at alive dead
    refine enrolled.removed rostered _ ?_ lives alive dead ?_
    · rw [Holding.issued, held, List.filterMap_cons_some (World.subscription?_of there),
        Holding.issued, same]
      exact List.perm_middle
    · intro b' member
      rw [same]
      exact enrolled.bound b' (held ▸ List.mem_cons_of_mem _ member)
  | accepted _ came =>
    obtain ⟨s, there, _, rfl, _, _, _, bindings, stores⟩ := World.dispatch_accepted came
    refine enrolled.of_same (World.column_set_same there stores rfl) lives ?_ ?_
    · rw [Holding.issued, Holding.issued, World.subscription?_of_bindings bindings]
    · simpa [bindings] using enrolled.bound
  | passed =>
    exact enrolled.of_same rfl lives (.refl _) enrolled.bound
  | refreshed =>
    refine enrolled.of_same (World.column_refresh _ _ _ _) lives ?_ ?_
    · rw [Holding.issued, Holding.issued, World.subscription?_refresh]
    · simpa using enrolled.bound
  | ended =>
    exact enrolled.of_same (World.column_onStore fun _ => rfl) lives (.refl _) enrolled.bound

/-- Whoever holds a subscription of a store that lives stands on its roster. -/
theorem registered (enrolled : Enrolled h) {sub : Subscription} {r : Roster ρ}
    (held : sub ∈ h.issued) (there : h.rosters[sub.store]? = some r) (lives : h.Lives sub.store) :
    ∃ callback, (sub.id, callback) ∈ r.subscribers := by
  have id : sub.id ∈ Subscription.idsAt sub.store h.issued :=
    List.mem_map_of_mem (List.mem_filter.mpr ⟨held, by simp⟩)
  rw [← (enrolled.held sub.store r there lives).mem_iff] at id
  obtain ⟨⟨_, callback⟩, member, rfl⟩ := List.mem_map.mp id
  exact ⟨callback, member⟩

/-- Whatever is held, a subscription or a binding, is one subscription. -/
theorem length_issued (enrolled : Enrolled h) :
    h.issued.length = h.subscriptions.length + h.bindings.length := by
  have all : ∀ b ∈ h.bindings, (h.world.subscription? b).isSome = true := by
    intro b held
    simpa [World.subscription?] using enrolled.bound b held
  rw [Holding.issued, List.length_append, List.length_filterMap_eq_countP,
    List.countP_eq_length.mpr all]

end Enrolled

end LoginCard
