import LoginCard.Proofs.Keeping

/-!
# Pages and their forms

Only the steps on pages themselves touch the pages of a session. Whatever stores, subscriptions and
cycles do, every page keeps its template and its form.
-/

namespace LoginCard.Session

/-- The steps that make, fill in and drop pages. -/
def Step.isPageStep : Step → Bool
  | .page .. | .fill .. | .dropPage .. => true
  | _ => false

section Keeping

variable {s : Session}

theorem pages_dropHandle (s : Session) (i : Option Nat) : (s.dropHandle i).pages = s.pages := by
  cases i <;> rfl

theorem pages_dropSubscription (s : Session) (sub : Option Subscription) :
    (s.dropSubscription sub).pages = s.pages := by
  cases sub <;> rfl

theorem pages_dropBinding (s : Session) (b : Option Nat) : (s.dropBinding b).pages = s.pages := by
  cases b <;> rfl

theorem pages_onStorage {α : Type} (name : String) (f : Mounted → α × Mounted × List LogRecord)
    (reply : α → Reply) : (s.onStorage name f reply).session.pages = s.pages := by
  unfold onStorage
  split <;> rfl

theorem pages_ofDispatched (accepted refused : Reply) (d : Option (Dispatched Reaction)) :
    (s.ofDispatched accepted refused d).session.pages = s.pages := by
  unfold ofDispatched
  split <;> rfl

theorem keepsPages_performStorage (step : Step) : s.Keeps pages (s.performStorage step) := by
  cases step with
  | storage => exact keeps_some rfl
  | get | set | save | load | restore => exact keeps_some (pages_onStorage _ _ _)
  | calls => exact keeps_bind fun _ _ => keeps_bind fun _ _ => keeps_some rfl
  | _ => exact keeps_none

theorem keepsPages_performStore (step : Step) : s.Keeps pages (s.performStore step) := by
  cases step with
  | newStore => exact keeps_some (pages_dropHandle _ _)
  | openStore =>
    exact keeps_bind fun _ _ => keeps_bind fun _ _ => keeps_some (pages_dropHandle _ _)
  | cloneStore => exact keeps_bind fun _ _ => keeps_some (pages_dropHandle _ _)
  | dispatch | setLocale =>
    exact keeps_bind fun _ _ => keeps_some (pages_ofDispatched _ _ _)
  | dropStore | locale | describeStore => exact keeps_bind fun _ _ => keeps_some rfl
  | _ => exact keeps_none

theorem keepsPages_performSubscription (step : Step) :
    s.Keeps pages (s.performSubscription step) := by
  cases step with
  | subscribe =>
    exact keeps_bind fun _ _ => keeps_bind fun _ _ =>
      keeps_some (pages_dropSubscription _ _)
  | unsubscribe | dropSubscription | describeSubscription =>
    exact keeps_bind fun _ _ => keeps_some rfl
  | _ => exact keeps_none

theorem keepsPages_performState (step : Step) : s.Keeps pages (s.performState step) := by
  cases step with
  | freshState | selector => exact keeps_some rfl
  | snapshot => exact keeps_bind fun _ _ => keeps_some rfl
  | sameState | select | sameOutput =>
    exact keeps_bind fun _ _ => keeps_bind fun _ _ => keeps_some rfl
  | _ => exact keeps_none

theorem pages_submit (p : OpenPage) (accept : Bool) :
    (s.submit p accept).session.pages = s.pages := by
  unfold submit
  dsimp only
  split <;> rfl

theorem keepsPages_performPage {step : Step} (other : step.isPageStep = false) :
    s.Keeps pages (s.performPage step) := by
  cases step with
  | page | fill | dropPage => cases other
  | bind =>
    exact keeps_bind fun _ _ => keeps_bind fun _ _ => keeps_some (pages_dropBinding _ _)
  | binding | dropBinding | render | renderPath | pageInfo =>
    exact keeps_bind fun _ _ => keeps_some rfl
  | submit => exact keeps_bind fun _ _ => keeps_some (pages_submit _ _)
  | _ => exact keeps_none

/-- A step that is not one on pages leaves them as they are. -/
theorem pages_perform (s : Session) {step : Step} (other : step.isPageStep = false) :
    (s.perform step).session.pages = s.pages := by
  cases step with
  | plantFile path content =>
    cases content with
    | none => rfl
    | some entry => cases entry <;> rfl
  | viewFile | clearFile | color | unsupported | unreadable => rfl
  | storage | get | set | calls | save | load | restore =>
    exact (keepsPages_performStorage _).orInvalid
  | newStore | openStore | cloneStore | dropStore | dispatch | setLocale | locale
  | describeStore => exact (keepsPages_performStore _).orInvalid
  | subscribe | unsubscribe | dropSubscription | describeSubscription =>
    exact (keepsPages_performSubscription _).orInvalid
  | snapshot | freshState | sameState | selector | select | sameOutput =>
    exact (keepsPages_performState _).orInvalid
  | bind | binding | dropBinding | page | fill | render | renderPath | pageInfo | submit
  | dropPage => exact (keepsPages_performPage other).orInvalid

/-- Every page was made of the text of a template. -/
def Parsed (s : Session) : Prop :=
  ∀ p ∈ Keyed.values s.pages, ∃ template, p.template = Template.parse template

theorem parsed_insert {pages : Keyed OpenPage} {name : String} {p : OpenPage}
    (parsed : ∀ q ∈ Keyed.values pages, ∃ template, q.template = Template.parse template)
    (new : ∃ template, p.template = Template.parse template) :
    ∀ q ∈ Keyed.values (Keyed.insert name p pages), ∃ template,
      q.template = Template.parse template := by
  intro q member
  obtain ⟨e, named, rfl⟩ := List.mem_map.mp member
  rcases Keyed.mem_insert named with rfl | old
  · exact new
  · exact parsed e.2 (List.mem_map_of_mem old)

theorem parsed_pageStep (parsed : s.Parsed) {step : Step} (edit : step.isPageStep = true)
    {q : Performed} (performed : s.performPage step = some q) : q.session.Parsed := by
  cases step with
  | page store name template =>
    obtain ⟨_, _, performed⟩ := Option.bind_eq_some_iff.mp performed
    obtain ⟨_, _, performed⟩ := Option.bind_eq_some_iff.mp performed
    obtain rfl := Option.some.inj performed
    rw [Parsed, Performed.session, namePage, pages_dropBinding]
    exact parsed_insert parsed ⟨template, rfl⟩
  | fill name username password =>
    obtain ⟨p, found, performed⟩ := Option.bind_eq_some_iff.mp performed
    obtain rfl := Option.some.inj performed
    exact parsed_insert parsed (parsed p (Keyed.mem_values_of_find? found))
  | dropPage name =>
    obtain ⟨p, _, performed⟩ := Option.bind_eq_some_iff.mp performed
    obtain rfl := Option.some.inj performed
    intro q member
    obtain ⟨e, named, rfl⟩ := List.mem_map.mp member
    exact parsed e.2 (List.mem_map_of_mem (List.mem_filter.mp named).1)
  | _ => cases edit

/-- No step makes a page of anything but the text of a template. -/
theorem parsed_perform (parsed : s.Parsed) (step : Step) : (s.perform step).session.Parsed := by
  cases edit : step.isPageStep with
  | false =>
    rw [Parsed, pages_perform s edit]
    exact parsed
  | true =>
    have performed : s.perform step = s.orInvalid (s.performPage step) := by
      cases step <;> first | rfl | cases edit
    rw [performed]
    cases answer : s.performPage step with
    | none => exact parsed
    | some q => exact parsed_pageStep parsed edit answer

end Keeping

/-- A session in which a page is made anew, on a new store, with its form filled in. -/
def remounted (root : String) (color : Bool) (l : Language) (template : String)
    (form : LoginForm) : Session :=
  let s := { Session.new root with color }
  let s := (s.perform (.newStore "store" l)).session
  let s := (s.perform (.page "store" "page" template)).session
  (s.perform (.fill "page" (some form.username) (some form.password))).session

/-- A page that is made anew shows the template in the language of its store. -/
theorem render_remounted (root : String) (color : Bool) (l : Language) (template : String)
    (form : LoginForm) :
    ((remounted root color l template form).perform (.render "page")).answer =
      .text (Page.ofRoute .login (Template.parse template) l.strings form color) := by
  simp [remounted, perform, performStore, performPage, orInvalid, Performed.session, Session.new,
    World.addStore, World.newReference, World.empty, nameStore, Keyed.find?, dropHandle,
    Keyed.insert, store?, World.bind, World.subscribe, World.onStore, Selector.new,
    Selector.select, Selector.compute, namePage, dropBinding, page?, binding?, pageText,
    Performed.answer]

namespace Machine

/-- A move that performs no step on pages leaves the pages as they are. -/
theorem pages_move (m : Machine) (other : ∀ step, m.next? = some step → step.isPageStep = false) :
    m.move.session.pages = m.session.pages := by
  cases next : m.next? with
  | some step => rw [session_move_of_next next, pages_perform _ (other step next)]
  | none =>
    obtain ⟨w, moved, _⟩ := session_move_of_none next
    rw [moved]

theorem parsed_move {m : Machine} (parsed : m.session.Parsed) : m.move.session.Parsed := by
  cases next : m.next? with
  | some step =>
    rw [session_move_of_next next]
    exact parsed_perform parsed step
  | none =>
    rw [Parsed, m.pages_move fun step here => by simp [next] at here]
    exact parsed

theorem parsed_run (root : String) (steps : List Step) (n : Nat) :
    (run n (start root steps)).session.Parsed := by
  induction n with
  | zero =>
    intro p member
    cases member
  | succ n ih =>
    rw [← run_move]
    exact parsed_move ih

end Machine

end LoginCard.Session
