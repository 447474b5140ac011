import LoginCard.Proofs.Runs

/-!
# Who gets to the home page

The home route is shown to those who are signed in, and signed in is whom an authority lets in, asked
about a complete form. It is asked once, with both texts as they were typed, and about an incomplete
form not at all. No run of the program has an authority that lets anybody in.
-/

namespace LoginCard

/-! ## Where a path leads -/

namespace Route

/-- Within so many steps a path comes to something that is no redirect. -/
inductive Settles (authenticated : Bool) : Nat → String → Resolution → Prop where
  | shown {steps : Nat} {text : String} {route : Route} :
      resolve text authenticated = .show route → Settles authenticated (steps + 1) text (.show route)
  | lost {steps : Nat} {text unknown : String} :
      resolve text authenticated = .notFound unknown →
        Settles authenticated (steps + 1) text (.notFound unknown)
  | sent {steps : Nat} {text target : String} {r : Resolution} :
      resolve text authenticated = .redirect target → Settles authenticated steps target r →
        Settles authenticated (steps + 1) text r

def shown? : Resolution → Option Route
  | .show route => some route
  | _ => none

/-- Following redirects leads to what the path settles on, so the bound on them is not met. -/
theorem Settles.follow_fst {authenticated : Bool} {steps : Nat} {text : String} {r : Resolution}
    (settles : Settles authenticated steps text r) :
    (follow authenticated steps text).1 = shown? r := by
  induction settles with
  | shown found => simp [follow, found, shown?]
  | lost unknown => simp [follow, unknown, shown?]
  | sent redirected _ ih => simp [follow, redirected, ih]

/-- What a path settles on: the home route only for those who are signed in. -/
def destination (text : String) (authenticated : Bool) : Resolution :=
  match ofPath? text, authenticated with
  | none, _ => .notFound text
  | some .home, true => .show .home
  | some _, _ => .show .login

/-- Nobody is sent on twice. -/
theorem settles (text : String) (authenticated : Bool) (steps : Nat) :
    Settles authenticated (steps + 2) text (destination text authenticated) := by
  -- The login page is where redirects lead, and it is shown to everybody.
  have login : resolve Route.login.path authenticated = .show .login := rfl
  cases known : ofPath? text with
  | none =>
    have unknown : resolve text authenticated = .notFound text := by simp [resolve, known]
    simpa [destination, known] using Settles.lost unknown
  | some route =>
    cases route with
    | login =>
      have found : resolve text authenticated = .show .login := by simp [resolve, known]
      simpa [destination, known] using Settles.shown found
    | home =>
      cases authenticated with
      | false =>
        have redirected : resolve text false = .redirect Route.login.path := by
          simp [resolve, known, guardView]
        simpa [destination, known] using Settles.sent redirected (.shown login)
      | true =>
        have found : resolve text true = .show .home := by simp [resolve, known, guardView]
        simpa [destination, known] using Settles.shown found

/-- Whoever is signed in gets to the route of the path, and everybody else to the login page. -/
theorem navigate_fst (text : String) (authenticated : Bool) :
    (navigate text authenticated).1 =
      (ofPath? text).map fun route => if authenticated then route else .login := by
  have settled : (navigate text authenticated).1 = shown? (destination text authenticated) :=
    (settles text authenticated 2).follow_fst
  rw [settled]
  unfold destination
  cases ofPath? text with
  | none => rfl
  | some route => cases route <;> cases authenticated <;> rfl

/-- The path of a route is the only text for it. -/
theorem ofPath?_eq_some_iff {text : String} (route : Route) :
    ofPath? text = some route ↔ text = route.path := by
  unfold ofPath?
  cases route <;> grind [path]

theorem ofPath?_eq_none_iff {text : String} :
    ofPath? text = none ↔ text ≠ "/" ∧ text ≠ "/login" := by
  unfold ofPath?
  grind

section Navigation

variable {text : String} {authenticated : Bool}

theorem navigate_eq_none_iff :
    (navigate text authenticated).1 = none ↔ text ≠ "/" ∧ text ≠ "/login" := by
  rw [navigate_fst, Option.map_eq_none_iff, ofPath?_eq_none_iff]

theorem navigate_eq_home_iff :
    (navigate text authenticated).1 = some .home ↔ text = "/" ∧ authenticated = true := by
  have home : text = "/" ↔ ofPath? text = some .home := (ofPath?_eq_some_iff .home).symm
  rw [navigate_fst, home]
  cases authenticated <;> simp

theorem navigate_eq_login_iff :
    (navigate text authenticated).1 = some .login ↔
      text = "/login" ∨ text = "/" ∧ authenticated = false := by
  have home : text = "/" ↔ ofPath? text = some .home := (ofPath?_eq_some_iff .home).symm
  have login : text = "/login" ↔ ofPath? text = some .login := (ofPath?_eq_some_iff .login).symm
  rw [navigate_fst, home, login]
  cases ofPath? text with
  | none => simp
  | some route => cases route <;> cases authenticated <;> simp

end Navigation

end Route

/-! ## What a form comes to -/

namespace LoginForm

/-- The username has a character that is not blank. -/
def NamesSomebody (f : LoginForm) : Prop := ∃ c ∈ f.username.toList, Text.isBlank c = false

def Complete (f : LoginForm) : Prop := f.NamesSomebody ∧ f.password ≠ ""

/-- Both texts, as they were typed. -/
def typed (f : LoginForm) : Credentials := ⟨f.username, f.password⟩

variable {f : LoginForm}

theorem not_namesSomebody_iff :
    ¬ f.NamesSomebody ↔ f.username.toList.all Text.isBlank = true := by
  simp [NamesSomebody]

theorem submit_of_complete (complete : f.Complete) : f.submit = .ok f.typed := by
  obtain ⟨named, password⟩ := complete
  have blank := mt not_namesSomebody_iff.mpr (not_not_intro named)
  rw [submit, if_neg blank, if_neg password, typed]

theorem submit_of_nobody (nobody : ¬ f.NamesSomebody) : f.submit = .error .missingUsername := by
  rw [submit, if_pos (not_namesSomebody_iff.mp nobody)]

theorem submit_of_noPassword (named : f.NamesSomebody) (missing : f.password = "") :
    f.submit = .error .missingPassword := by
  have blank := mt not_namesSomebody_iff.mpr (not_not_intro named)
  rw [submit, if_neg blank, if_pos missing]

theorem exists_fault (incomplete : ¬ f.Complete) : ∃ e, f.submit = .error e := by
  by_cases named : f.NamesSomebody
  · have missing : f.password = "" :=
      Decidable.not_not.mp fun password => incomplete ⟨named, password⟩
    exact ⟨_, submit_of_noPassword named missing⟩
  · exact ⟨_, submit_of_nobody named⟩

end LoginForm

/-- An authority with a state of its own, which every call may change. -/
structure Office (σ : Type) where
  call : σ → Credentials → (Bool × List LogRecord) × σ

/-- What the office answers in one state. -/
def Office.authority {σ : Type} (o : Office σ) (s : σ) : Authority :=
  ⟨fun c => (o.call s c).1.1, fun c => (o.call s c).1.2⟩

/-- What a form that was submitted at an office comes to, with the state of the office after it. -/
structure Visit (σ : Type) where
  result : Except FormFault Submission
  records : List LogRecord
  after : σ

namespace Page

variable {σ : Type} {form : LoginForm}

/-- Submits the form of a page at an office. -/
def submitAt (form : LoginForm) (o : Office σ) (s : σ) : Visit σ :=
  match form.submit with
  | .error e => ⟨.error e, [], s⟩
  | .ok c =>
    let ((answer, records), after) := o.call s c
    ⟨.ok ⟨c, answer⟩, .formSubmitted c.username :: records ++ [.answered answer], after⟩

/-- That comes to the same as at the authority that the office is in its state. -/
theorem submitAt_eq_submit (form : LoginForm) (o : Office σ) (s : σ) :
    ((submitAt form o s).result, (submitAt form o s).records) = submit form (o.authority s) := by
  unfold submitAt submit LoginForm.submitTo
  cases form.submit <;> rfl

theorem submitAt_of_complete (complete : form.Complete) (o : Office σ) (s : σ) :
    submitAt form o s =
      { result := .ok ⟨form.typed, (o.authority s).answer form.typed⟩
        records := .formSubmitted form.username :: (o.authority s).records form.typed ++
          [.answered ((o.authority s).answer form.typed)]
        after := (o.call s form.typed).2 } := by
  rw [submitAt, LoginForm.submit_of_complete complete]
  rfl

theorem submitAt_of_fault {e : FormFault} (refused : form.submit = .error e) (o : Office σ) (s : σ) :
    submitAt form o s = ⟨.error e, [], s⟩ := by
  rw [submitAt, refused]

/-- The route that is shown for the answer, at the path of the home page. -/
def behind (result : Except FormFault Submission) : Option Route :=
  result.toOption.bind fun answer => (Route.navigate Route.home.path answer.authenticated).1

theorem behind_submitAt (form : LoginForm) (o : Office σ) (s : σ) :
    behind (submitAt form o s).result = some .home ↔
      form.Complete ∧ (o.authority s).answer form.typed = true := by
  by_cases complete : form.Complete
  · rw [submitAt_of_complete complete]
    simp only [complete, true_and]
    exact Route.navigate_eq_home_iff.trans (and_iff_right rfl)
  · obtain ⟨e, refused⟩ := LoginForm.exists_fault complete
    rw [submitAt_of_fault refused]
    simp [behind, complete, Except.toOption]

end Page

namespace Program

/-- With the arguments that it was given a run prints login pages and nothing else. -/
theorem runWith_output (a : Arguments) (s : Surroundings) :
    ∃ languages : List Language, languages.length ≤ 2 ∧
      (runWith a s).output = String.join (languages.map (card a s)) := by
  rw [(runWith_ran a s).output]
  unfold pages
  cases Route.ofPath? a.path with
  | none => exact ⟨[], Nat.zero_le 2, rfl⟩
  | some route =>
    cases a.locale with
    | none => exact ⟨[first a s], Nat.le_succ 1, rfl⟩
    | some tag => exact ⟨[first a s, last a s], Nat.le_refl 2, rfl⟩

/-- Every path settles within the bound, and on the home route only for those who are signed in. An
office is asked once about a complete form, and is in the state of that one call then; about any other
it is not asked. So the home page is behind an answer only if it lets somebody in, and a run of the
program prints login pages whatever it is asked for, or ends at once with what is said about words
that are no arguments. -/
theorem home_is_guarded :
    (∀ (text : String) (authenticated : Bool),
      let shown := (Route.navigate text authenticated).1
      (∃ r, Route.Settles authenticated 4 text r ∧ shown = Route.shown? r) ∧
        (shown = none ↔ text ≠ "/" ∧ text ≠ "/login") ∧
        (shown = some .home ↔ text = "/" ∧ authenticated = true) ∧
        (shown = some .login ↔ text = "/login" ∨ text = "/" ∧ authenticated = false)) ∧
      (∀ (σ : Type) (o : Office σ) (s : σ) (form : LoginForm),
        let a := o.authority s
        let v := Page.submitAt form o s
        (v.result, v.records) = Page.submit form a ∧
          (form.Complete →
            v.result = .ok ⟨form.typed, a.answer form.typed⟩ ∧
              v.records = .formSubmitted form.username :: a.records form.typed ++
                [.answered (a.answer form.typed)] ∧
              v.after = (o.call s form.typed).2) ∧
          (¬ form.NamesSomebody →
            v.result = .error .missingUsername ∧ v.records = [] ∧ v.after = s) ∧
          (form.NamesSomebody → form.password = "" →
            v.result = .error .missingPassword ∧ v.records = [] ∧ v.after = s) ∧
          (Page.behind v.result = some .home ↔ form.Complete ∧ a.answer form.typed = true)) ∧
      ∀ (words : List String) (s : Surroundings),
        (∀ e, CommandLine.parse words = .error e →
          (run words s).output = usageOutput words s e ∧ (run words s).files = s.files ∧
            (run words s).records = [.started]) ∧
        ∀ a, CommandLine.parse words = .ok a →
          ∃ languages : List Language, languages.length ≤ 2 ∧
            (run words s).output = String.join (languages.map (card a s)) := by
  refine ⟨?_, ?_, ?_⟩
  · intro text authenticated shown
    have settles := Route.settles text authenticated 2
    exact ⟨⟨_, settles, settles.follow_fst⟩,
      Route.navigate_eq_none_iff, Route.navigate_eq_home_iff, Route.navigate_eq_login_iff⟩
  · intro σ o s form a v
    refine ⟨Page.submitAt_eq_submit form o s, fun complete => ?_, fun nobody => ?_,
      fun named missing => ?_, Page.behind_submitAt form o s⟩
    · have asked : v = _ := Page.submitAt_of_complete complete o s
      rw [asked]
      exact ⟨rfl, rfl, rfl⟩
    · have turned : v = _ := Page.submitAt_of_fault (LoginForm.submit_of_nobody nobody) o s
      rw [turned]
      exact ⟨rfl, rfl, rfl⟩
    · have turned : v = _ :=
        Page.submitAt_of_fault (LoginForm.submit_of_noPassword named missing) o s
      rw [turned]
      exact ⟨rfl, rfl, rfl⟩
  · intro words s
    refine ⟨fun e refused => ?_, fun a parsed => ?_⟩
    · rw [run, refused]
      exact ⟨rfl, rfl, rfl⟩
    · rw [run, parsed]
      exact runWith_output a s

end Program

end LoginCard
