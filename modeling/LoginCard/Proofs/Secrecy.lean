import LoginCard.Program
import LoginCard.Proofs.Performance

/-!
# What shows of a password

A page shows one star for each character of a password, a form asks whether it is empty, and an
authority that looks at usernames alone logs no more than these. So a run, and every page of a
session, tells of a password its length and nothing else.
-/

namespace LoginCard

/-- The same username, and passwords of one length. -/
structure LoginForm.Alike (f g : LoginForm) : Prop where
  username : f.username = g.username
  length : f.password.length = g.password.length

/-- The authority looks at nothing but the username. -/
structure Authority.Blind (a : Authority) : Prop where
  answer : ∀ c c' : Credentials, c.username = c'.username → a.answer c = a.answer c'
  records : ∀ c c' : Credentials, c.username = c'.username → a.records c = a.records c'

theorem Authority.blind_nobody : nobody.Blind where
  answer _ _ _ := rfl
  records _ _ same := congrArg (fun username => [LogRecord.loginSubmitted username]) same

/-- The stars show the length of a password, and nothing else of it. -/
theorem LoginForm.mask_eq_iff {f g : LoginForm} :
    f.mask = g.mask ↔ f.password.length = g.password.length := by
  constructor
  · intro same
    have stars := congrArg String.length same
    simpa [LoginForm.mask] using stars
  · intro length
    rw [LoginForm.mask, LoginForm.mask, length]

namespace LoginForm.Alike

variable {f g : LoginForm} (alike : f.Alike g)

include alike

theorem fields : Page.fields f = Page.fields g := by
  rw [Page.fields, Page.fields, alike.username, mask_eq_iff.mpr alike.length]

theorem ofRoute (route : Route) (template : Template) (strings : Strings) (color : Bool) :
    Page.ofRoute route template strings f color = Page.ofRoute route template strings g color := by
  cases route with
  | home => rfl
  | login => simp only [Page.ofRoute, Page.login, alike.fields]

theorem password_empty : f.password = "" ↔ g.password = "" := by
  rw [← String.length_eq_zero_iff, alike.length, String.length_eq_zero_iff]

/-- Both forms are refused with the same fault, or both are complete. -/
theorem submit : f.submit.map Credentials.username = g.submit.map Credentials.username := by
  unfold LoginForm.submit
  rw [alike.username]
  simp only [alike.password_empty]
  split
  · rfl
  · split <;> rfl

/-- A blind authority is told the same of both forms, and answers and logs the same. -/
theorem page_submit {a : Authority} (blind : a.Blind) :
    (Page.submit f a).1.map Submission.authenticated =
        (Page.submit g a).1.map Submission.authenticated ∧
      (Page.submit f a).2 = (Page.submit g a).2 := by
  have same := alike.submit
  unfold Page.submit LoginForm.submitTo
  cases first : f.submit <;> cases second : g.submit <;>
    simp only [first, second, Except.map, Except.ok.injEq, Except.error.injEq, reduceCtorEq] at same
  · subst same
    exact ⟨rfl, rfl⟩
  · have answer := blind.answer _ _ same
    have records := blind.records _ _ same
    simp only [Except.map, answer, records, same, and_self]

end LoginForm.Alike

namespace Program

theorem submission_alike {f g : LoginForm} (alike : f.Alike g) (paint : Bool) :
    submission paint f = submission paint g := by
  obtain ⟨result, records⟩ := alike.page_submit Authority.blind_nobody
  unfold submission
  cases first : (Page.submit f .nobody).1 <;> cases second : (Page.submit g .nobody).1 <;>
    simp only [first, second, Except.map, Except.ok.injEq, Except.error.injEq, reduceCtorEq]
      at result
  all_goals simp only [first, second, records, result]

section Arguments

variable (a : Arguments) {p q : String} (length : p.length = q.length)

include length

theorem form_alike : (form { a with password := some p }).Alike (form { a with password := some q }) :=
  ⟨rfl, length⟩

theorem showPages_alike :
    showPages { a with password := some p } = showPages { a with password := some q } := by
  have forms := form_alike a length
  funext c paint route w store
  unfold showPages
  simp only [forms.ofRoute, submission_alike forms]
  rfl

/-- The configuration, the storage and the route do not depend on the password at all. -/
theorem runWith_alike (s : Surroundings) :
    runWith { a with password := some p } s = runWith { a with password := some q } s := by
  unfold runWith
  rw [showPages_alike a length]
  rfl

end Arguments

end Program

namespace Session

/-- The steps that ask what a page looks like. -/
def Step.rendersPage : Step → Bool
  | .render .. | .renderPath .. => true
  | _ => false

/-- The session in which a page holds a form. -/
def withForm (s : Session) (name : String) (o : OpenPage) (form : LoginForm) : Session :=
  { s with pages := Keyed.insert name { o with form } s.pages }

theorem perform_fill {s : Session} {name : String} {o : OpenPage}
    (found : Keyed.find? name s.pages = some o) (username : Option String) (password : String) :
    (s.perform (.fill name username (some password))).session =
      s.withForm name o ⟨username.getD o.form.username, password⟩ := by
  simp [perform, performPage, found, orInvalid, Performed.session, withForm]

theorem pageText_of_alike (s : Session) (o : OpenPage) {f g : LoginForm} (alike : f.Alike g)
    (b : Binding) (route : Route) :
    s.pageText { o with form := f } b route = s.pageText { o with form := g } b route := by
  rw [pageText, pageText, alike.ofRoute]

section Forms

variable (s : Session) (name : String) (o : OpenPage) {f g : LoginForm} (alike : f.Alike g)

include alike

/-- Every name leads to the same binding, and to pages that look the same. -/
theorem page?_withForm (other : String) :
    ((s.withForm name o f).page? other = none ∧ (s.withForm name o g).page? other = none) ∨
      ∃ (page : OpenPage) (f' g' : LoginForm) (b : Binding), f'.Alike g' ∧
        (s.withForm name o f).page? other = some ({ page with form := f' }, b) ∧
        (s.withForm name o g).page? other = some ({ page with form := g' }, b) := by
  have found : ∀ form, Keyed.find? other (s.withForm name o form).pages =
      if other = name then some { o with form } else Keyed.find? other s.pages :=
    fun form => Keyed.find?_insert _ _ _ _
  have bindings : ∀ form, (s.withForm name o form).binding? = s.binding? := fun _ => rfl
  simp only [page?, found, bindings]
  by_cases same : other = name
  · simp only [same, if_true]
    cases bound : s.binding? o.binding with
    | none => exact .inl ⟨by simp [bound], by simp [bound]⟩
    | some b => exact .inr ⟨o, f, g, b, alike, by simp [bound], by simp [bound]⟩
  · simp only [same, if_false, and_self]
    cases Keyed.find? other s.pages with
    | none => exact .inl rfl
    | some page =>
      cases bound : s.binding? page.binding with
      | none => exact .inl (by simp [bound])
      | some b =>
        exact .inr ⟨page, page.form, page.form, b, ⟨rfl, rfl⟩, by simp [bound], by simp [bound]⟩

/-- Whatever page is asked for, it looks the same. -/
theorem renders_withForm {look : Step} (renders : look.rendersPage = true) :
    ((s.withForm name o f).perform look).answer = ((s.withForm name o g).perform look).answer := by
  cases look with
  | render other =>
    rcases page?_withForm s name o alike other with
      ⟨missing, missing'⟩ | ⟨page, f', g', b, forms, found, found'⟩
    · simp [perform, performPage, orInvalid, missing, missing', Performed.answer]
    · have text : (s.withForm name o f).pageText { page with form := f' } b .login =
          (s.withForm name o g).pageText { page with form := g' } b .login :=
        pageText_of_alike s page forms b .login
      simp [perform, performPage, orInvalid, found, found', Performed.answer, text]
  | renderPath other path authenticated =>
    rcases page?_withForm s name o alike other with
      ⟨missing, missing'⟩ | ⟨page, f', g', b, forms, found, found'⟩
    · simp [perform, performPage, orInvalid, missing, missing', Performed.answer]
    · have text : (s.withForm name o f).pageText { page with form := f' } b =
          (s.withForm name o g).pageText { page with form := g' } b :=
        funext fun route => pageText_of_alike s page forms b route
      simp [perform, performPage, orInvalid, found, found', Performed.answer, text]
  | _ => cases renders

end Forms

end Session

namespace Program

/-- Runs from arguments or from words that were understood, pages of any session, and the printed
form of credentials, which shows nothing of a password. -/
theorem password_tells_its_length (p q : String) (length : p.length = q.length) :
    (∀ (a : Arguments) (s : Surroundings),
        runWith { a with password := some p } s = runWith { a with password := some q } s) ∧
      (∀ (words words' : List String) (a : Arguments) (s : Surroundings),
        CommandLine.parse words = .ok { a with password := some p } →
        CommandLine.parse words' = .ok { a with password := some q } →
          run words s = run words' s) ∧
      (∀ (s : Session) (o : OpenPage) (username : String) (b : Binding) (route : Route),
        s.pageText { o with form := ⟨username, p⟩ } b route =
          s.pageText { o with form := ⟨username, q⟩ } b route) ∧
      (∀ (s : Session) (name : String) (username : Option String) (look : Session.Step),
        look.rendersPage = true →
          ((s.perform (.fill name username (some p))).session.perform look).answer =
            ((s.perform (.fill name username (some q))).session.perform look).answer) ∧
      ∀ username r r' : String,
        Credentials.describe ⟨username, r⟩ = Credentials.describe ⟨username, r'⟩ := by
  refine ⟨fun a s => runWith_alike a length s, ?_, ?_, ?_, fun _ _ _ => rfl⟩
  · intro words words' a s parsed parsed'
    rw [run, run, parsed, parsed']
    exact runWith_alike a length s
  · intro s o username b route
    have forms : LoginForm.Alike ⟨username, p⟩ ⟨username, q⟩ := ⟨rfl, length⟩
    exact Session.pageText_of_alike s o forms b route
  · intro s name username look renders
    cases found : Keyed.find? name s.pages with
    | none => simp [Session.perform, Session.performPage, found, Session.orInvalid]
    | some o =>
      rw [Session.perform_fill found, Session.perform_fill found]
      have forms : LoginForm.Alike ⟨username.getD o.form.username, p⟩
          ⟨username.getD o.form.username, q⟩ := ⟨rfl, length⟩
      exact Session.renders_withForm s name o forms renders

/-- Two runs that submit a form and switch the language on the way, whatever they find. -/
theorem six_letters_run_alike :
    "sesame".length = "hunter".length ∧ ∀ s : Surroundings,
      run ["-uada", "--password", "sesame", "-lru"] s =
        run ["-lru", "--username=ada", "-p=hunter"] s := by
  have length : "sesame".length = "hunter".length := by decide
  let a : Arguments := ⟨"/", some "ru", some "ada", none, none, none, false, false⟩
  have parsed : CommandLine.parse ["-uada", "--password", "sesame", "-lru"] =
      .ok { a with password := some "sesame" } := by rfl
  have parsed' : CommandLine.parse ["-lru", "--username=ada", "-p=hunter"] =
      .ok { a with password := some "hunter" } := by rfl
  exact ⟨length, fun s =>
    (password_tells_its_length "sesame" "hunter" length).2.1 _ _ a s parsed parsed'⟩

end Program

end LoginCard
