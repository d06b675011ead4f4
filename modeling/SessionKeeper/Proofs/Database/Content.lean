import SessionKeeper.Proofs.Database.Catalogue
import SessionKeeper.Proofs.Database.Trace
import SessionKeeper.Proofs.Database.Writes
import SessionKeeper.Proofs.Text.Trim

/-!
# What users and posts may consist of

Users and posts are entered and changed by one statement each, after a look at what is submitted.
A form that breaks a rule is refused and nothing is sent. The rules differ in form between entering
and changing, and lengths are counted before a name is trimmed; still every text that is sent suits
the column that it is sent for (`Suits`), and a form for a new user is accepted exactly if the same
is accepted as a change of a user.
-/

namespace SessionKeeper

/-! ## Forms without violations -/

theorem Violations.ofField_eq_nil {field : String} {vs : List Violation} :
    Violations.ofField field vs = [] ↔ vs = [] := by
  cases vs <;> simp [Violations.ofField]

theorem Violations.orElseForm_eq_nil {fields : Violations} {form : Option Violation} :
    fields.orElseForm form = [] ↔ fields = [] ∧ form = none := by
  cases fields <;> cases form <;> simp [Violations.orElseForm, Violations.ofForm]

theorem LengthRule.check_eq_nil {r : LengthRule} {value : String} :
    r.check value = [] ↔ r.admits value = true := by
  unfold LengthRule.check
  split <;> simp_all

theorem LengthRule.check?_eq_nil {r : LengthRule} {value : Option String} :
    r.check? value = [] ↔ ∀ s, value = some s → r.admits s = true := by
  cases value <;> simp [LengthRule.check?, LengthRule.check_eq_nil]

theorem LengthRule.length_le {r : LengthRule} {value : String} {most : Nat}
    (h : r.admits value = true) (hmost : r.max = some most) : value.length ≤ most := by
  simp only [LengthRule.admits, hmost, Bool.and_eq_true, decide_eq_true_eq] at h
  exact h.2

theorem checkNotBlank_eq_nil {value : String} :
    checkNotBlank value = [] ↔ Text.allBlank value = false := by
  unfold checkNotBlank
  split <;> simp_all

theorem NewUser.violations_eq_nil {u : NewUser} : u.violations = [] ↔
    User.nameRule.admits u.name = true ∧ Text.allBlank u.name = false ∧
      ∀ s, u.image = some s → User.imageRule.admits s = true := by
  simp only [NewUser.violations, List.append_eq_nil_iff, Violations.ofField_eq_nil,
    LengthRule.check_eq_nil, checkNotBlank_eq_nil, LengthRule.check?_eq_nil, and_assoc]

theorem UserChange.formViolation_eq_none {u : UserChange} : u.formViolation = none ↔
    (∀ s, u.name = some s → Text.allBlank s = false) ∧
      ∀ s, u.image.value? = some s → User.imageRule.admits s = true := by
  unfold UserChange.formViolation
  cases u.name with
  | none => cases u.image.value? <;> simp
  | some name =>
    cases hblank : Text.allBlank name
    · cases u.image.value? <;> simp [hblank]
    · simp [hblank]

theorem UserChange.violations_eq_nil {u : UserChange} : u.violations = [] ↔
    (∀ s, u.name = some s → User.nameRule.admits s = true ∧ Text.allBlank s = false) ∧
      ∀ s, u.image.value? = some s → User.imageRule.admits s = true := by
  rw [UserChange.violations, Violations.orElseForm_eq_nil, Violations.ofField_eq_nil,
    LengthRule.check?_eq_nil, UserChange.formViolation_eq_none, ← and_assoc, ← forall_and]
  simp only [forall_and]

theorem NewPost.violations_eq_nil {p : NewPost} : p.violations = [] ↔
    (Post.titleRule.admits p.title = true ∧ Text.allBlank p.title = false) ∧
      Post.contentRule.admits p.content = true ∧ Text.allBlank p.content = false := by
  simp only [NewPost.violations, List.append_eq_nil_iff, Violations.ofField_eq_nil,
    LengthRule.check_eq_nil, checkNotBlank_eq_nil]

theorem PostChange.formViolation_eq_none {p : PostChange} : p.formViolation = none ↔
    (∀ s, p.title = some s → Text.allBlank s = false) ∧
      ∀ s, p.content = some s → Text.allBlank s = false := by
  unfold PostChange.formViolation
  cases p.title <;> cases p.content <;> simp

theorem PostChange.violations_eq_nil {p : PostChange} : p.violations = [] ↔
    (∀ s, p.title = some s → Post.changedTitleRule.admits s = true ∧ Text.allBlank s = false) ∧
      ∀ s, p.content = some s → Text.allBlank s = false := by
  rw [PostChange.violations, Violations.orElseForm_eq_nil, Violations.ofField_eq_nil,
    LengthRule.check?_eq_nil, PostChange.formViolation_eq_none]
  simp only [forall_and, and_assoc]

/-- The change after which a field holds just what is given. -/
def Change.to {α : Type} : Option α → Change α
  | some a => .set a
  | none => .clear

theorem Change.apply_to {α : Type} (old a : Option α) : (Change.to a).apply old = a := by
  cases a <;> rfl

theorem Change.value?_to {α : Type} (a : Option α) : (Change.to a).value? = a := by
  cases a <;> rfl

namespace Database

/-! ## What is sent for a form -/

open Exchange (ran)

section

variable {α : Type}

/-- A statement is sent and nothing else, whatever the answer. -/
def AsksOnce (x : Action α) (s : Statement) : Prop :=
  ∀ trace result, Traced x.run trace result → ∃ a, trace = [ran s a]

/-- What is done with the reply may do no more than give a result. -/
theorem asksOnce_run_bind {step : String} {s : Statement} {f : Reply → Action α}
    (hf : ∀ reply, ∃ x, (f reply).run = .pure x) : AsksOnce (run step s >>= f) s := by
  intro trace result h
  obtain ⟨a, rest, rfl, hrest⟩ := traced_ask h
  refine ⟨a, ?_⟩
  cases a with
  | error e =>
    replace hrest : Traced (.pure (.error (e.toError step))) rest result := hrest
    obtain ⟨rfl, -⟩ := traced_pure hrest
    rfl
  | ok reply =>
    obtain ⟨x, hx⟩ := hf reply
    replace hrest : Traced (f reply).run rest result := hrest
    rw [hx] at hrest
    obtain ⟨rfl, -⟩ := traced_pure hrest
    rfl

theorem asksOnce_fetchOne (step : String) (reader : Reader α) (s : Statement) :
    AsksOnce (fetchOne step reader s) s := by
  apply asksOnce_run_bind
  intro reply
  cases reply.rows with
  | nil => exact ⟨_, rfl⟩
  | cons row rows =>
    dsimp only
    cases orFail step (reader row) with
    | error e => exact ⟨_, rfl⟩
    | ok a => exact ⟨_, rfl⟩

theorem asksOnce_fetchOptional (step : String) (reader : Reader α) (s : Statement) :
    AsksOnce (fetchOptional step reader s) s := by
  apply asksOnce_run_bind
  intro reply
  cases reply.rows with
  | nil => exact ⟨_, rfl⟩
  | cons row rows =>
    dsimp only
    cases orFail step (reader row) with
    | error e => exact ⟨_, rfl⟩
    | ok a => exact ⟨_, rfl⟩

/-- Nothing is sent, and what is submitted is said to be invalid. -/
def Refuses (x : Action α) : Prop :=
  ∀ trace result, Traced x.run trace result →
    trace = [] ∧ ∃ e : Error, result = .error e ∧ e.kind = .validation

/-- What is done with a form after a look at it. -/
theorem refuses_check {vs : Violations} {f : Unit → Action α} (h : vs ≠ []) :
    Refuses (liftExcept vs.check >>= f) := by
  intro trace result ht
  have hcheck : vs.check = .error vs.toError := by simp [Violations.check, h]
  rw [hcheck] at ht
  replace ht : Traced (.pure (.error vs.toError)) trace result := ht
  obtain ⟨rfl, rfl⟩ := traced_pure ht
  exact ⟨rfl, _, rfl, rfl⟩

theorem check_bind {vs : Violations} {f : Unit → Action α} (h : vs = []) :
    (liftExcept vs.check >>= f) = f () := by
  subst h
  rfl

end

/-! ## Texts and their columns -/

/-- A text may stand in a column of users or of posts. -/
inductive Suits : String → String → Prop where
  | userName {s} (nonempty : s ≠ "") (length : s.length ≤ 64) (trimmed : Text.Trimmed s) :
      Suits "userName" s
  | imageUrl {s} (length : s.length ≤ 256) : Suits "imageUrl" s
  | title {s} (notBlank : Text.allBlank s = false) (length : s.length ≤ 200) : Suits "title" s
  | content {s} (notBlank : Text.allBlank s = false) : Suits "content" s

/-- Every text among the parameters is for a column that it suits. -/
def Statement.Suitable (s : Statement) : Prop :=
  ∀ n text, s.parameters[n]? = some (.text text) →
    ∃ column, (column, n + 1) ∈ parameterColumns s.text ∧ Suits column text

theorem suitable_of_zipIdx {s : Statement}
    (h : ∀ p ∈ s.parameters.zipIdx 1, ∀ text, p.1 = .text text →
      ∃ column, (column, p.2) ∈ parameterColumns s.text ∧ Suits column text) : s.Suitable := by
  intro n text hn
  have hmem : (Value.text text, n + 1) ∈ s.parameters.zipIdx 1 := by
    rw [List.mk_mem_zipIdx_iff_le_and_getElem?_sub]
    simpa using hn
  exact h _ hmem text rfl

theorem Value.ofOption_eq_text {f : String → String} {o : Option String} {text : String} :
    Value.ofOption (fun s => .text (f s)) o = .text text ↔ ∃ s, o = some s ∧ f s = text := by
  cases o <;> simp [Value.ofOption]

namespace Statement

/-- The insertion of a user. The name is trimmed. -/
def createUser (u : NewUser) : Statement :=
  ⟨Query.createUser.entry.text, [.text (Text.trim u.name), .ofOption .text u.image]⟩

/-- The change of a user: what is not given is sent as nothing, and it is said whether the image is
to be set. -/
def updateUser (id : Uuid) (u : UserChange) : Statement :=
  ⟨Query.updateUser.entry.text,
    [.uuid id, .ofOption (fun s => .text (Text.trim s)) u.name, .bool u.image.isTouched,
      .ofOption .text u.image.value?]⟩

/-- The insertion of a post, with its texts as they are given. -/
def createPost (p : NewPost) : Statement :=
  ⟨Query.createPost.entry.text, [.text p.title, .text p.content, .uuid p.author]⟩

/-- The change of a post: what is not given is sent as nothing. -/
def updatePost (id : Int) (p : PostChange) : Statement :=
  ⟨Query.updatePost.entry.text,
    [.int id, .ofOption .text p.title, .ofOption .text p.content]⟩

end Statement

theorem suits_userName {s : String} (hrule : User.nameRule.admits s = true)
    (hblank : Text.allBlank s = false) : Suits "userName" (Text.trim s) := by
  apply Suits.userName
  · intro he
    rw [Text.trim_eq_empty_iff, hblank] at he
    cases he
  · exact (Text.length_trim_le s).trans (LengthRule.length_le hrule rfl)
  · exact Text.trimmed_trim s

theorem suitable_createUser {u : NewUser} (h : u.violations = []) :
    (Statement.createUser u).Suitable := by
  obtain ⟨hname, hblank, himage⟩ := NewUser.violations_eq_nil.mp h
  have hcolumns : parameterColumns Query.createUser.entry.text =
      [("userName", 1), ("imageUrl", 2)] := by decide +kernel
  apply suitable_of_zipIdx
  simp only [Statement.createUser, hcolumns, List.zipIdx_cons, List.zipIdx_nil,
    List.forall_mem_cons, Value.text.injEq, forall_eq']
  refine ⟨⟨_, by simp, suits_userName hname hblank⟩, fun text htext => ?_, nofun⟩
  obtain ⟨s, hs, rfl⟩ := Value.ofOption_eq_text.mp htext
  exact ⟨_, by simp, .imageUrl (LengthRule.length_le (himage s hs) rfl)⟩

theorem suitable_updateUser {id : Uuid} {u : UserChange} (h : u.violations = []) :
    (Statement.updateUser id u).Suitable := by
  obtain ⟨hname, himage⟩ := UserChange.violations_eq_nil.mp h
  have hcolumns : parameterColumns Query.updateUser.entry.text =
      [("userName", 2), ("imageUrl", 3), ("imageUrl", 4), ("userId", 1)] := by decide +kernel
  apply suitable_of_zipIdx
  simp only [Statement.updateUser, hcolumns, List.zipIdx_cons, List.zipIdx_nil,
    List.forall_mem_cons]
  refine ⟨nofun, fun text htext => ?_, nofun, fun text htext => ?_, nofun⟩
  · obtain ⟨s, hs, rfl⟩ := Value.ofOption_eq_text.mp htext
    exact ⟨_, by simp, suits_userName (hname s hs).1 (hname s hs).2⟩
  · obtain ⟨s, hs, rfl⟩ := Value.ofOption_eq_text.mp htext
    exact ⟨_, by simp, .imageUrl (LengthRule.length_le (himage s hs) rfl)⟩

theorem suitable_createPost {p : NewPost} (h : p.violations = []) :
    (Statement.createPost p).Suitable := by
  obtain ⟨⟨htitle, htitleBlank⟩, -, hcontentBlank⟩ := NewPost.violations_eq_nil.mp h
  have hcolumns : parameterColumns Query.createPost.entry.text =
      [("title", 1), ("content", 2), ("authorId", 3)] := by decide +kernel
  apply suitable_of_zipIdx
  simp only [Statement.createPost, hcolumns, List.zipIdx_cons, List.zipIdx_nil,
    List.forall_mem_cons, Value.text.injEq, forall_eq']
  refine ⟨⟨_, by simp, .title htitleBlank (LengthRule.length_le htitle rfl)⟩,
    ⟨_, by simp, .content hcontentBlank⟩, nofun, nofun⟩

theorem suitable_updatePost {id : Int} {p : PostChange} (h : p.violations = []) :
    (Statement.updatePost id p).Suitable := by
  obtain ⟨htitle, hcontent⟩ := PostChange.violations_eq_nil.mp h
  have hcolumns : parameterColumns Query.updatePost.entry.text =
      [("title", 2), ("content", 3), ("postId", 1)] := by decide +kernel
  apply suitable_of_zipIdx
  simp only [Statement.updatePost, hcolumns, List.zipIdx_cons, List.zipIdx_nil,
    List.forall_mem_cons]
  refine ⟨nofun, fun text htext => ?_, fun text htext => ?_, nofun⟩
  · obtain ⟨s, hs, rfl⟩ := Value.ofOption_eq_text.mp htext
    exact ⟨_, by simp, .title (htitle s hs).2 (LengthRule.length_le (htitle s hs).1 rfl)⟩
  · obtain ⟨s, hs, rfl⟩ := Value.ofOption_eq_text.mp htext
    exact ⟨_, by simp, .content (hcontent s hs)⟩

/-! ## Submitting a form -/

section

variable {α : Type}

/-- One statement is sent, whose texts suit their columns. -/
def Submits (x : Action α) : Prop :=
  ∀ trace result, Traced x.run trace result → ∃ s a, trace = [ran s a] ∧ s.Suitable

theorem AsksOnce.submits {x : Action α} {s : Statement} (h : AsksOnce x s) (hs : s.Suitable) :
    Submits x := by
  intro trace result ht
  obtain ⟨a, rfl⟩ := h trace result ht
  exact ⟨s, a, rfl, hs⟩

theorem not_submits_of_refuses {x : Action α} (h : Refuses x) : ¬ Submits x := by
  intro hx
  have ht := traced_exchange (inTurn []) [] x.run
  obtain ⟨s, a, htrace, -⟩ := hx _ _ ht
  obtain ⟨hnil, -⟩ := h _ _ ht
  rw [hnil] at htrace
  cases htrace

/-- What is sent for a form after a look at it: nothing if a rule is broken, and one statement
otherwise. -/
theorem submits_iff {vs : Violations} {x : Action α} {s : Statement} (hx : AsksOnce x s)
    (hs : vs = [] → s.Suitable) :
    (Refuses (liftExcept vs.check >>= fun _ => x) ∨ Submits (liftExcept vs.check >>= fun _ => x)) ∧
      (Submits (liftExcept vs.check >>= fun _ => x) ↔ vs = []) := by
  by_cases h : vs = []
  · have hsubmits := hx.submits (hs h)
    rw [← check_bind h (f := fun _ => x)] at hsubmits
    exact ⟨.inr hsubmits, fun _ => h, fun _ => hsubmits⟩
  · have hrefuses : Refuses (liftExcept vs.check >>= fun _ => x) := refuses_check h
    exact ⟨.inl hrefuses, fun hsubmits => absurd hsubmits (not_submits_of_refuses hrefuses),
      fun he => absurd he h⟩

end

namespace Users

theorem create_submits_iff (u : NewUser) :
    (Refuses (create u) ∨ Submits (create u)) ∧ (Submits (create u) ↔ u.violations = []) :=
  submits_iff (asksOnce_fetchOne "Failed to create user" read _) suitable_createUser

theorem update_submits_iff (id : Uuid) (u : UserChange) :
    (Refuses (update id u) ∨ Submits (update id u)) ∧
      (Submits (update id u) ↔ u.violations = []) :=
  submits_iff (asksOnce_fetchOptional "Failed to update user" read _) suitable_updateUser

end Users

namespace Posts

theorem create_submits_iff (p : NewPost) :
    (Refuses (create p) ∨ Submits (create p)) ∧ (Submits (create p) ↔ p.violations = []) :=
  submits_iff (asksOnce_fetchOne "Failed to create post" read _) suitable_createPost

theorem update_submits_iff (id : Int) (p : PostChange) :
    (Refuses (update id p) ∨ Submits (update id p)) ∧
      (Submits (update id p) ↔ p.violations = []) :=
  submits_iff (asksOnce_fetchOptional "Failed to update post" read _) suitable_updatePost

end Posts

/-- Whatever is submitted, and whatever the database answers: a user or a post is refused as invalid
and nothing is sent, or one statement is sent, whose texts suit their columns. A user that can be
entered can be changed to the same name and picture, and conversely. -/
theorem content_suits (u : NewUser) (id : Uuid) (v : UserChange) (p : NewPost) (number : Int)
    (q : PostChange) :
    (Refuses (Users.create u) ∨ Submits (Users.create u)) ∧
    (Refuses (Users.update id v) ∨ Submits (Users.update id v)) ∧
    (Refuses (Posts.create p) ∨ Submits (Posts.create p)) ∧
    (Refuses (Posts.update number q) ∨ Submits (Posts.update number q)) ∧
    (Submits (Users.create u) ↔ Submits (Users.update id ⟨some u.name, .to u.image⟩)) := by
  have hagree : Submits (Users.create u) ↔ Submits (Users.update id ⟨some u.name, .to u.image⟩) := by
    rw [(Users.create_submits_iff u).2, (Users.update_submits_iff id _).2,
      NewUser.violations_eq_nil, UserChange.violations_eq_nil]
    simp only [Option.some.injEq, forall_eq', Change.value?_to, and_assoc]
  exact ⟨(Users.create_submits_iff u).1, (Users.update_submits_iff id v).1,
    (Posts.create_submits_iff p).1, (Posts.update_submits_iff number q).1, hagree⟩

end Database

end SessionKeeper
