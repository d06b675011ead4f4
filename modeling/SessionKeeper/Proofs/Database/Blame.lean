import SessionKeeper.Proofs.Database.Catalogue
import SessionKeeper.Proofs.Database.Server
import SessionKeeper.Proofs.Database.Transactions

/-!
# What an error is blamed on

Every operation on the database keeps to one discipline (`Discipline.blaming`): if a statement
fails, the error is that failure, spoken of under the step of the statement, and any other error is
a decision of the client (`Deliberate`) as long as the answers are as expected. A transaction also
comes to its verdict under the right step (`Concluding`).
-/

namespace SessionKeeper.Database

open Exchange

variable {α : Type}

/-! ## Operations -/

/-- What can be asked of the database about users, posts, bookmarks, sessions and tokens. -/
inductive Operation where
  | auth (r : Store.Request)
  | createUser (u : NewUser)
  | findUser (id : Uuid)
  | findUserByName (name : String)
  | listUsers (page : Page)
  | updateUser (id : Uuid) (u : UserChange)
  | deleteUser (id : Uuid)
  | listPosts (page : Page)
  | createPost (p : NewPost)
  | findPost (id : Int)
  | updatePost (id : Int) (p : PostChange)
  | deletePost (id : Int)
  | addBookmark (user : Uuid) (post : Int)
  | removeBookmark (user : Uuid) (post : Int)
  | listBookmarks (user : Uuid)

namespace Operation

/-- What an operation has as its result. -/
def Result : Operation → Type
  | auth r => r.Reply
  | createUser _ => User
  | findUser _ | findUserByName _ | updateUser _ _ => Option User
  | listUsers _ => List User
  | createPost _ => Post
  | findPost _ | updatePost _ _ => Option Post
  | listPosts _ => List Post
  | addBookmark _ _ => Bookmark
  | listBookmarks _ => List Bookmark
  | deleteUser _ | deletePost _ | removeBookmark _ _ => Bool

/-- What the repositories do for an operation. -/
def action : (o : Operation) → Action o.Result
  | auth r => Database.action r
  | createUser u => Users.create u
  | findUser id => Users.find id
  | findUserByName name => Users.findByName name
  | listUsers page => Users.list page
  | updateUser id u => Users.update id u
  | deleteUser id => Users.delete id
  | listPosts page => Posts.list page
  | createPost p => Posts.create p
  | findPost id => Posts.find id
  | updatePost id p => Posts.update id p
  | deletePost id => Posts.delete id
  | addBookmark user post => Bookmarks.add user post
  | removeBookmark user post => Bookmarks.remove user post
  | listBookmarks user => Bookmarks.list user

/-- The operations that take a transaction. -/
def commits : Operation → Bool
  | auth (.issueToken _ _ _) | auth (.bindThumbprint _ _) | auth (.rotateToken _ _ _ _ _) => true
  | _ => false

/-- The tokens of a session have been revoked. -/
def FamilyRevoked (before : Trace) : Prop :=
  ∃ session now a, ran (.revokeTokens session now) a ∈ before

/-- The step that a commit is. -/
def CommitStep : Operation → Trace → String → Prop
  | auth (.issueToken _ _ _), _, step => step = "Failed to commit token issuance"
  | auth (.bindThumbprint _ _), _, step => step = "Failed to commit thumbprint binding"
  | auth (.rotateToken _ _ _ _ _), before, step =>
    FamilyRevoked before ∧ step = "Failed to commit replay revocation" ∨
      ¬ FamilyRevoked before ∧ step = "Failed to commit rotation"
  | _, _, _ => False

/-- What becomes of an error of a step. -/
def report : Operation → Error → Error
  | auth (.createSession s) => Sessions.orMissingUser s.user
  | _ => id

end Operation

/-! ## Blame -/

/-- An error that tells about a decision, and not that the database failed or refused a write. -/
def Deliberate (e : Error) : Prop :=
  e.kind ≠ .database ∧ e.kind ≠ .conflict ∧ e.kind ≠ .constraintViolation

/-- Every statement has been answered as expected. -/
def AllExpected (done : Answered) : Prop := ∀ x ∈ done, Expected x.1 x.2

/-- A statement that fails is blamed for the error, and any other error is deliberate if the answers
are as expected. -/
def Discipline.blaming (report : Error → Error) : Discipline where
  sends _ _ := True
  fails _ s f e := ∃ q : Query, s.text = q.entry.text ∧ e = report (f.toError q.entry.step)
  raises done e := AllExpected done → Deliberate e

/-- A statement is one of the client's, and run under its step. -/
structure Query.Is (q : Query) (step : String) (s : Statement) : Prop where
  text : s.text = q.entry.text
  step : step = q.entry.step

section

variable {q : Query} {step : String} {s : Statement} {reader : Reader α} {done : Answered}
  {reply : Reply}

theorem AllExpected.last (h : AllExpected (done ++ [(s, reply)])) (hq : q.Is step s) :
    (∀ row ∈ reply.rows, q.entry.shape.Fits row) ∧ (q.entry.one = true → reply.rows ≠ []) :=
  h (s, reply) (by simp) q hq.text

theorem Query.Is.allows (hq : q.Is step s) : (Discipline.blaming id).Allows done step s where
  sends := trivial
  fails f := ⟨q, hq.text, by rw [hq.step]; rfl⟩

theorem Query.Is.reads (hq : q.Is step s) (hread : q.entry.shape.ReadBy reader) :
    (Discipline.blaming id).Reads done step s reader := by
  intro reply row rows f hrows hf hall
  obtain ⟨a, ha⟩ := hread row ((hall.last hq).1 row (by simp [hrows]))
  rw [hf] at ha
  cases ha

theorem Query.Is.misses (hq : q.Is step s) (hone : q.entry.one = true) (e : Error) :
    (Discipline.blaming id).Misses done s e :=
  fun _ hrows hall => absurd hrows ((hall.last hq).2 hone)

theorem misses_of_deliberate {e : Error} (he : Deliberate e) :
    (Discipline.blaming id).Misses done s e := fun _ _ _ => he

theorem mapM_ok {rows : List Row} (h : ∀ row ∈ rows, ∃ a, reader row = .ok a) :
    ∃ as, rows.mapM reader = .ok as := by
  induction rows with
  | nil => exact ⟨[], rfl⟩
  | cons row rows ih =>
    obtain ⟨a, ha⟩ := h row (by simp)
    obtain ⟨as, has⟩ := ih fun r hr => h r (by simp [hr])
    exact ⟨a :: as, by rw [List.mapM_cons, ha, has]; rfl⟩

theorem Query.Is.reads_all (hq : q.Is step s) (hread : q.entry.shape.ReadBy reader) (reply : Reply)
    (f : Failure) (hf : reply.rows.mapM reader = .error f) :
    (Discipline.blaming id).raises (done ++ [(s, reply)]) (f.toError step) := by
  intro hall
  obtain ⟨as, has⟩ := mapM_ok fun row hrow => hread row ((hall.last hq).1 row hrow)
  rw [hf] at has
  cases has

/-! ### One statement -/

/-- A program that keeps to blaming statements, and of whose result nothing is said. -/
def Blames (done : Answered) (p : Prog signature (Except Error α)) : Prop :=
  Keeps (.blaming id) (fun _ _ => True) done p

theorem Query.Is.execute (hq : q.Is step s) : Blames done (execute step s).run :=
  (keeps_execute hq.allows).mono fun _ _ _ => trivial

theorem Query.Is.fetchAll (hq : q.Is step s) (hread : q.entry.shape.ReadBy reader) :
    Blames done (fetchAll step reader s).run :=
  (keeps_fetchAll hq.allows (hq.reads_all hread)).mono fun _ _ _ => trivial

theorem Query.Is.fetchOptional (hq : q.Is step s) (hread : q.entry.shape.ReadBy reader) :
    Blames done (fetchOptional step reader s).run :=
  (keeps_fetchOptional hq.allows (hq.reads hread)).mono fun _ _ _ => trivial

theorem Query.Is.fetchOne (hq : q.Is step s) (hread : q.entry.shape.ReadBy reader)
    (hone : q.entry.one = true) : Blames done (fetchOne step reader s).run :=
  (keeps_fetchOne hq.allows (hq.reads hread) (hq.misses hone _)).mono fun _ _ _ => trivial

end

/-! ### Operations without a transaction -/

section

variable {β : Type} {done : Answered}

theorem Blames.bind {x : Action α} {f : α → Action β} (hx : Blames done x.run)
    (hf : ∀ done a, Blames done (f a).run) : Blames done (x >>= f).run :=
  keeps_bind hx fun done a _ => hf done a

theorem blames_pure (a : α) : Blames done (pure a : Action α).run := keeps_pure trivial

theorem blames_throw {e : Error} (he : Deliberate e) : Blames done (throw e : Action α).run :=
  keeps_throw fun _ => he

theorem deliberate_sessionNotFound (id : Uuid) : Deliberate (.sessionNotFound id) := by
  simp [Deliberate, Error.sessionNotFound, Error.plain]

theorem deliberate_sessionRevoked (id : Uuid) : Deliberate (.sessionRevoked id) := by
  simp [Deliberate, Error.sessionRevoked, Error.plain]

theorem deliberate_unknownToken : Deliberate .unknownToken := by
  simp [Deliberate, Error.unknownToken, Error.plain]

theorem deliberate_of_check {vs : Violations} {e : Error} (h : vs.check = .error e) :
    Deliberate e := by
  unfold Violations.check at h
  split at h
  · cases h
  · cases h
    simp [Deliberate, Violations.toError, Error.invalidInput, Error.because]

/-- Something submitted is looked at before anything is sent. -/
theorem blames_checked {vs : Violations} {x : Action α} (hx : Blames done x.run) :
    Blames done (liftExcept vs.check >>= fun _ => x).run :=
  keeps_liftExcept_bind (fun _ he _ => deliberate_of_check he) fun _ _ => hx

theorem blames_found (id : Uuid) (s : Option Session) : Blames done (Sessions.found id s).run := by
  cases s with
  | none => exact blames_throw (deliberate_sessionNotFound id)
  | some s => exact blames_pure s

theorem blames_known (a : Option α) : Blames done (Tokens.known a).run := by
  cases a with
  | none => exact blames_throw deliberate_unknownToken
  | some a => exact blames_pure a

theorem blames_touch (id : Uuid) (now : Instant) : Blames done (Sessions.touch id now).run := by
  have htouch : Query.touchActive.Is "Failed to touch session" ⟨_, [.uuid id, .ofInstant now]⟩ :=
    ⟨rfl, rfl⟩
  have hfind : Query.findSession.Is "Failed to find session" ⟨_, [.uuid id]⟩ := ⟨rfl, rfl⟩
  refine htouch.execute.bind fun done count => ?_
  by_cases hcount : count = 0
  · simp only [if_pos hcount]
    refine (hfind.fetchOptional sessions_readBy).bind fun done s => ?_
    exact (blames_found id s).bind fun _ _ => blames_throw (deliberate_sessionRevoked id)
  · simp only [if_neg hcount]
    exact blames_pure ()

theorem keeps_adapt {d d' : Discipline} {ends : Answered → α → Prop} {g : Error → Error}
    {x : Action α} (hx : Keeps d ends done x.run)
    (hsends : ∀ done s, d.sends done s → d'.sends done s)
    (hfails : ∀ done s f e, d.fails done s f e → d'.fails done s f (g e))
    (hraises : ∀ done e, d.raises done e → d'.raises done (g e)) :
    Keeps d' ends done (ExceptT.adapt g x).run := by
  change Keeps d' ends done (x.run.bind fun r => .pure (r.mapError g))
  generalize x.run = p at hx
  induction p generalizing done with
  | pure r =>
    cases r with
    | ok a => exact hx
    | error e => exact hraises done e hx
  | ask r k ih =>
    cases r with
    | run s =>
      refine ⟨hsends done s hx.1, fun f => ?_, fun reply => ih _ (hx.2.2 reply)⟩
      obtain ⟨e, he, hf⟩ := hx.2.1 f
      refine ⟨g e, ?_, hfails done s f e hf⟩
      simp only [he]
      rfl
    | _ => cases hx

theorem orMissingUser_kind (user : Uuid) (e : Error) :
    (Sessions.orMissingUser user e).kind = e.kind := by
  unfold Sessions.orMissingUser
  split
  · rename_i h
    exact h.symm
  · rfl

theorem keeps_createSession (s : Session) :
    Keeps (.blaming (Sessions.orMissingUser s.user)) (fun _ _ => True) done
      (Sessions.create s).run := by
  refine keeps_adapt (d := .blaming id)
    (Query.Is.fetchOne (q := .createSession) ⟨rfl, rfl⟩ sessions_readBy rfl) (fun _ _ h => h) ?_ ?_
  · rintro done s' f e ⟨q, hq, rfl⟩
    exact ⟨q, hq, rfl⟩
  · intro done e he hall
    unfold Deliberate
    rw [orMissingUser_kind]
    exact he hall

theorem blames_request {r : Store.Request} (hr : (Operation.auth r).commits = false) :
    Keeps (.blaming (Operation.auth r).report) (fun _ _ => True) [] (Database.action r).run := by
  cases r with
  | createSession s => exact keeps_createSession s
  | findSession id => exact Query.Is.fetchOptional (q := .findSession) ⟨rfl, rfl⟩ sessions_readBy
  | listSessions user includeRevoked =>
    exact Query.Is.fetchAll (q := .listSessions) ⟨rfl, rfl⟩ sessions_readBy
  | touchSession id now => exact blames_touch id now
  | revokeSession id now =>
    exact (Query.Is.fetchOptional (q := .revokeSession) ⟨rfl, rfl⟩ sessions_readBy).bind
      fun _ s => blames_found id s
  | revokeUserSessions user now => exact Query.Is.execute (q := .revokeUserSessions) ⟨rfl, rfl⟩
  | revokeToken hash now =>
    exact (Query.Is.fetchOptional (q := .revokeToken) ⟨rfl, rfl⟩ tokens_readBy).bind
      fun _ t => blames_known t
  | findToken hash => exact Query.Is.fetchOptional (q := .findToken) ⟨rfl, rfl⟩ tokens_readBy
  | isCurrentAndValid hash now =>
    exact Query.Is.fetchOne (q := .checkToken) ⟨rfl, rfl⟩ (scalar_readBy Kind.bool_readBy) rfl
  | sessionTokens session => exact Query.Is.fetchAll (q := .listTokens) ⟨rfl, rfl⟩ tokens_readBy
  | purgeExpired cutoff limit => exact Query.Is.execute (q := .purge) ⟨rfl, rfl⟩
  | issueToken _ _ _ | bindThumbprint _ _ | rotateToken _ _ _ _ _ => cases hr

theorem keeps_action {o : Operation} (ho : o.commits = false) :
    Keeps (.blaming o.report) (fun _ _ => True) [] o.action.run := by
  cases o with
  | auth r => exact blames_request ho
  | createUser u =>
    exact blames_checked (Query.Is.fetchOne (q := .createUser) ⟨rfl, rfl⟩ users_readBy rfl)
  | findUser id => exact Query.Is.fetchOptional (q := .findUser) ⟨rfl, rfl⟩ users_readBy
  | findUserByName name =>
    exact Query.Is.fetchOptional (q := .findUserByName) ⟨rfl, rfl⟩ users_readBy
  | listUsers page => exact Query.Is.fetchAll (q := .listUsers) ⟨rfl, rfl⟩ users_readBy
  | updateUser id u =>
    exact blames_checked (Query.Is.fetchOptional (q := .updateUser) ⟨rfl, rfl⟩ users_readBy)
  | deleteUser id =>
    exact (Query.Is.execute (q := .deleteUser) ⟨rfl, rfl⟩).bind fun _ _ => blames_pure _
  | listPosts page => exact Query.Is.fetchAll (q := .listPosts) ⟨rfl, rfl⟩ posts_readBy
  | createPost p =>
    exact blames_checked (Query.Is.fetchOne (q := .createPost) ⟨rfl, rfl⟩ posts_readBy rfl)
  | findPost id => exact Query.Is.fetchOptional (q := .findPost) ⟨rfl, rfl⟩ posts_readBy
  | updatePost id p =>
    exact blames_checked (Query.Is.fetchOptional (q := .updatePost) ⟨rfl, rfl⟩ posts_readBy)
  | deletePost id =>
    exact (Query.Is.execute (q := .deletePost) ⟨rfl, rfl⟩).bind fun _ _ => blames_pure _
  | addBookmark user post =>
    exact Query.Is.fetchOne (q := .addBookmark) ⟨rfl, rfl⟩ bookmarks_readBy rfl
  | removeBookmark user post =>
    exact (Query.Is.execute (q := .removeBookmark) ⟨rfl, rfl⟩).bind fun _ _ => blames_pure _
  | listBookmarks user => exact Query.Is.fetchAll (q := .listBookmarks) ⟨rfl, rfl⟩ bookmarks_readBy

end

/-! ### Transactions -/

/-- A transaction comes to a verdict: it is committed under its step, and if its result is an error
then that is deliberate. -/
def Concluding (o : Operation) (done : Answered) (v : Verdict o.Result) : Prop :=
  o.CommitStep (begun (.ok ()) :: done.trace) v.step ∧ ∀ e, v.result = .error e → Deliberate e

section

variable {done : Answered}

theorem blames_lockSession (id : Uuid) : Blames done (Sessions.lock id).run :=
  (Query.Is.fetchOptional (q := .lockSession) ⟨rfl, rfl⟩ sessions_readBy).bind
    fun _ s => blames_found id s

theorem blames_insertToken (t : Token) : Blames done (Tokens.insert t).run :=
  Query.Is.fetchOne (q := .insertToken) ⟨rfl, rfl⟩ tokens_readBy rfl

theorem blames_makeRoom (session : Uuid) (policy : IssuePolicy) (now : Instant)
    (current : Option Uuid) : Blames done (Tokens.makeRoom session policy now current).run := by
  cases current with
  | none => exact blames_pure none
  | some c =>
    cases policy with
    | reject => exact blames_throw (by simp [Deliberate, Error.holdsToken, Error.plain])
    | supersede =>
      have hsupersede : Blames done (Tokens.supersede c now).run :=
        (Query.Is.execute (q := .supersede) ⟨rfl, rfl⟩).bind fun _ _ => blames_pure ()
      exact hsupersede.bind fun _ _ => blames_pure _

theorem concluding_issue (t : Token) (policy : IssuePolicy) (now : Instant) :
    ∃ body, (Operation.auth (.issueToken t policy now)).action = transaction body ∧
      Keeps (.blaming id) (Concluding (.auth (.issueToken t policy now))) [] body.run := by
  refine ⟨_, rfl, keeps_bind (blames_lockSession t.session) fun done session _ => ?_⟩
  refine keeps_unless (fun _ => deliberate_sessionRevoked _) fun _ => ?_
  have hcurrent : Blames done (Tokens.lockCurrent session.id).run :=
    Query.Is.fetchOptional (q := .lockCurrent) ⟨rfl, rfl⟩ (scalar_readBy Kind.uuid_readBy)
  refine keeps_bind hcurrent fun done current _ => ?_
  refine keeps_bind (blames_makeRoom session.id policy now current) fun done superseded _ => ?_
  refine keeps_bind (blames_insertToken t) fun done inserted _ => ?_
  exact keeps_pure ⟨rfl, nofun⟩

theorem concluding_bindThumbprint (session : Uuid) (thumbprint : String) :
    ∃ body, (Operation.auth (.bindThumbprint session thumbprint)).action = transaction body ∧
      Keeps (.blaming id) (Concluding (.auth (.bindThumbprint session thumbprint))) []
        body.run := by
  refine ⟨_, rfl, keeps_bind (blames_lockSession session) fun done s _ => ?_⟩
  refine keeps_unless (fun _ => deliberate_sessionRevoked _) fun _ => ?_
  cases s.thumbprint with
  | some existing =>
    by_cases hsame : existing = thumbprint
    · simp only [if_pos hsame]
      exact keeps_pure ⟨rfl, nofun⟩
    · simp only [if_neg hsame]
      exact keeps_throw fun _ => by simp [Deliberate, Error.boundElsewhere, Error.plain]
  | none =>
    refine keeps_bind (Query.Is.fetchOne (q := .bindThumbprint) ⟨rfl, rfl⟩ sessions_readBy rfl)
      fun done bound _ => ?_
    exact keeps_pure ⟨rfl, nofun⟩

/-- No tokens of a family have been revoked. -/
def Unrevoked (done : Answered) : Prop :=
  ∀ x ∈ done, ∀ session now, x.1 ≠ .revokeTokens session now

theorem Unrevoked.append (h : Unrevoked done) {s : Statement} {reply : Reply}
    (hs : ∀ session now, s ≠ .revokeTokens session now) : Unrevoked (done ++ [(s, reply)]) := by
  intro x hx
  rcases List.mem_append.mp hx with hx | hx
  · exact h x hx
  · obtain rfl := List.mem_singleton.mp hx
    exact hs

theorem Unrevoked.firstRow {done' : Answered} {s : Statement} {reader : Reader α} {a : Option α}
    (h : Unrevoked done) (hrow : FirstRow s reader done done' a)
    (hs : ∀ session now, s ≠ .revokeTokens session now) : Unrevoked done' := by
  obtain ⟨reply, rfl⟩ := hrow.eq_append
  exact h.append hs

theorem Unrevoked.not_familyRevoked (h : Unrevoked done) :
    ¬ Operation.FamilyRevoked (begun (.ok ()) :: done.trace) := by
  rintro ⟨session, now, a, hmem⟩
  rcases List.mem_cons.mp hmem with he | hmem
  · exact ran_ne_begun _ he
  · obtain ⟨x, hx, he⟩ := List.mem_map.mp hmem
    exact h x hx session now (ran_inj.mp he).1

theorem concluding_replace {presented hash : Hash} {fresh : Uuid} {lifetime : Span} {now : Instant}
    (token : Uuid) (next : Token) (h : Unrevoked done) :
    Keeps (.blaming id) (Concluding (.auth (.rotateToken presented fresh hash now lifetime))) done
      (Tokens.replace token next now).run := by
  have hconsume : Query.consume.Is "Failed to consume refresh token"
    (.consume token next.id now) := ⟨rfl, rfl⟩
  have hinsert : Query.insertToken.Is "Failed to insert refresh token" (.insertToken next) :=
    ⟨rfl, rfl⟩
  have htouch : Query.touchSession.Is "Failed to touch session" (.touchSession next.session now) :=
    ⟨rfl, rfl⟩
  refine keeps_bind (keeps_fetchOne hconsume.allows (hconsume.reads tokens_readBy)
    (hconsume.misses rfl _)) fun done₁ _ h₁ => ?_
  have hd₁ := h.firstRow (s := .consume token next.id now) h₁ fun _ _ =>
    Statement.ne_of_command? (by simp)
  refine keeps_bind (keeps_fetchOne hinsert.allows (hinsert.reads tokens_readBy)
    (hinsert.misses rfl _)) fun done₂ _ h₂ => ?_
  have hd₂ := hd₁.firstRow (s := .insertToken next) h₂ fun _ _ =>
    Statement.ne_of_command? (by simp)
  refine keeps_bind (keeps_fetchOne htouch.allows (htouch.reads sessions_readBy)
    (htouch.misses rfl _)) fun done₃ _ h₃ => ?_
  have hd₃ := hd₂.firstRow (s := .touchSession next.session now) h₃ fun _ _ =>
    Statement.ne_of_command? (by simp)
  exact keeps_pure ⟨.inr ⟨hd₃.not_familyRevoked, rfl⟩, nofun⟩

theorem concluding_reuse {presented hash : Hash} {fresh : Uuid} {lifetime : Span}
    (session token : Uuid) (now : Instant) :
    Keeps (.blaming id) (Concluding (.auth (.rotateToken presented fresh hash now lifetime))) done
      (do
        Tokens.revokeFamily session now
        return ⟨"Failed to commit replay revocation", .error (.tokenReused token session)⟩ :
          Action (Verdict TokenRotation)).run := by
  have hsession : Query.revokeFamily.Is "Failed to revoke session" (.revokeSession session now) :=
    ⟨rfl, rfl⟩
  have htokens : Query.revokeFamilyTokens.Is "Failed to revoke session tokens"
    (.revokeTokens session now) := ⟨rfl, rfl⟩
  have hfamily : Keeps (.blaming id)
      (fun done' _ => ∃ reply, (.revokeTokens session now, reply) ∈ done') done
      (Tokens.revokeFamily session now).run := by
    refine keeps_bind hsession.execute fun done₁ _ _ => ?_
    refine keeps_bind (keeps_execute htokens.allows) fun done₂ _ h₂ => ?_
    obtain ⟨reply, rfl, -⟩ := h₂
    exact keeps_pure ⟨reply, List.mem_append_right _ (List.mem_singleton.mpr rfl)⟩
  refine keeps_bind hfamily fun done' _ hdone => ?_
  obtain ⟨reply, hmem⟩ := hdone
  refine keeps_pure ⟨.inl ⟨⟨session, now, .ok reply, ?_⟩, rfl⟩, ?_⟩
  · simp [hmem]
  · intro e he
    cases he
    simp [Deliberate, Error.tokenReused, Error.plain]

theorem concluding_rotate (presented : Hash) (fresh : Uuid) (hash : Hash) (now : Instant)
    (lifetime : Span) :
    ∃ body, (Operation.auth (.rotateToken presented fresh hash now lifetime)).action =
        transaction body ∧
      Keeps (.blaming id) (Concluding (.auth (.rotateToken presented fresh hash now lifetime))) []
        body.run := by
  have hsessionOf : Query.sessionOf.Is "Failed to find refresh token" (.sessionOf presented) :=
    ⟨rfl, rfl⟩
  have hlock : ∀ session, Query.lockSession.Is "Failed to lock session" (.lockSession session) :=
    fun _ => ⟨rfl, rfl⟩
  have hlockToken : Query.lockToken.Is "Failed to lock refresh token" (.lockToken presented) :=
    ⟨rfl, rfl⟩
  have hnil : Unrevoked [] := nofun
  refine ⟨_, rfl, keeps_bind (keeps_sessionOf hsessionOf.allows
    (hsessionOf.reads (scalar_readBy Kind.uuid_readBy))
    (misses_of_deliberate deliberate_unknownToken)) fun done₁ session h₁ => ?_⟩
  have hd₁ := hnil.firstRow h₁ fun _ _ => Statement.ne_of_command? (by simp)
  refine keeps_bind (keeps_lockSession (hlock session).allows
    ((hlock session).reads sessions_readBy)
    (misses_of_deliberate (deliberate_sessionNotFound session))) fun done₂ s h₂ => ?_
  have hd₂ := hd₁.firstRow h₂ fun _ _ => Statement.ne_of_command? (by simp)
  refine keeps_bind (keeps_lockToken hlockToken.allows (hlockToken.reads tokens_readBy)
    (misses_of_deliberate deliberate_unknownToken)) fun done₃ token h₃ => ?_
  have hd₃ := hd₂.firstRow h₃ fun _ _ => Statement.ne_of_command? (by simp)
  refine keeps_unless (fun _ => deliberate_sessionRevoked _) fun _ => ?_
  by_cases hspent : token.isSpent
  · simp only [if_pos hspent]
    exact concluding_reuse session token.id now
  · simp only [if_neg hspent]
    refine keeps_unless (fun _ => by simp [Deliberate, Error.tokenExpired, Error.plain]) fun _ => ?_
    refine keeps_liftExcept_bind (fun e he _ => ?_) fun next _ => concluding_replace _ next hd₃
    rw [(Token.fresh_eq_error he).2]
    simp [Deliberate, Token.lifetimeOutOfRange, Error.plain]

end

end SessionKeeper.Database
