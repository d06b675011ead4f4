import SessionKeeper.Proofs.Database.Discipline
import SessionKeeper.Proofs.Database.Statements
import SessionKeeper.Proofs.Store.Rows

/-!
# Transactions last exactly if their results say so

Issuing a token, exchanging one and binding a session to a key take one transaction each. Whatever
the database answers, a result means that the transaction has been committed and that every
statement in it was answered. An error means that it has not, with one exception: when a token is
reused, the exchange is refused and the revocation of its session lasts, and nothing else has been
written.
-/

namespace SessionKeeper.Database

open Exchange

variable {α : Type} {trace : Trace} {result : Except Error α}

/-! ## How a transaction ends -/

/-- A transaction has been begun, every statement in it answered, and then it was committed. -/
def Lasting (trace : Trace) : Prop :=
  ∃ done : Answered, trace = begun (.ok ()) :: done.trace ++ [committed (.ok ())]

/-- No transaction has been committed, and if one was begun and its commit not tried, it was given
up at the end. -/
structure GivenUp (trace : Trace) : Prop where
  uncommitted : committed (.ok ()) ∉ trace
  rolledBack : begun (.ok ()) ∈ trace → (∀ a, committed a ∉ trace) →
    ∃ before, trace = before ++ [rolledBack]

/-- What has been exchanged in a transaction agrees with its result: what was done lasts if there is
a result, and nothing lasts if there is an error. Only what was done about a reused token lasts
although there is an error, and then `reuse` holds of it. -/
def Settled (reuse : Trace → Prop) (trace : Trace) : Except Error α → Prop
  | .ok _ => Lasting trace
  | .error e => if e.kind = .replayDetected then Lasting trace ∧ reuse trace else GivenUp trace

/-- An error that does not speak of a reused token. -/
def Ordinary (e : Error) : Prop := e.kind ≠ .replayDetected

theorem Failure.ordinary (f : Failure) (step : String) : Ordinary (f.toError step) := by
  change f.kind ≠ .replayDetected
  cases f with
  | refused code constraint message =>
    simp only [Failure.kind, Failure.kindOf]
    repeat' split
    all_goals simp
  | _ => simp [Failure.kind]

theorem givenUp_unbegun (f : Failure) : GivenUp [begun (.error f)] := by
  refine ⟨fun hmem => ?_, fun hmem => ?_⟩ <;> cases List.mem_singleton.mp hmem

theorem givenUp_abandoned (done : Trace) (h : ∀ a, committed a ∉ done) :
    GivenUp (begun (.ok ()) :: done ++ [rolledBack]) := by
  refine ⟨fun hmem => ?_, fun _ _ => ⟨_, rfl⟩⟩
  rcases List.mem_append.mp hmem with hmem | hmem
  · rcases List.mem_cons.mp hmem with he | hmem
    · cases he
    · exact h _ hmem
  · cases List.mem_singleton.mp hmem

theorem givenUp_uncommitted (done : Trace) (f : Failure) (h : ∀ a, committed a ∉ done) :
    GivenUp (begun (.ok ()) :: done ++ [committed (.error f), rolledBack]) := by
  refine ⟨fun hmem => ?_, fun _ hnone => absurd (by simp) (hnone (.error f))⟩
  rcases List.mem_append.mp hmem with hmem | hmem
  · rcases List.mem_cons.mp hmem with he | hmem
    · cases he
    · exact h _ hmem
  · rcases List.mem_cons.mp hmem with he | hmem
    · cases he
    · cases List.mem_singleton.mp hmem

theorem Answered.committed_not_mem (done : Answered) (a : Except Failure Unit) :
    committed a ∉ done.trace := by
  intro hmem
  obtain ⟨x, -, he⟩ := List.mem_map.mp hmem
  cases he

theorem Ran.committed_not_mem {raises : Error → Prop} {post : Answered → α → Prop}
    {done : Answered} (h : Ran raises post done trace result) (a : Except Failure Unit) :
    committed a ∉ trace := by
  intro hmem
  cases h with
  | ended later | raised later => exact later.committed_not_mem a hmem
  | failed later s f step =>
    rcases List.mem_append.mp hmem with hmem | hmem
    · exact later.committed_not_mem a hmem
    · cases List.mem_singleton.mp hmem

/-- A verdict that gives a result, or one that tells about a reused token after `reuse`. -/
def Judged (reuse : Trace → Prop) (done : Answered) (v : Verdict α) : Prop :=
  match v.result with
  | .ok _ => True
  | .error e => e.kind = .replayDetected ∧
    reuse (begun (.ok ()) :: done.trace ++ [committed (.ok ())])

/-- It is enough to look at the body of a transaction. -/
theorem settled_transaction {body : Action (Verdict α)} {reuse : Trace → Prop}
    (h : Traced (transaction body).run trace result)
    (hbody : Steady Ordinary (Judged reuse) [] body.run) : Settled reuse trace result := by
  -- Errors of statements, of a begin and of a commit are ordinary. So an error can tell about a
  -- reused token only as the verdict of a transaction that was committed.
  cases traced_transaction h with
  | unbegun f =>
    exact (if_neg (f.ordinary _)).mpr (givenUp_unbegun f)
  | @abandoned trace e ht =>
    have hran := hbody.ran ht
    have hordinary : Ordinary e := hran.raises_of_error Failure.ordinary
    exact (if_neg hordinary).mpr (givenUp_abandoned trace hran.committed_not_mem)
  | @uncommitted trace v f ht =>
    exact (if_neg (f.ordinary _)).mpr (givenUp_uncommitted trace f (hbody.ran ht).committed_not_mem)
  | @concluded trace v ht =>
    obtain ⟨done, rfl, hv⟩ := (hbody.ran ht).post_of_ok
    have hlasting : Lasting (begun (.ok ()) :: done.trace ++ [committed (.ok ())]) := ⟨done, rfl⟩
    unfold Judged at hv
    cases hresult : v.result with
    | ok a => exact hlasting
    | error e =>
      rw [hresult] at hv
      exact (if_pos hv.1).mpr ⟨hlasting, hv.2⟩

/-! ## Reuse -/

namespace Statement

/-- A statement that does more than look at rows, or lock them. -/
def writes (s : Statement) : Bool := !"SELECT".toList.isPrefixOf s.text.toList

@[simp] theorem writes_sessionOf (hash : Hash) : (sessionOf hash).writes = false := by
  simp [writes, sessionOf]

@[simp] theorem writes_lockSession (id : Uuid) : (lockSession id).writes = false := by
  simp [writes, lockSession]

@[simp] theorem writes_lockToken (hash : Hash) : (lockToken hash).writes = false := by
  simp [writes, lockToken]

@[simp] theorem writes_revokeSession (id : Uuid) (now : Instant) :
    (revokeSession id now).writes = true := by
  simp [writes, revokeSession, List.isPrefixOf]

@[simp] theorem writes_revokeTokens (session : Uuid) (now : Instant) :
    (revokeTokens session now).writes = true := by
  simp [writes, revokeTokens, List.isPrefixOf]

end Statement

namespace Exchange

/-- The statement that is run. -/
def statement? : Exchange → Option Statement
  | ⟨.run s, _⟩ => some s
  | _ => none

@[simp] theorem statement?_begun (a : Except Failure Unit) : (begun a).statement? = none := rfl

@[simp] theorem statement?_committed (a : Except Failure Unit) : (committed a).statement? = none :=
  rfl

@[simp] theorem statement?_rolledBack : rolledBack.statement? = none := rfl

@[simp] theorem statement?_ran (s : Statement) (a : Except Failure Reply) :
    (ran s a).statement? = some s := rfl

end Exchange

/-- The statements that write, of those that are run in a trace. -/
def writes (trace : Trace) : List Statement :=
  (trace.filterMap Exchange.statement?).filter Statement.writes

theorem writes_lasting (done : Answered) :
    writes (begun (.ok ()) :: done.trace ++ [committed (.ok ())]) =
      (done.map Prod.fst).filter Statement.writes := by
  have hbetween : done.trace.filterMap Exchange.statement? = done.map Prod.fst := by
    simp [Answered.trace, List.filterMap_map, Function.comp_def]
  simp [writes, List.filterMap_cons, hbetween]

/-- The database names a session as that of the presented token. -/
def SessionNamed (presented : Hash) (session : Uuid) (trace : Trace) : Prop :=
  ∃ (reply : Reply) (row : Row) (rows : List Row),
    ran (.sessionOf presented) (.ok reply) ∈ trace ∧ reply.rows = row :: rows ∧
      Row.readFirst Value.toUuid? row = .ok session

/-- All that is written is that the session of the presented token is revoked, together with those
tokens of it that are not. -/
def RevokesOnly (presented : Hash) (now : Instant) (trace : Trace) : Prop :=
  ∃ session, SessionNamed presented session trace ∧
    writes trace = [.revokeSession session now, .revokeTokens session now]

/-! ## The bodies -/

section

variable {done : Answered}

theorem steady_found {id : Uuid} {post : Answered → Session → Prop} {s : Option Session}
    (h : ∀ a, s = some a → post done a) :
    Steady Ordinary post done (Sessions.found id s).run := by
  cases s with
  | none => exact steady_throw (by simp [Ordinary, Error.sessionNotFound, Error.plain])
  | some a => exact steady_pure (h a rfl)

theorem steady_known {post : Answered → α → Prop} {x : Option α}
    (h : ∀ a, x = some a → post done a) : Steady Ordinary post done (Tokens.known x).run := by
  cases x with
  | none => exact steady_throw (by simp [Ordinary, Error.unknownToken, Error.plain])
  | some a => exact steady_pure (h a rfl)

theorem steady_lockSession (id : Uuid) :
    Steady Ordinary (fun done' s => FirstRow (.lockSession id) Sessions.read done done' (some s))
      done (Sessions.lock id).run :=
  steady_bind (steady_fetchOptional Failure.ordinary _ _ _) fun _ _ h =>
    steady_found fun _ ha => ha ▸ h

theorem steady_sessionOf (hash : Hash) :
    Steady Ordinary
      (fun done' s => FirstRow (.sessionOf hash) (Row.readFirst Value.toUuid?) done done' (some s))
      done (Tokens.sessionOf hash).run :=
  steady_bind (steady_fetchOptional Failure.ordinary _ _ _) fun _ _ h =>
    steady_known fun _ ha => ha ▸ h

theorem steady_lockToken (hash : Hash) :
    Steady Ordinary (fun done' t => FirstRow (.lockToken hash) Tokens.read done done' (some t))
      done (Tokens.lock hash).run :=
  steady_bind (steady_fetchOptional Failure.ordinary _ _ _) fun _ _ h =>
    steady_known fun _ ha => ha ▸ h

theorem steady_makeRoom (session : Uuid) (policy : IssuePolicy) (now : Instant)
    (current : Option Uuid) :
    Steady Ordinary (fun _ _ => True) done (Tokens.makeRoom session policy now current).run := by
  cases current with
  | none => exact steady_pure trivial
  | some current =>
    cases policy with
    | reject => exact steady_throw (by simp [Ordinary, Error.holdsToken, Error.plain])
    | supersede =>
      have hsupersede : Steady Ordinary (fun _ _ => True) done (Tokens.supersede current now).run :=
        steady_bind (steady_execute _ _) fun _ _ _ => steady_pure trivial
      exact steady_bind hsupersede fun _ _ _ => steady_pure trivial

theorem steady_revokeFamily (session : Uuid) (now : Instant) :
    Steady Ordinary (fun done' _ => ∃ r₁ r₂ : Reply, done' = done ++
      [(.revokeSession session now, r₁), (.revokeTokens session now, r₂)])
      done (Tokens.revokeFamily session now).run := by
  refine steady_bind (steady_execute _ _) fun done₁ _ h₁ => ?_
  refine steady_bind (steady_execute _ _) fun done₂ _ h₂ => steady_pure ?_
  obtain ⟨r₁, rfl, -⟩ := h₁
  obtain ⟨r₂, rfl, -⟩ := h₂
  exact ⟨r₁, r₂, by simp [Statement.revokeSession, Statement.revokeTokens]⟩

end

theorem revokesOnly_of_answered {presented : Hash} {session : Uuid} {now : Instant} {s : Session}
    {token : Token} {done₁ done₂ done₃ done₄ : Answered} {r₁ r₂ : Reply}
    (h₁ : FirstRow (.sessionOf presented) (Row.readFirst Value.toUuid?) [] done₁ (some session))
    (h₂ : FirstRow (.lockSession session) Sessions.read done₁ done₂ (some s))
    (h₃ : FirstRow (.lockToken presented) Tokens.read done₂ done₃ (some token))
    (h₄ : done₄ = done₃ ++ [(.revokeSession session now, r₁), (.revokeTokens session now, r₂)]) :
    RevokesOnly presented now (begun (.ok ()) :: done₄.trace ++ [committed (.ok ())]) := by
  obtain ⟨reply, row, rows, rfl, hrows, hnamed⟩ := h₁
  obtain ⟨_, _, _, rfl, -⟩ := h₂
  obtain ⟨_, _, _, rfl, -⟩ := h₃
  subst h₄
  refine ⟨session, ⟨reply, row, rows, ?_, hrows, hnamed⟩, ?_⟩
  · simp [Answered.trace]
  · rw [writes_lasting]
    simp

section

variable {t : Token} {policy : IssuePolicy} {now : Instant} {id : Uuid} {thumbprint : String}
  {presented hash : Hash} {lifetime : Span}

theorem settled_issue {result : Except Error TokenIssue}
    (h : Traced (Tokens.issue t policy now).run trace result) :
    Settled (fun _ => False) trace result := by
  refine settled_transaction h (steady_bind (steady_lockSession _) fun done session _ => ?_)
  refine steady_unless (by simp [Ordinary, Error.sessionRevoked, Error.plain]) fun _ => ?_
  refine steady_bind (steady_fetchOptional Failure.ordinary _ _ _) fun done current _ => ?_
  refine steady_bind (steady_makeRoom _ _ _ _) fun done superseded _ => ?_
  refine steady_bind (steady_fetchOne Failure.ordinary _ _ _) fun done inserted _ => ?_
  exact steady_pure trivial

theorem settled_bindThumbprint {result : Except Error Session}
    (h : Traced (Sessions.bindThumbprint id thumbprint).run trace result) :
    Settled (fun _ => False) trace result := by
  refine settled_transaction h (steady_bind (steady_lockSession _) fun done session _ => ?_)
  refine steady_unless (by simp [Ordinary, Error.sessionRevoked, Error.plain]) fun _ => ?_
  cases session.thumbprint with
  | some existing =>
    by_cases hsame : existing = thumbprint
    · simp only [if_pos hsame]
      exact steady_pure trivial
    · simp only [if_neg hsame]
      exact steady_throw (by simp [Ordinary, Error.boundElsewhere, Error.plain])
  | none =>
    refine steady_bind (steady_fetchOne Failure.ordinary _ _ _) fun done bound _ => ?_
    exact steady_pure trivial

theorem settled_rotate {result : Except Error TokenRotation}
    (h : Traced (Tokens.rotate presented id hash now lifetime).run trace result) :
    Settled (RevokesOnly presented now) trace result := by
  refine settled_transaction h (steady_bind (steady_sessionOf _) fun done₁ session h₁ => ?_)
  refine steady_bind (steady_lockSession _) fun done₂ s h₂ => ?_
  refine steady_bind (steady_lockToken _) fun done₃ token h₃ => ?_
  refine steady_unless (by simp [Ordinary, Error.sessionRevoked, Error.plain]) fun _ => ?_
  by_cases hspent : token.isSpent
  · -- the one way to a verdict that is an error
    simp only [if_pos hspent]
    refine steady_bind (steady_revokeFamily _ _) fun done₄ _ h₄ => steady_pure ?_
    obtain ⟨r₁, r₂, h₄⟩ := h₄
    exact ⟨rfl, revokesOnly_of_answered h₁ h₂ h₃ h₄⟩
  · simp only [if_neg hspent]
    refine steady_unless (by simp [Ordinary, Error.tokenExpired, Error.plain]) fun _ => ?_
    refine steady_liftExcept_bind (fun e he => ?_) fun next _ => ?_
    · rw [(Token.fresh_eq_error he).2]
      simp [Ordinary, Token.lifetimeOutOfRange, Error.plain]
    · refine steady_bind (steady_fetchOne Failure.ordinary _ _ _) fun _ previous _ => ?_
      refine steady_bind (steady_fetchOne Failure.ordinary _ _ _) fun _ replacement _ => ?_
      refine steady_bind (steady_fetchOne Failure.ordinary _ _ _) fun _ session _ => ?_
      exact steady_pure trivial

end

/-! ## Every transaction -/

/-- Whatever a database answers to a client that issues a token, binds a session or exchanges a
token, what lasts of it is what the result says. -/
theorem transactions_settled :
    (∀ t policy now trace result, Traced (Tokens.issue t policy now).run trace result →
      Settled (fun _ => False) trace result) ∧
    (∀ id thumbprint trace result, Traced (Sessions.bindThumbprint id thumbprint).run trace result →
      Settled (fun _ => False) trace result) ∧
    (∀ presented id hash now lifetime trace result,
      Traced (Tokens.rotate presented id hash now lifetime).run trace result →
      Settled (RevokesOnly presented now) trace result) :=
  ⟨fun _ _ _ _ _ h => settled_issue h, fun _ _ _ _ h => settled_bindThumbprint h,
    fun _ _ _ _ _ _ _ h => settled_rotate h⟩

/-- A database that holds one session and a token of it that has been used. -/
def spentReply (r : Request) : r.Answer :=
  match r with
  | .begin | .commit | .migrate _ => Except.ok ()
  | .rollback => ()
  | .migrationLog => ({} : MigrationLog)
  | .run s => Except.ok <|
    if s = .sessionOf [7] then ⟨[[("session_id", .uuid ⟨1⟩)]], 1⟩
    else if s = .lockSession ⟨1⟩ then
      ⟨[[("id", .uuid ⟨1⟩), ("user_id", .uuid ⟨2⟩), ("dpop_jkt", .null),
        ("created_at", .instant ⟨0, false⟩), ("last_used_at", .null), ("revoked_at", .null)]], 1⟩
    else if s = .lockToken [7] then
      ⟨[[("id", .uuid ⟨3⟩), ("session_id", .uuid ⟨1⟩), ("token_hash", .bytes [7]),
        ("issued_at", .instant ⟨0, false⟩), ("expires_at", .instant ⟨9000, false⟩),
        ("used_at", .instant ⟨1000, false⟩), ("revoked_at", .null),
        ("replaced_by", .uuid ⟨4⟩)]], 1⟩
    else ⟨[], 1⟩

/-- The used token is presented again. -/
theorem transactions_settled_reuse :
    ∃ (trace : Trace) (e : Error),
      Traced (Tokens.rotate [7] ⟨5⟩ [8] ⟨2000, false⟩ ⟨1000⟩).run trace (.error e) ∧
      e.kind = .replayDetected ∧ Lasting trace ∧ RevokesOnly [7] ⟨2000, false⟩ trace := by
  let p := (Tokens.rotate [7] ⟨5⟩ [8] ⟨2000, false⟩ ⟨1000⟩).run
  have ht := traced_exchange (fun _ => spentReply) [] p
  have he : (exchange (fun _ => spentReply) [] p).2 = .error (.tokenReused ⟨3⟩ ⟨1⟩) := by
    rfl
  rw [he] at ht
  obtain ⟨hlasting, hrevokes⟩ := transactions_settled.2.2 _ _ _ _ _ _ _ ht
  exact ⟨_, _, ht, rfl, hlasting, hrevokes⟩

end SessionKeeper.Database
