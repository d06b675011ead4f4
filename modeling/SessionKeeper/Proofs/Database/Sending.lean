import SessionKeeper.Proofs.Database.Server
import SessionKeeper.Proofs.Database.Transactions

/-!
# What is sent to issue and to exchange a token

Which statement may follow after what has been answered: `Issuing` lists it for a client that issues
a token, `Rotating` for one that exchanges a token, with everything that the statement takes from
the rows it has read. The bodies of both transactions keep to these lists whatever the database
answers, so what is to be said of their statements is read off the lists.
-/

namespace SessionKeeper.Database

open Exchange

/-! ## What has been answered -/

/-- A statement has been answered, and its first row has been read. -/
def Answers {α : Type} (s : Statement) (reader : Reader α) (trace : Trace) (a : α) : Prop :=
  ∃ (reply : Reply) (row : Row) (rows : List Row), ran s (.ok reply) ∈ trace ∧
    reply.rows = row :: rows ∧ reader row = .ok a

/-- A session has been locked, and its row read. -/
def SessionLocked (trace : Trace) (id : Uuid) (s : Session) : Prop :=
  Answers (.lockSession id) Sessions.read trace s

/-- The current token of a session has been looked up, and there is one. -/
def CurrentFound (trace : Trace) (session token : Uuid) : Prop :=
  Answers (.lockCurrent session) (Row.readFirst Value.toUuid?) trace token

/-- The presented token has been locked, and its row read. -/
def TokenLocked (trace : Trace) (presented : Hash) (t : Token) : Prop :=
  Answers (.lockToken presented) Tokens.read trace t

section

variable {α : Type} {s s' : Statement} {reader : Reader α} {done done' : Answered} {a : α}
  {reply : Reply}

theorem Answers.mono {trace trace' : Trace} (h : Answers s reader trace a)
    (hsub : ∀ x ∈ trace, x ∈ trace') : Answers s reader trace' a := by
  obtain ⟨reply, row, rows, hmem, hrows, hread⟩ := h
  exact ⟨reply, row, rows, hsub _ hmem, hrows, hread⟩

@[simp] theorem answers_begun {b : Except Failure Unit} {trace : Trace} :
    Answers s reader (begun b :: trace) a ↔ Answers s reader trace a := by
  simp [Answers]

theorem FirstRow.answers (h : FirstRow s reader done done' (some a)) :
    Answers s reader done'.trace a := by
  obtain ⟨reply, row, rows, rfl, hrows, hread⟩ := h
  exact ⟨reply, row, rows, by simp, hrows, hread⟩

theorem FirstRow.mem (h : FirstRow s reader done done' (some a)) {x : Statement × Reply}
    (hx : x ∈ done) : x ∈ done' := by
  obtain ⟨reply, rfl⟩ := h.eq_append
  exact List.mem_append_left _ hx

end

/-! ## What may be sent -/

section

variable (t : Token) (policy : IssuePolicy) (now : Instant) (presented : Hash) (id : Uuid)
  (hash : Hash) (lifetime : Span)

/-- The session of a token has been locked, and its current token looked up. -/
def Looked (done : Answered) (s : Session) (current : Option Uuid) : Prop :=
  ∃ done₁, FirstRow (.lockSession t.session) Sessions.read [] done₁ (some s) ∧
    FirstRow (.lockCurrent s.id) (Row.readFirst Value.toUuid?) done₁ done current

/-- What may be sent by a client that issues a token. -/
inductive Issuing : Answered → Statement → Prop where
  | lock : Issuing [] (.lockSession t.session)
  | look {done s} (h : FirstRow (.lockSession t.session) Sessions.read [] done (some s)) :
      Issuing done (.lockCurrent s.id)
  | supersede {done s c} (h : Looked t done s (some c)) (hp : policy = .supersede) :
      Issuing done (.supersede c now)
  | first {done s} (h : Looked t done s none) : Issuing done (.insertToken t)
  | next {done s c} (h : Looked t done s (some c)) (hp : policy = .supersede) (reply : Reply) :
      Issuing (done ++ [(.supersede c now, reply)]) (.insertToken t)

/-- The session of the presented token has been found and locked. -/
def Found (done : Answered) (session : Uuid) (s : Session) : Prop :=
  ∃ done₁, FirstRow (.sessionOf presented) (Row.readFirst Value.toUuid?) [] done₁ (some session) ∧
    FirstRow (.lockSession session) Sessions.read done₁ done (some s)

/-- The presented token has been locked, and its session before it. -/
def Locked (done : Answered) (session : Uuid) (u : Token) : Prop :=
  ∃ done₁ s, Found presented done₁ session s ∧
    FirstRow (.lockToken presented) Tokens.read done₁ done (some u)

/-- What may be sent by a client that exchanges a token. -/
inductive Rotating : Answered → Statement → Prop where
  | find : Rotating [] (.sessionOf presented)
  | lock {done session}
      (h : FirstRow (.sessionOf presented) (Row.readFirst Value.toUuid?) [] done (some session)) :
      Rotating done (.lockSession session)
  | lockToken {done session s} (h : Found presented done session s) :
      Rotating done (.lockToken presented)
  | revokeSession {done session u} (h : Locked presented done session u) :
      Rotating done (.revokeSession session now)
  | revokeTokens {done session u} (h : Locked presented done session u) (reply : Reply) :
      Rotating (done ++ [(.revokeSession session now, reply)]) (.revokeTokens session now)
  | consume {done session u} (h : Locked presented done session u) :
      Rotating done (.consume u.id id now)
  | insert {done session u next} (h : Locked presented done session u)
      (hf : Token.fresh id session hash now lifetime = .ok next) (reply : Reply) :
      Rotating (done ++ [(.consume u.id id now, reply)]) (.insertToken next)
  | touch {done session u next} (h : Locked presented done session u)
      (hf : Token.fresh id session hash now lifetime = .ok next) (r₁ r₂ : Reply) :
      Rotating (done ++ [(.consume u.id id now, r₁), (.insertToken next, r₂)])
        (.touchSession session now)

end

/-! ### The bodies -/

section

variable {t : Token} {policy : IssuePolicy} {now : Instant} {presented hash : Hash} {id : Uuid}
  {lifetime : Span} {done : Answered} {s : Statement} {reply : Reply}

/-- If a current token has been found and is to make room, then it has been superseded. -/
def Owed (policy : IssuePolicy) (now : Instant) (done : Answered) : Prop :=
  ∀ session c, CurrentFound done.trace session c → policy = .supersede →
    ∃ reply, (.supersede c now, reply) ∈ done

theorem currentFound_append {session c : Uuid} :
    CurrentFound (Answered.trace (done ++ [(s, reply)])) session c ↔
      CurrentFound done.trace session c ∨ s = .lockCurrent session ∧
        ∃ row rows, reply.rows = row :: rows ∧ Row.readFirst Value.toUuid? row = .ok c := by
  constructor
  · rintro ⟨reply', row, rows, hmem, hrows, hread⟩
    rw [Answered.ran_mem_trace, List.mem_append, List.mem_singleton] at hmem
    rcases hmem with hmem | hmem
    · exact .inl ⟨reply', row, rows, Answered.ran_mem_trace.mpr hmem, hrows, hread⟩
    · cases hmem
      exact .inr ⟨rfl, row, rows, hrows, hread⟩
  · rintro (⟨reply', row, rows, hmem, hrows, hread⟩ | ⟨rfl, row, rows, hrows, hread⟩)
    · exact ⟨reply', row, rows, by simp_all, hrows, hread⟩
    · exact ⟨reply, row, rows, by simp, hrows, hread⟩

theorem Owed.append (h : Owed policy now done) (hs : ∀ session, s ≠ .lockCurrent session) :
    Owed policy now (done ++ [(s, reply)]) := by
  intro session c hc hp
  rcases currentFound_append.mp hc with hc | ⟨rfl, -⟩
  · obtain ⟨r, hr⟩ := h session c hc hp
    exact ⟨r, List.mem_append_left _ hr⟩
  · exact absurd rfl (hs session)

theorem owed_nil : Owed policy now [] := by
  rintro session c ⟨reply, row, rows, hmem, -⟩
  cases hmem

theorem not_currentFound_locked {id session c : Uuid} {x : Session}
    (h : FirstRow (.lockSession id) Sessions.read [] done (some x)) :
    ¬ CurrentFound done.trace session c := by
  obtain ⟨reply, rfl⟩ := h.eq_append
  intro hc
  rcases currentFound_append.mp hc with ⟨_, _, _, hmem, -⟩ | ⟨he, -⟩
  · cases hmem
  · exact Statement.ne_of_command? (by simp) he

/-- What has been found is what was looked up. -/
theorem Looked.found {x : Session} {current : Option Uuid} {session c : Uuid}
    (h : Looked t done x current) (hc : CurrentFound done.trace session c) : current = some c := by
  obtain ⟨done₁, h₁, h₂⟩ := h
  cases current with
  | none =>
    obtain ⟨reply, rfl, hrows⟩ := h₂
    rcases currentFound_append.mp hc with hc | ⟨-, row, rows, hrows', -⟩
    · exact absurd hc (not_currentFound_locked h₁)
    · rw [hrows] at hrows'
      cases hrows'
  | some c' =>
    obtain ⟨reply, row, rows, rfl, hrows, hread⟩ := h₂
    rcases currentFound_append.mp hc with hc | ⟨-, row', rows', hrows', hread'⟩
    · exact absurd hc (not_currentFound_locked h₁)
    · rw [hrows] at hrows'
      cases hrows'
      rw [hread] at hread'
      cases hread'
      rfl

theorem owed_locked {x : Session}
    (h : FirstRow (.lockSession id) Sessions.read [] done (some x)) : Owed policy now done :=
  fun _ _ hc => absurd hc (not_currentFound_locked h)

theorem Looked.owed_none {x : Session} (h : Looked t done x none) : Owed policy now done :=
  fun _ _ hc => nomatch h.found hc

theorem Looked.owed_superseded {x : Session} {c : Uuid} (h : Looked t done x (some c)) :
    Owed policy now (done ++ [(.supersede c now, reply)]) := by
  intro session c' hc hp
  rcases currentFound_append.mp hc with hc | ⟨he, -⟩
  · cases h.found hc
    exact ⟨reply, by simp⟩
  · exact absurd he (Statement.ne_of_command? (by simp))

/-- The discipline of issuing a token. -/
def Discipline.issuing (t : Token) (policy : IssuePolicy) (now : Instant) : Discipline where
  sends := Issuing t policy now
  fails _ _ _ _ := True
  raises done _ := Owed policy now done

theorem Issuing.allows (h : Issuing t policy now done s) (step : String) :
    (Discipline.issuing t policy now).Allows done step s := ⟨h, fun _ => trivial⟩

theorem keeps_insertToken (h : Issuing t policy now done (.insertToken t))
    (ho : Owed policy now done) :
    Keeps (.issuing t policy now) (fun done _ => Owed policy now done) done
      (Tokens.insert t).run := by
  have ho' : ∀ reply, Owed policy now (done ++ [(.insertToken t, reply)]) :=
    fun reply => ho.append fun _ => Statement.ne_of_command? (by simp)
  refine (keeps_fetchOne (h.allows _) (fun reply _ _ _ _ _ => ho' reply)
    fun reply _ => ho' reply).mono fun done' a hrow => ?_
  obtain ⟨reply, rfl⟩ := hrow.eq_append
  exact ho' reply

theorem keeps_makeRoom {x : Session} {current : Option Uuid} (h : Looked t done x current) :
    Keeps (.issuing t policy now)
      (fun done _ => Owed policy now done ∧ Issuing t policy now done (.insertToken t)) done
      (Tokens.makeRoom x.id policy now current).run := by
  cases current with
  | none => exact keeps_pure ⟨h.owed_none, .first h⟩
  | some c =>
    cases policy with
    | reject => exact keeps_throw fun _ _ _ hp => nomatch hp
    | supersede =>
      have hsupersede : Keeps (.issuing t .supersede now)
          (fun done' _ => ∃ reply, done' = done ++ [(.supersede c now, reply)]) done
          (Tokens.supersede c now).run :=
        keeps_bind (keeps_execute ((Issuing.supersede h rfl).allows _)) fun _ _ hdone => by
          obtain ⟨reply, rfl, -⟩ := hdone
          exact keeps_pure ⟨reply, rfl⟩
      refine keeps_bind hsupersede fun done' _ hdone => ?_
      obtain ⟨reply, rfl⟩ := hdone
      exact keeps_pure ⟨h.owed_superseded, .next h rfl reply⟩

theorem keeps_issue (t : Token) (policy : IssuePolicy) (now : Instant) :
    ∃ body, Tokens.issue t policy now = transaction body ∧
      Keeps (.issuing t policy now) (fun done _ => Owed policy now done) [] body.run := by
  refine ⟨_, rfl, ?_⟩
  have hlock : ∀ reply, Owed policy now ([] ++ [(.lockSession t.session, reply)]) :=
    fun reply => owed_nil.append fun _ => Statement.ne_of_command? (by simp)
  refine keeps_bind (keeps_lockSession (Issuing.lock.allows _) (fun reply _ _ _ _ _ => hlock reply)
    fun reply _ => hlock reply) fun done₁ session h₁ => ?_
  refine keeps_unless (owed_locked h₁) fun _ => ?_
  refine keeps_bind (keeps_fetchOptional ((Issuing.look h₁).allows _) ?_) fun done₂ current h₂ => ?_
  · -- a row that cannot be read has not been found
    intro reply row rows f hrows hf session' c hc
    rcases currentFound_append.mp hc with hc | ⟨-, row', rows', hrows', hread⟩
    · exact absurd hc (not_currentFound_locked h₁)
    · rw [hrows] at hrows'
      cases hrows'
      rw [hf] at hread
      cases hread
  · refine keeps_bind (keeps_makeRoom ⟨done₁, h₁, h₂⟩) fun done₃ superseded h₃ => ?_
    refine keeps_bind (keeps_insertToken h₃.2 h₃.1) fun done₄ inserted h₄ => ?_
    exact keeps_pure h₄

/-- The discipline of exchanging a token. -/
def Discipline.rotating (presented : Hash) (id : Uuid) (hash : Hash) (now : Instant)
    (lifetime : Span) : Discipline where
  sends := Rotating now presented id hash lifetime
  fails _ _ _ _ := True
  raises _ _ := True

theorem Rotating.allows (h : Rotating now presented id hash lifetime done s) (step : String) :
    (Discipline.rotating presented id hash now lifetime).Allows done step s :=
  ⟨h, fun _ => trivial⟩

theorem keeps_revokeFamily {session : Uuid} {u : Token} (h : Locked presented done session u) :
    Keeps (.rotating presented id hash now lifetime) (fun _ _ => True) done
      (Tokens.revokeFamily session now).run := by
  refine keeps_bind (keeps_execute ((Rotating.revokeSession h).allows _)) fun done' _ hdone => ?_
  obtain ⟨reply, rfl, -⟩ := hdone
  exact keeps_bind (keeps_execute ((Rotating.revokeTokens h reply).allows _)) fun _ _ _ =>
    keeps_pure trivial

theorem keeps_replace {session : Uuid} {u next : Token} (h : Locked presented done session u)
    (hf : Token.fresh id session hash now lifetime = .ok next) :
    Keeps (.rotating presented id hash now lifetime) (fun _ _ => True) done
      (Tokens.replace u.id next now).run := by
  obtain ⟨expiresAt, -, rfl⟩ := Token.fresh_eq_ok hf
  have hread : ∀ {α : Type} {done step s} {reader : Reader α},
      (Discipline.rotating presented id hash now lifetime).Reads done step s reader :=
    fun _ _ _ _ _ _ => trivial
  refine keeps_bind (keeps_fetchOne ((Rotating.consume h).allows _) hread fun _ _ => trivial)
    fun done₁ _ h₁ => ?_
  obtain ⟨r₁, rfl⟩ := h₁.eq_append
  refine keeps_bind (keeps_fetchOne ((Rotating.insert h hf r₁).allows _) hread fun _ _ => trivial)
    fun done₂ _ h₂ => ?_
  obtain ⟨r₂, rfl⟩ := h₂.eq_append
  have htouch := Rotating.touch h hf r₁ r₂
  rw [List.append_cons] at htouch
  exact keeps_bind (keeps_fetchOne (htouch.allows _) hread fun _ _ => trivial) fun _ _ _ =>
    keeps_pure trivial

theorem keeps_rotate (presented : Hash) (id : Uuid) (hash : Hash) (now : Instant)
    (lifetime : Span) :
    ∃ body, Tokens.rotate presented id hash now lifetime = transaction body ∧
      Keeps (.rotating presented id hash now lifetime) (fun _ _ => True) [] body.run := by
  refine ⟨_, rfl, ?_⟩
  refine keeps_bind (keeps_sessionOf (Rotating.find.allows _) (fun _ _ _ _ _ _ => trivial)
    fun _ _ => trivial) fun done₁ session h₁ => ?_
  refine keeps_bind (keeps_lockSession ((Rotating.lock h₁).allows _)
    (fun _ _ _ _ _ _ => trivial) fun _ _ => trivial) fun done₂ s h₂ => ?_
  have hfound : Found presented done₂ session s := ⟨done₁, h₁, h₂⟩
  refine keeps_bind (keeps_lockToken ((Rotating.lockToken hfound).allows _)
    (fun _ _ _ _ _ _ => trivial) fun _ _ => trivial) fun done₃ u h₃ => ?_
  have hlocked : Locked presented done₃ session u := ⟨done₂, s, hfound, h₃⟩
  refine keeps_unless trivial fun _ => ?_
  by_cases hspent : u.isSpent
  · simp only [if_pos hspent]
    exact keeps_bind (keeps_revokeFamily hlocked) fun _ _ _ => keeps_pure trivial
  · simp only [if_neg hspent]
    refine keeps_unless trivial fun _ => ?_
    exact keeps_liftExcept_bind (fun _ _ => trivial) fun next hf => keeps_replace hlocked hf

end

end SessionKeeper.Database
