import Mathlib.Data.List.Induction
import SessionKeeper.Proofs.Database.Sending
import SessionKeeper.Proofs.Database.Tables

/-!
# Sessions are locked before tokens, and tokens linked forward

Issuing a token and exchanging one lock the session before they lock or write any token, so two of
them for one session never wait for each other. A token leaves the set of current ones before the
next one enters, because the database looks at that set when a row is entered and not when the
transaction is committed. Both hold along every branch and whatever the database answers, and both
are read off the lists of what may be sent (`Issuing`, `Rotating`): what a statement is to keep to
is checked once for each entry (`Guarded`), and what a trace keeps to follows from that.
-/

namespace SessionKeeper.Database

open Exchange

/-! ## What statements do -/

namespace Command

/-- What a column has to hold, if that is a parameter. -/
def demanded? (column : String) (parameters : List Value) (conditions : List Condition) :
    Option Value :=
  conditions.findSome? fun
    | .equals c n => if c = column then some (parameter parameters n) else none
    | .isNull _ => none

/-- The session that a command names. -/
def session? (parameters : List Value) : Command → Option Value
  | select _ .sessions conditions | update .sessions _ conditions _ =>
    demanded? "id" parameters conditions
  | select _ .tokens conditions | update .tokens _ conditions _ =>
    demanded? "session_id" parameters conditions
  | insertToken => some (parameter parameters 2)

/-- A command that changes tokens. -/
def updatesTokens : Command → Bool
  | update .tokens _ _ _ => true
  | _ => false

/-- A command that names what replaces a token. -/
def links : Command → Bool
  | update .tokens changes _ _ => changes.any fun c => c.1 == "replaced_by"
  | _ => false

end Command

namespace Statement

/-- The session that a statement names. -/
def session? (s : Statement) : Option Value := s.command?.bind (·.session? s.parameters)

/-- Whether a statement changes tokens. -/
def updatesTokens (s : Statement) : Bool := s.command?.any Command.updatesTokens

/-- Whether a statement names what replaces a token. -/
def links (s : Statement) : Bool := s.command?.any Command.links

/-- A statement that enters a token. -/
def inserts (s : Statement) : Bool := s.command? == some .insertToken

/-- A statement that locks the rows it gives. -/
def locks (s : Statement) : Bool := "FOR UPDATE".toList.isSuffixOf s.text.toList

/-- A statement that locks or writes tokens. -/
def claimsTokens (s : Statement) : Bool :=
  match s.command? with
  | some (.select _ .tokens _) => s.locks
  | some .insertToken => true
  | some c => c.updatesTokens
  | none => false

section

variable (id session next : Uuid) (hash : Hash) (now : Instant) (t : Token)

@[simp] theorem claimsTokens_sessionOf : (sessionOf hash).claimsTokens = false := by
  have hlocks : (sessionOf hash).locks = false := by
    simp [locks, sessionOf, List.isSuffixOf, List.isPrefixOf]
  rw [claimsTokens, command?_sessionOf]
  exact hlocks

@[simp] theorem claimsTokens_lockSession : (lockSession id).claimsTokens = false := by
  rw [claimsTokens, command?_lockSession]
  rfl

@[simp] theorem session?_sessionOf : (sessionOf hash).session? = none := by
  rw [session?, command?_sessionOf]
  rfl

@[simp] theorem session?_lockToken : (lockToken hash).session? = none := by
  rw [session?, command?_lockToken]
  rfl

@[simp] theorem session?_lockSession : (lockSession id).session? = some (.uuid id) := by
  rw [session?, command?_lockSession]
  rfl

@[simp] theorem session?_lockCurrent : (lockCurrent session).session? = some (.uuid session) := by
  rw [session?, command?_lockCurrent]
  rfl

@[simp] theorem session?_supersede : (supersede id now).session? = none := by
  rw [session?, command?_supersede]
  rfl

@[simp] theorem session?_revokeSession : (revokeSession id now).session? = some (.uuid id) := by
  rw [session?, command?_revokeSession]
  rfl

@[simp] theorem session?_revokeTokens :
    (revokeTokens session now).session? = some (.uuid session) := by
  rw [session?, command?_revokeTokens]
  rfl

@[simp] theorem session?_consume : (consume id next now).session? = none := by
  rw [session?, command?_consume]
  rfl

@[simp] theorem session?_insertToken : (insertToken t).session? = some (.uuid t.session) := by
  rw [session?, command?_insertToken]
  rfl

@[simp] theorem session?_touchSession : (touchSession id now).session? = some (.uuid id) := by
  rw [session?, command?_touchSession]
  rfl

end

end Statement

/-! ## One statement -/

/-- The session that a statement locks. -/
def Statement.lockedSession? (s : Statement) : Option Value :=
  if s.command? = some (.select none .sessions [.equals "id" 1]) then s.session? else none

/-- No other session has been locked. -/
def OnlyLocked (session : Uuid) (done : Answered) : Prop :=
  ∀ y ∈ done, ∀ v, y.1.lockedSession? = some v → v = .uuid session

theorem OnlyLocked.eq {session id : Uuid} {done : Answered} {x : Session}
    (h : OnlyLocked session done) (hx : SessionLocked done.trace id x) : id = session := by
  obtain ⟨reply, row, rows, hmem, -⟩ := hx
  have hv := h _ (Answered.ran_mem_trace.mp hmem) (.uuid id) (by simp [Statement.lockedSession?])
  cases hv
  rfl

/-- No token has been entered. -/
def Unentered (done : Answered) : Prop := ∀ y ∈ done, y.1.inserts = false

/-- What a statement is to keep to after what has been answered. -/
structure Guarded (done : Answered) (s : Statement) : Prop where
  known : s.command?.isSome
  locked : s.claimsTokens = true → ∃ session x, SessionLocked done.trace session x
  only : ∀ session x v, SessionLocked done.trace session x → s.session? = some v →
    v = .uuid session
  first : s.inserts = true → Unentered done

/-- Before a session is locked, tokens are left alone. -/
theorem guarded_of_unlocked {done : Answered} {s : Statement} (hknown : s.command?.isSome)
    (hclaims : s.claimsTokens = false) (hnone : ∀ y ∈ done, y.1.lockedSession? = none)
    (hfirst : s.inserts = false) : Guarded done s where
  known := hknown
  locked h := by
    rw [hclaims] at h
    cases h
  only id x _ hx := by
    obtain ⟨reply, row, rows, hmem, -⟩ := hx
    have hlock := hnone _ (Answered.ran_mem_trace.mp hmem)
    simp [Statement.lockedSession?] at hlock
  first h := by
    rw [hfirst] at h
    cases h

/-- A session is locked, and no other. -/
structure Holding (session : Uuid) (done : Answered) : Prop where
  locked : ∃ x, SessionLocked done.trace session x
  only : OnlyLocked session done

section

variable {session : Uuid} {done : Answered} {s : Statement} {reply : Reply}

theorem Holding.append (h : Holding session done) (hs : s.lockedSession? = none) :
    Holding session (done ++ [(s, reply)]) where
  locked := by
    obtain ⟨x, hx⟩ := h.locked
    exact ⟨x, hx.mono fun y hy => by simp [hy]⟩
  only := by
    intro y hy v hv
    rcases List.mem_append.mp hy with hy | hy
    · exact h.only y hy v hv
    · rw [List.mem_singleton.mp hy, hs] at hv
      cases hv

theorem Unentered.append (h : Unentered done) (hs : s.inserts = false) :
    Unentered (done ++ [(s, reply)]) := by
  intro y hy
  rcases List.mem_append.mp hy with hy | hy
  · exact h y hy
  · rw [List.mem_singleton.mp hy]
    exact hs

theorem Holding.guarded (h : Holding session done) (hknown : s.command?.isSome)
    (hnames : ∀ v, s.session? = some v → v = .uuid session)
    (hfirst : s.inserts = true → Unentered done) : Guarded done s where
  known := hknown
  locked _ := by
    obtain ⟨x, hx⟩ := h.locked
    exact ⟨session, x, hx⟩
  only id x hx v hv := by
    rw [h.only.eq v]
    exact hnames hx hv
  first := hfirst

end

section

variable {t : Token} {policy : IssuePolicy} {now : Instant} {presented hash : Hash} {id : Uuid}
  {lifetime : Span} {done : Answered} {s : Statement} {session : Uuid} {x : Session}
  {current : Option Uuid} {u : Token}

/-- The first statement that locks a session. -/
theorem holding_of_firstRow {before : Answered}
    (h : FirstRow (.lockSession session) Sessions.read before done (some x))
    (hnone : ∀ y ∈ before, y.1.lockedSession? = none) : Holding session done where
  locked := ⟨x, h.answers⟩
  only := by
    obtain ⟨reply, rfl⟩ := h.eq_append
    intro y hy v hv
    rcases List.mem_append.mp hy with hy | hy
    · rw [hnone y hy] at hv
      cases hv
    · rw [List.mem_singleton.mp hy] at hv
      simpa [Statement.lockedSession?] using hv.symm

theorem Looked.holding (h : Looked t done x current) :
    Holding t.session done ∧ Unentered done := by
  obtain ⟨done₁, h₁, h₂⟩ := h
  have hholding := holding_of_firstRow h₁ (by simp)
  obtain ⟨r₁, rfl⟩ := h₁.eq_append
  obtain ⟨r₂, rfl⟩ := h₂.eq_append
  exact ⟨hholding.append (by simp [Statement.lockedSession?]),
    by simp [Unentered, Statement.inserts]⟩

theorem Issuing.guarded (h : Issuing t policy now done s)
    (hrow : ∀ x, SessionLocked done.trace t.session x → x.id = t.session) : Guarded done s := by
  cases h with
  | lock =>
    exact guarded_of_unlocked (by simp) (by simp) (by simp) (by simp [Statement.inserts])
  | @look _ x h₁ =>
    have hid := hrow x h₁.answers
    exact (holding_of_firstRow h₁ (by simp)).guarded (by simp) (by simp [hid])
      (by simp [Statement.inserts])
  | supersede h hp =>
    exact h.holding.1.guarded (by simp) (by simp) (by simp [Statement.inserts])
  | first h => exact h.holding.1.guarded (by simp) (by simp) fun _ => h.holding.2
  | next h hp reply =>
    refine (h.holding.1.append ?_).guarded (by simp) (by simp) fun _ => h.holding.2.append ?_
    · simp [Statement.lockedSession?]
    · simp [Statement.inserts]

theorem Found.holding (h : Found presented done session x) :
    Holding session done ∧ Unentered done := by
  obtain ⟨done₁, h₁, h₂⟩ := h
  obtain ⟨r₁, rfl⟩ := h₁.eq_append
  refine ⟨holding_of_firstRow h₂ (by simp [Statement.lockedSession?]), ?_⟩
  obtain ⟨r₂, rfl⟩ := h₂.eq_append
  simp [Unentered, Statement.inserts]

theorem Locked.holding (h : Locked presented done session u) :
    Holding session done ∧ Unentered done := by
  obtain ⟨done₁, x, h₁, h₂⟩ := h
  obtain ⟨r₃, rfl⟩ := h₂.eq_append
  exact ⟨h₁.holding.1.append (by simp [Statement.lockedSession?]),
    h₁.holding.2.append (by simp [Statement.inserts])⟩

theorem Rotating.guarded (h : Rotating now presented id hash lifetime done s) :
    Guarded done s := by
  cases h with
  | find => exact guarded_of_unlocked (by simp) (by simp) (by simp) (by simp [Statement.inserts])
  | lock h =>
    obtain ⟨r₁, rfl⟩ := h.eq_append
    exact guarded_of_unlocked (by simp) (by simp) (by simp [Statement.lockedSession?])
      (by simp [Statement.inserts])
  | lockToken h | revokeSession h | consume h =>
    exact h.holding.1.guarded (by simp) (by simp) (by simp [Statement.inserts])
  | revokeTokens h reply =>
    refine (h.holding.1.append ?_).guarded (by simp) (by simp) (by simp [Statement.inserts])
    simp [Statement.lockedSession?]
  | insert h hf reply =>
    obtain ⟨expiresAt, -, rfl⟩ := Token.fresh_eq_ok hf
    refine (h.holding.1.append ?_).guarded (by simp) (by simp) fun _ => h.holding.2.append ?_
    · simp [Statement.lockedSession?]
    · simp [Statement.inserts]
  | touch h hf r₄ r₅ =>
    rw [List.append_cons]
    refine ((h.holding.1.append ?_).append ?_).guarded (by simp) (by simp)
      (by simp [Statement.inserts])
    · simp [Statement.lockedSession?]
    · simp [Statement.lockedSession?]

end

/-! ## What follows for traces -/

/-- A session is locked before tokens are locked or written, and from then on it is the only one
that is named. At most one token is entered. -/
structure SessionFirst (trace : Trace) : Prop where
  known : ∀ s a, ran s a ∈ trace → s.command?.isSome
  locked : ∀ before s a after, trace = before ++ ran s a :: after → s.claimsTokens = true →
    ∃ session x, SessionLocked before session x
  only : ∀ before s a after session x v, trace = before ++ ran s a :: after →
    SessionLocked before session x → s.session? = some v → v = .uuid session
  single : (trace.filterMap Exchange.statement?).countP Statement.inserts ≤ 1

/-- Where a token is issued, the current one is superseded exactly if there is one and the policy
says so, and the new one enters after that. -/
structure IssueLinks (t : Token) (policy : IssuePolicy) (now : Instant) (trace : Trace) : Prop where
  supersedes : ∀ before s a after, trace = before ++ ran s a :: after → s.updatesTokens = true →
    ∃ session c, CurrentFound before session c ∧ policy = .supersede ∧ s = .supersede c now
  superseded : ∀ session c, CurrentFound trace session c → policy = .supersede →
    ∃ a, ran (.supersede c now) a ∈ trace
  inserts : ∀ before s a after, trace = before ++ ran s a :: after → s.inserts = true →
    s = .insertToken t ∧ ∃ session reply, ran (.lockCurrent session) (.ok reply) ∈ before ∧
      (reply.rows = [] ∨ ∃ c r, CurrentFound before session c ∧
        ran (.supersede c now) (.ok r) ∈ before)

/-- Where a token is exchanged, the one that was read under its lock is used up and names the next
one, and the next one enters after that. -/
structure RotateLinks (presented : Hash) (id : Uuid) (hash : Hash) (now : Instant)
    (lifetime : Span) (trace : Trace) : Prop where
  links : ∀ before s a after, trace = before ++ ran s a :: after → s.links = true →
    ∃ u, TokenLocked before presented u ∧ s = .consume u.id id now
  inserts : ∀ before s a after, trace = before ++ ran s a :: after → s.inserts = true →
    ∃ session x u expiresAt reply, SessionLocked before session x ∧
      TokenLocked before presented u ∧ ran (.consume u.id id now) (.ok reply) ∈ before ∧
      now.add? lifetime = some expiresAt ∧
      s = .insertToken ⟨id, session, hash, now, expiresAt, none, none, none⟩

section

variable {trace : Trace}

/-- Nothing of a kind comes after another of its kind. -/
theorem countP_le_one {α : Type} {p : α → Bool} {xs : List α}
    (h : ∀ before x after, xs = before ++ x :: after → p x = true → ∀ y ∈ before, p y = false) :
    xs.countP p ≤ 1 := by
  induction xs using List.reverseRecOn with
  | nil => simp
  | append_singleton xs x ih =>
    rw [List.countP_append, List.countP_singleton]
    cases hx : p x with
    | false =>
      simp only [Bool.false_eq_true, if_false, Nat.add_zero]
      exact ih fun before y after he => h before y (after ++ [x]) (by simp [he])
    | true =>
      have hnone : xs.countP p = 0 := by
        rw [List.countP_eq_zero]
        intro y hy hp
        rw [h xs x [] rfl hx y hy] at hp
        cases hp
      simp [hnone]

theorem Exchange.eq_ran_of_statement? {x : Exchange} {s : Statement} (h : x.statement? = some s) :
    ∃ a, x = ran s a := by
  obtain ⟨r, a⟩ := x
  cases r with
  | run s' =>
    cases h
    exact ⟨a, rfl⟩
  | _ => cases h

theorem Answered.mem_filterMap {done : Answered} {s : Statement}
    (h : s ∈ (begun (.ok ()) :: done.trace).filterMap Exchange.statement?) :
    ∃ reply, (s, reply) ∈ done := by
  obtain ⟨x, hx, hs⟩ := List.mem_filterMap.mp h
  rcases List.mem_cons.mp hx with rfl | hx
  · cases hs
  · obtain ⟨⟨s', reply⟩, hmem, rfl⟩ := List.mem_map.mp hx
    cases hs
    exact ⟨reply, hmem⟩

theorem sessionFirst_of_guarded
    (h : ∀ before s a after, trace = before ++ ran s a :: after →
      ∃ done : Answered, before = begun (.ok ()) :: done.trace ∧ Guarded done s) :
    SessionFirst trace where
  known s a hmem := by
    obtain ⟨before, after, he⟩ := List.append_of_mem hmem
    obtain ⟨done, -, hg⟩ := h before s a after he
    exact hg.known
  locked before s a after he hclaims := by
    obtain ⟨done, rfl, hg⟩ := h before s a after he
    obtain ⟨session, x, hx⟩ := hg.locked hclaims
    exact ⟨session, x, answers_begun.mpr hx⟩
  only before s a after session x v he hx hv := by
    obtain ⟨done, rfl, hg⟩ := h before s a after he
    exact hg.only session x v (answers_begun.mp hx) hv
  single := by
    refine countP_le_one fun before s after he hs y hy => ?_
    obtain ⟨before, rest, rfl, rfl, hrest⟩ := List.filterMap_eq_append_iff.mp he
    obtain ⟨between, x, after, rfl, -, hx, -⟩ := List.filterMap_eq_cons_iff.mp hrest
    obtain ⟨a, rfl⟩ := Exchange.eq_ran_of_statement? hx
    obtain ⟨done, hdone, hg⟩ := h (before ++ between) s a after (List.append_assoc ..).symm
    have hy' : y ∈ (before ++ between).filterMap Exchange.statement? := by
      rw [List.filterMap_append]
      exact List.mem_append_left _ hy
    rw [hdone] at hy'
    obtain ⟨reply, hmem⟩ := Answered.mem_filterMap hy'
    exact hg.first hs _ hmem

end

section

variable {t : Token} {policy : IssuePolicy} {now : Instant} {presented hash : Hash} {id : Uuid}
  {lifetime : Span} {done : Answered} {s : Statement} {trace : Trace}

theorem Looked.currentFound {x : Session} {c : Uuid} (h : Looked t done x (some c)) :
    CurrentFound done.trace x.id c := by
  obtain ⟨done₁, -, h₂⟩ := h
  exact h₂.answers

theorem Issuing.supersedes (h : Issuing t policy now done s) (hs : s.updatesTokens = true) :
    ∃ session c, CurrentFound done.trace session c ∧ policy = .supersede ∧
      s = .supersede c now := by
  cases h with
  | supersede h hp => exact ⟨_, _, h.currentFound, hp, rfl⟩
  | _ => simp [Statement.updatesTokens, Command.updatesTokens] at hs

theorem Issuing.inserts (h : Issuing t policy now done s) (hs : s.inserts = true) :
    s = .insertToken t ∧ ∃ session reply, (.lockCurrent session, reply) ∈ done ∧
      (reply.rows = [] ∨ ∃ c r, CurrentFound done.trace session c ∧
        (.supersede c now, r) ∈ done) := by
  cases h with
  | @first _ x h =>
    obtain ⟨done₁, -, reply, rfl, hrows⟩ := h
    exact ⟨rfl, x.id, reply, by simp, .inl hrows⟩
  | @next done₂ x c h hp reply =>
    have hfound := h.currentFound
    obtain ⟨done₁, -, h₂⟩ := h
    obtain ⟨r₂, rfl⟩ := h₂.eq_append
    refine ⟨rfl, x.id, r₂, by simp, .inr ⟨c, reply, hfound.mono fun y hy => ?_, by simp⟩⟩
    rw [Answered.trace_append]
    exact List.mem_append_left _ hy
  | _ => simp [Statement.inserts] at hs

theorem Issuing.owed (h : Issuing t policy now done s) {session c : Uuid}
    (hc : CurrentFound done.trace session c) :
    s = .supersede c now ∨ ∃ reply, (.supersede c now, reply) ∈ done := by
  cases h with
  | lock =>
    obtain ⟨reply, row, rows, hmem, -⟩ := hc
    cases hmem
  | look h => exact absurd hc (not_currentFound_locked h)
  | supersede h hp =>
    cases h.found hc
    exact .inl rfl
  | first h => exact nomatch h.found hc
  | next h hp reply => exact .inr (h.owed_superseded session c hc hp)

theorem superseded_of_course {x : Except Error (Verdict TokenIssue)}
    (h : Course (.issuing t policy now) (fun done _ => Owed policy now done) [] trace x)
    {session c : Uuid} (hc : CurrentFound trace session c) (hp : policy = .supersede) :
    ∃ a, ran (.supersede c now) a ∈ trace := by
  have hanswered : ∀ {later : Answered}, (∃ reply, (.supersede c now, reply) ∈ later) →
      ∃ a, ran (.supersede c now) a ∈ later.trace := by
    rintro later ⟨reply, hmem⟩
    exact ⟨.ok reply, Answered.ran_mem_trace.mpr hmem⟩
  cases h with
  | ended later h | raised later h => exact hanswered (h session c hc hp)
  | failed later s f hs h =>
    have hc' : CurrentFound later.trace session c := by
      obtain ⟨reply, row, rows, hmem, hrows, hread⟩ := hc
      exact ⟨reply, row, rows, by simpa using hmem, hrows, hread⟩
    rcases hs.owed hc' with rfl | hdone
    · exact ⟨.error f, by simp⟩
    · obtain ⟨a, ha⟩ := hanswered hdone
      exact ⟨a, List.mem_append_left _ ha⟩

theorem superseded_of_found {result : Except Error TokenIssue}
    (h : Traced (Tokens.issue t policy now).run trace result) {session c : Uuid}
    (hc : CurrentFound trace session c) (hp : policy = .supersede) :
    ∃ a, ran (.supersede c now) a ∈ trace := by
  obtain ⟨body, hbody, hk⟩ := keeps_issue t policy now
  rw [hbody] at h
  obtain ⟨reply, row, rows, hmem, hrows, hread⟩ := hc
  rcases (traced_transaction h).inner with hnone | ⟨inner, x, ht, hiff⟩
  · exact absurd hmem (hnone _ _)
  · have hc' : CurrentFound inner session c := ⟨reply, row, rows, (hiff _ _).mp hmem, hrows, hread⟩
    obtain ⟨a, ha⟩ := superseded_of_course (hk.course ht) hc' hp
    exact ⟨a, (hiff _ _).mpr ha⟩

theorem Rotating.links (h : Rotating now presented id hash lifetime done s)
    (hs : s.links = true) : ∃ u, TokenLocked done.trace presented u ∧ s = .consume u.id id now := by
  cases h with
  | consume h =>
    obtain ⟨done₁, x, -, h⟩ := h
    exact ⟨_, h.answers, rfl⟩
  | _ => simp [Statement.links, Command.links] at hs

theorem Rotating.inserts (h : Rotating now presented id hash lifetime done s)
    (hs : s.inserts = true) :
    ∃ session x u expiresAt reply, SessionLocked done.trace session x ∧
      TokenLocked done.trace presented u ∧ (.consume u.id id now, reply) ∈ done ∧
      now.add? lifetime = some expiresAt ∧
      s = .insertToken ⟨id, session, hash, now, expiresAt, none, none, none⟩ := by
  cases h with
  | @insert done₁ session u next h hf reply =>
    obtain ⟨expiresAt, hadd, rfl⟩ := Token.fresh_eq_ok hf
    obtain ⟨x, hx⟩ := h.holding.1.locked
    obtain ⟨done₂, y, -, hu⟩ := h
    exact ⟨session, x, u, expiresAt, reply, hx.mono fun z hz => by simp [hz],
      hu.answers.mono fun z hz => by simp [hz], by simp, hadd, rfl⟩
  | _ => simp [Statement.inserts] at hs

theorem issueLinks {result : Except Error TokenIssue}
    (h : Traced (Tokens.issue t policy now).run trace result) : IssueLinks t policy now trace := by
  obtain ⟨body, hbody, hk⟩ := keeps_issue t policy now
  have hsent : ∀ {before s a after}, trace = before ++ ran s a :: after →
      ∃ done : Answered, before = begun (.ok ()) :: done.trace ∧ Issuing t policy now done s :=
    hk.sent_in_transaction (hbody ▸ h)
  refine ⟨fun before s a after he hs => ?_, fun session c hc hp => superseded_of_found h hc hp,
    fun before s a after he hs => ?_⟩
  · obtain ⟨done, rfl, hissuing⟩ := hsent he
    obtain ⟨session, c, hc, hp, rfl⟩ := hissuing.supersedes hs
    exact ⟨session, c, answers_begun.mpr hc, hp, rfl⟩
  · obtain ⟨done, rfl, hissuing⟩ := hsent he
    obtain ⟨rfl, session, reply, hmem, hroom⟩ := hissuing.inserts hs
    refine ⟨rfl, session, reply, by simp [hmem], hroom.imp_right ?_⟩
    rintro ⟨c, r, hc, hr⟩
    exact ⟨c, r, answers_begun.mpr hc, by simp [hr]⟩

theorem rotateLinks {result : Except Error TokenRotation}
    (h : Traced (Tokens.rotate presented id hash now lifetime).run trace result) :
    RotateLinks presented id hash now lifetime trace := by
  obtain ⟨body, hbody, hk⟩ := keeps_rotate presented id hash now lifetime
  have hsent : ∀ {before s a after}, trace = before ++ ran s a :: after →
      ∃ done : Answered, before = begun (.ok ()) :: done.trace ∧
        Rotating now presented id hash lifetime done s :=
    hk.sent_in_transaction (hbody ▸ h)
  refine ⟨fun before s a after he hs => ?_, fun before s a after he hs => ?_⟩
  · obtain ⟨done, rfl, hrotating⟩ := hsent he
    obtain ⟨u, hu, rfl⟩ := hrotating.links hs
    exact ⟨u, answers_begun.mpr hu, rfl⟩
  · obtain ⟨done, rfl, hrotating⟩ := hsent he
    obtain ⟨session, x, u, expiresAt, reply, hx, hu, hr, hadd, rfl⟩ := hrotating.inserts hs
    exact ⟨session, x, u, expiresAt, reply, answers_begun.mpr hx, answers_begun.mpr hu,
      by simp [hr], hadd, rfl⟩

end

/-- Whatever a database answers to a client that issues or exchanges a token, the session is locked
first, tokens are linked forward, and room is made before a token enters. When a token is issued,
the session is named by its row, so that row has to be the one that was asked for. -/
theorem lock_order :
    (∀ t policy now trace result, Traced (Tokens.issue t policy now).run trace result →
      (∀ session x, SessionLocked trace session x → x.id = session) →
      SessionFirst trace ∧ IssueLinks t policy now trace) ∧
    (∀ presented id hash now lifetime trace result,
      Traced (Tokens.rotate presented id hash now lifetime).run trace result →
      SessionFirst trace ∧ RotateLinks presented id hash now lifetime trace) := by
  constructor
  · intro t policy now trace result h hrow
    obtain ⟨body, hbody, hk⟩ := keeps_issue t policy now
    refine ⟨sessionFirst_of_guarded fun before s a after he => ?_, issueLinks h⟩
    obtain ⟨done, rfl, hissuing⟩ := hk.sent_in_transaction (hbody ▸ h) he
    refine ⟨done, rfl, hissuing.guarded fun x hx => hrow _ x (hx.mono fun y hy => ?_)⟩
    simp [he, hy]
  · intro presented id hash now lifetime trace result h
    obtain ⟨body, hbody, hk⟩ := keeps_rotate presented id hash now lifetime
    refine ⟨sessionFirst_of_guarded fun before s a after he => ?_, rotateLinks h⟩
    obtain ⟨done, rfl, hrotating⟩ := hk.sent_in_transaction (hbody ▸ h) he
    exact ⟨done, rfl, hrotating.guarded⟩

/-- A current token is superseded, and a token is exchanged. -/
theorem lock_order_succeeding :
    let now : Instant := ⟨1000, false⟩
    let session : Session := ⟨⟨1⟩, ⟨2⟩, none, ⟨0, false⟩, none, none⟩
    let old : Token := ⟨⟨3⟩, ⟨1⟩, [7], ⟨0, false⟩, ⟨9000, false⟩, none, none, none⟩
    let next : Token := ⟨⟨4⟩, ⟨1⟩, [8], now, ⟨2000, false⟩, none, none, none⟩
    let issued : Answered := [(.lockSession ⟨1⟩, ⟨[sessionRow session], 1⟩),
      (.lockCurrent ⟨1⟩, ⟨[[("id", .uuid ⟨3⟩)]], 1⟩), (.supersede ⟨3⟩ now, ⟨[], 1⟩),
      (.insertToken next, ⟨[tokenRow next], 1⟩)]
    let rotated : Answered := [(.sessionOf [7], ⟨[[("session_id", .uuid ⟨1⟩)]], 1⟩),
      (.lockSession ⟨1⟩, ⟨[sessionRow session], 1⟩), (.lockToken [7], ⟨[tokenRow old], 1⟩),
      (.consume ⟨3⟩ ⟨4⟩ now, ⟨[tokenRow old], 1⟩), (.insertToken next, ⟨[tokenRow next], 1⟩),
      (.touchSession ⟨1⟩ now, ⟨[sessionRow session], 1⟩)]
    let trace (done : Answered) : Trace :=
      begun (.ok ()) :: done.trace ++ [committed (.ok ())]
    (SessionFirst (trace issued) ∧ IssueLinks next .supersede now (trace issued)) ∧
      SessionFirst (trace rotated) ∧ RotateLinks [7] ⟨4⟩ [8] now ⟨1000⟩ (trace rotated) := by
  intro now session old next issued rotated trace
  have hissued : Traced (Tokens.issue next .supersede now).run (trace issued) _ :=
    traced_exchange (inTurn (issued.map fun x => .ok x.2)) [] _
  have hrotated : Traced (Tokens.rotate [7] ⟨4⟩ [8] now ⟨1000⟩).run (trace rotated) _ :=
    traced_exchange (inTurn (rotated.map fun x => .ok x.2)) [] _
  refine ⟨lock_order.1 _ _ _ _ _ hissued fun id x hx => ?_,
    lock_order.2 _ _ _ _ _ _ _ hrotated⟩
  obtain ⟨reply, row, rows, hmem, hrows, hread⟩ := hx
  have hanswered : (.lockSession id, reply) ∈ issued := by
    change ran _ (.ok reply) ∈ begun (.ok ()) :: issued.trace ++ [committed (.ok ())] at hmem
    simpa using hmem
  have hlater : (.lockSession id, reply) ∉ issued.tail := by
    intro hmem
    simp only [issued, List.tail_cons, List.mem_cons, Prod.mk.injEq, List.not_mem_nil] at hmem
    rcases hmem with ⟨he, -⟩ | ⟨he, -⟩ | ⟨he, -⟩ | he
    · exact Statement.ne_of_command? (by simp) he
    · exact Statement.ne_of_command? (by simp) he
    · exact Statement.ne_of_command? (by simp) he
    · exact he
  rcases List.mem_cons.mp hanswered with he | hmem
  · cases he
    cases hrows
    rw [read_sessionRow] at hread
    cases hread
    rfl
  · exact absurd hmem hlater

end SessionKeeper.Database
