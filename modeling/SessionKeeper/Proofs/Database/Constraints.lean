import SessionKeeper.Proofs.Database.Blame
import SessionKeeper.Proofs.Database.Sending
import SessionKeeper.Proofs.Database.Tables
import SessionKeeper.Proofs.Database.Writes
import SessionKeeper.Proofs.Instant
import SessionKeeper.Proofs.Text.Trim

/-!
# What is written observes the checks of the tables

The tables of sessions and tokens have checks on single rows: a token ends after it was issued, its
hash has 32 bytes, it does not replace itself, and the thumbprint of a key is not blank. `Observes`
says that what a statement writes passes those of the checks that are on its columns. Most
statements have no parameters for such columns (`uncheckedQueries`), and what the others write is
known from what was asked for. The one exception is the statement that uses up a token: it writes to
a row that the database has told of, and the identifier that it writes is another as long as no
reply has told it before a statement has named it (`Untold`).
-/

namespace SessionKeeper

/-! ## Whole microseconds -/

/-- Instants that are two microseconds apart on the line are kept apart. -/
theorem Instant.toMicros_lt {a b : Instant} (h : a.nanos + 2000 ≤ b.nanos) :
    a.toMicros < b.toMicros := by
  rw [Instant.lt_iff_of_not_leap rfl rfl]
  have hsplit : ∀ t : Instant, (t.nanos - databaseEpoch).tdiv 1000 * 1000 +
      (t.nanos - databaseEpoch).tmod 1000 = t.nanos - databaseEpoch :=
    fun t => Int.tdiv_mul_add_tmod _ _
  have hlow : ∀ x : Int, -1000 < x.tmod 1000 := fun x => Int.lt_tmod_of_pos x (by decide)
  have hhigh : ∀ x : Int, x.tmod 1000 < 1000 := fun x => Int.tmod_lt_of_pos x (by decide)
  have ha := hsplit a
  have hb := hsplit b
  have hcut := hlow (a.nanos - databaseEpoch)
  have hcut' := hhigh (b.nanos - databaseEpoch)
  show databaseEpoch + _ < databaseEpoch + _
  omega

/-- A lifetime is not lost when instants are kept in whole microseconds: it is at least a
millisecond, and where it leads out of a leap second, at least two microseconds longer than a
second, as the instant that it is counted from is kept a second later. -/
structure Span.Lasts (lifetime : Span) (now : Instant) : Prop where
  milli : (Span.ofMillis 1).nanos ≤ lifetime.nanos
  leap : now.leap = true → (now.plus lifetime).leap = false →
    Span.perSecond + 2000 ≤ lifetime.nanos

theorem Span.Lasts.le_nanos_plus {lifetime : Span} {now : Instant} (h : lifetime.Lasts now) :
    now.nanos + 2000 ≤ (now.plus lifetime).nanos := by
  have hmilli : 1000000 ≤ lifetime.nanos := h.milli
  have hleap := h.leap
  have hreach := now.reaches_plus lifetime
  generalize now.plus lifetime = u at hleap hreach ⊢
  simp only [Span.perSecond] at hleap
  cases hreach with
  | line | before | within =>
    dsimp only
    omega
  | behind hnow =>
    have hlong := hleap hnow rfl
    simp only [Span.perSecond]
    omega

theorem Token.toMicros_lt_of_fresh {id session : Uuid} {hash : Hash} {now : Instant}
    {lifetime : Span} {t : Token} (h : Token.fresh id session hash now lifetime = .ok t)
    (hlasts : lifetime.Lasts now) : t.issuedAt.toMicros < t.expiresAt.toMicros := by
  obtain ⟨expiresAt, hend, rfl⟩ := Token.fresh_eq_ok h
  obtain ⟨rfl, -⟩ := Instant.add?_eq_some.mp hend
  exact Instant.toMicros_lt hlasts.le_nanos_plus

namespace Database

open Exchange

/-! ## Checks -/

/-- What may be written as the thumbprint of a key. -/
inductive Value.IsThumbprint : Value → Prop where
  | none : IsThumbprint .null
  | key {s : String} (solid : ∃ c ∈ s.toList, c ≠ ' ') (trimmed : Text.Trimmed s) :
      IsThumbprint (.text s)

theorem isThumbprint_trim {raw : String} (h : Text.allBlank raw = false) :
    (Value.text (Text.trim raw)).IsThumbprint := by
  have htrimmed := Text.trimmed_trim raw
  have hne : (Text.trim raw).toList ≠ [] := by
    intro he
    rw [String.toList_eq_nil_iff, Text.trim_eq_empty_iff, h] at he
    cases he
  obtain ⟨c, cs, hcs⟩ := List.exists_cons_of_ne_nil hne
  refine .key ⟨c, by simp [hcs], ?_⟩ htrimmed
  rintro rfl
  have hblank := htrimmed.start ' ' (by simp [hcs])
  cases hblank

/-- What is written passes the checks on its columns. -/
structure Row.Observes (row : Row) : Prop where
  lives : (row.lookup "expires_at").isSome → expiresAfterIssue row = true
  hash : (row.lookup "token_hash").isSome → hashHasLength row = true
  replaced : (row.lookup "replaced_by").isSome →
    (row.lookup "id").isSome ∧ replacesAnother row = true
  thumbprint : ∀ v, row.lookup "dpop_jkt" = some v → v.IsThumbprint

/-- The statement writes nothing that does not pass. -/
def Statement.Observant (s : Statement) : Prop := s.Writes → s.row.Observes

section

variable {s : Statement} {t : Token} {x : Session}

theorem observes_tokenRow (hlength : t.hash.length = 32)
    (hlives : t.issuedAt.toMicros < t.expiresAt.toMicros) (hnone : t.replacedBy = none) :
    (tokenRow t).Observes where
  lives _ := by
    simp [expiresAfterIssue, tokenRow, List.lookup_cons, Value.ofInstant, hlives]
  hash _ := by
    simp [hashHasLength, tokenRow, List.lookup_cons, hlength]
  replaced _ := by
    simp [replacesAnother, tokenRow, List.lookup_cons, hnone, Value.ofOption]
  thumbprint v hv := by
    simp [tokenRow, List.lookup_cons] at hv

theorem observes_sessionRow (h : (Value.ofOption .text x.thumbprint).IsThumbprint) :
    (sessionRow x).Observes where
  lives hsome := by
    simp [sessionRow, List.lookup_cons] at hsome
  hash hsome := by
    simp [sessionRow, List.lookup_cons] at hsome
  replaced hsome := by
    simp [sessionRow, List.lookup_cons] at hsome
  thumbprint v hv := by
    simp only [sessionRow, List.lookup_cons] at hv
    cases hv
    exact h

/-! ### Statements without such columns -/

/-- The columns that a check on a single row is about. -/
def checkedColumns : List String := ["expires_at", "token_hash", "replaced_by", "dpop_jkt"]

/-- Whether a statement with the text writes to a column with a check. -/
def isChecked (text : String) : Bool :=
  (isInsertion text || isUpdate text) &&
    (parameterColumns text).any fun c => checkedColumns.contains c.1

theorem observant_of_unchecked (h : isChecked s.text = false) : s.Observant := by
  intro hwrites
  have hunchecked : ∀ c ∈ parameterColumns s.text, c.1 ∉ checkedColumns := by
    rw [isChecked, Bool.or_eq_true_iff.mpr hwrites, Bool.true_and, List.any_eq_false] at h
    simpa using h
  have hnone : ∀ column ∈ checkedColumns, s.row.lookup column = none := by
    intro column hcolumn
    rw [List.lookup_eq_none_iff]
    intro p hp
    obtain ⟨c, hc, rfl⟩ := List.mem_map.mp hp
    rw [bne_iff_ne]
    rintro rfl
    exact hunchecked c hc hcolumn
  exact {
    lives := by simp [hnone "expires_at" (by decide)]
    hash := by simp [hnone "token_hash" (by decide)]
    replaced := by simp [hnone "replaced_by" (by decide)]
    thumbprint := by simp [hnone "dpop_jkt" (by decide)] }

/-- The statements on sessions and tokens that have no parameter for such a column. -/
def uncheckedQueries : List Query :=
  [.findSession, .listSessions, .lockSession, .touchActive, .revokeSession, .revokeUserSessions,
    .lockCurrent, .supersede, .revokeFamily, .revokeFamilyTokens, .sessionOf, .lockToken,
    .touchSession, .findToken, .checkToken, .listTokens, .purge]

theorem isChecked_of_mem : ∀ q ∈ uncheckedQueries, isChecked q.entry.text = false := by
  decide +kernel

theorem Query.observant {q : Query} (hq : q ∈ uncheckedQueries) (parameters : List Value) :
    Statement.Observant ⟨q.entry.text, parameters⟩ :=
  observant_of_unchecked (isChecked_of_mem q hq)

/-! ### Statements with such columns -/

theorem observant_of_columns {columns : List (String × Nat)}
    (hcolumns : parameterColumns s.text = columns)
    (h : Row.Observes (columns.map fun c => (c.1, s.parameters.getD (c.2 - 1) .null))) :
    s.Observant := by
  intro _
  rw [Statement.row, hcolumns]
  exact h

theorem observant_insertToken (h : (tokenRow t).Observes) :
    (Statement.insertToken t).Observant := by
  have hcolumns : parameterColumns Query.insertToken.entry.text = [("id", 1), ("session_id", 2),
      ("token_hash", 3), ("issued_at", 4), ("expires_at", 5), ("used_at", 6), ("revoked_at", 7),
      ("replaced_by", 8)] := by decide +kernel
  exact observant_of_columns hcolumns h

theorem observant_createSession (h : (sessionRow x).Observes) :
    Statement.Observant ⟨Query.createSession.entry.text, [.uuid x.id, .uuid x.user,
      .ofOption .text x.thumbprint, .ofInstant x.createdAt, .ofOption .ofInstant x.lastUsedAt,
      .ofOption .ofInstant x.revokedAt]⟩ := by
  have hcolumns : parameterColumns Query.createSession.entry.text = [("id", 1), ("user_id", 2),
      ("dpop_jkt", 3), ("created_at", 4), ("last_used_at", 5), ("revoked_at", 6)] := by
    decide +kernel
  exact observant_of_columns hcolumns h

theorem observant_bindThumbprint {id : Uuid} {key : String} (h : (Value.text key).IsThumbprint) :
    Statement.Observant ⟨Query.bindThumbprint.entry.text, [.uuid id, .text key]⟩ := by
  have hcolumns : parameterColumns Query.bindThumbprint.entry.text =
      [("dpop_jkt", 2), ("id", 1)] := by decide +kernel
  exact observant_of_columns hcolumns {
    lives := by simp [List.lookup_cons]
    hash := by simp [List.lookup_cons]
    replaced := by simp [List.lookup_cons]
    thumbprint := by simpa [List.lookup_cons] using h }

theorem observant_consume {token next : Uuid} {now : Instant} (h : token ≠ next) :
    (Statement.consume token next now).Observant := by
  have hcolumns : parameterColumns Query.consume.entry.text =
      [("used_at", 2), ("replaced_by", 3), ("id", 1)] := by decide +kernel
  exact observant_of_columns hcolumns {
    lives := by simp [List.lookup_cons]
    hash := by simp [List.lookup_cons]
    replaced := by
      simp [List.lookup_cons, replacesAnother, Statement.consume, h.symm]
    thumbprint := by simp [List.lookup_cons] }

theorem observant_revokeToken {hash : Hash} {now : Instant} (h : hash.length = 32) :
    Statement.Observant ⟨Query.revokeToken.entry.text, [.bytes hash, .ofInstant now]⟩ := by
  have hcolumns : parameterColumns Query.revokeToken.entry.text =
      [("revoked_at", 2), ("token_hash", 1)] := by decide +kernel
  exact observant_of_columns hcolumns {
    lives := by simp [List.lookup_cons]
    hash := by simp [List.lookup_cons, hashHasLength, h]
    replaced := by simp [List.lookup_cons]
    thumbprint := by simp [List.lookup_cons] }

end

/-! ## What is sent -/

section

variable {α β : Type} {ok : Statement → Prop} {d : Discipline} {done : Answered} {step : String}
  {s : Statement} {reader : Reader α}

/-- Whatever an operation is answered, it sends only such statements. -/
def SendsOnly (ok : Statement → Prop) (x : Action α) : Prop :=
  ∀ ⦃trace result⦄, Traced x.run trace result → ∀ ⦃s a⦄, ran s a ∈ trace → ok s

theorem Keeps.sendsOnly {ends : Answered → α → Prop} {x : Action α} (hk : Keeps d ends [] x.run)
    (hok : ∀ done s, d.sends done s → ok s) : SendsOnly ok x := by
  intro trace result ht s a hmem
  obtain ⟨before, after, hsplit⟩ := List.append_of_mem hmem
  obtain ⟨later, -, hsends⟩ := hk.sent ht hsplit
  exact hok _ _ hsends

theorem Keeps.sendsOnly_transaction {ends : Answered → Verdict α → Prop} {body : Action (Verdict α)}
    (hk : Keeps d ends [] body.run) (hok : ∀ done s, d.sends done s → ok s) :
    SendsOnly ok (transaction body) := by
  intro trace result ht s a hmem
  obtain ⟨before, after, hsplit⟩ := List.append_of_mem hmem
  obtain ⟨later, -, hsends⟩ := hk.sent_in_transaction ht hsplit
  exact hok _ _ hsends

/-- The discipline of sending only such statements. -/
def Discipline.sending (ok : Statement → Prop) : Discipline where
  sends _ s := ok s
  fails _ _ _ _ := True
  raises _ _ := True

/-- A program that sends only such statements, and of whose result nothing is said. -/
def Sending (ok : Statement → Prop) (done : Answered) (p : Prog signature (Except Error α)) :
    Prop :=
  Keeps (.sending ok) (fun _ _ => True) done p

theorem Sending.sendsOnly {x : Action α} (h : Sending ok [] x.run) : SendsOnly ok x :=
  Keeps.sendsOnly h fun _ _ hs => hs

theorem Sending.transaction {body : Action (Verdict α)} (h : Sending ok [] body.run) :
    SendsOnly ok (transaction body) :=
  Keeps.sendsOnly_transaction h fun _ _ hs => hs

theorem Sending.bind {x : Action α} {f : α → Action β} (hx : Sending ok done x.run)
    (hf : ∀ done a, Sending ok done (f a).run) : Sending ok done (x >>= f).run :=
  keeps_bind hx fun done a _ => hf done a

theorem sending_pure (a : α) : Sending ok done (pure a : Action α).run := trivial

theorem sending_throw (e : Error) : Sending ok done (throw e : Action α).run := trivial

theorem allows_sending (h : ok s) : (Discipline.sending ok).Allows done step s :=
  ⟨h, fun _ => trivial⟩

theorem sending_execute (h : ok s) : Sending ok done (execute step s).run :=
  (keeps_execute (allows_sending h)).mono fun _ _ _ => trivial

theorem sending_fetchAll (h : ok s) : Sending ok done (fetchAll step reader s).run :=
  (keeps_fetchAll (allows_sending h) fun _ _ _ => trivial).mono fun _ _ _ => trivial

theorem sending_fetchOptional (h : ok s) : Sending ok done (fetchOptional step reader s).run :=
  (keeps_fetchOptional (allows_sending h) fun _ _ _ _ _ _ => trivial).mono fun _ _ _ => trivial

theorem sending_fetchOne (h : ok s) : Sending ok done (fetchOne step reader s).run :=
  (keeps_fetchOne (allows_sending h) (fun _ _ _ _ _ _ => trivial) fun _ _ => trivial).mono
    fun _ _ _ => trivial

theorem sending_found (id : Uuid) (x : Option Session) :
    Sending ok done (Sessions.found id x).run := by
  cases x with
  | none => exact sending_throw _
  | some x => exact sending_pure x

theorem sending_known (a : Option α) : Sending ok done (Tokens.known a).run := by
  cases a with
  | none => exact sending_throw _
  | some a => exact sending_pure a

end

/-! ### Operations on sessions -/

theorem create_observant {x : Session} (h : (Value.ofOption .text x.thumbprint).IsThumbprint) :
    SendsOnly Statement.Observant (Sessions.create x) := by
  have hcreate := observant_createSession (observes_sessionRow h)
  have hk : Sending Statement.Observant [] (Sessions.create x).run :=
    keeps_adapt (sending_fetchOne hcreate) (fun _ _ h => h) (fun _ _ _ _ _ => trivial)
      fun _ _ _ => trivial
  exact hk.sendsOnly

theorem touch_observant (id : Uuid) (now : Instant) :
    SendsOnly Statement.Observant (Sessions.touch id now) := by
  have htouch := Query.observant (q := .touchActive) (by decide) [.uuid id, .ofInstant now]
  have hfind := Query.observant (q := .findSession) (by decide) [.uuid id]
  refine ((sending_execute htouch).bind fun done count => ?_).sendsOnly
  by_cases hcount : count = 0
  · simp only [if_pos hcount]
    refine (sending_fetchOptional hfind).bind fun done x => ?_
    exact (sending_found id x).bind fun _ _ => sending_throw _
  · simp only [if_neg hcount]
    exact sending_pure ()

theorem bindThumbprint_observant {id : Uuid} {key : String} (h : (Value.text key).IsThumbprint) :
    SendsOnly Statement.Observant (Sessions.bindThumbprint id key) := by
  have hlock := Query.observant (q := .lockSession) (by decide) [.uuid id]
  have hread : ∀ done, Sending Statement.Observant done (Sessions.lock id).run :=
    fun _ => (sending_fetchOptional hlock).bind fun _ x => sending_found id x
  refine Sending.transaction ((hread []).bind fun done x => ?_)
  refine keeps_unless trivial fun _ => ?_
  cases x.thumbprint with
  | none =>
    exact (sending_fetchOne (observant_bindThumbprint h)).bind fun _ _ => sending_pure _
  | some existing =>
    by_cases he : existing = key
    · simp only [he, if_true]
      exact sending_pure _
    · simp only [he, if_false]
      exact sending_throw _

/-! ### Issuing a token -/

theorem Issuing.observant {t : Token} {policy : IssuePolicy} {now : Instant} {done : Answered}
    {s : Statement} (h : Issuing t policy now done s) (ht : (tokenRow t).Observes) :
    s.Observant := by
  cases h with
  | lock => exact Query.observant (q := .lockSession) (by decide) _
  | look => exact Query.observant (q := .lockCurrent) (by decide) _
  | supersede => exact Query.observant (q := .supersede) (by decide) _
  | first | next => exact observant_insertToken ht

theorem issue_observant {t : Token} (policy : IssuePolicy) (now : Instant)
    (ht : (tokenRow t).Observes) :
    SendsOnly Statement.Observant (Tokens.issue t policy now) := by
  obtain ⟨body, hbody, hk⟩ := keeps_issue t policy now
  rw [hbody]
  exact hk.sendsOnly_transaction fun _ _ h => h.observant ht

/-! ## Exchanging a token -/

namespace Exchange

/-- The rows that a statement is answered with. -/
def rows : Exchange → List Row
  | ⟨.run _, a⟩ =>
    match (a : Except Failure Reply) with
    | .ok reply => reply.rows
    | .error _ => []
  | _ => []

/-- Whether a statement names an identifier. -/
def names (id : Uuid) : Exchange → Bool
  | ⟨.run s, _⟩ => s.parameters.contains (.uuid id)
  | _ => false

/-- Whether a row of the answer has an identifier. -/
def tells (id : Uuid) (x : Exchange) : Bool :=
  x.rows.any fun row => row.any fun c => c.2 == .uuid id

@[simp] theorem names_begun (id : Uuid) (a : Except Failure Unit) :
    (begun a).names id = false := rfl

@[simp] theorem names_ran (id : Uuid) (s : Statement) (a : Except Failure Reply) :
    (ran s a).names id = s.parameters.contains (.uuid id) := rfl

end Exchange

/-- No reply tells an identifier before a statement has named it. -/
def Untold (id : Uuid) : Trace → Prop
  | [] => True
  | x :: rest => x.names id = true ∨ x.tells id = false ∧ Untold id rest

instance (id : Uuid) : (trace : Trace) → Decidable (Untold id trace)
  | [] => .isTrue trivial
  | x :: rest =>
    have : Decidable (Untold id rest) := instDecidableUntold id rest
    inferInstanceAs (Decidable (x.names id = true ∨ x.tells id = false ∧ Untold id rest))

theorem untold_of_not_tells {id : Uuid} {trace : Trace} (h : ∀ x ∈ trace, x.tells id = false) :
    Untold id trace := by
  induction trace with
  | nil => exact trivial
  | cons x trace ih =>
    exact .inr ⟨h x (by simp), ih fun y hy => h y (List.mem_cons_of_mem x hy)⟩

theorem Untold.before {id : Uuid} {before after : Trace} (h : Untold id (before ++ after)) :
    Untold id before := by
  induction before with
  | nil => exact trivial
  | cons x before ih =>
    obtain hnames | ⟨htells, hrest⟩ := h
    · exact .inl hnames
    · exact .inr ⟨htells, ih hrest⟩

section

variable {row : Row} {rows : List Row} {reply : Reply} {s : Statement} {id u : Uuid}

theorem ne_of_not_tells (h : (ran s (.ok reply)).tells id = false)
    (hrows : reply.rows = row :: rows) {column : String} (hmem : (column, .uuid u) ∈ row) :
    u ≠ id := by
  rintro rfl
  have htells : (ran s (.ok reply)).tells u = true := by
    refine List.any_eq_true.mpr ⟨row, ?_, List.any_eq_true.mpr ⟨_, hmem, beq_self_eq_true _⟩⟩
    show row ∈ reply.rows
    simp [hrows]
  rw [h] at htells
  cases htells

theorem mem_of_readFirst (h : Row.readFirst Value.toUuid? row = .ok u) :
    ∃ column, (column, .uuid u) ∈ row := by
  cases row with
  | nil => cases h
  | cons c row =>
    obtain ⟨column, v⟩ := c
    cases v with
    | uuid w =>
      cases h
      exact ⟨column, by simp⟩
    | _ => cases h

theorem mem_of_read {column : String} (h : row.read Value.toUuid? column = .ok u) :
    (column, .uuid u) ∈ row := by
  obtain ⟨v, hv, hread⟩ := except_bind_eq_ok.mp h
  cases hlookup : row.lookup column with
  | none =>
    simp [Row.value, hlookup] at hv
  | some w =>
    simp only [Row.value, hlookup] at hv
    cases hv
    obtain ⟨before, after, rfl, -⟩ := List.lookup_eq_some_iff.mp hlookup
    cases v with
    | uuid w =>
      cases hread
      simp
    | _ => cases hread

theorem Tokens.id_of_read {t : Token} (h : Tokens.read row = .ok t) :
    row.read Value.toUuid? "id" = .ok t.id := by
  unfold Tokens.read at h
  obtain ⟨id, hid, h⟩ := except_bind_eq_ok.mp h
  simp only [except_bind_eq_ok] at h
  obtain ⟨_, -, _, -, _, -, _, -, _, -, _, -, _, -, ht⟩ := h
  cases ht
  exact hid

end

section

variable {presented hash : Hash} {id : Uuid} {now : Instant} {lifetime : Span} {done : Answered}
  {s : Statement}

/-- The token that is used up is not the one that takes its place. -/
theorem Locked.ne {session : Uuid} {u : Token} (h : Locked presented done session u)
    (hid : Untold id done.trace) : u.id ≠ id := by
  obtain ⟨_, _, ⟨_, ⟨r₁, row₁, rows₁, rfl, hrows₁, hread₁⟩, ⟨r₂, _, _, rfl, -⟩⟩,
    ⟨r₃, row₃, rows₃, rfl, hrows₃, hread₃⟩⟩ := h
  -- none of the statements before names the identifier, as the session has another
  obtain ⟨htells₁, hid⟩ := hid.resolve_left (by simp [Statement.sessionOf])
  obtain ⟨column, hmem⟩ := mem_of_readFirst hread₁
  have hsession : session ≠ id := ne_of_not_tells htells₁ hrows₁ hmem
  obtain ⟨-, hid⟩ := hid.resolve_left (by simp [Statement.lockSession, hsession.symm])
  obtain ⟨htells₃, -⟩ := hid.resolve_left (by simp [Statement.lockToken])
  exact ne_of_not_tells htells₃ hrows₃ (mem_of_read (Tokens.id_of_read hread₃))

theorem Rotating.observant (h : Rotating now presented id hash lifetime done s)
    (hid : Untold id done.trace) (hlength : hash.length = 32) (hlasts : lifetime.Lasts now) :
    s.Observant := by
  cases h with
  | find => exact Query.observant (q := .sessionOf) (by decide) _
  | lock => exact Query.observant (q := .lockSession) (by decide) _
  | lockToken => exact Query.observant (q := .lockToken) (by decide) _
  | revokeSession => exact Query.observant (q := .revokeFamily) (by decide) _
  | revokeTokens => exact Query.observant (q := .revokeFamilyTokens) (by decide) _
  | consume h => exact observant_consume (h.ne hid)
  | insert h hf =>
    apply observant_insertToken
    have hlives := Token.toMicros_lt_of_fresh hf hlasts
    obtain ⟨expiresAt, -, rfl⟩ := Token.fresh_eq_ok hf
    exact observes_tokenRow hlength hlives rfl
  | touch => exact Query.observant (q := .touchSession) (by decide) _

theorem rotate_observant (hlength : hash.length = 32) (hlasts : lifetime.Lasts now) {trace : Trace}
    {result : Except Error TokenRotation}
    (ht : Traced (Tokens.rotate presented id hash now lifetime).run trace result)
    (hid : Untold id trace) {a : Except Failure Reply} (hmem : ran s a ∈ trace) : s.Observant := by
  obtain ⟨body, hbody, hk⟩ := keeps_rotate presented id hash now lifetime
  rw [hbody] at ht
  obtain ⟨before, after, rfl⟩ := List.append_of_mem hmem
  obtain ⟨done, rfl, hrotating⟩ := hk.sent_in_transaction ht rfl
  obtain ⟨-, hdone⟩ := hid.before.resolve_left (by simp)
  exact hrotating.observant hdone hlength hlasts

end

/-! ## Every request -/

/-- What is asked of the store comes to rows that pass, as far as it gives them. -/
def Writable : Store.Request → Prop
  | .createSession x => (Value.ofOption .text x.thumbprint).IsThumbprint
  | .bindThumbprint _ key => (Value.text key).IsThumbprint
  | .issueToken t _ _ =>
    t.hash.length = 32 ∧ t.issuedAt.toMicros < t.expiresAt.toMicros ∧ t.replacedBy = none
  | .rotateToken _ _ hash now lifetime => hash.length = 32 ∧ lifetime.Lasts now
  | .revokeToken hash _ => hash.length = 32
  | _ => True

/-- What is sent for a request passes, if the identifier of a token that takes the place of another
is not known to the database before. -/
theorem answer_observant {r : Store.Request} (h : Writable r) {trace : Trace}
    {result : Except Error r.Reply} (ht : Traced (answer r) trace result)
    (hid : ∀ presented id hash now lifetime,
      r = .rotateToken presented id hash now lifetime → Untold id trace)
    {s : Statement} {a : Except Failure Reply} (hmem : ran s a ∈ trace) : s.Observant := by
  cases r with
  | createSession x => exact create_observant h ht hmem
  | findSession id =>
    have hfind := Query.observant (q := .findSession) (by decide) [.uuid id]
    exact (sending_fetchOptional hfind).sendsOnly ht hmem
  | listSessions user includeRevoked =>
    have hlist :=
      Query.observant (q := .listSessions) (by decide) [.uuid user, .bool includeRevoked]
    exact (sending_fetchAll hlist).sendsOnly ht hmem
  | bindThumbprint id key => exact bindThumbprint_observant h ht hmem
  | touchSession id now => exact touch_observant id now ht hmem
  | revokeSession id now =>
    have hrevoke := Query.observant (q := .revokeSession) (by decide) [.uuid id, .ofInstant now]
    have hk : Sending Statement.Observant [] (Sessions.revoke id now).run :=
      (sending_fetchOptional hrevoke).bind fun _ x => sending_found id x
    exact hk.sendsOnly ht hmem
  | revokeUserSessions user now =>
    have hrevoke :=
      Query.observant (q := .revokeUserSessions) (by decide) [.uuid user, .ofInstant now]
    exact (sending_execute hrevoke).sendsOnly ht hmem
  | issueToken t policy now =>
    obtain ⟨hlength, hlives, hnone⟩ := h
    exact issue_observant policy now (observes_tokenRow hlength hlives hnone) ht hmem
  | rotateToken presented id hash now lifetime =>
    obtain ⟨hlength, hlasts⟩ := h
    exact rotate_observant hlength hlasts ht (hid _ _ _ _ _ rfl) hmem
  | revokeToken hash now =>
    have hk : Sending Statement.Observant [] (Tokens.revoke hash now).run :=
      (sending_fetchOptional (observant_revokeToken h)).bind fun _ t => sending_known t
    exact hk.sendsOnly ht hmem
  | findToken hash =>
    have hfind := Query.observant (q := .findToken) (by decide) [.bytes hash]
    exact (sending_fetchOptional hfind).sendsOnly ht hmem
  | isCurrentAndValid hash now =>
    have hcheck := Query.observant (q := .checkToken) (by decide) [.bytes hash, .ofInstant now]
    exact (sending_fetchOne hcheck).sendsOnly ht hmem
  | sessionTokens session =>
    have hlist := Query.observant (q := .listTokens) (by decide) [.uuid session]
    exact (sending_fetchAll hlist).sendsOnly ht hmem
  | purgeExpired cutoff limit =>
    have hpurge := Query.observant (q := .purge) (by decide) [.ofInstant cutoff, .int limit]
    exact (sending_execute hpurge).sendsOnly ht hmem

end Database

end SessionKeeper
