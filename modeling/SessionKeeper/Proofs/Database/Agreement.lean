import SessionKeeper.Database.Store
import SessionKeeper.Proofs.Database.Tables

/-!
# Agreement of a database with a store

A database with the rows of a store agrees with it on a request if both give the same answer and the
database then has the rows that the store has (`Agrees`). The operations of a client are made of a
few steps, and for each there is what it comes to in a transaction on the rows of a store, written
with the look-ups and changes of the store (`perform_sessionOf` to `perform_touchSession`). What a
transaction comes to is in `perform_abandoned` and `perform_concluded`: it can be committed if the
replacements of tokens are there by then.
-/

namespace SessionKeeper.Database

open Memory (mem_of_session? mem_of_tokenByHash?)

variable {α : Type}

/-! ## Agreement -/

/-- The results are the same, or errors of one kind. -/
def SameOutcome : Except Error α → Except Error α → Prop
  | .ok a, .ok b => a = b
  | .error e, .error f => e.kind = f.kind
  | _, _ => False

/-- A database with the rows of a store. -/
def Server.of (m : Memory) : Server := ⟨.of m, none⟩

/-- A database with the rows of a store answers a request as the store does, and then it has the
rows that the store has. -/
structure Agrees (m : Memory) (r : Store.Request) : Prop where
  outcome : SameOutcome ((Server.of m).perform (action r)).1 (m.answer r).1
  rows : ((Server.of m).perform (action r)).2 = Server.of (m.answer r).2

theorem agrees_of_perform {m : Memory} {r : Store.Request}
    (h : ∃ y, (Server.of m).perform (action r) = (y, .of (m.answer r).2) ∧
      SameOutcome y (m.answer r).1) : Agrees m r := by
  obtain ⟨y, hperform, hsame⟩ := h
  refine ⟨?_, ?_⟩
  · rw [hperform]
    exact hsame
  · rw [hperform]

theorem Agrees.eq_ok {m : Memory} {r : Store.Request} {x : r.Reply} (h : Agrees m r)
    (hx : (m.answer r).1 = .ok x) : ((Server.of m).perform (action r)).1 = .ok x := by
  have hsame := h.outcome
  rw [hx] at hsame
  cases hy : ((Server.of m).perform (action r)).1 with
  | error e =>
    rw [hy] at hsame
    cases hsame
  | ok y =>
    rw [hy] at hsame
    rw [show y = x from hsame]

/-- What is refused is not written, unless a token is reused. -/
theorem Agrees.refused {m : Memory} {r : Store.Request} (h : Agrees m r) (ho : m.Orderly)
    {e : Error} (he : ((Server.of m).perform (action r)).1 = .error e)
    (hkind : e.kind ≠ .replayDetected) : ((Server.of m).perform (action r)).2 = .of m := by
  have hsame := h.outcome
  rw [h.rows]
  rw [he] at hsame
  cases ha : m.answer r with
  | mk x m' =>
    rw [ha] at hsame
    cases x with
    | ok a => cases hsame
    | error f =>
      rcases ho.answer_refused ha with hunwritten | ⟨hreuse, -⟩
      · rw [hunwritten.1]
      · exact absurd (Eq.trans hsame hreuse) hkind

/-! ## Steps -/

/-- A database with the rows of a store, in a transaction. -/
def Server.within (before m : Memory) : Server := ⟨.of m, some (.of before)⟩

section

variable {b m : Memory}

theorem commit_within (h : m.HasReplacements) : (Server.within b m).commit = (.ok (), .of m) := by
  have hexist : (Tables.of m).replacementsExist = true := by
    simp only [Tables.replacementsExist, Tables.of, List.all_map, List.all_eq_true]
    intro t ht
    cases hnext : t.replacedBy with
    | none => simp [tokenRow, List.lookup_cons, Value.ofOption, hnext]
    | some next =>
      simpa [tokenRow, List.lookup_cons, Value.ofOption, hnext, replacementRule, Rule.observed,
        Tables.rows] using h t ht next hnext
  simp only [Server.commit, Server.within, hexist, if_true]
  rfl

theorem perform_abandoned {body : Action (Verdict α)} {e : Error} {m' : Memory}
    (h : (Server.within m m).perform body = (.error e, .within m m')) :
    (Server.of m).perform (transaction body) = (.error e, .of m) := by
  have hbody : (Server.of m).opened.perform body = (.error e, .within m m') := h
  rw [Server.perform_transaction, hbody]
  rfl

theorem perform_concluded {body : Action (Verdict α)} {v : Verdict α} {m' : Memory}
    (h : (Server.within m m).perform body = (.ok v, .within m m')) (hm' : m'.HasReplacements) :
    (Server.of m).perform (transaction body) = (v.result, .of m') := by
  have hbody : (Server.of m).opened.perform body = (.ok v, .within m m') := h
  rw [Server.perform_transaction, hbody]
  simp only [Server.perform_conclude, commit_within hm']

theorem perform_found {id : Uuid} (d : Server) (s : Option Session) :
    d.perform (Sessions.found id s) =
      (match s with
        | none => .error (.sessionNotFound id)
        | some s => .ok s, d) := by
  cases s <;> rfl

theorem perform_known (d : Server) (a : Option α) :
    d.perform (Tokens.known a) =
      (match a with
        | none => .error .unknownToken
        | some a => .ok a, d) := by
  cases a <;> rfl

theorem perform_sessionOf (hm : m.Sound) (hash : Hash) :
    (Server.within b m).perform (Tokens.sessionOf hash) =
      (match m.tokenByHash? hash with
        | none => .error .unknownToken
        | some t => .ok t.session, .within b m) := by
  have hread : ∀ t, m.tokenByHash? hash = some t →
      Row.readFirst Value.toUuid? [("session_id", .uuid t.session)] = .ok t.session :=
    fun _ _ => rfl
  have hfetch := Server.perform_fetchOptional (d := .within b m) (run_sessionOf hm hash) hread
    "Failed to find refresh token"
  refine (Server.perform_bind_ok hfetch _).trans ?_
  rw [perform_known]
  cases m.tokenByHash? hash <;> rfl

theorem perform_lockSession_kept (ho : m.Orderly) (id : Uuid) :
    (Server.within b m).perform (Sessions.lock id) =
      (match m.session? id with
        | none => .error (.sessionNotFound id)
        | some s => .ok s.kept, .within b m) := by
  have hread : ∀ s, m.session? id = some s → Sessions.read (sessionRow s) = .ok s.kept :=
    fun s _ => read_sessionRow s
  have hfetch := Server.perform_fetchOptional (d := .within b m) (run_lockSession ho id) hread
    "Failed to lock session"
  refine (Server.perform_bind_ok hfetch _).trans ?_
  rw [perform_found]
  cases m.session? id <;> rfl

theorem perform_lockSession (hm : m.Sound) (hw : m.Whole) (id : Uuid) :
    (Server.within b m).perform (Sessions.lock id) =
      (match m.session? id with
        | none => .error (.sessionNotFound id)
        | some s => .ok s, .within b m) := by
  rw [perform_lockSession_kept hm.orderly]
  cases hs : m.session? id with
  | none => rfl
  | some s => simp only [hw.sessions s (mem_of_session? hs).1]

theorem perform_lockToken (hm : m.Sound) (hw : m.Whole) (hash : Hash) :
    (Server.within b m).perform (Tokens.lock hash) =
      (match m.tokenByHash? hash with
        | none => .error .unknownToken
        | some t => .ok t, .within b m) := by
  have hread : ∀ t, m.tokenByHash? hash = some t → Tokens.read (tokenRow t) = .ok t := by
    intro t ht
    rw [read_tokenRow, hw.tokens t (mem_of_tokenByHash? ht)]
  have hfetch := Server.perform_fetchOptional (d := .within b m) (run_lockToken hm hash) hread
    "Failed to lock refresh token"
  refine (Server.perform_bind_ok hfetch _).trans ?_
  rw [perform_known]
  cases m.tokenByHash? hash <;> rfl

theorem perform_revokeFamily (ho : m.Orderly) (session : Uuid) (now : Instant) :
    (Server.within b m).perform (Tokens.revokeFamily session now) =
      (.ok (), .within b (m.revokeFamily session now)) := by
  let m' := m.modifySession session (·.revoke now)
  have hsession := Server.perform_execute (d := .within b m)
    (run_revokeSession ho session now) "Failed to revoke session"
  obtain ⟨n, hrun⟩ := run_revokeTokens (m := m') session now
  have htokens := Server.perform_execute (d := .within b m') hrun
    "Failed to revoke session tokens"
  refine (Server.perform_bind_ok hsession _).trans ?_
  refine (Server.perform_bind_ok htokens _).trans ?_
  rfl

theorem perform_consume (ho : m.Orderly) {t : Token} (ht : t ∈ m.tokens) (next : Uuid)
    {now : Instant} (hkept : t.kept = t) (hnow : now.Whole) :
    (Server.within b m).perform (Tokens.consume t.id next now) =
      (.ok (t.consume now next), .within b (m.modifyToken t.id (·.consume now next))) := by
  have hread : Tokens.read (tokenRow (t.consume now next)) = .ok (t.consume now next) := by
    rw [read_tokenRow, Token.kept_consume hkept hnow]
  exact Server.perform_fetchOne (d := .within b m) (run_consume ho ht next now) rfl hread _

theorem perform_insert {t : Token} (h : Admissible m t) (hi : m.Indexed) (hkept : t.kept = t)
    (hnew : m.hasHash t.hash = false) :
    (Server.within b m).perform (Tokens.insert t) = (.ok t, .within b (m.enter t)) := by
  have hread : Tokens.read (tokenRow t) = .ok t := by
    rw [read_tokenRow, hkept]
  have hrun := run_insertToken h hi
  rw [hnew] at hrun
  exact Server.perform_fetchOne (d := .within b m) hrun rfl hread _

theorem perform_insert_collision {t : Token} (h : Admissible m t) (hi : m.Indexed)
    (hold : m.hasHash t.hash = true) :
    (Server.within b m).perform (Tokens.insert t) =
      (.error (hashRule.failure.toError "Failed to insert refresh token"), .within b m) := by
  have hrun := run_insertToken h hi
  rw [hold] at hrun
  exact Server.perform_fetchOne_error (d := .within b m) hrun _ _

theorem perform_touchSession (ho : m.Orderly) {id : Uuid} {s : Session}
    (hs : m.session? id = some s) {now : Instant} (hkept : s.kept = s) (hnow : now.Whole) :
    (Server.within b m).perform (Tokens.touchSession id now) =
      (.ok { s with lastUsedAt := some now },
        .within b (m.modifySession id fun s => { s with lastUsedAt := some now })) := by
  have hread : Sessions.read (sessionRow { s with lastUsedAt := some now }) =
      .ok { s with lastUsedAt := some now } := by
    rw [read_sessionRow, Session.kept_touch hkept hnow]
  have hrun := run_touchSession ho id now
  rw [hs] at hrun
  exact Server.perform_fetchOne (d := .within b m) hrun rfl hread _

end

end SessionKeeper.Database
