import SessionKeeper.Proofs.Store.Rows

/-!
# Operations on the store in memory

The operations that a store can meet, in any order and with any arguments, and everything that one
of them can do (`Effect`). Issuing and exchanging tokens first retire a current token and then
enter a new one, and each entering could be refused. That it is never refused there follows from
what every operation keeps (`Orderly`), above all from there being one current token at most. So
`Issued` and `Rotated` list what the two operations come to without any refusal half-way.
-/

namespace SessionKeeper.Memory

variable {m : Memory}

/-! ## Operations and their runs -/

/-- An operation on the store: a request, or the coming or going of a user. -/
inductive Operation where
  /-- Sessions may be opened for a user. -/
  | addUser (user : Uuid)
  /-- A user goes, with its sessions and their tokens. -/
  | removeUser (user : Uuid)
  /-- A request is answered. -/
  | ask (r : Store.Request)

/-- The store after an operation. -/
def apply (m : Memory) : Operation → Memory
  | .addUser user => m.addUser user
  | .removeUser user => (m.removeUser user).2
  | .ask r => (m.answer r).2

/-- The store after one operation after the other. -/
def applyAll (m : Memory) (os : List Operation) : Memory := os.foldl apply m

/-- What every operation keeps: no identifier is repeated, and current tokens of one session are
one token. -/
structure Orderly (m : Memory) : Prop where
  tokenIds : (m.tokens.map (·.id)).Nodup
  sessionIds : (m.sessions.map (·.id)).Nodup
  oneCurrent : ∀ t ∈ m.tokens, ∀ u ∈ m.tokens, t.isCurrent = true → u.isCurrent = true →
    t.session = u.session → t.id = u.id

namespace Orderly

theorem session?_eq_some (h : m.Orderly) {id : Uuid} {s : Session} :
    m.session? id = some s ↔ s ∈ m.sessions ∧ s.id = id := find?_key_iff h.sessionIds

theorem token?_eq_some (h : m.Orderly) {id : Uuid} {t : Token} :
    m.token? id = some t ↔ t ∈ m.tokens ∧ t.id = id := find?_key_iff h.tokenIds

theorem token_eq (h : m.Orderly) {t u : Token} (ht : t ∈ m.tokens) (hu : u ∈ m.tokens)
    (he : t.id = u.id) : t = u := eq_of_key_eq h.tokenIds ht hu he

/-- Once a current token is changed so that it is not current, its session has none. -/
theorem retired (h : m.Orderly) {t : Token} (ht : t ∈ m.tokens) (hc : t.isCurrent = true)
    {f : Token → Token} (hf : (f t).isCurrent = false) :
    (m.modifyToken t.id f).currentOf? t.session = none := by
  rw [currentOf?_eq_none]
  intro u hu hs
  obtain ⟨v, hv, rfl⟩ := mem_modifyToken.mp hu
  by_cases he : v.id = t.id
  · rw [h.token_eq hv ht he, if_pos rfl]
    exact hf
  · rw [if_neg he] at hs ⊢
    cases hcur : v.isCurrent with
    | false => rfl
    | true => exact absurd (h.oneCurrent v hv t ht hcur hc hs) he

end Orderly

/-! ## Starting a session -/

/-- A session is entered as it is, or nothing happens. -/
theorem createSession_cases (m : Memory) (s : Session) :
    (∃ e, m.createSession s = (.error e, m)) ∨
      m.users.contains s.user = true ∧ m.session? s.id = none ∧
        m.createSession s = (.ok s, { m with sessions := m.sessions ++ [s] }) := by
  unfold createSession
  cases hknown : m.users.contains s.user with
  | false => exact .inl ⟨_, rfl⟩
  | true =>
    cases hstored : m.session? s.id with
    | some _ => exact .inl ⟨_, rfl⟩
    | none => exact .inr ⟨rfl, rfl, rfl⟩

/-! ## Issuing -/

/-- What issuing a token comes to: it is refused and nothing is written, or the current token of
the session, if there is one, is revoked and the new one entered. -/
inductive Issued (m : Memory) (t : Token) :
    IssuePolicy → Instant → Outcome TokenIssue → Prop where
  | orphan {policy now} (h : m.session? t.session = none) :
      Issued m t policy now (.error (.sessionNotFound t.session), m)
  | inactive {policy now s} (h : m.session? t.session = some s) (hr : s.isRevoked = true) :
      Issued m t policy now (.error (.sessionRevoked t.session), m)
  | collision {policy now s} (h : m.Active t.session s) (hh : m.hasHash t.hash = true) :
      Issued m t policy now (.error .hashCollision, m)
  | occupied {now s c} (h : m.Active t.session s) (hh : m.hasHash t.hash = false)
      (hc : m.currentOf? t.session = some c) :
      Issued m t .reject now (.error (.holdsToken t.session c.id), m)
  | first {policy now s} (h : m.Active t.session s) (hh : m.hasHash t.hash = false)
      (hc : m.currentOf? t.session = none) :
      Issued m t policy now (.ok ⟨t, none⟩, m.enter t)
  | superseding {now s c} (h : m.Active t.session s) (hh : m.hasHash t.hash = false)
      (hc : m.currentOf? t.session = some c) :
      Issued m t .supersede now (.ok ⟨t, some c.id⟩,
        (m.modifyToken c.id fun c => { c with revokedAt := some now }).enter t)

theorem insertToken_eq {t : Token} (hh : m.hasHash t.hash = false)
    (hc : m.currentOf? t.session = none) : m.insertToken t = (.ok t, m.enter t) := by
  simp [insertToken, hh, hc, enter]

/-- Where the session is active and has no current token, only a known hash stands in the way. -/
theorem issueToken_of_vacant {t : Token} {s : Session} (ha : m.Active t.session s)
    (hc : m.currentOf? t.session = none) (policy : IssuePolicy) (now : Instant) :
    m.issueToken t policy now =
      if m.hasHash t.hash then (.error .hashCollision, m) else (.ok ⟨t, none⟩, m.enter t) := by
  unfold issueToken
  rw [ha.withActive, hc]
  cases hh : m.hasHash t.hash with
  | true => rfl
  | false =>
    simp only [Bool.false_eq_true, if_false, insertToken_eq hh hc]
    rfl

theorem issueToken_issued (h : m.Orderly) (t : Token) (policy : IssuePolicy) (now : Instant) :
    Issued m t policy now (m.issueToken t policy now) := by
  unfold issueToken
  cases hs : m.session? t.session with
  | none => rw [withActive_of_none hs]; exact .orphan hs
  | some s =>
    cases hr : s.isRevoked with
    | true => rw [withActive_of_revoked hs hr]; exact .inactive hs hr
    | false =>
      have ha : m.Active t.session s := ⟨hs, hr⟩
      rw [ha.withActive]
      cases hh : m.hasHash t.hash with
      | true => simpa only [if_true] using .collision ha hh
      | false =>
        simp only [Bool.false_eq_true, if_false]
        cases hc : m.currentOf? t.session with
        | none =>
          simp only [insertToken_eq hh hc]
          exact .first ha hh hc
        | some c =>
          cases policy with
          | reject => exact .occupied ha hh hc
          | supersede =>
            -- entering is not refused: the only current token of the session is revoked by now
            obtain ⟨hm, hcs, hcc⟩ := mem_of_currentOf? hc
            have hnone := h.retired hm hcc
              (f := fun c => { c with revokedAt := some now }) (by simp [Token.isCurrent])
            rw [hcs] at hnone
            have hins := insertToken_eq (t := t)
              (m := m.modifyToken c.id fun c => { c with revokedAt := some now }) hh hnone
            simp only [hins]
            exact .superseding ha hh hc

/-! ## Exchanging -/

/-- The store after `t` has been exchanged for `next`. -/
def exchange (m : Memory) (t next : Token) (s : Session) (now : Instant) : Memory :=
  ((m.modifyToken t.id fun _ => t.consume now next.id).enter next).modifySession t.session
    fun _ => { s with lastUsedAt := some now }

/-- What exchanging a token comes to: it is refused and nothing is written, or its reuse revokes
the session and all its tokens, or it is used up and the next token entered. -/
inductive Rotated (m : Memory) (presented : Hash) (id : Uuid) (hash : Hash) (now : Instant)
    (lifetime : Span) : Outcome TokenRotation → Prop where
  | unknown (h : m.tokenByHash? presented = none) :
      Rotated m presented id hash now lifetime (.error .unknownToken, m)
  | orphan {t} (h : m.tokenByHash? presented = some t) (hs : m.session? t.session = none) :
      Rotated m presented id hash now lifetime (.error (.sessionNotFound t.session), m)
  | inactive {t s} (h : m.tokenByHash? presented = some t) (hs : m.session? t.session = some s)
      (hr : s.isRevoked = true) :
      Rotated m presented id hash now lifetime (.error (.sessionRevoked t.session), m)
  | reused {t s} (h : m.tokenByHash? presented = some t) (hs : m.Active t.session s)
      (hu : t.isSpent = true) :
      Rotated m presented id hash now lifetime
        (.error (.tokenReused t.id t.session), m.revokeFamily t.session now)
  | expired {t s} (h : m.tokenByHash? presented = some t) (hs : m.Active t.session s)
      (hu : t.isSpent = false) (he : t.isExpiredAt now = true) :
      Rotated m presented id hash now lifetime (.error (.tokenExpired t.id t.expiresAt), m)
  | collision {t s} (h : m.tokenByHash? presented = some t) (hs : m.Active t.session s)
      (hu : t.isSpent = false) (he : t.isExpiredAt now = false) (hh : m.hasHash hash = true) :
      Rotated m presented id hash now lifetime (.error .hashCollision, m)
  | endless {t s} (h : m.tokenByHash? presented = some t) (hs : m.Active t.session s)
      (hu : t.isSpent = false) (he : t.isExpiredAt now = false) (hh : m.hasHash hash = false)
      (hf : now.add? lifetime = none) :
      Rotated m presented id hash now lifetime (.error Token.lifetimeOutOfRange, m)
  | exchanged {t s next} (h : m.tokenByHash? presented = some t) (hs : m.Active t.session s)
      (hu : t.isSpent = false) (he : t.isExpiredAt now = false) (hh : m.hasHash hash = false)
      (hf : Token.fresh id t.session hash now lifetime = .ok next) :
      Rotated m presented id hash now lifetime
        (.ok ⟨t.consume now next.id, next, { s with lastUsedAt := some now }⟩,
          m.exchange t next s now)

theorem rotateToken_rotated (h : m.Orderly) (presented : Hash) (id : Uuid) (hash : Hash)
    (now : Instant) (lifetime : Span) :
    Rotated m presented id hash now lifetime
      (m.rotateToken presented id hash now lifetime) := by
  unfold rotateToken
  cases ht : m.tokenByHash? presented with
  | none => exact .unknown ht
  | some t =>
    simp only
    cases hs : m.session? t.session with
    | none => rw [withActive_of_none hs]; exact .orphan ht hs
    | some s =>
      cases hr : s.isRevoked with
      | true => rw [withActive_of_revoked hs hr]; exact .inactive ht hs hr
      | false =>
        have ha : m.Active t.session s := ⟨hs, hr⟩
        rw [ha.withActive]
        cases hu : t.isSpent with
        | true => simpa only [if_true] using .reused ht ha hu
        | false =>
          cases he : t.isExpiredAt now with
          | true => simpa only [Bool.false_eq_true, if_false, if_true] using .expired ht ha hu he
          | false =>
            cases hh : m.hasHash hash with
            | true =>
              simpa only [Bool.false_eq_true, if_false, if_true] using .collision ht ha hu he hh
            | false =>
              simp only [Bool.false_eq_true, if_false]
              cases hf : Token.fresh id t.session hash now lifetime with
              | error e =>
                obtain ⟨hadd, rfl⟩ := Token.fresh_eq_error hf
                exact .endless ht ha hu he hh hadd
              | ok next =>
                -- entering is not refused: the only current token of the session is used up by now
                have hnone := h.retired (mem_of_tokenByHash? ht) (Token.isCurrent_of_not_isSpent hu)
                  (f := fun _ => t.consume now next.id) (by simp)
                obtain ⟨hsession, hhash⟩ := Token.fresh_session_hash hf
                have hins : (m.modifyToken t.id fun _ => t.consume now next.id).insertToken next =
                    (.ok next, (m.modifyToken t.id fun _ => t.consume now next.id).enter next) :=
                  insertToken_eq (by rw [hhash]; exact hh) (by rw [hsession]; exact hnone)
                have hs' : ((m.modifyToken t.id fun _ => t.consume now next.id).enter
                    next).session? t.session = some s := by
                  simpa only [session?, enter_sessions, modifyToken_sessions] using hs
                simp only [replaceToken, hins, hs']
                exact .exchanged ht ha hu he hh hf

end SessionKeeper.Memory
