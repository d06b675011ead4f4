import SessionKeeper.Proofs.Instant
import SessionKeeper.Proofs.Store.Reuse

/-!
# Granted tokens

A token that the store has just entered, whether it has been issued or given for another one, is the
only live token of its session (`Live`). That it is the only one is not checked anywhere when it is
entered; it follows from what every operation keeps. An exchange changes two rows besides, the one
of the used token and the one of the session (`Exchanged`). A request that is refused because hashes
collide writes nothing, so it can be made again as if it had not been made.
-/

namespace SessionKeeper

/-- A token that has just been made can be exchanged, if it lives for any time. -/
theorem Token.fresh_usable {id session : Uuid} {hash : Hash} {now : Instant} {lifetime : Span}
    {t : Token} (h : Token.fresh id session hash now lifetime = .ok t)
    (hlifetime : lifetime.isPositive = true) :
    t.isSpent = false ∧ t.isExpiredAt now = false ∧ now.add? lifetime = some t.expiresAt := by
  obtain ⟨expiresAt, hadd, rfl⟩ := Token.fresh_eq_ok h
  refine ⟨rfl, ?_, hadd⟩
  have hpositive : 0 < lifetime.nanos := of_decide_eq_true hlifetime
  obtain ⟨rfl, -⟩ := Instant.add?_eq_some.mp hadd
  exact decide_eq_false (Int.not_le.mpr (Instant.lt_plus hpositive))

namespace Memory

variable {m m' : Memory} {t next : Token} {s : Session} {policy : IssuePolicy} {now : Instant}
  {lifetime : Span} {presented hash : Hash} {id : Uuid} {e : Error}

/-! ## The live token of a session -/

/-- A hash leads to the one token of its session that can be exchanged. -/
structure Live (m : Memory) (hash : Hash) (now : Instant) (t : Token) : Prop where
  /-- The hash leads to the token. -/
  found : m.tokenByHash? hash = some t
  /-- The token is current. -/
  current : t.isCurrent = true
  /-- Its session has no other current token. -/
  only : ∀ u ∈ m.tokens, u.session = t.session → u.isCurrent = true → u = t
  /-- It can be exchanged at the instant. -/
  valid : m.isCurrentAndValid hash now = true
  /-- No other token of its session can be exchanged, at whatever instant. -/
  others : ∀ u ∈ m.tokens, u.session = t.session → u ≠ t →
    ∀ later, m.isCurrentAndValid u.hash later = false

theorem Sound.live (h : m.Sound) (ht : t ∈ m.tokens) (ha : m.Active t.session s)
    (hu : t.isSpent = false) (he : t.isExpiredAt now = false) : m.Live t.hash now t := by
  have hcurrent := Token.isCurrent_of_not_isSpent hu
  have hfound := h.tokenByHash?_eq_some.mpr ⟨ht, rfl⟩
  have honly : ∀ u ∈ m.tokens, u.session = t.session → u.isCurrent = true → u = t := by
    intro u hum hs huc
    exact h.orderly.token_eq hum ht (h.orderly.oneCurrent u hum t ht huc hcurrent hs)
  refine ⟨hfound, hcurrent, honly, ?_, ?_⟩
  · simp [isCurrentAndValid, hfound, ha.1, ha.2, hu, he]
  · intro u hum hs hne later
    refine h.isCurrentAndValid_of_spent hum ?_ later
    -- an unspent token would be current
    cases hspent : u.isSpent with
    | true => rfl
    | false => exact absurd (honly u hum hs (Token.isCurrent_of_not_isSpent hspent)) hne

/-! ## Requests -/

theorem Sound.answer {r : Store.Request} {a : Except Error r.Reply} (hm : m.Sound)
    (hf : Operation.Fresh m (.ask r)) (h : m.answer r = (a, m')) : m'.Sound := by
  have happly : m.apply (.ask r) = m' := congrArg Prod.snd h
  exact happly ▸ hm.apply hf

/-- A request that is refused because hashes collide writes nothing. -/
theorem Orderly.answer_collision {r : Store.Request} (ho : m.Orderly)
    (hkind : e.kind = .constraintViolation) (h : m.answer r = (.error e, m')) : m' = m := by
  rcases ho.answer_refused h with ⟨rfl, -⟩ | ⟨hreplay, -⟩
  · rfl
  · rw [hkind] at hreplay
    cases hreplay

/-! ## Issuing -/

theorem issueToken_live {issued : TokenIssue} (hm : m.Sound)
    (hnew : ∀ u ∈ m.tokens, u.id ≠ t.id) (hu : t.isSpent = false)
    (he : t.isExpiredAt now = false) (h : m.issueToken t policy now = (.ok issued, m')) :
    issued.token = t ∧ m'.Live t.hash now t := by
  have hm' : m'.Sound := by
    refine hm.answer (r := .issueToken t policy now) ?_ h
    rintro _ rfl
    exact ⟨hnew, hu⟩
  have hissued := issueToken_issued hm.orderly t policy now
  rw [h] at hissued
  cases hissued with
  | first ha | superseding ha =>
    refine ⟨rfl, hm'.live (mem_enter.mpr (.inl rfl)) (s := _) ⟨?_, ha.2⟩ hu he⟩
    simpa [session?] using ha.1

/-! ## Exchanging -/

/-- What the exchange of a token for the next one makes of the rows: the token is used up and the
session has been used, the next token is added, and all other rows are as they were. -/
structure Exchanged (m : Memory) (t : Token) (s : Session) (now : Instant) (next : Token)
    (m' : Memory) : Prop where
  users : m'.users = m.users
  sessions : m'.sessions = m.sessions.map fun x =>
    if x.id = s.id then { x with lastUsedAt := some now } else x
  tokens : m'.tokens = (m.tokens.map fun u =>
    if u.id = t.id then { u with usedAt := some now, replacedBy := some next.id } else u) ++ [next]

theorem Orderly.exchanged (h : m.Orderly) (ht : t ∈ m.tokens) (hs : m.session? t.session = some s)
    (hnew : ∀ u ∈ m.tokens, u.id ≠ next.id) :
    m.Exchanged t s now next (m.exchange t next s now) := by
  obtain ⟨hsm, hid⟩ := mem_of_session? hs
  have hnew' : ∀ u ∈ (m.modifyToken t.id (·.consume now next.id)).tokens, u.id ≠ next.id :=
    new_modifyToken (fun _ => rfl) hnew
  rw [h.exchange_eq ht]
  refine ⟨enter_users _, ?_, ?_⟩
  · simp only [Memory.modifySession, enter_sessions, modifyToken_sessions, beq_iff_eq, hid]
    refine List.map_congr_left ?_
    intro x hx
    by_cases he : x.id = t.session
    · rw [if_pos he, if_pos he, eq_of_key_eq h.sessionIds hx hsm (he.trans hid.symm), hid]
    · rw [if_neg he, if_neg he]
  · rw [modifySession_tokens, enter_tokens_of_new hnew']
    simp only [Memory.modifyToken, beq_iff_eq, Token.consume]

/-- The hash of the used token still leads to it. -/
theorem Exchanged.used (h : m.Exchanged t s now next m') (hm' : m'.Sound) (ht : t ∈ m.tokens) :
    m'.tokenByHash? t.hash = some { t with usedAt := some now, replacedBy := some next.id } := by
  refine hm'.tokenByHash?_eq_some.mpr ⟨?_, rfl⟩
  rw [h.tokens]
  exact List.mem_append_left _ (List.mem_map.mpr ⟨t, ht, if_pos rfl⟩)

theorem Exchanged.touched (h : m.Exchanged t s now next m') (hm' : m'.Sound) (hs : s ∈ m.sessions) :
    m'.session? s.id = some { s with lastUsedAt := some now } := by
  refine hm'.orderly.session?_eq_some.mpr ⟨?_, rfl⟩
  rw [h.sessions]
  exact List.mem_map.mpr ⟨s, hs, if_pos rfl⟩

/-- What is answered when a token is exchanged, and what has become of the rows. -/
theorem rotateToken_exchanged {r : TokenRotation} (hm : m.Sound)
    (hnew : ∀ u ∈ m.tokens, u.id ≠ id)
    (h : m.rotateToken presented id hash now lifetime = (.ok r, m')) :
    m'.Sound ∧ ∃ t s next, m.tokenByHash? presented = some t ∧ m.Active t.session s ∧
      Token.fresh id t.session hash now lifetime = .ok next ∧
      r = ⟨t.consume now next.id, next, { s with lastUsedAt := some now }⟩ ∧
      m.Exchanged t s now next m' := by
  constructor
  · refine hm.answer (r := .rotateToken presented id hash now lifetime) ?_ h
    rintro u ⟨session, hf⟩
    obtain ⟨expiresAt, -, rfl⟩ := Token.fresh_eq_ok hf
    exact ⟨hnew, rfl⟩
  · have hrotated := rotateToken_rotated hm.orderly presented id hash now lifetime
    rw [h] at hrotated
    cases hrotated with
    | @exchanged t s next ht ha _ _ _ hf =>
      refine ⟨t, s, next, ht, ha, hf, rfl, ?_⟩
      exact hm.orderly.exchanged (mem_of_tokenByHash? ht) ha.1 (Token.fresh_id hf ▸ hnew)

/-- The token that has been given for another is the live one of its session. -/
theorem Exchanged.live (h : m.Exchanged t s now next m') (hm' : m'.Sound)
    (ha : m.Active t.session s) (hf : Token.fresh id t.session hash now lifetime = .ok next)
    (hlifetime : lifetime.isPositive = true) : m'.Live hash now next := by
  obtain ⟨hunspent, hunexpired, -⟩ := Token.fresh_usable hf hlifetime
  obtain ⟨hsession, rfl⟩ := Token.fresh_session_hash hf
  obtain ⟨hs, hid⟩ := mem_of_session? ha.1
  have hactive : m'.Active next.session { s with lastUsedAt := some now } := by
    refine ⟨?_, ha.2⟩
    rw [hsession, ← hid]
    exact h.touched hm' hs
  refine hm'.live ?_ hactive hunspent hunexpired
  rw [h.tokens]
  simp

end Memory

end SessionKeeper
