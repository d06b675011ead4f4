import SessionKeeper.Proofs.Store.Effect

/-!
# What becomes of the rows of sessions

The rows of sessions have an account of their own (`SessionRows`), apart from that of the tokens in
`Effect`: they age, or one of them is created, or those of a user go together. From it follows what
later modules need of a session: its row ages until its owner goes (`session_after`), no row comes
back under its identifier while it is there (`session_before`), and being revoked stays
(`revoked_stays`).
-/

namespace SessionKeeper

namespace Session

/-- `after` is the same session at a later time: what it was opened with is unchanged, the key and
the revocation stay once they are set, and the last use is noted only of a session that has not
been revoked. -/
structure Ages (before after : Session) : Prop where
  id : after.id = before.id
  user : after.user = before.user
  createdAt : after.createdAt = before.createdAt
  thumbprint : Stays before.thumbprint after.thumbprint
  revokedAt : Stays before.revokedAt after.revokedAt
  lastUsedAt : after.lastUsedAt = before.lastUsedAt ∨ before.revokedAt = none

theorem Ages.refl (s : Session) : s.Ages s := ⟨rfl, rfl, rfl, .refl _, .refl _, .inl rfl⟩

theorem Ages.ite {p : Prop} [Decidable p] {s x : Session} (h : p → s.Ages x) :
    s.Ages (if p then x else s) := by
  split
  · exact h ‹p›
  · exact .refl s

theorem Ages.isRevoked {s x : Session} (h : s.Ages x) (hs : s.isRevoked = true) :
    x.isRevoked = true := h.revokedAt.isSome hs

theorem ages_revoke (s : Session) (now : Instant) : s.Ages (s.revoke now) := by
  refine ⟨rfl, rfl, rfl, .refl _, ?_, .inl rfl⟩
  cases hr : s.revokedAt with
  | none => exact .inl rfl
  | some at_ => exact .inr (by simp [Session.revoke, hr])

theorem ages_use {s : Session} (h : s.isRevoked = false) (now : Instant) :
    s.Ages { s with lastUsedAt := some now } := by
  refine ⟨rfl, rfl, rfl, .refl _, .refl _, .inr ?_⟩
  simpa [Session.isRevoked] using h

theorem ages_bind {s : Session} (h : s.thumbprint = none) (thumbprint : String) :
    s.Ages { s with thumbprint := some thumbprint } :=
  ⟨rfl, rfl, rfl, .inl h, .refl _, .inl rfl⟩

end Session

namespace Memory

variable {m m' : Memory} {o : Operation}

/-- What an operation makes of the rows of sessions. -/
inductive SessionRows (m : Memory) : Operation → List Session → Prop where
  | aged (o : Operation) (f : Session → Session) (h : ∀ s ∈ m.sessions, s.Ages (f s)) :
      SessionRows m o (m.sessions.map f)
  | created {s} (h : m.session? s.id = none) :
      SessionRows m (.ask (.createSession s)) (m.sessions ++ [s])
  | removed {user rows} (h : ∀ s, s ∈ rows ↔ s ∈ m.sessions ∧ s.user ≠ user) :
      SessionRows m (.removeUser user) rows

theorem SessionRows.unchanged (o : Operation) : SessionRows m o m.sessions := by
  simpa using SessionRows.aged o id fun s _ => Session.Ages.refl s

/-- The active session with an identifier is the only row with it. -/
theorem Orderly.active_eq (h : m.Orderly) {id : Uuid} {s x : Session} (ha : m.Active id s)
    (hx : x ∈ m.sessions) (hid : x.id = id) : x = s := by
  obtain ⟨hs, hsid⟩ := mem_of_session? ha.1
  exact eq_of_key_eq h.sessionIds hx hs (hid.trans hsid.symm)

/-- Changing the row of an active session is ageing if it is so for this row. -/
theorem Orderly.rows_modifySession (h : m.Orderly) {id : Uuid} {s : Session} (ha : m.Active id s)
    {f : Session → Session} (hf : s.Ages (f s)) (o : Operation) :
    SessionRows m o (m.modifySession id f).sessions := by
  refine .aged o (fun x => if x.id == id then f x else x) fun x hx => .ite fun hid => ?_
  rw [h.active_eq ha hx (by simpa using hid)]
  exact hf

theorem exchange_sessions (t next : Token) (s : Session) (now : Instant) :
    (m.exchange t next s now).sessions =
      (m.modifySession t.session fun _ => { s with lastUsedAt := some now }).sessions := by
  simp only [exchange, modifySession, enter_sessions, modifyToken_sessions]

theorem Effect.sessionRows (h : m.Orderly) (e : Effect m o m') : SessionRows m o m'.sessions := by
  cases e with
  | nothing | userAdded | tokenRevoked | purged => exact .unchanged _
  | issued => rw [enter_sessions]; exact .unchanged _
  | superseded => rw [enter_sessions]; exact .unchanged _
  | userRemoved hu =>
    refine .removed fun s => ?_
    rw [mem_removeUser_sessions hu]
    refine and_congr_right fun hs => not_congr ?_
    constructor
    · rintro ⟨x, hx, hxu, hid⟩
      rw [← eq_of_key_eq h.sessionIds hx hs hid]
      exact hxu
    · exact fun hsu => ⟨s, hs, hsu, rfl⟩
  | sessionCreated _ hs => exact .created hs
  | sessionBound ha hb => exact h.rows_modifySession ha (Session.ages_bind hb _) _
  | sessionTouched ha => exact h.rows_modifySession ha (Session.ages_use ha.2 _) _
  | sessionRevoked => exact .aged _ _ fun s _ => .ite fun _ => s.ages_revoke _
  | userRevoked => exact .aged _ _ fun s _ => .ite fun _ => s.ages_revoke _
  | reused => exact .aged _ _ fun s _ => .ite fun _ => s.ages_revoke _
  | @exchanged _ _ _ now _ _ _ _ _ ha =>
    rw [exchange_sessions]
    exact h.rows_modifySession ha (Session.ages_use ha.2 now) _

/-- A row that is there afterwards has aged from an older one, or has just been created where there
was none. -/
theorem Effect.session_before (h : m.Orderly) (e : Effect m o m') {x : Session}
    (hx : x ∈ m'.sessions) : (∃ s ∈ m.sessions, s.Ages x) ∨
      (o = .ask (.createSession x) ∧ m.session? x.id = none) := by
  have hrows := e.sessionRows h
  generalize m'.sessions = rows at hrows hx
  cases hrows with
  | aged _ f hf =>
    obtain ⟨s, hs, rfl⟩ := List.mem_map.mp hx
    exact .inl ⟨s, hs, hf s hs⟩
  | created hnone =>
    rcases List.mem_append.mp hx with hx | hx
    · exact .inl ⟨x, hx, .refl x⟩
    · rw [List.mem_singleton.mp hx]
      exact .inr ⟨rfl, hnone⟩
  | removed hkept => exact .inl ⟨x, ((hkept x).mp hx).1, .refl x⟩

/-- A row that was there ages, unless its owner goes. -/
theorem Effect.session_after (h : m.Orderly) (e : Effect m o m') {s : Session}
    (hs : s ∈ m.sessions) : (∃ x ∈ m'.sessions, s.Ages x) ∨ o = .removeUser s.user := by
  have hrows := e.sessionRows h
  generalize m'.sessions = rows at hrows
  cases hrows with
  | aged _ f hf => exact .inl ⟨f s, List.mem_map_of_mem hs, hf s hs⟩
  | created => exact .inl ⟨s, List.mem_append_left _ hs, .refl s⟩
  | @removed user rows hkept =>
    by_cases hu : s.user = user
    · exact .inr (by rw [hu])
    · exact .inl ⟨s, (hkept s).mpr ⟨hs, hu⟩, .refl s⟩

/-! ## Revoked sessions -/

/-- The session with the identifier is stored and has been revoked. -/
def Revoked (m : Memory) (id : Uuid) : Prop := ∃ s ∈ m.sessions, s.id = id ∧ s.isRevoked = true

theorem Orderly.not_active_of_revoked (h : m.Orderly) {id : Uuid} {s : Session}
    (hr : m.Revoked id) : ¬ m.Active id s := by
  intro ha
  obtain ⟨x, hx, hid, hrevoked⟩ := hr
  rw [h.active_eq ha hx hid, ha.2] at hrevoked
  cases hrevoked

/-- As long as there is a row with the identifier of a revoked session, it is a revoked one. -/
theorem Effect.revoked_stays (h : m.Orderly) (e : Effect m o m') {id : Uuid} (hr : m.Revoked id)
    {x : Session} (hx : x ∈ m'.sessions) (hid : x.id = id) : x.isRevoked = true := by
  obtain ⟨r, hrm, hrid, hrevoked⟩ := hr
  rcases e.session_before h hx with ⟨s, hs, ha⟩ | ⟨-, hnone⟩
  · -- the older row is the revoked one
    have hsr : s = r := eq_of_key_eq h.sessionIds hs hrm (by rw [← ha.id, hid, hrid])
    exact ha.isRevoked (hsr ▸ hrevoked)
  · exact absurd (hrid.trans hid.symm) (find?_key_none.mp hnone r hrm)

end Memory

end SessionKeeper
