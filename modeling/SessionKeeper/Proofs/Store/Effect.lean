import SessionKeeper.Proofs.Store.Operation

/-!
# What an operation does to the rows

`Effect` lists once what any operation on an orderly store can do. From it follows, for all
operations together, what becomes of the rows of tokens: a row that is there afterwards either has
been there before, as it is or without one of the four kinds of marks (`Marks`), or has just been
entered (`Effect.row_origin`), so that it has only aged if it is not new (`Effect.token_before`); a
row that was there stays under its identifier unless it is purged, its user removed, or another
token entered over it (`Effect.token_after`).
-/

namespace SessionKeeper.Memory

variable {m : Memory}

/-! ## The removal of a user -/

/-- Whether a session belongs to a user, as far as the store knows. -/
def Owns (m : Memory) (user session : Uuid) : Prop :=
  ∃ s ∈ m.sessions, s.user = user ∧ s.id = session

theorem contains_sessionsOf {user session : Uuid} :
    ((m.sessionsOf user).map (·.id)).contains session = true ↔ m.Owns user session := by
  simp [sessionsOf, Owns, and_assoc]

theorem mem_removeUser_users {user other : Uuid} (h : m.users.contains user = true) :
    other ∈ (m.removeUser user).2.users ↔ other ∈ m.users ∧ other ≠ user := by
  simp only [removeUser, h, if_true, dropTokens, List.mem_filter, bne_iff_ne]

theorem removeUser_sessions {user : Uuid} (h : m.users.contains user = true) :
    (m.removeUser user).2.sessions =
      m.sessions.filter fun s => !((m.sessionsOf user).map (·.id)).contains s.id := by
  simp only [removeUser, h, if_true, dropTokens]

theorem mem_removeUser_sessions {user : Uuid} {s : Session} (h : m.users.contains user = true) :
    s ∈ (m.removeUser user).2.sessions ↔ s ∈ m.sessions ∧ ¬ m.Owns user s.id := by
  rw [removeUser_sessions h, List.mem_filter, Bool.not_eq_true', ← Bool.not_eq_true,
    contains_sessionsOf]

theorem removeUser_tokens {user : Uuid} (h : m.users.contains user = true) :
    (m.removeUser user).2.tokens = (m.dropTokens (m.tokens.filter fun t =>
      ((m.sessionsOf user).map (·.id)).contains t.session)).tokens := by
  simp only [removeUser, h, if_true, dropTokens]

theorem removeUser_byHash {user : Uuid} (h : m.users.contains user = true) :
    (m.removeUser user).2.byHash = (m.dropTokens (m.tokens.filter fun t =>
      ((m.sessionsOf user).map (·.id)).contains t.session)).byHash := by
  simp only [removeUser, h, if_true, dropTokens]

theorem Orderly.mem_removeUser_tokens (ho : m.Orderly) {user : Uuid} {t : Token}
    (h : m.users.contains user = true) :
    t ∈ (m.removeUser user).2.tokens ↔ t ∈ m.tokens ∧ ¬ m.Owns user t.session := by
  rw [removeUser_tokens h, mem_dropTokens]
  refine and_congr_right fun ht => ?_
  simp only [List.mem_filter, contains_sessionsOf, and_imp]
  constructor
  · intro hall hown
    exact hall t ht hown rfl
  · intro hown d hd hdown he
    rw [ho.token_eq hd ht he] at hdown
    exact hown hdown

/-! ## Effects -/

/-- What an operation can do. Reads, refusals and operations that find nothing to change leave the
store alone; every other constructor is one kind of write, with what was checked before it. -/
inductive Effect (m : Memory) : Operation → Memory → Prop where
  | nothing (o : Operation) : Effect m o m
  | userAdded {user} (h : m.users.contains user = false) :
      Effect m (.addUser user) { m with users := m.users ++ [user] }
  | userRemoved {user} (h : m.users.contains user = true) :
      Effect m (.removeUser user) (m.removeUser user).2
  | sessionCreated {s} (hu : m.users.contains s.user = true) (hs : m.session? s.id = none) :
      Effect m (.ask (.createSession s)) { m with sessions := m.sessions ++ [s] }
  | sessionBound {id thumbprint s} (ha : m.Active id s) (hb : s.thumbprint = none) :
      Effect m (.ask (.bindThumbprint id thumbprint))
        (m.modifySession id fun _ => { s with thumbprint := some thumbprint })
  | sessionTouched {id now s} (ha : m.Active id s) :
      Effect m (.ask (.touchSession id now))
        (m.modifySession id fun s => { s with lastUsedAt := some now })
  | sessionRevoked {id now s} (hs : m.session? id = some s) :
      Effect m (.ask (.revokeSession id now)) (m.modifySession id (·.revoke now))
  | userRevoked {user now} :
      Effect m (.ask (.revokeUserSessions user now)) (m.revokeUserSessions user now).2
  | issued {t policy now s} (ha : m.Active t.session s) (hh : m.hasHash t.hash = false)
      (hc : m.currentOf? t.session = none) : Effect m (.ask (.issueToken t policy now)) (m.enter t)
  | superseded {t now s c} (ha : m.Active t.session s) (hh : m.hasHash t.hash = false)
      (hc : m.currentOf? t.session = some c) :
      Effect m (.ask (.issueToken t .supersede now))
        ((m.modifyToken c.id fun c => { c with revokedAt := some now }).enter t)
  | reused {presented id hash now lifetime t s} (h : m.tokenByHash? presented = some t)
      (ha : m.Active t.session s) (hu : t.isSpent = true) :
      Effect m (.ask (.rotateToken presented id hash now lifetime)) (m.revokeFamily t.session now)
  | exchanged {presented id hash now lifetime t s next} (h : m.tokenByHash? presented = some t)
      (ha : m.Active t.session s) (hu : t.isSpent = false) (he : t.isExpiredAt now = false)
      (hh : m.hasHash hash = false)
      (hf : Token.fresh id t.session hash now lifetime = .ok next) :
      Effect m (.ask (.rotateToken presented id hash now lifetime)) (m.exchange t next s now)
  | tokenRevoked {hash now t} (h : m.tokenByHash? hash = some t) :
      Effect m (.ask (.revokeToken hash now)) (m.modifyToken t.id (·.revoke now))
  | purged {cutoff limit} :
      Effect m (.ask (.purgeExpired cutoff limit)) (m.dropTokens (m.doomed cutoff limit))

/-- Whatever an operation does to an orderly store is on the list. -/
theorem Orderly.apply_effect (h : m.Orderly) (o : Operation) : Effect m o (m.apply o) := by
  cases o with
  | addUser user =>
    simp only [apply, addUser]
    split
    · exact .nothing _
    · rename_i hu
      exact .userAdded (by simpa using hu)
  | removeUser user =>
    cases hu : m.users.contains user with
    | true => exact .userRemoved hu
    | false => simpa only [apply, removeUser, hu] using .nothing _
  | ask r =>
    cases r with
    | createSession s =>
      simp only [apply, answer, createSession]
      cases hu : m.users.contains s.user with
      | false => exact .nothing _
      | true =>
        cases hs : m.session? s.id with
        | some _ => exact .nothing _
        | none => exact .sessionCreated hu hs
    | findSession id => exact .nothing _
    | listSessions user includeRevoked => exact .nothing _
    | bindThumbprint id thumbprint =>
      simp only [apply, answer, bindThumbprint]
      cases hs : m.session? id with
      | none => rw [withActive_of_none hs]; exact .nothing _
      | some s =>
        cases hr : s.isRevoked with
        | true => rw [withActive_of_revoked hs hr]; exact .nothing _
        | false =>
          have ha : m.Active id s := ⟨hs, hr⟩
          rw [ha.withActive]
          cases hb : s.thumbprint with
          | none => exact .sessionBound ha hb
          | some existing => simp only; split <;> exact .nothing _
    | touchSession id now =>
      simp only [apply, answer, touchSession]
      cases hs : m.session? id with
      | none => rw [withActive_of_none hs]; exact .nothing _
      | some s =>
        cases hr : s.isRevoked with
        | true => rw [withActive_of_revoked hs hr]; exact .nothing _
        | false =>
          have ha : m.Active id s := ⟨hs, hr⟩
          rw [ha.withActive]
          exact .sessionTouched ha
    | revokeSession id now =>
      simp only [apply, answer, revokeSession]
      cases hs : m.session? id with
      | none => exact .nothing _
      | some s => exact .sessionRevoked hs
    | revokeUserSessions user now => exact .userRevoked
    | issueToken t policy now =>
      have hi := issueToken_issued h t policy now
      simp only [apply, answer]
      generalize m.issueToken t policy now = out at hi
      cases hi with
      | orphan | inactive | collision | occupied => exact .nothing _
      | first ha hh hc => exact .issued ha hh hc
      | superseding ha hh hc => exact .superseded ha hh hc
    | rotateToken presented id hash now lifetime =>
      have hx := rotateToken_rotated h presented id hash now lifetime
      simp only [apply, answer]
      generalize m.rotateToken presented id hash now lifetime = out at hx
      cases hx with
      | unknown | orphan | inactive | expired | collision | endless => exact .nothing _
      | reused ht ha hu => exact .reused ht ha hu
      | exchanged ht ha hu he hh hf => exact .exchanged ht ha hu he hh hf
    | revokeToken hash now =>
      simp only [apply, answer, revokeToken]
      cases ht : m.tokenByHash? hash with
      | none => exact .nothing _
      | some t => exact .tokenRevoked ht
    | findToken hash => exact .nothing _
    | isCurrentAndValid hash now => exact .nothing _
    | sessionTokens session => exact .nothing _
    | purgeExpired cutoff limit => exact .purged

/-! ## What becomes of the rows of tokens -/

/-- The row that an operation enters, if it is not refused. -/
def Operation.Enters : Operation → Token → Prop
  | .ask (.issueToken t _ _), u => u = t
  | .ask (.rotateToken _ id hash now lifetime), u =>
    ∃ session, Token.fresh id session hash now lifetime = .ok u
  | _, _ => False

/-- The rows that an operation deletes. -/
def Operation.Deletes (m : Memory) : Operation → Token → Prop
  | .removeUser user, t => m.Owns user t.session
  | .ask (.purgeExpired cutoff limit), t => t ∈ m.doomed cutoff limit
  | _, _ => False

/-- What a request makes of a stored token, with what was checked before it. -/
inductive Marks (m : Memory) (t : Token) : Store.Request → Token → Prop where
  | revoked {hash now} (h : m.tokenByHash? hash = some t) :
      Marks m t (.revokeToken hash now) (t.revoke now)
  | superseded {next now s} (ha : m.Active next.session s)
      (hc : m.currentOf? next.session = some t) :
      Marks m t (.issueToken next .supersede now) { t with revokedAt := some now }
  | reused {presented id hash now lifetime x s} (h : m.tokenByHash? presented = some x)
      (ha : m.Active x.session s) (hu : x.isSpent = true) (hs : t.session = x.session) :
      Marks m t (.rotateToken presented id hash now lifetime) (t.revoke now)
  | exchanged {presented id hash now lifetime s} (h : m.tokenByHash? presented = some t)
      (ha : m.Active t.session s) (hu : t.isSpent = false) (he : t.isExpiredAt now = false) :
      Marks m t (.rotateToken presented id hash now lifetime) (t.consume now id)

theorem Marks.ages {t u : Token} {r : Store.Request} (h : m.Marks t r u) : t.Ages u := by
  cases h with
  | revoked => exact t.ages_revoke _
  | superseded _ hc => exact Token.ages_supersede (mem_of_currentOf? hc).2.2 _
  | reused => exact t.ages_revoke _
  | exchanged _ _ hu => exact Token.ages_consume hu _ _

/-- A row has been there before as it is, or has been marked, or has just been entered under a new
hash. -/
theorem Effect.row_origin {m m' : Memory} {o : Operation} (h : m.Orderly) (e : Effect m o m')
    {u : Token} (hu : u ∈ m'.tokens) :
    u ∈ m.tokens ∨ (∃ t ∈ m.tokens, ∃ r, o = .ask r ∧ m.Marks t r u) ∨
      (o.Enters u ∧ m.hasHash u.hash = false) := by
  cases e with
  | nothing | userAdded | sessionCreated | sessionBound | sessionTouched | sessionRevoked
  | userRevoked => exact .inl hu
  | userRemoved hus => exact .inl ((h.mem_removeUser_tokens hus).mp hu).1
  | issued _ hh =>
    rcases mem_enter.mp hu with rfl | ⟨hu, -⟩
    · exact .inr (.inr ⟨rfl, hh⟩)
    · exact .inl hu
  | superseded ha hh hc =>
    rcases mem_enter.mp hu with rfl | ⟨hu, -⟩
    · exact .inr (.inr ⟨rfl, hh⟩)
    · obtain ⟨t, ht, rfl⟩ := mem_modifyToken.mp hu
      split
      · rename_i he
        rw [h.token_eq ht (mem_of_currentOf? hc).1 he]
        exact .inr (.inl ⟨_, (mem_of_currentOf? hc).1, _, rfl, .superseded ha hc⟩)
      · exact .inl ht
  | reused hx ha hus =>
    obtain ⟨t, ht, rfl⟩ := List.mem_map.mp hu
    split
    · rename_i hs
      exact .inr (.inl ⟨t, ht, _, rfl, .reused hx ha hus (by simpa using hs)⟩)
    · exact .inl ht
  | exchanged hx ha hun he hh hf =>
    rcases mem_enter.mp hu with rfl | ⟨hu, -⟩
    · refine .inr (.inr ⟨⟨_, hf⟩, ?_⟩)
      rw [(Token.fresh_session_hash hf).2]
      exact hh
    · obtain ⟨t, ht, rfl⟩ := mem_modifyToken.mp hu
      split
      · rw [Token.fresh_id hf]
        exact .inr (.inl ⟨_, mem_of_tokenByHash? hx, _, rfl, .exchanged hx ha hun he⟩)
      · exact .inl ht
  | tokenRevoked hx =>
    obtain ⟨t, ht, rfl⟩ := mem_modifyToken.mp hu
    split
    · rename_i he
      rw [h.token_eq ht (mem_of_tokenByHash? hx) he]
      exact .inr (.inl ⟨_, mem_of_tokenByHash? hx, _, rfl, .revoked hx⟩)
    · exact .inl ht
  | purged => exact .inl (mem_dropTokens.mp hu).1

theorem Effect.token_before {m m' : Memory} {o : Operation} (h : m.Orderly) (e : Effect m o m')
    {u : Token} (hu : u ∈ m'.tokens) : (∃ t ∈ m.tokens, t.Ages u) ∨ o.Enters u := by
  rcases e.row_origin h hu with hu | ⟨t, ht, r, -, hmarks⟩ | ⟨hentered, -⟩
  · exact .inl ⟨u, hu, .refl u⟩
  · exact .inl ⟨t, ht, hmarks.ages⟩
  · exact .inr hentered

theorem Effect.token_after {m m' : Memory} {o : Operation} (h : m.Orderly) (e : Effect m o m')
    {t : Token} (ht : t ∈ m.tokens) :
    (∃ u ∈ m'.tokens, t.Ages u) ∨ o.Deletes m t ∨ ∃ u, o.Enters u ∧ u.id = t.id := by
  cases e with
  | nothing | userAdded | sessionCreated | sessionBound | sessionTouched | sessionRevoked
  | userRevoked => exact .inl ⟨t, ht, .refl t⟩
  | @userRemoved user hus =>
    by_cases hown : m.Owns user t.session
    · exact .inr (.inl hown)
    · exact .inl ⟨t, (h.mem_removeUser_tokens hus).mpr ⟨ht, hown⟩, .refl t⟩
  | @issued v =>
    by_cases he : t.id = v.id
    · exact .inr (.inr ⟨v, rfl, he.symm⟩)
    · exact .inl ⟨t, mem_enter.mpr (.inr ⟨ht, he⟩), .refl t⟩
  | @superseded v now _ c _ _ hc =>
    obtain ⟨hcm, -, hcc⟩ := mem_of_currentOf? hc
    by_cases he : t.id = v.id
    · exact .inr (.inr ⟨v, rfl, he.symm⟩)
    · refine .inl ⟨_, mem_enter.mpr (.inr ⟨mem_modifyToken.mpr ⟨t, ht, rfl⟩, ?_⟩), ?_⟩
      · split <;> exact he
      · exact .ite fun hec => Token.ages_supersede (h.token_eq ht hcm hec ▸ hcc) _
  | reused =>
    exact .inl ⟨_, List.mem_map.mpr ⟨t, ht, rfl⟩, .ite fun _ => Token.ages_revoke t _⟩
  | @exchanged _ _ _ _ _ x _ next hx _ hun _ _ hf =>
    have hxm := mem_of_tokenByHash? hx
    by_cases he : t.id = next.id
    · exact .inr (.inr ⟨next, ⟨_, hf⟩, he.symm⟩)
    · refine .inl ⟨_, mem_enter.mpr (.inr ⟨mem_modifyToken.mpr ⟨t, ht, rfl⟩, ?_⟩), ?_⟩
      · split
        · rename_i hex
          rw [hex] at he
          exact he
        · exact he
      · refine .ite fun hex => ?_
        rw [h.token_eq ht hxm hex]
        exact Token.ages_consume hun _ _
  | tokenRevoked =>
    exact .inl ⟨_, mem_modifyToken.mpr ⟨t, ht, rfl⟩, .ite fun _ => Token.ages_revoke t _⟩
  | @purged cutoff limit =>
    by_cases hd : t ∈ m.doomed cutoff limit
    · exact .inr (.inl hd)
    · refine .inl ⟨t, mem_dropTokens.mpr ⟨ht, fun d hdm he => hd ?_⟩, .refl t⟩
      rwa [← h.token_eq (mem_of_doomed hdm).1 ht he]

end SessionKeeper.Memory
