import SessionKeeper.Proofs.Store.Effect

/-!
# An orderly store stays orderly

Every operation keeps the store orderly, so every store that operations can reach from the empty
one is: whatever rows are entered, whichever identifiers are reused and however instants are
ordered. Two consequences are stated for all reachable stores. A session has one current token at
most. A refusal leaves the store as it was, except that the reuse of a token revokes the session
and its tokens; there is no half-made write to take back.
-/

namespace SessionKeeper.Memory

variable {m m' : Memory}

/-! ## Preservation -/

theorem Orderly.transfer (h : m.Orderly) (htokens : (m'.tokens.map (·.id)).Nodup)
    (hsessions : (m'.sessions.map (·.id)).Nodup)
    (hcurrent : ∀ u ∈ m'.tokens, u.isCurrent = true →
      ∃ t ∈ m.tokens, t.isCurrent = true ∧ t.session = u.session ∧ t.id = u.id) : m'.Orderly where
  tokenIds := htokens
  sessionIds := hsessions
  oneCurrent := by
    intro u hu v hv huc hvc hs
    obtain ⟨t, ht, htc, hts, hti⟩ := hcurrent u hu huc
    obtain ⟨w, hw, hwc, hws, hwi⟩ := hcurrent v hv hvc
    rw [← hti, ← hwi]
    exact h.oneCurrent t ht w hw htc hwc (by rw [hts, hws, hs])

/-- Rows that only age stay in order. -/
theorem Orderly.map_tokens (h : m.Orderly) {f : Token → Token}
    (hf : ∀ t ∈ m.tokens, t.Ages (f t)) (htokens : m'.tokens = m.tokens.map f)
    (hsessions : (m'.sessions.map (·.id)).Nodup) : m'.Orderly := by
  refine h.transfer ?_ hsessions ?_
  · have hids : (m.tokens.map f).map (·.id) = m.tokens.map (·.id) := by
      rw [List.map_map]
      exact List.map_congr_left fun t ht => (hf t ht).id
    rw [htokens, hids]
    exact h.tokenIds
  · intro u hu huc
    rw [htokens] at hu
    obtain ⟨t, ht, rfl⟩ := List.mem_map.mp hu
    exact ⟨t, ht, (hf t ht).isCurrent huc, (hf t ht).session.symm, (hf t ht).id.symm⟩

theorem Orderly.sub_tokens (h : m.Orderly) (htokens : m'.tokens.Sublist m.tokens)
    (hsessions : (m'.sessions.map (·.id)).Nodup) : m'.Orderly :=
  h.transfer (h.tokenIds.sublist (htokens.map _)) hsessions
    fun u hu huc => ⟨u, htokens.subset hu, huc, rfl, rfl⟩

theorem Orderly.with_sessions (h : m.Orderly) (htokens : m'.tokens = m.tokens)
    (hsessions : (m'.sessions.map (·.id)).Nodup) : m'.Orderly :=
  h.sub_tokens (htokens ▸ List.Sublist.refl _) hsessions

theorem Orderly.modifySession (h : m.Orderly) {id : Uuid} {f : Session → Session}
    (hf : ∀ s ∈ m.sessions, s.id = id → (f s).id = id) : (m.modifySession id f).Orderly := by
  refine h.with_sessions rfl ?_
  have hids : (m.modifySession id f).sessions.map (·.id) = m.sessions.map (·.id) := by
    simp only [Memory.modifySession, List.map_map]
    refine List.map_congr_left fun s hs => ?_
    simp only [Function.comp_apply, beq_iff_eq]
    split
    · rename_i he
      rw [hf s hs he, he]
    · rfl
  rw [hids]
  exact h.sessionIds

theorem Orderly.modifyToken (h : m.Orderly) {id : Uuid} {f : Token → Token}
    (hf : ∀ t ∈ m.tokens, t.id = id → t.Ages (f t)) : (m.modifyToken id f).Orderly :=
  h.map_tokens (fun t ht => .ite fun he => hf t ht (by simpa using he)) rfl h.sessionIds

/-- A token may be entered where its session has no current one. -/
theorem Orderly.enter (h : m.Orderly) {t : Token} (hc : m.currentOf? t.session = none) :
    (m.enter t).Orderly where
  tokenIds := by
    rw [enter_tokens]
    split
    · rw [List.map_map, List.map_congr_left (g := (·.id))]
      · exact h.tokenIds
      · intro u _
        simp only [Function.comp_apply, beq_iff_eq]
        split
        · rename_i he
          exact he.symm
        · rfl
    · rename_i hnone
      exact nodup_key_append h.tokenIds (by simpa using hnone)
  sessionIds := by rw [enter_sessions]; exact h.sessionIds
  oneCurrent := by
    have hvacant : ∀ u ∈ m.tokens, u.isCurrent = true → u.session ≠ t.session := by
      intro u hu huc hs
      rw [currentOf?_eq_none.mp hc u hu hs] at huc
      cases huc
    intro u hu v hv huc hvc hs
    rcases mem_enter.mp hu with rfl | ⟨hum, -⟩ <;> rcases mem_enter.mp hv with rfl | ⟨hvm, -⟩
    · rfl
    · exact absurd hs.symm (hvacant v hvm hvc)
    · exact absurd hs (hvacant u hum huc)
    · exact h.oneCurrent u hum v hvm huc hvc hs

theorem orderly_empty : empty.Orderly where
  tokenIds := .nil
  sessionIds := .nil
  oneCurrent := by intro t ht; cases ht

theorem Orderly.effect {o : Operation} (h : m.Orderly) (e : Effect m o m') : m'.Orderly := by
  cases e with
  | nothing => exact h
  | userAdded => exact h.with_sessions rfl h.sessionIds
  | userRemoved hu =>
    refine h.sub_tokens ?_ ?_
    · rw [removeUser_tokens hu]
      exact List.filter_sublist
    · rw [removeUser_sessions hu]
      exact nodup_key_filter h.sessionIds _
  | sessionCreated _ hs =>
    exact h.with_sessions rfl (nodup_key_append h.sessionIds (find?_key_none.mp hs))
  | sessionBound ha => exact h.modifySession fun _ _ _ => (mem_of_session? ha.1).2
  | sessionTouched => exact h.modifySession fun _ _ he => he
  | sessionRevoked => exact h.modifySession fun _ _ he => he
  | userRevoked =>
    refine h.with_sessions rfl ?_
    simp only [revokeUserSessions]
    rw [map_key_map]
    · exact h.sessionIds
    · intro s
      split <;> rfl
  | issued _ _ hc => exact h.enter hc
  | superseded _ _ hc =>
    obtain ⟨hcm, hcs, hcc⟩ := mem_of_currentOf? hc
    refine Orderly.enter (h.modifyToken fun u hu he => ?_) ?_
    · exact Token.ages_supersede (h.token_eq hu hcm he ▸ hcc) _
    · rw [← hcs]
      exact h.retired hcm hcc (by simp [Token.isCurrent])
  | @reused _ _ _ now _ t _ _ _ _ =>
    have hrevoked : (m.modifySession t.session (·.revoke now)).Orderly :=
      h.modifySession fun _ _ he => he
    exact hrevoked.map_tokens (fun u _ => .ite fun _ => Token.ages_revoke u now) rfl
      hrevoked.sessionIds
  | exchanged hx ha hun _ _ hf =>
    have hxm := mem_of_tokenByHash? hx
    obtain ⟨hsession, -⟩ := Token.fresh_session_hash hf
    refine (Orderly.enter (h.modifyToken fun u hu he => ?_) ?_).modifySession ?_
    · rw [h.token_eq hu hxm he]
      exact Token.ages_consume hun _ _
    · rw [hsession]
      exact h.retired hxm (Token.isCurrent_of_not_isSpent hun) (by simp)
    · exact fun _ _ _ => (mem_of_session? ha.1).2
  | tokenRevoked => exact h.modifyToken fun u _ _ => Token.ages_revoke u _
  | purged => exact h.sub_tokens List.filter_sublist h.sessionIds

theorem Orderly.apply (h : m.Orderly) (o : Operation) : (m.apply o).Orderly :=
  h.effect (h.apply_effect o)

/-- Every store that operations reach is orderly. -/
theorem orderly_applyAll (os : List Operation) : (empty.applyAll os).Orderly := by
  suffices hgen : ∀ {m : Memory}, m.Orderly → (m.applyAll os).Orderly from hgen orderly_empty
  induction os with
  | nil => exact fun h => h
  | cons o os ih => exact fun h => ih (h.apply o)

/-! ## One current token -/

/-- Rows of which any two have one key are one row at most. -/
theorem length_le_one_of_key_eq {α : Type} {key : α → Uuid} {rows : List α}
    (h : (rows.map key).Nodup) (he : ∀ a ∈ rows, ∀ b ∈ rows, key a = key b) :
    rows.length ≤ 1 := by
  match rows with
  | [] => simp
  | [_] => simp
  | a :: b :: rest =>
    have hab : key a = key b := he a (by simp) b (by simp)
    simp [hab] at h

/-- After any operations, in any order and with any arguments, at most one row of a session is
neither revoked nor replaced. -/
theorem one_current_token (os : List Operation) (session : Uuid) :
    ((empty.applyAll os).tokens.filter fun t =>
      t.session == session && (t.revokedAt.isNone && t.replacedBy.isNone)).length ≤ 1 := by
  have h := orderly_applyAll os
  refine length_le_one_of_key_eq (nodup_key_filter h.tokenIds _) ?_
  intro t ht u hu
  simp only [List.mem_filter, Bool.and_eq_true, beq_iff_eq] at ht hu
  obtain ⟨ht, hts, htc⟩ := ht
  obtain ⟨hu, hus, huc⟩ := hu
  exact h.oneCurrent t ht u hu (by simp [Token.isCurrent, htc]) (by simp [Token.isCurrent, huc])
    (by rw [hts, hus])

/-! ## Refusals -/

/-- A store that operations reach from the empty one. -/
def Reached (m : Memory) : Prop := ∃ os, empty.applyAll os = m

theorem Reached.orderly (h : m.Reached) : m.Orderly := by
  obtain ⟨os, rfl⟩ := h
  exact orderly_applyAll os

/-- What the reuse of a token makes of the store: its session is revoked now, and so is every token
of the session that had not been revoked before. -/
theorem Orderly.revokeFamily_eq (h : m.Orderly) {id : Uuid} {s : Session} (ha : m.Active id s)
    (now : Instant) :
    m.revokeFamily id now =
      { m with
        sessions := m.sessions.map fun x =>
          if x.id = id then { x with revokedAt := some now } else x
        tokens := m.tokens.map fun u =>
          if u.session = id ∧ u.revokedAt = none then { u with revokedAt := some now }
          else u } := by
  obtain ⟨hs, hid⟩ := mem_of_session? ha.1
  simp only [revokeFamily, Memory.modifySession, Memory.mk.injEq, true_and, and_true]
  constructor
  · refine List.map_congr_left fun x hx => ?_
    by_cases he : x.id = id
    · have hxs : x = s := eq_of_key_eq h.sessionIds hx hs (he.trans hid.symm)
      have hr : s.revokedAt = none := by simpa [Session.isRevoked] using ha.2
      simp [hxs, hid, Session.revoke, hr]
    · simp [he]
  · refine List.map_congr_left fun u _ => ?_
    by_cases he : u.session = id
    · simp [he, Token.revoke_eq]
    · simp [he]

/-- A refusal that writes nothing and does not speak of a reused token. -/
def Unwritten (m m' : Memory) (e : Error) : Prop := m' = m ∧ e.kind ≠ .replayDetected

theorem unwritten_of_withActive {α : Type} {id : Uuid} {f : Session → Outcome α} {e : Error}
    (hf : ∀ s, f s = (.error e, m') → m.Unwritten m' e)
    (h : m.withActive id f = (.error e, m')) : m.Unwritten m' e := by
  cases hs : m.session? id with
  | none =>
    rw [withActive_of_none hs] at h
    cases h
    exact ⟨rfl, by simp [Error.sessionNotFound, Error.plain]⟩
  | some s =>
    cases hr : s.isRevoked with
    | true =>
      rw [withActive_of_revoked hs hr] at h
      cases h
      exact ⟨rfl, by simp [Error.sessionRevoked, Error.plain]⟩
    | false => exact hf s (Active.withActive ⟨hs, hr⟩ f ▸ h)

theorem createSession_refused {s : Session} {e : Error}
    (h : m.createSession s = (.error e, m')) : m.Unwritten m' e := by
  simp only [createSession] at h
  split at h
  · cases h
    exact ⟨rfl, by simp [Error.userNotFound, Error.plain]⟩
  · split at h
    · cases h
      exact ⟨rfl, by simp [Error.sessionExists, Error.plain]⟩
    · cases h

theorem bindThumbprint_refused {id : Uuid} {thumbprint : String} {e : Error}
    (h : m.bindThumbprint id thumbprint = (.error e, m')) : m.Unwritten m' e := by
  refine unwritten_of_withActive (fun s hs => ?_) h
  cases hb : s.thumbprint with
  | none => rw [hb] at hs; cases hs
  | some existing =>
    simp only [hb] at hs
    split at hs
    · cases hs
    · cases hs
      exact ⟨rfl, by simp [Error.boundElsewhere, Error.plain]⟩

theorem touchSession_refused {id : Uuid} {now : Instant} {e : Error}
    (h : m.touchSession id now = (.error e, m')) : m.Unwritten m' e :=
  unwritten_of_withActive (fun s hs => by cases hs) h

theorem revokeSession_refused {id : Uuid} {now : Instant} {e : Error}
    (h : m.revokeSession id now = (.error e, m')) : m.Unwritten m' e := by
  simp only [revokeSession] at h
  split at h
  · cases h
    exact ⟨rfl, by simp [Error.sessionNotFound, Error.plain]⟩
  · cases h

theorem revokeToken_refused {hash : Hash} {now : Instant} {e : Error}
    (h : m.revokeToken hash now = (.error e, m')) : m.Unwritten m' e := by
  simp only [revokeToken] at h
  split at h
  · cases h
    exact ⟨rfl, by simp [Error.unknownToken, Error.plain]⟩
  · cases h

theorem Issued.refused {t : Token} {policy : IssuePolicy} {now : Instant} {e : Error}
    (h : Issued m t policy now (.error e, m')) : m.Unwritten m' e := by
  cases h with
  | orphan | inactive | collision | occupied => exact ⟨rfl, by intro h; cases h⟩

/-- What was the case when an exchange is refused because of a reused token. -/
def Reuse (m m' : Memory) (presented : Hash) (now : Instant) : Prop :=
  ∃ t s, m.tokenByHash? presented = some t ∧ m.Active t.session s ∧ t.isSpent = true ∧
    m' = m.revokeFamily t.session now

theorem Rotated.refused {presented hash : Hash} {id : Uuid} {now : Instant} {lifetime : Span}
    {e : Error} (h : Rotated m presented id hash now lifetime (.error e, m')) :
    m.Unwritten m' e ∨ (e.kind = .replayDetected ∧ m.Reuse m' presented now) := by
  cases h with
  | unknown | orphan | inactive | expired | collision | endless =>
    exact .inl ⟨rfl, by intro h; cases h⟩
  | reused ht ha hu => exact .inr ⟨rfl, _, _, ht, ha, hu, rfl⟩

/-- The refusals of all requests. -/
theorem Orderly.answer_refused (ho : m.Orderly) {r : Store.Request} {e : Error}
    (h : m.answer r = (.error e, m')) :
    m.Unwritten m' e ∨ (e.kind = .replayDetected ∧ ∃ presented id hash now lifetime,
      r = .rotateToken presented id hash now lifetime ∧ m.Reuse m' presented now) := by
  cases r with
  | createSession s => exact .inl (createSession_refused h)
  | bindThumbprint id thumbprint => exact .inl (bindThumbprint_refused h)
  | touchSession id now => exact .inl (touchSession_refused h)
  | revokeSession id now => exact .inl (revokeSession_refused h)
  | revokeToken hash now => exact .inl (revokeToken_refused h)
  | issueToken t policy now =>
    have hi := issueToken_issued ho t policy now
    rw [show m.issueToken t policy now = (.error e, m') from h] at hi
    exact .inl hi.refused
  | rotateToken presented id hash now lifetime =>
    have hx := rotateToken_rotated ho presented id hash now lifetime
    rw [show m.rotateToken presented id hash now lifetime = (.error e, m') from h] at hx
    rcases hx.refused with hu | ⟨hk, hr⟩
    · exact .inl hu
    · exact .inr ⟨hk, presented, id, hash, now, lifetime, rfl, hr⟩
  | findSession | listSessions | revokeUserSessions | findToken | isCurrentAndValid
  | sessionTokens | purgeExpired => cases h

/-- In every reachable store and for every request: a refusal leaves the store as it was, unless
it says that a spent token was presented. Then the request was to exchange a stored token of an
active session, and all that is written is the revocation of that session and of those of its
tokens that had not been revoked before, at the instant of the request. -/
theorem refusal_leaves_store {r : Store.Request} {e : Error} (hm : m.Reached)
    (h : m.answer r = (.error e, m')) :
    (e.kind ≠ .replayDetected → m' = m) ∧
    (e.kind = .replayDetected → ∃ presented id hash now lifetime t s,
      r = .rotateToken presented id hash now lifetime ∧
      m.tokenByHash? presented = some t ∧ m.session? t.session = some s ∧ s.revokedAt = none ∧
      m' = { m with
        sessions := m.sessions.map fun x =>
          if x.id = t.session then { x with revokedAt := some now } else x
        tokens := m.tokens.map fun u =>
          if u.session = t.session ∧ u.revokedAt = none then { u with revokedAt := some now }
          else u }) := by
  have ho := hm.orderly
  rcases ho.answer_refused h with ⟨rfl, hk⟩ | ⟨hk, presented, id, hash, now, lifetime, rfl, hr⟩
  · exact ⟨fun _ => rfl, fun he => absurd he hk⟩
  · refine ⟨fun hne => absurd hk hne, fun _ => ?_⟩
    obtain ⟨t, s, ht, ha, -, rfl⟩ := hr
    exact ⟨presented, id, hash, now, lifetime, t, s, rfl, ht, ha.1,
      by simpa [Session.isRevoked] using ha.2, ho.revokeFamily_eq ha now⟩

/-- A session whose first token has been exchanged for a second. -/
def exchangedOnce : List Operation :=
  [.addUser ⟨1⟩, .ask (.createSession (Session.start ⟨7⟩ ⟨1⟩ none ⟨0, false⟩)),
    .ask (.issueToken ⟨⟨11⟩, ⟨7⟩, [1], ⟨0, false⟩, ⟨100, false⟩, none, none, none⟩ .reject
      ⟨0, false⟩),
    .ask (.rotateToken [1] ⟨12⟩ [2] ⟨10, false⟩ ⟨100⟩)]

/-- The first token of that session is presented again: both rows are revoked, and the session. -/
theorem refusal_leaves_store_reused :
    ∃ m' e, (empty.applyAll exchangedOnce).answer (.rotateToken [1] ⟨13⟩ [3] ⟨20, false⟩ ⟨100⟩) =
        (.error e, m') ∧ e.kind = .replayDetected ∧
      (m'.tokens.map fun t => (t.id, t.usedAt, t.revokedAt)) =
        [(⟨11⟩, some ⟨10, false⟩, some ⟨20, false⟩), (⟨12⟩, none, some ⟨20, false⟩)] ∧
      (m'.sessions.map (·.revokedAt)) = [some ⟨20, false⟩] := by
  have h : (empty.applyAll exchangedOnce).answer (.rotateToken [1] ⟨13⟩ [3] ⟨20, false⟩ ⟨100⟩) =
      (.error (.tokenReused ⟨11⟩ ⟨7⟩),
        (empty.applyAll exchangedOnce).revokeFamily ⟨7⟩ ⟨20, false⟩) := rfl
  obtain ⟨presented, id, hash, now, lifetime, t, s, hr, ht, -, -, hm⟩ :=
    (refusal_leaves_store ⟨exchangedOnce, rfl⟩ h).2 rfl
  cases hr
  have hsession : t.session = ⟨7⟩ := by
    rw [show (empty.applyAll exchangedOnce).tokenByHash? [1] = some _ from rfl] at ht
    cases ht
    rfl
  refine ⟨_, _, h, rfl, ?_, ?_⟩
  · rw [hm, hsession]; decide
  · rw [hm, hsession]; decide

end SessionKeeper.Memory
