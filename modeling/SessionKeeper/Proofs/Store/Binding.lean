import SessionKeeper.Proofs.Store.Sessions

/-!
# Sessions and keys in the store

Two requests give a session its key: the one that creates it, and the one that binds it. `Bound`
lists what the second comes to. Whatever else is done, the key of a session is what it was, so a key
that a session has is one that a granted request has given it (`Effect.thumbprint_before`), and the
session that such a request is about has this key from then on (`Grants.thumbprint`).
-/

namespace SessionKeeper.Memory

variable {m m' : Memory}

/-! ## Binding -/

/-- What binding a session to a key comes to. -/
inductive Bound (m : Memory) (id : Uuid) (key : String) : Outcome Session → Prop where
  | missing (h : m.session? id = none) : Bound m id key (.error (.sessionNotFound id), m)
  | revoked {s} (h : m.session? id = some s) (hr : s.isRevoked = true) :
      Bound m id key (.error (.sessionRevoked id), m)
  | again {s} (h : m.Active id s) (hb : s.thumbprint = some key) : Bound m id key (.ok s, m)
  | elsewhere {s existing} (h : m.Active id s) (hb : s.thumbprint = some existing)
      (hne : existing ≠ key) : Bound m id key (.error (.boundElsewhere id), m)
  | first {s} (h : m.Active id s) (hb : s.thumbprint = none) :
      Bound m id key (.ok { s with thumbprint := some key },
        m.modifySession id fun _ => { s with thumbprint := some key })

theorem bindThumbprint_bound (m : Memory) (id : Uuid) (key : String) :
    Bound m id key (m.bindThumbprint id key) := by
  unfold bindThumbprint
  cases hs : m.session? id with
  | none =>
    rw [withActive_of_none hs]
    exact .missing hs
  | some s =>
    cases hr : s.isRevoked with
    | true =>
      rw [withActive_of_revoked hs hr]
      exact .revoked hs hr
    | false =>
      have ha : m.Active id s := ⟨hs, hr⟩
      rw [ha.withActive]
      cases hb : s.thumbprint with
      | none => exact .first ha hb
      | some existing =>
        by_cases he : existing = key
        · subst he
          simp only [if_true]
          exact .again ha hb
        · simp only [he, if_false]
          exact .elsewhere ha hb he

theorem mem_modifySession {id : Uuid} {f : Session → Session} {x : Session} :
    x ∈ (m.modifySession id f).sessions ↔
      ∃ s ∈ m.sessions, (if s.id = id then f s else s) = x := by
  simp [modifySession]

/-! ## Granted requests -/

/-- The store grants a request that gives a session its key, or that creates it without one. -/
inductive Grants (m : Memory) : Store.Request → Uuid → Option String → Prop where
  | created {s} (h : (m.createSession s).1 = .ok s) :
      Grants m (.createSession s) s.id s.thumbprint
  | bound {id key x} (h : (m.bindThumbprint id key).1 = .ok x) :
      Grants m (.bindThumbprint id key) id (some key)

/-- Afterwards the session has this key. -/
theorem Grants.thumbprint {r : Store.Request} {id : Uuid} {key : Option String}
    (h : m.Grants r id key) (ho : m.Orderly) {x : Session} (hx : x ∈ (m.answer r).2.sessions)
    (hid : x.id = id) : x.thumbprint = key := by
  cases h with
  | @created s h =>
    change x ∈ (m.createSession s).2.sessions at hx
    rcases m.createSession_cases s with ⟨e, he⟩ | ⟨-, hnone, he⟩
    · rw [he] at h
      cases h
    · rw [he] at hx
      rcases List.mem_append.mp hx with hx | hx
      · exact absurd hid (find?_key_none.mp hnone x hx)
      · rw [List.mem_singleton.mp hx]
  | @bound id key y h =>
    have hb := m.bindThumbprint_bound id key
    change x ∈ (m.bindThumbprint id key).2.sessions at hx
    generalize m.bindThumbprint id key = out at h hx hb
    cases hb with
    | missing | revoked | elsewhere => cases h
    | again ha hb => rw [ho.active_eq ha hx hid, hb]
    | first ha hb =>
      obtain ⟨s, hs, rfl⟩ := mem_modifySession.mp hx
      by_cases hsid : s.id = id
      · rw [if_pos hsid]
      · rw [if_neg hsid] at hid
        exact absurd hid hsid

/-- Changing some rows and leaving their keys as they are. -/
theorem key_kept {rows : List Session} {p : Session → Prop} [DecidablePred p]
    {f : Session → Session}
    (hf : ∀ s ∈ rows, p s → (f s).id = s.id ∧ (f s).thumbprint = s.thumbprint) {x : Session}
    (hx : x ∈ rows.map fun s => if p s then f s else s) :
    ∃ s ∈ rows, s.id = x.id ∧ s.thumbprint = x.thumbprint := by
  obtain ⟨s, hs, rfl⟩ := List.mem_map.mp hx
  by_cases hp : p s
  · obtain ⟨hid, hkey⟩ := hf s hs hp
    rw [if_pos hp]
    exact ⟨s, hs, hid.symm, hkey.symm⟩
  · rw [if_neg hp]
    exact ⟨s, hs, rfl, rfl⟩

/-- The key of a session that is there afterwards is what it was before, or it has just been given
by a request that has been granted, and the session had none. -/
theorem Effect.thumbprint_before {o : Operation} (e : Effect m o m') (ho : m.Orderly) {x : Session}
    (hx : x ∈ m'.sessions) :
    (∃ s ∈ m.sessions, s.id = x.id ∧ s.thumbprint = x.thumbprint) ∨
      ∃ r, o = .ask r ∧ m.Grants r x.id x.thumbprint ∧
        ∀ s ∈ m.sessions, s.id = x.id → s.thumbprint = none := by
  cases e with
  | nothing | userAdded | tokenRevoked | purged => exact .inl ⟨x, hx, rfl, rfl⟩
  | issued | superseded =>
    rw [enter_sessions] at hx
    exact .inl ⟨x, hx, rfl, rfl⟩
  | userRemoved hu => exact .inl ⟨x, ((mem_removeUser_sessions hu).mp hx).1, rfl, rfl⟩
  | @sessionCreated s hu hnone =>
    rcases List.mem_append.mp hx with hx | hx
    · exact .inl ⟨x, hx, rfl, rfl⟩
    · rw [List.mem_singleton.mp hx]
      have hcreate : (m.createSession s).1 = .ok s := by
        simp only [createSession, hu, hnone]
        rfl
      exact .inr ⟨_, rfl, .created hcreate,
        fun y hy hid => absurd hid (find?_key_none.mp hnone y hy)⟩
  | @sessionBound id key s ha hb =>
    obtain ⟨y, hy, rfl⟩ := mem_modifySession.mp hx
    by_cases hid : y.id = id
    · have hsid : s.id = id := (mem_of_session? ha.1).2
      subst hsid
      have hbind : (m.bindThumbprint s.id key).1 = .ok { s with thumbprint := some key } := by
        simp only [bindThumbprint, ha.withActive, hb]
      rw [if_pos hid]
      refine .inr ⟨_, rfl, .bound hbind, ?_⟩
      -- the row that was unbound is the only one with its identifier
      intro z hz hzid
      rw [ho.active_eq ha hz hzid, hb]
    · rw [if_neg hid]
      exact .inl ⟨y, hy, rfl, rfl⟩
  | sessionTouched | sessionRevoked | userRevoked | reused =>
    left
    refine key_kept ?_ hx
    intro s _ _
    exact ⟨rfl, rfl⟩
  | exchanged _ ha =>
    rw [exchange_sessions] at hx
    left
    refine key_kept ?_ hx
    intro y hy hid
    rw [ho.active_eq ha hy (by simpa using hid)]
    exact ⟨rfl, rfl⟩

/-- An exchange that is granted shows the session of the presented token with its key. -/
theorem Orderly.rotated_key (ho : m.Orderly) {presented hash : Hash} {id : Uuid} {now : Instant}
    {lifetime : Span} {r : TokenRotation}
    (h : (m.rotateToken presented id hash now lifetime).1 = .ok r) :
    ∃ t s, m.tokenByHash? presented = some t ∧ m.session? t.session = some s ∧
      r.session.id = s.id ∧ r.session.thumbprint = s.thumbprint := by
  have hx := rotateToken_rotated ho presented id hash now lifetime
  generalize m.rotateToken presented id hash now lifetime = out at h hx
  cases hx with
  | unknown | orphan | inactive | reused | expired | collision | endless => cases h
  | @exchanged t s _ ht ha =>
    cases h
    exact ⟨t, s, ht, ha.1, rfl, rfl⟩

end SessionKeeper.Memory
