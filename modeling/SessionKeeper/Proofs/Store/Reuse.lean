import SessionKeeper.Proofs.Store.Structure

/-!
# What the exchange of a token comes to

In a sound store the exchange of a token is decided by one row, the one with the presented hash. If
the exchange is granted, this row was unspent and is spent from then on. If the row is spent, the
exchange is refused, and the reuse of the token closes its session: nothing of it can be used any
more.
-/

namespace SessionKeeper.Memory


variable {m m' : Memory} {presented hash : Hash} {id : Uuid} {now : Instant} {lifetime : Span}

/-! ## Closed sessions -/

/-- The session has been revoked, and so has every token of it: none is current, and none can be
exchanged at any instant. -/
def Closed (m : Memory) (session : Uuid) : Prop :=
  (∃ s, m.session? session = some s ∧ s.revokedAt.isSome) ∧
    ∀ t ∈ m.tokens, t.session = session → t.revokedAt.isSome ∧ t.isCurrent = false ∧
      ∀ now, m.isCurrentAndValid t.hash now = false

theorem Sound.tokenByHash?_eq_some (h : m.Sound) {t : Token} :
    m.tokenByHash? hash = some t ↔ t ∈ m.tokens ∧ t.hash = hash :=
  h.indexed.tokenByHash?_eq_some h.orderly

theorem Sound.isCurrentAndValid_of_spent (h : m.Sound) {t : Token} (ht : t ∈ m.tokens)
    (hs : t.isSpent = true) (now : Instant) : m.isCurrentAndValid t.hash now = false := by
  simp [isCurrentAndValid, h.tokenByHash?_eq_some.mpr ⟨ht, rfl⟩, hs]

/-- The reuse of a token closes its session. -/
theorem Reuse.closed (h : m.Reuse m' presented now) (hm : m.Sound) (hm' : m'.Sound) :
    ∃ t, m'.tokenByHash? presented = some t ∧ m'.Closed t.session := by
  obtain ⟨t, s, ht, ha, -, rfl⟩ := h
  obtain ⟨htm, hhash⟩ := hm.tokenByHash?_eq_some.mp ht
  obtain ⟨hsm, hid⟩ := mem_of_session? ha.1
  have htm' : t.revoke now ∈ (m.revokeFamily t.session now).tokens :=
    List.mem_map.mpr ⟨t, htm, by simp⟩
  have hsm' : s.revoke now ∈ (m.revokeFamily t.session now).sessions :=
    List.mem_map.mpr ⟨s, hsm, by simp [hid]⟩
  refine ⟨t.revoke now, hm'.tokenByHash?_eq_some.mpr ⟨htm', hhash⟩, ?_, fun u hu hsession => ?_⟩
  · exact ⟨_, hm'.orderly.session?_eq_some.mpr ⟨hsm', hid⟩, rfl⟩
  · have hrevoked : u.revokedAt.isSome := by
      obtain ⟨v, -, rfl⟩ := List.mem_map.mp hu
      split at hsession
      · rename_i hv
        simp [hv, Token.revoke]
      · rename_i hv
        exact absurd hsession (by simpa [Token.revoke] using hv)
    refine ⟨hrevoked, by simp [Token.isCurrent, Option.isNone_eq_false_iff.mpr hrevoked], ?_⟩
    exact hm'.isCurrentAndValid_of_spent hu (by simp [Token.isSpent, hrevoked])

/-! ## Granted and refused -/

/-- Once the token with a hash is spent, its exchange is refused. -/
theorem Rotated.refused_of_spent {a : Except Error TokenRotation} (hm : m.Sound)
    (hspent : ∀ t ∈ m.tokens, t.hash = presented → t.isSpent = true)
    (h : Rotated m presented id hash now lifetime (a, m')) :
    ∃ e, a = .error e ∧ (e.kind = .replayDetected ∨ e.kind = .sessionRevoked ∨
      (e.kind = .invalidToken ∧ ∀ t ∈ m.tokens, t.hash ≠ presented)) := by
  have hfound : ∀ {t : Token}, m.tokenByHash? presented = some t → t.isSpent ≠ false := by
    intro t ht hf
    obtain ⟨htm, hhash⟩ := hm.tokenByHash?_eq_some.mp ht
    rw [hspent t htm hhash] at hf
    cases hf
  cases h with
  | unknown hn =>
    refine ⟨_, rfl, .inr (.inr ⟨rfl, fun t ht hhash => ?_⟩)⟩
    rw [hm.tokenByHash?_eq_some.mpr ⟨ht, hhash⟩] at hn
    cases hn
  | orphan ht hs =>
    -- the session of a stored token is stored
    obtain ⟨s, hsm, hid⟩ := hm.owned.session _ (hm.tokenByHash?_eq_some.mp ht).1
    rw [hm.orderly.session?_eq_some.mpr ⟨hsm, hid⟩] at hs
    cases hs
  | inactive => exact ⟨_, rfl, .inr (.inl rfl)⟩
  | reused => exact ⟨_, rfl, .inl rfl⟩
  | expired ht _ hu | collision ht _ hu | endless ht _ hu | exchanged ht _ hu =>
    exact absurd hu (hfound ht)

/-- An exchange that is granted leaves the row of the token spent. -/
theorem Rotated.spends {r : TokenRotation} (hm : m.Sound)
    (hf : Operation.Fresh m (.ask (.rotateToken presented id hash now lifetime)))
    (h : Rotated m presented id hash now lifetime (.ok r, m')) :
    (∃ t, m.tokenByHash? presented = some t ∧ t.isSpent = false) ∧
      ∃ u ∈ m'.tokens, u.hash = presented ∧ u.isSpent = true := by
  cases h with
  | @exchanged t s next ht ha hu _ _ hfresh =>
    obtain ⟨htm, hhash⟩ := hm.tokenByHash?_eq_some.mp ht
    refine ⟨⟨t, ht, hu⟩, t.consume now next.id, ?_, hhash, by simp⟩
    refine mem_enter.mpr (.inr ⟨mem_modifyToken.mpr ⟨t, htm, by simp⟩, ?_⟩)
    exact (hf next ⟨_, hfresh⟩).1 t htm

end SessionKeeper.Memory
