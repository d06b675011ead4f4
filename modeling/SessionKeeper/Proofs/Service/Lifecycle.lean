import SessionKeeper.Proofs.Service.Finality
import SessionKeeper.Proofs.Service.Trimming

/-!
# The states of a token

What a token is at an instant is read off its marks and the clock. Time alone makes a current token
expired and nothing else (`Token.stateAt_stays`), so a state that is called terminal can only be
left by a mark. The four kinds of marks (`Memory.Marks`) look at the state of the row in different
ways: an exchange only at what it was when the call read the clock, a supersession at whether the row
is current whatever the clock says, and a revocation at nothing. So revoked is the one state that a
token stays in for good, and `Memory.Leaves` lists the ways out of the two others.
-/

namespace SessionKeeper

namespace Token

variable {t : Token} {now later : Instant}

/-! ## States and marks -/

theorem stateAt_of_revoked (h : t.revokedAt.isSome = true) : t.stateAt now = .revoked :=
  if_pos h

@[simp] theorem stateAt_revoke (at_ : Instant) : (t.revoke at_).stateAt now = .revoked :=
  stateAt_of_revoked rfl

/-- What a spent token is does not depend on the clock. -/
theorem stateAt_eq_of_spent (h : t.isSpent = true) (now later : Instant) :
    t.stateAt later = t.stateAt now := by
  unfold stateAt
  split
  · rfl
  · rename_i hrevoked
    have hused : (t.usedAt.isSome || t.replacedBy.isSome) = true := by
      simpa [isSpent, hrevoked] using h
    rw [if_pos hused, if_pos hused]

theorem stateAt_consume (h : t.isSpent = false) (at_ : Instant) (next : Uuid) :
    (t.consume at_ next).stateAt now = .used := by
  simp only [isSpent, Bool.or_eq_false_iff] at h
  simp [stateAt, consume, h]

/-- An unspent token whose state is terminal is expired. -/
theorem stateAt_eq_expired (hu : t.isSpent = false) (h : (t.stateAt now).isTerminal = true) :
    t.stateAt now = .expired := by
  rw [stateAt_of_unspent hu] at h ⊢
  split
  · rfl
  · rename_i he
    rw [if_neg he] at h
    cases h

/-- As time goes on a token that is not marked stays in a terminal state. -/
theorem stateAt_stays (h : (t.stateAt now).isTerminal = true) (hle : now ≤ later) :
    t.stateAt later = t.stateAt now := by
  cases hu : t.isSpent with
  | true => exact stateAt_eq_of_spent hu now later
  | false =>
    rw [stateAt_eq_expired hu h, stateAt_of_unspent hu, if_pos]
    rw [stateAt_of_unspent hu] at h
    cases he : t.isExpiredAt now with
    | true => exact isExpiredAt_mono hle he
    | false =>
      rw [he] at h
      cases h

end Token

namespace Memory

variable {m m' : Memory} {t u : Token} {r : Store.Request} {now later : Instant}

/-! ## The ways out of a terminal state -/

/-- The request takes the token from one state to another, although the first is called terminal. -/
inductive Leaves (m : Memory) (t : Token) : TokenState → Store.Request → TokenState → Prop where
  /-- Whoever presents a used or expired token can revoke it. -/
  | revoked {state hash now} (h : m.tokenByHash? hash = some t)
      (hs : state = .used ∨ state = .expired) :
      Leaves m t state (.revokeToken hash now) .revoked
  /-- The reuse of a token revokes every used or expired token of its session, this one included. -/
  | reused {state presented id hash now lifetime x s} (h : m.tokenByHash? presented = some x)
      (ha : m.Active x.session s) (hu : x.isSpent = true) (hx : t.session = x.session)
      (hs : state = .used ∨ state = .expired) :
      Leaves m t state (.rotateToken presented id hash now lifetime) .revoked
  /-- An expired token that has not been replaced is superseded. -/
  | superseded {next now s} (ha : m.Active next.session s)
      (hc : m.currentOf? next.session = some t) :
      Leaves m t .expired (.issueToken next .supersede now) .revoked
  /-- A call that has read the clock before the token expired exchanges it afterwards. -/
  | exchanged {presented id hash now lifetime s} (h : m.tokenByHash? presented = some t)
      (ha : m.Active t.session s) (hu : t.isSpent = false) (he : now < t.expiresAt) :
      Leaves m t .expired (.rotateToken presented id hash now lifetime) .used

/-- Nothing leads out of being revoked, and nothing leads back to being current. -/
theorem Leaves.states {state state' : TokenState} (h : m.Leaves t state r state') :
    state ≠ .revoked ∧ state'.isTerminal = true := by
  cases h with
  | revoked _ hs | reused _ _ _ _ hs => exact ⟨by rcases hs with rfl | rfl <;> decide, rfl⟩
  | superseded | exchanged => exact ⟨by decide, rfl⟩

/-- Tokens are used exactly if they have been replaced. -/
def Paired (m : Memory) : Prop := ∀ t ∈ m.tokens, t.usedAt.isSome = t.replacedBy.isSome

theorem Marks.leaves (h : m.Marks t r u) (hpaired : t.usedAt.isSome = t.replacedBy.isSome)
    (hterminal : (t.stateAt now).isTerminal = true) :
    u.stateAt later = t.stateAt now ∨ m.Leaves t (t.stateAt now) r (u.stateAt later) := by
  have hrevocable : t.stateAt now = .revoked ∨ t.stateAt now = .used ∨ t.stateAt now = .expired := by
    cases hstate : t.stateAt now with
    | current =>
      rw [hstate] at hterminal
      cases hterminal
    | used => exact .inr (.inl rfl)
    | revoked => exact .inl rfl
    | expired => exact .inr (.inr rfl)
  cases h with
  | revoked h =>
    rw [Token.stateAt_revoke]
    exact hrevocable.imp Eq.symm fun hs => .revoked h hs
  | reused h ha hu hx =>
    rw [Token.stateAt_revoke]
    exact hrevocable.imp Eq.symm fun hs => .reused h ha hu hx hs
  | superseded ha hc =>
    obtain ⟨-, -, hcurrent⟩ := mem_of_currentOf? hc
    simp only [Token.isCurrent, Bool.and_eq_true, Option.isNone_iff_eq_none] at hcurrent
    have hunspent : t.isSpent = false := by
      simp [Token.isSpent, hpaired, hcurrent.1, hcurrent.2]
    rw [Token.stateAt_eq_expired hunspent hterminal, Token.stateAt_of_revoked rfl]
    exact .inr (.superseded ha hc)
  | exchanged h ha hu he =>
    rw [Token.stateAt_eq_expired hu hterminal, Token.stateAt_consume hu]
    refine .inr (.exchanged h ha hu ?_)
    simpa [Token.isExpiredAt, Instant.le_def, Instant.lt_def] using he

/-! ## Used and replaced -/

theorem Marks.paired (h : m.Marks t r u) (ht : t.usedAt.isSome = t.replacedBy.isSome) :
    u.usedAt.isSome = u.replacedBy.isSome := by
  cases h with
  | revoked | superseded | reused => exact ht
  | exchanged => rfl

theorem Paired.effect {o : Operation} (h : m.Paired) (ho : m.Orderly)
    (hnew : ∀ u, o.Enters u → u.isSpent = false) (e : Effect m o m') : m'.Paired := by
  intro u hu
  rcases e.row_origin ho hu with hu | ⟨t, ht, r, -, hmarks⟩ | ⟨hentered, -⟩
  · exact h u hu
  · exact hmarks.paired (h t ht)
  · have hunspent := hnew u hentered
    simp only [Token.isSpent, Bool.or_eq_false_iff] at hunspent
    rw [hunspent.1.1, hunspent.2]

end Memory

namespace Service.System

variable {settings : Settings} {σ σ' : System} {ev : Event} {t u : Token}

theorem paired_runUnder (fresh : Mark → Bool) (settings : Settings) (start : Instant)
    (es : List Event) : (runUnder fresh settings start es).memory.Paired := by
  suffices h : (runUnder fresh settings start es).memory.Paired ∧
      (runUnder fresh settings start es).memory.Orderly ∧
      (runUnder fresh settings start es).CustodyOf fresh from h.1
  refine runUnder_invariant
    (I := fun σ => σ.memory.Paired ∧ σ.memory.Orderly ∧ σ.CustodyOf fresh) ?_ ?_ ?_ es
  · exact ⟨by simp [Memory.Paired, Memory.empty], Memory.orderly_empty, by simp, by simp, by simp,
      by simp [Memory.empty]⟩
  · exact fun h => ⟨h.1, h.2.1, h.2.2.forget⟩
  · rintro σ σ' ev ⟨hpaired, ho, hcustody⟩ hs
    refine ⟨?_, hs.orderly ho, hcustody.step ho hs⟩
    rcases hs.memory with hm | ⟨o, hp, hm⟩
    · exact hm ▸ hpaired
    · rw [hm]
      -- whatever a call enters is unspent
      refine hpaired.effect ho (fun u hu => ?_) (ho.apply_effect o)
      obtain ⟨-, -, -, hunspent⟩ := hcustody.held_of_enters hp hu
      exact hunspent

/-! ## Steps -/

theorem Puts.asks {r : Store.Request} (hp : σ.Puts ev (.ask r)) :
    ∃ i id value, ev = .go i id value ∧ σ.Asks i (.inl r) := by
  cases ev with
  | setClock | call => cases hp
  | addUser user | removeUser user => cases hp
  | go i id value =>
    obtain ⟨r', hasks, hr⟩ := hp
    cases hr
    exact ⟨i, id, value, rfl, hasks⟩

/-- A step that leaves a token stored leaves its terminal state as it is, or it is the step of a
call that puts a request of the list to the store. -/
theorem Step.leaves (h : Step settings σ ev σ') (htidy : σ.memory.Tidy) (hpaired : σ.memory.Paired)
    (hclock : σ.clock ≤ σ'.clock) (ht : t ∈ σ.memory.tokens) (hu : u ∈ σ'.memory.tokens)
    (hid : u.id = t.id) (hhash : u.hash = t.hash) (hterminal : (t.stateAt σ.clock).isTerminal = true) :
    u.stateAt σ'.clock = t.stateAt σ.clock ∨
      ∃ i id value r, ev = .go i id value ∧ σ.Asks i (.inl r) ∧
        σ.memory.Leaves t (t.stateAt σ.clock) r (u.stateAt σ'.clock) := by
  have hsame : u ∈ σ.memory.tokens → u.stateAt σ'.clock = t.stateAt σ.clock := by
    intro hu
    rw [htidy.orderly.token_eq hu ht hid]
    exact Token.stateAt_stays hterminal hclock
  rcases h.memory with hm | ⟨o, hp, hm⟩
  · exact .inl (hsame (hm ▸ hu))
  · rcases (htidy.orderly.apply_effect o).row_origin htidy.orderly (hm ▸ hu) with
      hu | ⟨v, hv, r, rfl, hmarks⟩ | ⟨-, hnew⟩
    · exact .inl (hsame hu)
    · obtain rfl := htidy.orderly.token_eq hv ht (hmarks.ages.id.symm.trans hid)
      obtain ⟨i, id, value, rfl, hasks⟩ := hp.asks
      refine (hmarks.leaves (hpaired v hv) hterminal).imp_right fun hleaves => ?_
      exact ⟨i, id, value, r, rfl, hasks, hleaves⟩
    · -- the hash of a row that is entered has led nowhere before
      rw [Memory.hasHash, hhash, htidy.findable t ht] at hnew
      cases hnew

/-- In every run, whichever draws are repeated in it, and for every event that does not set the
clock back: a token that is revoked stays revoked as long as it is stored, and one that is used or
expired does not become current again. But it does not always stay what it was: a used or expired
token is revoked when somebody revokes it or presents a spent token of its session, an expired one
also when it is superseded, and it is used up by a call that has read the clock before the token
expired. There is no other way out of these states. -/
theorem terminal_states_kept (fresh : Mark → Bool) (settings : Settings) (start : Instant)
    (es : List Event) (ev : Event) :
    let σ := runUnder fresh settings start es
    let σ' := runUnder fresh settings start (es ++ [ev])
    ∀ t ∈ σ.memory.tokens, ∀ u ∈ σ'.memory.tokens, u.id = t.id → u.hash = t.hash →
      σ.clock ≤ σ'.clock → (t.stateAt σ.clock).isTerminal = true →
      (u.stateAt σ'.clock).isTerminal = true ∧
      (t.stateAt σ.clock = .revoked → u.stateAt σ'.clock = .revoked) ∧
      (u.stateAt σ'.clock = t.stateAt σ.clock ∨
        ∃ i id value r, ev = .go i id value ∧ σ.Asks i (.inl r) ∧
          σ.memory.Leaves t (t.stateAt σ.clock) r (u.stateAt σ'.clock)) := by
  intro σ σ' t ht u hu hid hhash hclock hterminal
  have hs : Step settings (σ.forget fresh) ev σ' := by
    have hstep := step_step settings (σ.forget fresh) ev
    rwa [← runUnder_concat] at hstep
  have hleaves := hs.leaves (tidy_runUnder fresh settings start es)
    (paired_runUnder fresh settings start es) hclock ht hu hid hhash hterminal
  rcases hleaves with hsame | hleft
  · exact ⟨hsame ▸ hterminal, fun hrevoked => hsame.trans hrevoked, .inl hsame⟩
  · obtain ⟨_, _, _, _, _, _, hstates⟩ := id hleft
    exact ⟨hstates.states.2, fun hrevoked => absurd hrevoked hstates.states.1, .inr hleft⟩

/-- A token is exchanged, and a call that revokes it has read the clock. -/
def aboutToRevoke : List Event := exchange ++ [.call (.revokeToken "a"), .go 3 ⟨0⟩ ""]

/-- At the next request of the call the used token is revoked. -/
theorem terminal_states_kept_revoked :
    let σ := runUnder (fun _ => true) { database := { url := "" } } ⟨0, false⟩ aboutToRevoke
    let σ' := runUnder (fun _ => true) { database := { url := "" } } ⟨0, false⟩
      (aboutToRevoke ++ [.go 3 ⟨0⟩ ""])
    ∃ t ∈ σ.memory.tokens, ∃ u ∈ σ'.memory.tokens, u.id = t.id ∧
      t.stateAt σ.clock = .used ∧ u.stateAt σ'.clock = .revoked ∧
      ∃ i r, σ.Asks i (.inl r) ∧ σ.memory.Leaves t .used r .revoked := by
  intro σ σ'
  have hrows : ∃ t ∈ σ.memory.tokens, ∃ u ∈ σ'.memory.tokens, u.id = t.id ∧ u.hash = t.hash ∧
      t.stateAt σ.clock = .used ∧ u.stateAt σ'.clock = .revoked := by decide +kernel
  have hclock : σ.clock ≤ σ'.clock := by decide +kernel
  obtain ⟨t, ht, u, hu, hid, hhash, hused, hrevoked⟩ := hrows
  have hkept := (terminal_states_kept (fun _ => true) { database := { url := "" } } ⟨0, false⟩
    aboutToRevoke (.go 3 ⟨0⟩ "") t ht u hu hid hhash hclock (by rw [hused]; rfl)).2.2
  rw [hused, hrevoked] at hkept
  rcases hkept with hsame | ⟨i, id, value, r, -, hasks, hleaves⟩
  · cases hsame
  · exact ⟨t, ht, u, hu, hid, hused, hrevoked, i, r, hasks, hleaves⟩

/-- So it is not true that a token stays in every state that is called terminal, even if all draws
are new and the clock is never set back. -/
theorem terminal_states_left :
    ¬ ∀ (settings : Settings) (start : Instant) (es : List Event) (ev : Event),
      Forward settings start (es ++ [ev]) →
      ∀ t ∈ (run settings start es).memory.tokens,
        ∀ u ∈ (run settings start (es ++ [ev])).memory.tokens, u.id = t.id →
          (t.stateAt (run settings start es).clock).isTerminal = true →
          u.stateAt (run settings start (es ++ [ev])).clock =
            t.stateAt (run settings start es).clock := by
  intro hclaim
  have hclock : Forward { database := { url := "" } } ⟨0, false⟩
      (aboutToRevoke ++ [.go 3 ⟨0⟩ ""]) := by
    rw [← List.nil_append (aboutToRevoke ++ _)]
    exact (forward_nil _ _).append_still _ (by simp [aboutToRevoke, exchange])
  have hkept := hclaim _ _ _ _ hclock
  revert hkept
  decide +kernel

end Service.System

end SessionKeeper
