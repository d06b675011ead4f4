import SessionKeeper.Proofs.Store.Reuse
import SessionKeeper.Proofs.Store.Sessions

/-!
# Why a row is there, and why it is spent

`Effect` says what a request does to the store. Here the answer of the store is kept beside it: a
row that was not there before is one that a granted request has entered (`row_cause`), and a row
that an operation leaves spent has been exchanged, revoked or superseded by a granted request, or
its session has been revoked (`spent_cause`). A refusal spends no row of a session that stays
active.
-/

namespace SessionKeeper.Memory

variable {m : Memory}

/-! ## Granted requests -/

/-- If the issue of a token is granted, its session is active and the row is entered as it is. -/
theorem issueToken_granted (h : m.Orderly) {t : Token} {policy : IssuePolicy} {now : Instant}
    {i : TokenIssue} (hok : (m.issueToken t policy now).1 = .ok i) :
    i.token = t ∧ t ∈ (m.issueToken t policy now).2.tokens ∧ ∃ s, m.Active t.session s := by
  have hi := issueToken_issued h t policy now
  generalize m.issueToken t policy now = out at hi hok
  cases hi with
  | orphan | inactive | collision | occupied => cases hok
  | first ha =>
    cases hok
    exact ⟨rfl, mem_enter.mpr (.inl rfl), _, ha⟩
  | superseding ha =>
    cases hok
    exact ⟨rfl, mem_enter.mpr (.inl rfl), _, ha⟩

/-- If an exchange is granted, the presented token is unspent and unexpired and its session active,
and a fresh row is entered. -/
theorem rotateToken_granted (h : m.Orderly) {presented : Hash} {id : Uuid} {hash : Hash}
    {now : Instant} {lifetime : Span} {x : TokenRotation}
    (hok : (m.rotateToken presented id hash now lifetime).1 = .ok x) :
    ∃ t s, m.tokenByHash? presented = some t ∧ m.Active t.session s ∧ t.isSpent = false ∧
      t.isExpiredAt now = false ∧ Token.fresh id t.session hash now lifetime = .ok x.replacement ∧
      x.replacement ∈ (m.rotateToken presented id hash now lifetime).2.tokens := by
  have hx := rotateToken_rotated h presented id hash now lifetime
  generalize m.rotateToken presented id hash now lifetime = out at hx hok
  cases hx with
  | unknown | orphan | inactive | reused | expired | collision | endless => cases hok
  | exchanged ht ha hu he _ hf =>
    cases hok
    exact ⟨_, _, ht, ha, hu, he, hf, mem_enter.mpr (.inl rfl)⟩

/-! ## Why a row is there -/

/-- A request that has been granted has entered the row. -/
inductive EnteredBy (u : Token) : (r : Store.Request) → Except Error r.Reply → Prop where
  | issued {policy now} {superseded : Option Uuid} :
      EnteredBy u (.issueToken u policy now) (Except.ok (TokenIssue.mk u superseded))
  | exchanged {presented id hash now lifetime} {x : TokenRotation} (hx : x.replacement = u) :
      EnteredBy u (.rotateToken presented id hash now lifetime) (Except.ok x)

theorem Orderly.row_cause (h : m.Orderly) (r : Store.Request) {u : Token}
    (hu : u ∈ (m.answer r).2.tokens) :
    (∃ t ∈ m.tokens, t.Ages u) ∨ EnteredBy u r (m.answer r).1 := by
  have hbefore := (h.apply_effect (.ask r)).token_before h hu
  cases r with
  | issueToken t policy now =>
    have hi := issueToken_issued h t policy now
    rcases hbefore with hold | rfl
    · exact .inl hold
    · simp only [answer] at hu ⊢
      generalize m.issueToken u policy now = out at hi hu
      cases hi with
      | orphan | inactive | collision | occupied => exact .inl ⟨u, hu, .refl u⟩
      | first | superseding => exact .inr .issued
  | rotateToken presented id hash now lifetime =>
    have hx := rotateToken_rotated h presented id hash now lifetime
    simp only [answer] at hu ⊢
    generalize m.rotateToken presented id hash now lifetime = out at hx hu
    cases hx with
    | unknown | orphan | inactive | expired | collision | endless =>
      exact .inl ⟨u, hu, .refl u⟩
    | reused =>
      obtain ⟨t, ht, rfl⟩ := List.mem_map.mp hu
      exact .inl ⟨t, ht, .ite fun _ => Token.ages_revoke t _⟩
    | exchanged hp _ hun _ _ hf =>
      rcases mem_enter.mp hu with rfl | ⟨hu, -⟩
      · exact .inr (.exchanged rfl)
      · obtain ⟨t, ht, rfl⟩ := mem_modifyToken.mp hu
        refine .inl ⟨t, ht, .ite fun he => ?_⟩
        rw [h.token_eq ht (mem_of_tokenByHash? hp) he]
        exact Token.ages_consume hun _ _
  | _ =>
    rcases hbefore with hold | henters
    · exact .inl hold
    · cases henters

/-! ## Why a row is spent -/

/-- The request has been granted and has used up or revoked the row, or the row's session has been
revoked with it. -/
inductive SpentBy (m' : Memory) (m : Memory) (t : Token) :
    (r : Store.Request) → Except Error r.Reply → Prop where
  | exchanged {presented id hash now lifetime} {x : TokenRotation}
      (h : m.tokenByHash? presented = some t) :
      SpentBy m' m t (.rotateToken presented id hash now lifetime) (Except.ok x)
  | revoked {hash now} {u : Token} (h : m.tokenByHash? hash = some t) :
      SpentBy m' m t (.revokeToken hash now) (Except.ok u)
  | superseded {v now} (hs : v.session = t.session) :
      SpentBy m' m t (.issueToken v .supersede now) (Except.ok (TokenIssue.mk v (some t.id)))
  | closed {r a} (h : m'.Revoked t.session) : SpentBy m' m t r a

theorem Orderly.spent_cause (h : m.Orderly) {r : Store.Request} (hf : Operation.Fresh m (.ask r))
    {t u : Token} (ht : t ∈ m.tokens) (hu : u ∈ (m.answer r).2.tokens) (hid : u.id = t.id)
    (hunspent : t.isSpent = false) (hspent : u.isSpent = true) :
    SpentBy (m.answer r).2 m t r (m.answer r).1 := by
  -- the row afterwards is neither the one before nor a new one
  have hchanged : u ∉ m.tokens := by
    intro hum
    rw [h.token_eq hum ht hid, hunspent] at hspent
    cases hspent
  have hold : ∀ v, (Operation.ask r).Enters v → u ≠ v := by
    rintro v hv rfl
    exact (hf u hv).1 t ht hid.symm
  have e : Effect m (.ask r) (m.answer r).2 := h.apply_effect (.ask r)
  cases r with
  | issueToken v policy now =>
    have hi := issueToken_issued h v policy now
    simp only [answer] at hu ⊢
    generalize m.issueToken v policy now = out at hi hu
    cases hi with
    | orphan | inactive | collision | occupied => exact absurd hu hchanged
    | first =>
      rcases mem_enter.mp hu with hv | ⟨hu, -⟩
      · exact absurd hv (hold v rfl)
      · exact absurd hu hchanged
    | superseding _ _ hc =>
      obtain ⟨hcm, hcs, -⟩ := mem_of_currentOf? hc
      rcases mem_enter.mp hu with hv | ⟨hu, -⟩
      · exact absurd hv (hold v rfl)
      · obtain ⟨w, hw, rfl⟩ := mem_modifyToken.mp hu
        split at hid
        · rename_i hwc
          rw [h.token_eq hcm ht (hwc.symm.trans hid)] at hcs ⊢
          exact .superseded hcs.symm
        · rename_i hwc
          rw [if_neg hwc] at hchanged
          exact absurd hw hchanged
  | rotateToken presented id hash now lifetime =>
    have hx := rotateToken_rotated h presented id hash now lifetime
    simp only [answer] at hu ⊢
    generalize m.rotateToken presented id hash now lifetime = out at hx hu
    cases hx with
    | unknown | orphan | inactive | expired | collision | endless => exact absurd hu hchanged
    | @reused x s _ ha =>
      obtain ⟨w, hw, rfl⟩ := List.mem_map.mp hu
      split at hid
      · rename_i hsession
        rw [← h.token_eq hw ht hid]
        obtain ⟨hs, hsid⟩ := mem_of_session? ha.1
        refine .closed ⟨s.revoke now, List.mem_map.mpr ⟨s, hs, by simp [hsid]⟩, ?_, rfl⟩
        exact hsid.trans (by simpa using hsession : w.session = x.session).symm
      · rename_i hsession
        rw [if_neg hsession] at hchanged
        exact absurd hw hchanged
    | @exchanged x s next hp _ _ _ _ hfresh =>
      rcases mem_enter.mp hu with hv | ⟨hu, -⟩
      · exact absurd hv (hold next ⟨_, hfresh⟩)
      · obtain ⟨w, hw, rfl⟩ := mem_modifyToken.mp hu
        split at hid
        · rw [h.token_eq (mem_of_tokenByHash? hp) ht hid] at hp
          exact .exchanged hp
        · rename_i hwx
          rw [if_neg hwx] at hchanged
          exact absurd hw hchanged
  | revokeToken hash now =>
    simp only [answer, revokeToken] at hu ⊢
    cases hx : m.tokenByHash? hash with
    | none => rw [hx] at hu; exact absurd hu hchanged
    | some x =>
      simp only [hx] at hu ⊢
      obtain ⟨w, hw, rfl⟩ := mem_modifyToken.mp hu
      split at hid
      · rename_i hwx
        rw [h.token_eq (mem_of_tokenByHash? hx) ht (hwx.symm.trans hid)] at hx
        exact .revoked hx
      · rename_i hwx
        rw [if_neg hwx] at hchanged
        exact absurd hw hchanged
  | purgeExpired => exact absurd (mem_dropTokens.mp hu).1 hchanged
  | _ =>
    -- no other request touches a row of a token
    generalize (m.answer _).2 = m' at e hu
    cases e <;> exact absurd hu hchanged

/-! ## Why an exchange is refused -/

/-- A token that is said to be reused is spent and its session active. -/
theorem Rotated.spent {m' : Memory} {presented hash : Hash} {id : Uuid} {now : Instant}
    {lifetime : Span} {e : Error}
    (h : Rotated m presented id hash now lifetime (.error e, m')) (hk : e.kind = .replayDetected) :
    ∃ t s, m.tokenByHash? presented = some t ∧ m.Active t.session s ∧ t.isSpent = true := by
  cases h with
  | reused ht hs hu => exact ⟨_, _, ht, hs, hu⟩
  | unknown | orphan | inactive | expired | collision | endless => cases hk

/-- A token that is said to be expired is so at the instant of the request. -/
theorem Rotated.expired_at {m' : Memory} {presented hash : Hash} {id : Uuid} {now : Instant}
    {lifetime : Span} {e : Error}
    (h : Rotated m presented id hash now lifetime (.error e, m')) (hk : e.kind = .tokenExpired) :
    ∃ t, m.tokenByHash? presented = some t ∧ t.isExpiredAt now = true := by
  cases h with
  | expired ht _ _ he => exact ⟨_, ht, he⟩
  | unknown | orphan | inactive | reused | collision | endless => cases hk

/-- A token that is said to be unknown is not stored. -/
theorem Rotated.not_stored {m' : Memory} {presented hash : Hash} {id : Uuid} {now : Instant}
    {lifetime : Span} {e : Error}
    (h : Rotated m presented id hash now lifetime (.error e, m')) (hk : e.kind = .invalidToken) :
    m.tokenByHash? presented = none := by
  cases h with
  | unknown ht => exact ht
  | orphan | inactive | reused | expired | collision | endless => cases hk

end SessionKeeper.Memory
