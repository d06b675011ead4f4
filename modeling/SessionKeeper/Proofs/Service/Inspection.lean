import SessionKeeper.Proofs.Service.Scene
import SessionKeeper.Proofs.Store.Structure

/-!
# Checking, describing and exchanging agree

A value can be checked, described or exchanged, and each of the three is written as a decision of
its own: a conjunction, a state beside the session's, and a cascade of refusals. In a store that
operations can reach all three come down to one case distinction, the `Verdict` on the value, of
which each operation's answer is a function.
-/

namespace SessionKeeper

/-! ## States -/

theorem Token.stateAt_of_spent {t : Token} (h : t.isSpent = true) (now : Instant) :
    t.stateAt now = .revoked ∨ t.stateAt now = .used := by
  simp only [Token.isSpent, Bool.or_eq_true] at h
  unfold Token.stateAt
  by_cases hr : t.revokedAt.isSome = true
  · exact .inl (if_pos hr)
  · right
    rw [if_neg hr, if_pos]
    simpa [hr] using h

theorem Token.stateAt_of_unspent {t : Token} (h : t.isSpent = false) (now : Instant) :
    t.stateAt now = if t.isExpiredAt now then .expired else .current := by
  simp only [Token.isSpent, Bool.or_eq_false_iff] at h
  simp [Token.stateAt, h]

namespace Service

/-- The hash of the opaque value that is drawn next. -/
def Surroundings.nextHash (s : Surroundings) : Hash :=
  Opaque.hash (opaqueOf (s.draw s.drawn))

/-- The refusal that the description of a token foretells for its exchange. -/
def foretold? : Except Error TokenStatus → Option ErrorKind
  | .error e => some e.kind
  | .ok s =>
    if s.sessionRevoked then some .sessionRevoked
    else match s.state with
      | .used | .revoked => some .replayDetected
      | .expired => some .tokenExpired
      | .current => none

theorem foretold?_eq_none {a : Except Error TokenStatus} :
    foretold? a = none ↔ ∃ s, a = .ok s ∧ s.isUsable = true := by
  cases a with
  | error e => simp [foretold?]
  | ok s =>
    obtain ⟨t, state, sessionRevoked⟩ := s
    cases state <;> cases sessionRevoked <;> simp [foretold?, TokenStatus.isUsable]

/-! ## Verdicts -/

/-- What holds of a presented value at an instant, and with which refusal its exchange meets. -/
inductive Verdict (m : Memory) (value : String) (now : Instant) : Option ErrorKind → Prop where
  | blank (h : Text.allBlank value = true) : Verdict m value now (some .invalidToken)
  | unknown (hb : Text.allBlank value = false)
      (h : m.tokenByHash? (Opaque.hash value) = none) : Verdict m value now (some .invalidToken)
  | inactive {t s} (hb : Text.allBlank value = false)
      (h : m.tokenByHash? (Opaque.hash value) = some t) (hs : m.session? t.session = some s)
      (hr : s.isRevoked = true) : Verdict m value now (some .sessionRevoked)
  | spent {t s} (hb : Text.allBlank value = false)
      (h : m.tokenByHash? (Opaque.hash value) = some t) (hs : m.Active t.session s)
      (hu : t.isSpent = true) : Verdict m value now (some .replayDetected)
  | expired {t s} (hb : Text.allBlank value = false)
      (h : m.tokenByHash? (Opaque.hash value) = some t) (hs : m.Active t.session s)
      (hu : t.isSpent = false) (he : t.isExpiredAt now = true) :
      Verdict m value now (some .tokenExpired)
  | usable {t s} (hb : Text.allBlank value = false)
      (h : m.tokenByHash? (Opaque.hash value) = some t) (hs : m.Active t.session s)
      (hu : t.isSpent = false) (he : t.isExpiredAt now = false) : Verdict m value now none

/-- The store exchanges a value as the verdict on it says, unless the new token is the obstacle: its
hash is taken, or its time would not end. -/
theorem Verdict.of_rotated {m : Memory} {value : String} {id : Uuid} {hash : Hash}
    {now expiresAt : Instant} {lifetime : Span} {out : Memory.Outcome TokenRotation}
    (hm : m.Reached) (hb : Text.allBlank value = false) (hnew : m.hasHash hash = false)
    (hend : now.add? lifetime = some expiresAt)
    (h : Memory.Rotated m (Opaque.hash value) id hash now lifetime out) :
    Verdict m value now (refusal? out.1) := by
  cases h with
  | unknown ht => exact .unknown hb ht
  | orphan ht hs =>
    -- the session of a stored token is stored
    obtain ⟨s, hsm, hid⟩ := hm.owned.session _ (Memory.mem_of_tokenByHash? ht)
    rw [hm.orderly.session?_eq_some.mpr ⟨hsm, hid⟩] at hs
    cases hs
  | inactive ht hs hr => exact .inactive hb ht hs hr
  | reused ht hs hu => exact .spent hb ht hs hu
  | expired ht hs hu he => exact .expired hb ht hs hu he
  | collision _ _ _ _ hh => rw [hnew] at hh; cases hh
  | endless _ _ _ _ _ hf => rw [hend] at hf; cases hf
  | exchanged ht hs hu he => exact .usable hb ht hs hu he

theorem Verdict.ne_collision {m : Memory} {value : String} {now : Instant} {k : Option ErrorKind}
    (h : Verdict m value now k) : k ≠ some .constraintViolation := by
  cases h <;> simp

namespace Scene

variable {w : Scene} {value : String} {k : Option ErrorKind}

/-! ## Checking -/

theorem perform_isCurrentAndValid (w : Scene) (value : String) :
    (w.perform (Tokens.isCurrentAndValid value)).1 =
      .ok (!Text.allBlank value && w.memory.isCurrentAndValid (Opaque.hash value) w.clock) := by
  unfold Tokens.isCurrentAndValid
  cases hb : Text.allBlank value with
  | true => rfl
  | false => rfl

theorem check_of_verdict (h : Verdict w.memory value w.clock k) :
    (w.perform (Tokens.isCurrentAndValid value)).1 = .ok k.isNone := by
  rw [perform_isCurrentAndValid]
  cases h with
  | blank hb => simp [hb]
  | unknown hb ht => simp [hb, Memory.isCurrentAndValid, ht]
  | inactive hb ht hs hr => simp [hb, Memory.isCurrentAndValid, ht, hs, hr]
  | spent hb ht hs hu => simp [hb, Memory.isCurrentAndValid, ht, hu]
  | expired hb ht hs hu he => simp [hb, Memory.isCurrentAndValid, ht, he]
  | usable hb ht hs hu he => simp [hb, Memory.isCurrentAndValid, ht, hs.1, hs.2, hu, he]

/-! ## Describing -/

theorem perform_inspect (w : Scene) (hb : Text.allBlank value = false) :
    (w.perform (Tokens.inspect value)).1 =
      match w.memory.tokenByHash? (Opaque.hash value) with
      | none => .error .unknownToken
      | some t => .ok ⟨t, t.stateAt w.clock,
          (w.memory.session? t.session).all Session.isRevoked⟩ := by
  -- the two look-ups leave the store alone
  have hfind : w.perform (store (.findToken (Opaque.hash value))) =
      (.ok (w.memory.tokenByHash? (Opaque.hash value)), w) := perform_store w _
  unfold Tokens.inspect
  rw [perform_liftExcept_bind, Tokens.presentedHash_of_not_blank hb]
  simp only
  rw [perform_bind_ok hfind, perform_orThrow_bind]
  cases w.memory.tokenByHash? (Opaque.hash value) with
  | none => rfl
  | some t =>
    have hsession : w.perform (store (.findSession t.session)) =
        (.ok (w.memory.session? t.session), w) := perform_store w _
    simp only
    rw [perform_bind_ok hsession]
    rfl

/-- Only a value that is blank or unknown has no description. -/
theorem inspect_error {e : Error} (h : (w.perform (Tokens.inspect value)).1 = .error e) :
    e.kind = .invalidToken := by
  cases hb : Text.allBlank value with
  | true =>
    rw [Tokens.inspect_of_blank hb] at h
    cases h
    rfl
  | false =>
    rw [perform_inspect w hb] at h
    split at h
    · cases h
      rfl
    · cases h

theorem inspect_of_verdict (h : Verdict w.memory value w.clock k) :
    foretold? (w.perform (Tokens.inspect value)).1 = k := by
  cases h with
  | blank hb => rw [Tokens.inspect_of_blank hb]; rfl
  | unknown hb ht => rw [perform_inspect w hb, ht]; rfl
  | inactive hb ht hs hr => rw [perform_inspect w hb, ht]; simp [foretold?, hs, hr]
  | spent hb ht hs hu =>
    rw [perform_inspect w hb, ht]
    rcases Token.stateAt_of_spent hu w.clock with hstate | hstate <;>
      simp [foretold?, hs.1, hs.2, hstate]
  | expired hb ht hs hu he =>
    rw [perform_inspect w hb, ht]
    simp [foretold?, hs.1, hs.2, Token.stateAt_of_unspent hu, he]
  | usable hb ht hs hu he =>
    rw [perform_inspect w hb, ht]
    simp [foretold?, hs.1, hs.2, Token.stateAt_of_unspent hu, he]

/-! ## Exchanging -/

theorem perform_rotateOnce (w : Scene) (presented : Hash) (lifetime : Span) :
    ∃ id f w', w.perform (Tokens.rotateOnce presented lifetime) =
      (.ok ((w.memory.rotateToken presented id w.surroundings.nextHash w.clock lifetime).1.map f),
        w') := ⟨_, _, _, rfl⟩

theorem verdict_of_rotate {settings : TokenSettings} {lifetime : Span} {expiresAt : Instant}
    (hm : w.memory.Reached) (hlife : settings.lifetime = .ok lifetime)
    (hend : w.clock.add? lifetime = some expiresAt)
    (hnew : w.memory.hasHash w.surroundings.nextHash = false) :
    Verdict w.memory value w.clock (refusal? (w.perform (Tokens.rotate settings value)).1) := by
  cases hb : Text.allBlank value with
  | true =>
    -- a blank value is refused before anything is asked
    rw [Tokens.rotate_of_blank settings hb]
    exact .blank hb
  | false =>
    rw [Tokens.rotate_of_lifetime hb hlife]
    obtain ⟨id, f, w', hw⟩ := perform_rotateOnce w (Opaque.hash value) lifetime
    have hx := Verdict.of_rotated hm hb hnew hend
      (Memory.rotateToken_rotated hm.orderly (Opaque.hash value) id _ w.clock lifetime)
    generalize (w.memory.rotateToken (Opaque.hash value) id w.surroundings.nextHash w.clock
      lifetime).1 = a at hw hx
    -- so the first attempt is the only one
    have hne : ∀ e, a.map f = .error e → Tokens.isCollision e = false := by
      intro e he
      cases a with
      | ok r => cases he
      | error e' =>
        cases he
        simpa [Tokens.isCollision, refusal?] using hx.ne_collision
    rw [perform_retrying hw hne]
    cases a <;> exact hx

end Scene

/-- In every store that operations can reach, at every instant and for every presented value, if the
settings allow a new token and its hash is not stored:
the value can be exchanged exactly if the check says so, and exactly if its description exists and
is that of a usable token;
a value without a description is refused as an invalid token;
and the refusal of any other value is foretold by its description: a revoked session comes first,
then a token that has been used or revoked, and last one that has expired. -/
theorem inspection_foretells (settings : TokenSettings) (w : Scene) {lifetime : Span}
    {expiresAt : Instant} (value : String) (hm : w.memory.Reached)
    (hlife : settings.lifetime = .ok lifetime) (hend : w.clock.add? lifetime = some expiresAt)
    (hnew : w.memory.hasHash w.surroundings.nextHash = false) :
    let rotated := (w.perform (Tokens.rotate settings value)).1
    let checked := (w.perform (Tokens.isCurrentAndValid value)).1
    let inspected := (w.perform (Tokens.inspect value)).1
    ((∃ r, rotated = .ok r) ↔ checked = .ok true) ∧
    (checked = .ok true ↔ ∃ s, inspected = .ok s ∧ s.isUsable = true) ∧
    (∀ e, inspected = .error e → e.kind = .invalidToken ∧ refusal? rotated = some .invalidToken) ∧
    (∀ s, inspected = .ok s →
      (s.sessionRevoked = true → refusal? rotated = some .sessionRevoked) ∧
      (s.sessionRevoked = false → (s.state = .used ∨ s.state = .revoked →
        refusal? rotated = some .replayDetected) ∧
        (s.state = .expired → refusal? rotated = some .tokenExpired))) := by
  intro rotated checked inspected
  have hv : Verdict w.memory value w.clock (refusal? rotated) :=
    Scene.verdict_of_rotate hm hlife hend hnew
  have hchecked : checked = .ok (refusal? rotated).isNone := Scene.check_of_verdict hv
  have hforetold : foretold? inspected = refusal? rotated := Scene.inspect_of_verdict hv
  have hgranted : (∃ r, rotated = .ok r) ↔ refusal? rotated = none := by
    cases rotated <;> simp [refusal?]
  refine ⟨?_, ?_, fun e he => ?_, fun s hs => ?_⟩
  · rw [hgranted, hchecked]
    simp
  · rw [← foretold?_eq_none, hforetold, hchecked]
    simp
  · have hkind := Scene.inspect_error he
    refine ⟨hkind, ?_⟩
    rw [← hforetold, he, foretold?, hkind]
  · rw [hs] at hforetold
    rw [← hforetold]
    refine ⟨fun hr => by simp [foretold?, hr], fun hr => ⟨?_, fun hx => ?_⟩⟩
    · rintro (hx | hx) <;> simp [foretold?, hr, hx]
    · simp [foretold?, hr, hx]

/-- A store with a session and its token, which has been exchanged. -/
def exchangedOnce : Memory :=
  Memory.applyAll .empty [.addUser ⟨1⟩, .ask (.createSession (.start ⟨7⟩ ⟨1⟩ none ⟨0, false⟩)),
    .ask (.issueToken ⟨⟨11⟩, ⟨7⟩, Opaque.hash "a", ⟨0, false⟩, ⟨2592000000000000, false⟩, none,
      none, none⟩ .reject ⟨0, false⟩),
    .ask (.rotateToken (Opaque.hash "a") ⟨12⟩ (Opaque.hash "b") ⟨0, false⟩ ⟨2592000000000000⟩)]

/-- This store, and surroundings that stand still. -/
def afterExchange : Scene := ⟨exchangedOnce, { clock := ⟨0, false⟩, draw := fun _ => [] }⟩

/-- The new token can be exchanged, as its check and its description say, and the old one cannot. -/
theorem inspection_foretells_exchange :
    (∃ r, (afterExchange.perform (Tokens.rotate {} "b")).1 = .ok r) ∧
    (∃ s, (afterExchange.perform (Tokens.inspect "b")).1 = .ok s ∧ s.isUsable = true) ∧
    ¬ ∃ r, (afterExchange.perform (Tokens.rotate {} "a")).1 = .ok r := by
  have hm : afterExchange.memory.Reached := ⟨_, rfl⟩
  have hnew : afterExchange.memory.hasHash afterExchange.surroundings.nextHash = false := by
    decide +kernel
  obtain ⟨hexchange, husable, -⟩ :=
    inspection_foretells {} afterExchange "b" hm rfl rfl hnew
  obtain ⟨hold, -⟩ :=
    inspection_foretells {} afterExchange "a" hm rfl rfl hnew
  have hb : (afterExchange.perform (Tokens.isCurrentAndValid "b")).1 = .ok true := by
    rw [Scene.perform_isCurrentAndValid]
    refine congrArg Except.ok ?_
    decide +kernel
  have ha : (afterExchange.perform (Tokens.isCurrentAndValid "a")).1 = .ok false := by
    rw [Scene.perform_isCurrentAndValid]
    refine congrArg Except.ok ?_
    decide +kernel
  refine ⟨hexchange.mpr hb, husable.mp hb, fun h => ?_⟩
  rw [hold, ha] at h
  cases h

end Service

end SessionKeeper
