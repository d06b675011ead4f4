import SessionKeeper.Proofs.Instant
import SessionKeeper.Proofs.Service.Budget
import SessionKeeper.Proofs.Service.Handover
import SessionKeeper.Proofs.Service.Unobserved
import SessionKeeper.Proofs.Store.Causes

/-!
# Lifetimes and retention

Whole numbers of seconds and hours from the settings, and any span from a caller, become instants:
the end of a token, and the instant before which tokens have to be expired to be deleted. Either the
exact sum or difference is written or used, or it is no instant of the calendar and the operation is
refused. A lifetime is looked at before the store is asked when a token is issued, but after all
other checks when one is exchanged (`Memory.Rotated`). Attempts that collide come to what the last
one of them does, and it finds the store as it was at first.
-/

namespace SessionKeeper

/-! ## Spans -/

theorem Span.inRange_of_le {s : Span} (h : -Span.limit ≤ s.nanos) (h' : s.nanos ≤ Span.limit) :
    s.inRange = true := by
  simp [inRange, h, h']

/-- The settings allow a lifetime of so many seconds. -/
def TokenSettings.Allows (s : TokenSettings) : Prop :=
  1 ≤ s.lifetimeSeconds ∧ s.lifetimeSeconds ≤ TokenSettings.maxLifetimeSeconds

theorem TokenSettings.lifetime_of_allows {s : TokenSettings} (h : s.Allows) :
    s.lifetime = .ok (.ofSeconds s.lifetimeSeconds) := if_pos h

theorem TokenSettings.lifetime_of_not_allows {s : TokenSettings} (h : ¬ s.Allows) :
    ∃ e, s.lifetime = .error e ∧ e.kind = .configuration := ⟨_, if_neg h, rfl⟩

/-- What the settings allow as a lifetime is a span, and longer than nothing. -/
theorem TokenSettings.inRange_of_allows {s : TokenSettings} (h : s.Allows) :
    (Span.ofSeconds s.lifetimeSeconds).inRange = true ∧
      0 < (Span.ofSeconds s.lifetimeSeconds).nanos := by
  obtain ⟨hone, hmax⟩ := h
  simp only [TokenSettings.maxLifetimeSeconds] at hmax
  have hnanos : (Span.ofSeconds s.lifetimeSeconds).nanos = s.lifetimeSeconds * 1000000000 := rfl
  have hlimit : Span.limit = 9223372036854775807000000 := rfl
  exact ⟨Span.inRange_of_le (by omega) (by omega), by omega⟩

/-- The settings allow tokens to be kept for so many hours. -/
def CleanupSettings.Allows (s : CleanupSettings) : Prop :=
  0 ≤ s.retentionHours ∧ s.retentionHours ≤ CleanupSettings.maxRetentionHours

theorem CleanupSettings.retention_of_allows {s : CleanupSettings} (h : s.Allows) :
    s.retention = .ok (.ofHours s.retentionHours) := if_pos h

theorem CleanupSettings.retention_of_not_allows {s : CleanupSettings} (h : ¬ s.Allows) :
    ∃ e, s.retention = .error e ∧ e.kind = .configuration := ⟨_, if_neg h, rfl⟩

theorem CleanupSettings.inRange_of_allows {s : CleanupSettings} (h : s.Allows) :
    (Span.ofHours s.retentionHours).inRange = true := by
  obtain ⟨hzero, hmax⟩ := h
  simp only [CleanupSettings.maxRetentionHours] at hmax
  have hnanos : (Span.ofHours s.retentionHours).nanos = s.retentionHours * 3600000000000 := rfl
  have hlimit : Span.limit = 9223372036854775807000000 := rfl
  exact Span.inRange_of_le (by omega) (by omega)

/-! ## Rows with a lifetime -/

/-- The token lives from an instant on for exactly the lifetime, which is longer than nothing, and
its end is an instant of the calendar. -/
structure Token.LivesFor (t : Token) (now : Instant) (lifetime : Span) : Prop where
  issued : t.issuedAt = now
  positive : 0 < lifetime.nanos
  ends : t.expiresAt = now.plus lifetime
  span : now.spanTo t.expiresAt = lifetime
  reached : t.expiresAt.OnCalendar

theorem Token.onCalendar_of_fresh {id session : Uuid} {hash : Hash} {now : Instant}
    {lifetime : Span} {t : Token} (h : Token.fresh id session hash now lifetime = .ok t) :
    (now.plus lifetime).OnCalendar := by
  obtain ⟨expiresAt, hend, -⟩ := Token.fresh_eq_ok h
  obtain ⟨rfl, -⟩ := Instant.add?_eq_some.mp hend
  exact Instant.onCalendar_of_add? hend

theorem Token.livesFor_of_fresh {id session : Uuid} {hash : Hash} {now : Instant} {lifetime : Span}
    {t : Token} (h : Token.fresh id session hash now lifetime = .ok t)
    (hpositive : 0 < lifetime.nanos) : t.LivesFor now lifetime := by
  have hcalendar := Token.onCalendar_of_fresh h
  obtain ⟨expiresAt, hend, rfl⟩ := Token.fresh_eq_ok h
  obtain ⟨rfl, -⟩ := Instant.add?_eq_some.mp hend
  exact ⟨rfl, hpositive, rfl, now.spanTo_plus lifetime, hcalendar⟩

namespace Memory

variable {m m' : Memory} {now : Instant} {lifetime : Span}

/-- Every row has been there before, with the same issue and end, or is written for the lifetime. -/
def WritesFor (m m' : Memory) (now : Instant) (lifetime : Span) : Prop :=
  ∀ u ∈ m'.tokens, (∃ t ∈ m.tokens, t.Ages u) ∨ u.LivesFor now lifetime

theorem WritesFor.refl (m : Memory) (now : Instant) (lifetime : Span) :
    m.WritesFor m now lifetime := fun u hu => .inl ⟨u, hu, .refl u⟩

/-- The store does not say that what it is to enter is invalid. -/
theorem Issued.kind_ne_validation {t : Token} {policy : IssuePolicy} {e : Error}
    (h : Issued m t policy now (.error e, m')) : e.kind ≠ .validation := by
  cases h with
  | orphan | inactive | collision | occupied => exact nofun

/-- An exchange is only said to be invalid if the next token could not end. -/
theorem Rotated.endless_of_validation {presented hash : Hash} {id : Uuid} {e : Error}
    (h : Rotated m presented id hash now lifetime (.error e, m')) (hkind : e.kind = .validation) :
    now.add? lifetime = none := by
  cases h with
  | endless _ _ _ _ _ hf => exact hf
  | unknown | orphan | inactive | reused | expired | collision => cases hkind

theorem Orderly.writesFor (ho : m.Orderly) {r : Store.Request} {a : Except Error r.Reply}
    (hanswer : m.answer r = (a, m'))
    (h : ∀ u, (Operation.ask r).Enters u → u.LivesFor now lifetime) :
    m.WritesFor m' now lifetime := by
  have happly : m.apply (.ask r) = m' := congrArg Prod.snd hanswer
  rw [← happly]
  exact fun u hu => ((ho.apply_effect _).token_before ho hu).imp_right (h u)

end Memory

namespace Service.Scene

open Memory

variable {w : Scene} {session : Uuid} {lifetime : Span} {settings : TokenSettings} {value : String}

/-! ## Issuing -/

/-- What issuing a token comes to, the last attempt of which has made the `n`th draw. -/
inductive IssueAttempt (w : Scene) (policy : IssuePolicy) (session : Uuid) (lifetime : Span)
    (n : Nat) : Except Error HandedToken → Memory → Prop where
  | endless (h : w.clock.add? lifetime = none) :
      IssueAttempt w policy session lifetime n (.error Token.lifetimeOutOfRange) w.memory
  | asked {t i m'}
      (hf : Token.fresh (Surroundings.idOf (w.surroundings.draw (n + 1))) session
        (Opaque.hash (Surroundings.opaqueOf (w.surroundings.draw n))) w.clock lifetime = .ok t)
      (h : w.memory.issueToken t policy w.clock = (i, m')) :
      IssueAttempt w policy session lifetime n
        (i.map fun i => ⟨Surroundings.opaqueOf (w.surroundings.draw n), i.token⟩) m'

theorem perform_issue_attempt (ho : w.memory.Orderly) (hpositive : 0 < lifetime.nanos)
    (settings : TokenSettings) (session : Uuid) :
    ∃ n, w.surroundings.drawn ≤ n ∧ IssueAttempt w settings.policy session lifetime n
      (w.perform (Tokens.issue settings session lifetime)).1
      (w.perform (Tokens.issue settings session lifetime)).2.memory := by
  have hissue : Tokens.issue settings session lifetime =
      Tokens.retrying (Tokens.issueOnce settings.policy session lifetime)
        (Tokens.retries settings) := if_pos (decide_eq_true hpositive)
  rw [hissue]
  refine perform_retrying_last (Q := fun a v => ∃ n, w.surroundings.drawn ≤ n ∧
    IssueAttempt w settings.policy session lifetime n a v.memory) ?_ ?_ _
  · intro v hv e v' hperform
    rw [show v.perform _ = _ from execute_issueOnce settings.policy session lifetime v] at hperform
    split at hperform
    · rename_i hfresh
      obtain ⟨hadd, rfl⟩ := Token.fresh_eq_error hfresh
      cases hperform
      refine ⟨v.surroundings.drawn, hv.later.drawn, ?_⟩
      show IssueAttempt w settings.policy session lifetime _ _ v.memory
      rw [hv.memory]
      exact .endless (hv.clock ▸ hadd)
    · cases hperform
  · intro v hv a v' hperform
    obtain ⟨t, answered, m', hfresh, hissued, rfl, rfl⟩ := perform_issueOnce_ok hperform
    constructor
    · refine ⟨v.surroundings.drawn, hv.later.drawn, ?_⟩
      rw [hv.clock, hv.later.draw] at hfresh
      rw [hv.memory, hv.clock] at hissued
      rw [hv.later.draw]
      exact .asked hfresh hissued
    · intro e he hcollision
      cases answered with
      | ok i => cases he
      | error e' =>
        cases he
        exact idled_of_collision (hv.memory ▸ ho) hcollision
          (r := .issueToken t settings.policy v.clock) hissued

/-- None of the values that are still to be drawn has the hash of a stored token. -/
def DrawsNew (w : Scene) : Prop :=
  ∀ n, w.surroundings.drawn ≤ n →
    w.memory.hasHash (Opaque.hash (Surroundings.opaqueOf (w.surroundings.draw n))) = false

/-- What issuing a token for a lifetime comes to. -/
structure Issues (w : Scene) (session : Uuid) (lifetime : Span)
    (out : Except Error HandedToken × Scene) : Prop where
  /-- What is written lives for the lifetime from now on. -/
  rows : w.memory.WritesFor out.2.memory w.clock lifetime
  /-- The token that is handed out is among it. -/
  granted : ∀ handed, out.1 = .ok handed → handed.record ∈ out.2.memory.tokens ∧
    handed.record.session = session ∧ handed.record.LivesFor w.clock lifetime
  /-- A refusal writes nothing. -/
  kept : ∀ e, out.1 = .error e → out.2.memory = w.memory
  /-- A lifetime is invalid exactly if it is not longer than nothing or does not end on the
  calendar. -/
  invalid : (∃ e, out.1 = .error e ∧ e.kind = .validation) ↔
    lifetime.nanos ≤ 0 ∨ ¬ (w.clock.plus lifetime).OnCalendar
  /-- Any other lifetime is granted, if only the session can take a token. -/
  accepted : 0 < lifetime.nanos → (w.clock.plus lifetime).OnCalendar →
    ∀ s, w.memory.Active session s → w.memory.currentOf? session = none → w.DrawsNew →
      ∃ handed, out.1 = .ok handed

theorem IssueAttempt.issues {policy : IssuePolicy} {n : Nat} {a : Except Error HandedToken}
    {v : Scene} (ho : w.memory.Orderly) (hpositive : 0 < lifetime.nanos)
    (hn : w.surroundings.drawn ≤ n)
    (h : IssueAttempt w policy session lifetime n a v.memory) :
    Issues w session lifetime (a, v) := by
  generalize hm : v.memory = m' at h
  cases h with
  | endless hadd =>
    have hcalendar := Instant.add?_eq_none_iff.mp hadd
    refine ⟨?_, by rintro _ ⟨⟩, fun _ _ => hm, ⟨fun _ => .inr hcalendar, fun _ => ⟨_, rfl, rfl⟩⟩,
      fun _ hon => absurd hon hcalendar⟩
    show w.memory.WritesFor v.memory w.clock lifetime
    rw [hm]
    exact .refl _ _ _
  | @asked t i _ hf hissue =>
    subst hm
    have hlives := Token.livesFor_of_fresh hf hpositive
    have hissued := issueToken_issued ho t policy w.clock
    rw [hissue] at hissued
    refine ⟨?_, ?_, ?_, ⟨?_, ?_⟩, ?_⟩
    · refine ho.writesFor (r := .issueToken t policy w.clock) hissue ?_
      rintro u rfl
      exact hlives
    · intro handed hok
      cases i with
      | error e => cases hok
      | ok i =>
        cases hok
        obtain ⟨htoken, hmem, -⟩ := issueToken_granted ho (congrArg Prod.fst hissue)
        rw [hissue] at hmem
        simp only [htoken]
        exact ⟨hmem, (Token.fresh_session_hash hf).1, hlives⟩
    · intro e he
      cases i with
      | ok i => cases he
      | error e' => exact hissued.refused.1
    · rintro ⟨e, he, hkind⟩
      cases i with
      | ok i => cases he
      | error e' =>
        cases he
        exact absurd hkind hissued.kind_ne_validation
    · rintro (hnone | hcalendar)
      · omega
      · exact absurd (Token.onCalendar_of_fresh hf) hcalendar
    · intro _ _ s ha hc hnew
      obtain ⟨hsession, hhash⟩ := Token.fresh_session_hash hf
      have hfirst := hissued.unique
        (.first (hsession ▸ ha) (hhash ▸ hnew n hn) (hsession ▸ hc))
      obtain ⟨rfl, -⟩ := Prod.mk.inj hfirst
      exact ⟨_, rfl⟩

theorem issues (ho : w.memory.Orderly) (settings : TokenSettings) (session : Uuid)
    (lifetime : Span) :
    Issues w session lifetime (w.perform (Tokens.issue settings session lifetime)) := by
  by_cases hpositive : 0 < lifetime.nanos
  · obtain ⟨n, hn, hattempt⟩ := perform_issue_attempt ho hpositive settings session
    exact hattempt.issues ho hpositive hn
  · have hissue : Tokens.issue settings session lifetime = throw .lifetimeNotPositive :=
      if_neg (by simpa [Span.isPositive] using hpositive)
    rw [hissue, perform_throw]
    exact ⟨.refl _ _ _, by rintro _ ⟨⟩, fun _ _ => rfl,
      ⟨fun _ => .inl (Int.not_lt.mp hpositive), fun _ => ⟨_, rfl, rfl⟩⟩,
      fun h => absurd h hpositive⟩

/-- Five nanoseconds before the calendar ends, a token can live for five but not for six. -/
example :
    let w : Scene := ⟨.applyAll .empty
      [.addUser ⟨1⟩, .ask (.createSession (.start ⟨2⟩ ⟨1⟩ none ⟨0, false⟩))],
      { clock := ⟨Instant.last.nanos - 5, false⟩, draw := fun _ => [] }⟩
    (w.perform (Tokens.issue {} ⟨2⟩ ⟨5⟩)).1.toOption.map (·.record.expiresAt) =
        some Instant.last ∧
      (w.perform (Tokens.issue {} ⟨2⟩ ⟨6⟩)).1.isOk = false := by
  decide +kernel

/-- What issuing a token for the lifetime of the settings comes to. -/
structure IssuesDefault (w : Scene) (settings : TokenSettings) (session : Uuid)
    (out : Except Error HandedToken × Scene) : Prop where
  /-- Without a lifetime, nothing is done. -/
  refused : ¬ settings.Allows → ∃ e, out = (.error e, w) ∧ e.kind = .configuration
  /-- The seconds of the settings are a lifetime to issue a token for. -/
  issued : settings.Allows → (Span.ofSeconds settings.lifetimeSeconds).inRange = true ∧
    0 < (Span.ofSeconds settings.lifetimeSeconds).nanos ∧
    Issues w session (.ofSeconds settings.lifetimeSeconds) out

theorem issuesDefault (ho : w.memory.Orderly) (settings : TokenSettings) (session : Uuid) :
    IssuesDefault w settings session (w.perform (Tokens.issueDefault settings session)) := by
  rw [Tokens.issueDefault, perform_liftExcept_bind]
  constructor
  · intro h
    obtain ⟨e, he, hkind⟩ := TokenSettings.lifetime_of_not_allows h
    rw [he]
    exact ⟨e, rfl, hkind⟩
  · intro h
    obtain ⟨hrange, hpositive⟩ := TokenSettings.inRange_of_allows h
    rw [TokenSettings.lifetime_of_allows h]
    exact ⟨hrange, hpositive, issues ho settings session _⟩

/-! ## Exchanging -/

/-- What an exchange comes to whose last attempt has made the `n`th draw. -/
inductive RotateAttempt (w : Scene) (presented : Hash) (lifetime : Span) (n : Nat) :
    Except Error RotatedToken → Memory → Prop where
  | asked {x m'}
      (h : w.memory.rotateToken presented (Surroundings.idOf (w.surroundings.draw (n + 1)))
        (Opaque.hash (Surroundings.opaqueOf (w.surroundings.draw n))) w.clock lifetime = (x, m')) :
      RotateAttempt w presented lifetime n
        (x.map fun r =>
          { value := Surroundings.opaqueOf (w.surroundings.draw n)
            record := r.replacement
            previous := r.previous.id
            user := r.session.user
            session := r.session.id
            thumbprint := r.session.thumbprint }) m'

/-- What exchanging a token for one with a lifetime comes to. -/
structure Exchanges (w : Scene) (presented : Hash) (lifetime : Span)
    (out : Except Error RotatedToken × Scene) : Prop where
  /-- What is written lives for the lifetime from now on. -/
  rows : w.memory.WritesFor out.2.memory w.clock lifetime
  /-- The token that is handed out is among it. -/
  granted : ∀ r, out.1 = .ok r →
    r.record ∈ out.2.memory.tokens ∧ r.record.LivesFor w.clock lifetime
  /-- A refusal writes nothing, unless it is the one of a reused token. -/
  kept : ∀ e, out.1 = .error e → e.kind ≠ .replayDetected → out.2.memory = w.memory
  /-- If the lifetime does not end on the calendar, there is a refusal, and it is found by the
  checks in their order, of which this is the last one. -/
  refused : ¬ (w.clock.plus lifetime).OnCalendar →
    ∃ e n, out.1 = .error e ∧ w.surroundings.drawn ≤ n ∧
      w.memory.Rotated presented (Surroundings.idOf (w.surroundings.draw (n + 1)))
        (Opaque.hash (Surroundings.opaqueOf (w.surroundings.draw n))) w.clock lifetime
        (.error e, out.2.memory)
  /-- If no other check fails, the lifetime alone decides. -/
  decided : ∀ t s, w.memory.tokenByHash? presented = some t → w.memory.Active t.session s →
    t.isSpent = false → t.isExpiredAt w.clock = false → w.DrawsNew →
    ((w.clock.plus lifetime).OnCalendar → ∃ r, out.1 = .ok r) ∧
    (¬ (w.clock.plus lifetime).OnCalendar →
      ∃ e, out.1 = .error e ∧ e.kind = .validation ∧ out.2.memory = w.memory)
  /-- Nothing else is said to be invalid. -/
  invalid : ∀ e, out.1 = .error e → e.kind = .validation →
    ¬ (w.clock.plus lifetime).OnCalendar

theorem RotateAttempt.exchanges {presented : Hash} {n : Nat} {a : Except Error RotatedToken}
    {v : Scene} (ho : w.memory.Orderly) (hpositive : 0 < lifetime.nanos)
    (hn : w.surroundings.drawn ≤ n) (h : RotateAttempt w presented lifetime n a v.memory) :
    Exchanges w presented lifetime (a, v) := by
  generalize hm : v.memory = m' at h
  obtain @⟨x, _, hrotate⟩ := h
  subst hm
  have hrotated := rotateToken_rotated ho presented
    (Surroundings.idOf (w.surroundings.draw (n + 1)))
    (Opaque.hash (Surroundings.opaqueOf (w.surroundings.draw n))) w.clock lifetime
  rw [hrotate] at hrotated
  refine ⟨?_, ?_, ?_, ?_, ?_, ?_⟩
  · refine ho.writesFor (r := .rotateToken ..) hrotate ?_
    rintro u ⟨_, hf⟩
    exact Token.livesFor_of_fresh hf hpositive
  · intro r hok
    cases x with
    | error e => cases hok
    | ok x =>
      cases hok
      obtain ⟨_, _, -, -, -, -, hf, hmem⟩ := rotateToken_granted ho (congrArg Prod.fst hrotate)
      rw [hrotate] at hmem
      exact ⟨hmem, Token.livesFor_of_fresh hf hpositive⟩
  · intro e he hkind
    cases x with
    | ok x => cases he
    | error e' =>
      cases he
      rcases hrotated.refused with ⟨hsame, -⟩ | ⟨hreplay, -⟩
      · exact hsame
      · exact absurd hreplay hkind
  · intro hcalendar
    cases x with
    | error e => exact ⟨e, n, rfl, hn, hrotated⟩
    | ok x =>
      obtain ⟨_, _, -, -, -, -, hf, -⟩ := rotateToken_granted ho (congrArg Prod.fst hrotate)
      exact absurd (Token.onCalendar_of_fresh hf) hcalendar
  · intro t s ht ha hu he hnew
    constructor
    · intro hcalendar
      cases x with
      | ok x => exact ⟨_, rfl⟩
      | error e =>
        cases hf : Token.fresh (Surroundings.idOf (w.surroundings.draw (n + 1))) t.session
          (Opaque.hash (Surroundings.opaqueOf (w.surroundings.draw n))) w.clock lifetime with
        | error e' =>
          exact absurd hcalendar (Instant.add?_eq_none_iff.mp (Token.fresh_eq_error hf).1)
        | ok next => cases hrotated.unique (.exchanged ht ha hu he (hnew n hn) hf)
    · intro hcalendar
      obtain ⟨rfl, hsame⟩ := Prod.mk.inj (hrotated.unique (.endless ht ha hu he (hnew n hn)
        (Instant.add?_eq_none_iff.mpr hcalendar)))
      exact ⟨_, rfl, rfl, hsame⟩
  · intro e he hkind
    cases x with
    | ok x => cases he
    | error e' =>
      cases he
      exact Instant.add?_eq_none_iff.mp (hrotated.endless_of_validation hkind)

end Service.Scene

end SessionKeeper
