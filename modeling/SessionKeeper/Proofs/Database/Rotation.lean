import SessionKeeper.Proofs.Database.Agreement
import SessionKeeper.Proofs.Instant
import SessionKeeper.Proofs.Service.Custody
import SessionKeeper.Proofs.Store.Isolation

/-!
# A database exchanges tokens as the store does

The store checks everything before it writes. A client of a database writes the used token first and
has the next one refused by the database if its hash is stored, and whatever was written before a
refusal is given up with the transaction. Both come to the same: what is done with a token once it
and its session are locked (`settle`) has one lemma for each of the checks, and the account of the
exchange in the store (`Rotated`) says which of them applies.
-/

namespace SessionKeeper.Database

open Memory (mem_of_session? mem_of_tokenByHash?)

/-! ## What is done with a locked token -/

/-- What is done with a token and its session once they are locked. -/
def settle (id : Uuid) (hash : Hash) (now : Instant) (lifetime : Span) (session : Uuid)
    (s : Session) (t : Token) : Action (Verdict TokenRotation) := do
  if s.isRevoked then throw (.sessionRevoked session)
  if t.isSpent then
    Tokens.revokeFamily session now
    return ⟨"Failed to commit replay revocation", .error (.tokenReused t.id session)⟩
  if t.isExpiredAt now then throw (.tokenExpired t.id t.expiresAt)
  let next ← liftExcept (Token.fresh id session hash now lifetime)
  Tokens.replace t.id next now

theorem rotate_eq (presented : Hash) (id : Uuid) (hash : Hash) (now : Instant) (lifetime : Span) :
    Tokens.rotate presented id hash now lifetime = transaction (do
      let session ← Tokens.sessionOf presented
      let s ← Sessions.lock session
      let t ← Tokens.lock presented
      settle id hash now lifetime session s t) := rfl

section

variable {α : Type} {m : Memory} {presented hash : Hash} {id : Uuid} {now : Instant}
  {lifetime : Span} {t : Token} {s : Session}

theorem settle_inactive (d : Server) (hr : s.isRevoked = true) :
    d.perform (settle id hash now lifetime t.session s t) =
      (.error (.sessionRevoked t.session), d) := by
  unfold settle
  exact Server.perform_stopped hr _ _

theorem settle_reused (ho : m.Orderly) (hr : s.isRevoked = false) (hu : t.isSpent = true) :
    (Server.within m m).perform (settle id hash now lifetime t.session s t) =
      (.ok ⟨"Failed to commit replay revocation", .error (.tokenReused t.id t.session)⟩,
        .within m (m.revokeFamily t.session now)) := by
  unfold settle
  refine (Server.perform_unless (by simp [hr]) _ _).trans ?_
  simp only [hu, if_true]
  exact Server.perform_bind_ok (perform_revokeFamily ho t.session now) _

theorem settle_expired (d : Server) (hr : s.isRevoked = false) (hu : t.isSpent = false)
    (he : t.isExpiredAt now = true) :
    d.perform (settle id hash now lifetime t.session s t) =
      (.error (.tokenExpired t.id t.expiresAt), d) := by
  unfold settle
  refine (Server.perform_unless (by simp [hr]) _ _).trans ?_
  simp only [hu, Bool.false_eq_true, if_false]
  exact Server.perform_stopped he _ _

theorem settle_fresh (d : Server) (hr : s.isRevoked = false) (hu : t.isSpent = false)
    (he : t.isExpiredAt now = false) {next : Token}
    (hf : Token.fresh id t.session hash now lifetime = .ok next) :
    d.perform (settle id hash now lifetime t.session s t) =
      d.perform (Tokens.replace t.id next now) := by
  unfold settle
  refine (Server.perform_unless (by simp [hr]) _ _).trans ?_
  simp only [hu, Bool.false_eq_true, if_false]
  refine (Server.perform_unless (by simp [he]) _ _).trans ?_
  rw [hf]
  exact Server.perform_bind_ok (Server.perform_liftExcept _ _) _

/-! ### Replacing -/

theorem admissible_fresh (hm : m.Sound) (ha : m.Active t.session s) (ht : t ∈ m.tokens)
    (hu : t.isSpent = false) (hid : ∀ u ∈ m.tokens, u.id ≠ id) (hlength : hash.length = 32)
    (hnow : now.Whole) (hspan : lifetime.Whole) (hlong : Span.perSecond ≤ lifetime.nanos)
    {next : Token} (hf : Token.fresh id t.session hash now lifetime = .ok next) :
    Admissible (m.modifyToken t.id (·.consume now next.id)) next := by
  obtain ⟨expiresAt, hadd, rfl⟩ := Token.fresh_eq_ok hf
  refine ⟨Memory.new_modifyToken (fun _ => rfl) hid, hlength, ?_, rfl, ?_, ?_⟩
  · have hend : expiresAt.toMicros = expiresAt := hnow.add? hspan hadd
    have hstart : now.toMicros = now := hnow
    have hpositive : 0 < lifetime.nanos := Int.lt_of_lt_of_le (by decide) hlong
    rw [hend, hstart, (Instant.add?_eq_some.mp hadd).1]
    exact Instant.lt_plus hpositive
  · -- the used token was the current one of its session
    exact hm.orderly.retired ht (Token.isCurrent_of_not_isSpent hu) (by simp)
  · exact ⟨s, mem_of_session? ha.1⟩

theorem perform_replace_collision (hm : m.Sound) {next : Token} (ht : t ∈ m.tokens)
    (hkept : t.kept = t) (hnow : now.Whole)
    (h : Admissible (m.modifyToken t.id (·.consume now next.id)) next)
    (hold : m.hasHash next.hash = true) :
    (Server.within m m).perform (Tokens.replace t.id next now) =
      (.error (hashRule.failure.toError "Failed to insert refresh token"),
        .within m (m.modifyToken t.id (·.consume now next.id))) := by
  have hi : (m.modifyToken t.id (·.consume now next.id)).Indexed :=
    hm.indexed.modifyToken (fun _ => rfl) fun _ => rfl
  refine (Server.perform_bind_ok (perform_consume hm.orderly ht next.id hkept hnow) _).trans ?_
  exact Server.perform_bind_error (perform_insert_collision h hi hold) _

theorem perform_replace (hm : m.Sound) (hw : m.Whole) {next : Token} (ht : t ∈ m.tokens)
    (ha : m.Active t.session s) (hu : t.isSpent = false) (hnow : now.Whole)
    (h : Admissible (m.modifyToken t.id (·.consume now next.id)) next) (hkept : next.kept = next)
    (hsession : next.session = t.session) (hnew : m.hasHash next.hash = false) :
    (Server.within m m).perform (Tokens.replace t.id next now) =
      (.ok (.ofResult "Failed to commit rotation"
        ⟨t.consume now next.id, next, { s with lastUsedAt := some now }⟩),
        .within m (m.exchange t next s now)) := by
  have hi : (m.modifyToken t.id (·.consume now next.id)).Indexed :=
    hm.indexed.modifyToken (fun _ => rfl) fun _ => rfl
  have ho : (m.modifyToken t.id (·.consume now next.id)).Orderly := by
    refine hm.orderly.modifyToken fun u hum he => ?_
    rw [hm.orderly.token_eq hum ht he]
    exact Token.ages_consume hu now next.id
  have hs : ((m.modifyToken t.id (·.consume now next.id)).enter next).session? next.session =
      some s := by
    rw [hsession]
    simpa only [Memory.session?, Memory.enter_sessions, Memory.modifyToken_sessions] using ha.1
  have hexchange : m.exchange t next s now =
      ((m.modifyToken t.id (·.consume now next.id)).enter next).modifySession next.session
        fun s => { s with lastUsedAt := some now } := by
    rw [hm.orderly.exchange_eq ht, ← hsession]
    exact (ho.enter h.alone).modifySession_const hs fun s => { s with lastUsedAt := some now }
  rw [hexchange]
  refine (Server.perform_bind_ok (perform_consume hm.orderly ht next.id (hw.tokens t ht) hnow)
    _).trans ?_
  refine (Server.perform_bind_ok (perform_insert h hi hkept hnew) _).trans ?_
  refine (Server.perform_bind_ok (perform_touchSession (ho.enter h.alone) hs
    (hw.sessions s (mem_of_session? ha.1).1) hnow) _).trans ?_
  rfl

/-! ### A stored token of a stored session -/

theorem perform_found_token (hm : m.Sound) (hw : m.Whole) (ht : m.tokenByHash? presented = some t)
    (hs : m.session? t.session = some s) (f : Uuid → Session → Token → Action α) :
    (Server.within m m).perform (do
      let session ← Tokens.sessionOf presented
      let s ← Sessions.lock session
      let t ← Tokens.lock presented
      f session s t) = (Server.within m m).perform (f t.session s t) := by
  have hsession := perform_sessionOf (b := m) hm presented
  have hlock := perform_lockToken (b := m) hm hw presented
  have hsessions := perform_lockSession (b := m) hm hw t.session
  rw [ht] at hsession hlock
  rw [hs] at hsessions
  refine (Server.perform_bind_ok hsession _).trans ?_
  refine (Server.perform_bind_ok hsessions _).trans ?_
  exact Server.perform_bind_ok hlock _

theorem rotate_abandoned (hm : m.Sound) (hw : m.Whole) (ht : m.tokenByHash? presented = some t)
    (hs : m.session? t.session = some s) {e : Error} {m' : Memory}
    (h : (Server.within m m).perform (settle id hash now lifetime t.session s t) =
      (.error e, .within m m')) :
    (Server.of m).perform (Tokens.rotate presented id hash now lifetime) = (.error e, .of m) := by
  rw [rotate_eq]
  exact perform_abandoned ((perform_found_token hm hw ht hs _).trans h)

theorem rotate_concluded (hm : m.Sound) (hw : m.Whole) (ht : m.tokenByHash? presented = some t)
    (hs : m.session? t.session = some s) {v : Verdict TokenRotation} {m' : Memory}
    (h : (Server.within m m).perform (settle id hash now lifetime t.session s t) =
      (.ok v, .within m m')) (hm' : m'.Sound) :
    (Server.of m).perform (Tokens.rotate presented id hash now lifetime) = (v.result, .of m') := by
  rw [rotate_eq]
  exact perform_concluded ((perform_found_token hm hw ht hs _).trans h) hm'.hasReplacements

/-! ### Every exchange -/

theorem rotateToken_agrees (hm : m.Sound) (hw : m.Whole) (hnow : now.Whole)
    (hspan : lifetime.Whole) (hlong : Span.perSecond ≤ lifetime.nanos)
    (hend : (now.add? lifetime).isSome) (hid : ∀ u ∈ m.tokens, u.id ≠ id)
    (hlength : hash.length = 32) :
    Agrees m (.rotateToken presented id hash now lifetime) := by
  have hsound : (m.rotateToken presented id hash now lifetime).2.Sound := by
    refine hm.apply (o := .ask (.rotateToken presented id hash now lifetime)) ?_
    rintro u ⟨session, hu⟩
    obtain ⟨expiresAt, -, rfl⟩ := Token.fresh_eq_ok hu
    exact ⟨hid, rfl⟩
  have hx := m.rotateToken_rotated hm.orderly presented id hash now lifetime
  refine agrees_of_perform (r := .rotateToken presented id hash now lifetime) ?_
  change ∃ y, (Server.of m).perform (Tokens.rotate presented id hash now lifetime) =
    (y, .of (m.rotateToken presented id hash now lifetime).2) ∧
      SameOutcome y (m.rotateToken presented id hash now lifetime).1
  generalize m.rotateToken presented id hash now lifetime = out at hx hsound ⊢
  cases hx with
  | unknown ht =>
    have hsession := perform_sessionOf (b := m) hm presented
    rw [ht] at hsession
    exact ⟨_, perform_abandoned (Server.perform_bind_error hsession _), rfl⟩
  | @orphan t ht hs =>
    -- a sound store has the sessions of all tokens
    obtain ⟨s, hmem, hsid⟩ := hm.owned.session t (mem_of_tokenByHash? ht)
    rw [hm.orderly.session?_eq_some.mpr ⟨hmem, hsid⟩] at hs
    cases hs
  | inactive ht hs hr => exact ⟨_, rotate_abandoned hm hw ht hs (settle_inactive _ hr), rfl⟩
  | reused ht ha hu =>
    exact ⟨_, rotate_concluded hm hw ht ha.1 (settle_reused hm.orderly ha.2 hu) hsound, rfl⟩
  | expired ht ha hu he =>
    exact ⟨_, rotate_abandoned hm hw ht ha.1 (settle_expired _ ha.2 hu he), rfl⟩
  | @collision t s ht ha hu he hh =>
    -- the used token has been written when the database refuses the next one
    have hmem := mem_of_tokenByHash? ht
    obtain ⟨expiresAt, hadd⟩ := Option.isSome_iff_exists.mp hend
    have hf : Token.fresh id t.session hash now lifetime =
        .ok ⟨id, t.session, hash, now, expiresAt, none, none, none⟩ := by
      simp only [Token.fresh, hadd]
    have hadmissible := admissible_fresh hm ha hmem hu hid hlength hnow hspan hlong hf
    have hreplace := perform_replace_collision hm hmem (hw.tokens t hmem) hnow hadmissible hh
    have hsettle := (settle_fresh _ ha.2 hu he hf).trans hreplace
    exact ⟨_, rotate_abandoned hm hw ht ha.1 hsettle, rfl⟩
  | endless ht ha hu he hh hf =>
    rw [hf] at hend
    cases hend
  | @exchanged t s next ht ha hu he hh hf =>
    have hmem := mem_of_tokenByHash? ht
    obtain ⟨hsession, hhash⟩ := Token.fresh_session_hash hf
    have hadmissible := admissible_fresh hm ha hmem hu hid hlength hnow hspan hlong hf
    have hreplace := perform_replace hm hw hmem ha hu hnow hadmissible
      (Token.kept_fresh hf hnow hspan) hsession (by rw [hhash]; exact hh)
    have hsettle := (settle_fresh _ ha.2 hu he hf).trans hreplace
    exact ⟨_, rotate_concluded hm hw ht ha.1 hsettle hsound, rfl⟩

end

open Service (System Event)

/-- A database with the rows of any store that a run of the services reaches exchanges tokens as
that store does: with the same result, or with an error of the same kind, and then it has the rows
that the store has. An exchange that is refused leaves its rows as they were, unless a token is
reused. -/
theorem exchange_agrees (settings : Settings) (start : Instant) (es : List Event)
    (hw : (System.run settings start es).memory.Whole) (presented : Hash) {id : Uuid} {hash : Hash}
    {now : Instant} {lifetime : Span}
    (hid : ∀ t ∈ (System.run settings start es).memory.tokens, t.id ≠ id)
    (hlength : hash.length = 32) (hnow : now.Whole) (hspan : lifetime.Whole)
    (hlong : Span.perSecond ≤ lifetime.nanos) (hend : (now.add? lifetime).isSome) :
    let m := (System.run settings start es).memory
    let r := Store.Request.rotateToken presented id hash now lifetime
    Agrees m r ∧ ∀ e, ((Server.of m).perform (action r)).1 = .error e → e.kind ≠ .replayDetected →
      ((Server.of m).perform (action r)).2 = .of m := by
  intro m r
  have hm : m.Sound := (System.kept_run settings start es).sound
  have hagrees : Agrees m r := rotateToken_agrees hm hw hnow hspan hlong hend hid hlength
  exact ⟨hagrees, fun e he hkind => hagrees.refused hm.orderly he hkind⟩

/-- A session with its first token. -/
def oneToken : List Event :=
  [.addUser ⟨1⟩, .call (.openSession ⟨1⟩ none), .go 0 ⟨7⟩ "", .go 0 ⟨0⟩ "", .go 0 ⟨0⟩ "",
    .go 0 ⟨0⟩ "a", .go 0 ⟨0⟩ "", .go 0 ⟨11⟩ "", .go 0 ⟨0⟩ ""]

/-- The token is exchanged, with the same result on both sides. -/
theorem exchange_agrees_result :
    let m := (System.run { database := { url := "" } } ⟨0, false⟩ oneToken).memory
    let r := Store.Request.rotateToken (Opaque.hash "a") ⟨12⟩ (List.replicate 32 1) ⟨1000, false⟩
      (Span.ofSeconds 1)
    ∃ x : TokenRotation, (m.answer r).1 = .ok x ∧ ((Server.of m).perform (action r)).1 = .ok x ∧
      ((Server.of m).perform (action r)).2 = .of (m.answer r).2 := by
  intro m r
  have hw : m.Whole := ⟨by decide +kernel, by decide +kernel⟩
  have hid : ∀ t ∈ m.tokens, t.id ≠ ⟨12⟩ := by decide +kernel
  have hnow : Instant.Whole ⟨1000, false⟩ := rfl
  have hspan : Span.Whole (Span.ofSeconds 1) := ⟨1000000, rfl⟩
  have hlength : (List.replicate 32 1 : Hash).length = 32 := rfl
  obtain ⟨⟨hsame, hrows⟩, -⟩ := exchange_agrees { database := { url := "" } } ⟨0, false⟩ oneToken hw
    (Opaque.hash "a") hid hlength hnow hspan (by decide) (by decide)
  have hok : (m.answer r).1.isOk = true := by decide +kernel
  cases hx : (m.answer r).1 with
  | error e =>
    rw [hx] at hok
    cases hok
  | ok x =>
    refine ⟨x, rfl, ?_, hrows⟩
    change SameOutcome ((Server.of m).perform (action r)).1 (m.answer r).1 at hsame
    rw [hx] at hsame
    cases hy : ((Server.of m).perform (action r)).1 with
    | error e =>
      rw [hy] at hsame
      cases hsame
    | ok y =>
      rw [hy] at hsame
      rw [show y = x from hsame]

end SessionKeeper.Database
