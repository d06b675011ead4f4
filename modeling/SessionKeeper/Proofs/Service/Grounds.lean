import SessionKeeper.Proofs.Service.Finality

/-!
# Every refusal has its grounds

A converse to single use: an exchange is not refused without a reason in the past of the run. Every
spent row of a session that has not been revoked has been exchanged, revoked or superseded by a call
that was granted this (`Cause`), every stored row is that of a token that a call has handed out, and
a row that has been handed out is missing only after an event that deletes it. The store knows a
value by its hash alone, so what is said of a value is said of its hash.
-/

namespace SessionKeeper

/-! ## Rows that users leave alone -/

/-- The coming and going of users changes no row that stays. -/
theorem Memory.Effect.token_unchanged {m m' : Memory} {o : Memory.Operation} (h : m.Orderly)
    (e : Memory.Effect m o m') (ho : ∀ r, o ≠ .ask r) {u : Token} (hu : u ∈ m'.tokens) :
    u ∈ m.tokens := by
  cases e with
  | nothing | userAdded => exact hu
  | userRemoved hus => exact ((h.mem_removeUser_tokens hus).mp hu).1
  | _ => exact absurd rfl (ho _)

namespace Service.System

variable {settings : Settings} {start : Instant} {σ σ' : System} {ev : Event}
  {es later : List Event} {value : String}

/-! ## Why a token is spent -/

/-- At the event the token with the hash is revoked for another one, which a call issues for the
same session under the policy that supersedes and hands out. -/
def Supersedes (settings : Settings) (start : Instant) (es : List Event) (ev : Event)
    (hash : Hash) : Prop :=
  settings.tokens.policy = .supersede ∧
    ∃ t ∈ (run settings start es).memory.tokens, t.hash = hash ∧
    ∃ i id v c other record now, ev = .go i id v ∧ c.Issues t.session ∧
      (run settings start es).Asks i (.inl (.issueToken record .supersede now)) ∧
      ((run settings start es).memory.answer (.issueToken record .supersede now)).1 =
        Except.ok (TokenIssue.mk record (some t.id)) ∧
      record.session = t.session ∧ (run settings start (es ++ [ev])).HandsOut i c other record

/-- Why the token with a hash is spent: a call has exchanged it, or revoked it, or another token has
superseded it. -/
inductive Cause (settings : Settings) (start : Instant) (es : List Event) (hash : Hash) : Prop where
  | exchanged {i other r} (hh : Opaque.hash other = hash)
      (h : (run settings start es).Ended i other (.ok r))
  | revoked {i other} (hh : Opaque.hash other = hash)
      (h : (run settings start es).Returned i (.revokeToken other) (.ok ()))
  | superseded (before ev after) (he : es = before ++ ev :: after)
      (h : Supersedes settings start before ev hash)

theorem Cause.append {hash : Hash} (h : Cause settings start es hash) (later : List Event) :
    Cause settings start (es ++ later) hash := by
  cases h with
  | exchanged hh h => exact .exchanged hh (ended_append settings start es later h)
  | revoked hh h => exact .revoked hh (h.append later)
  | superseded before ev after he h =>
    exact .superseded before ev (after ++ later) (by simp [he]) h

/-- A request that spends a row is that of a call which is granted it, unless it revokes the row's
session. -/
theorem cause_of_spentBy (id : Uuid) (v : String) {i : Nat} {c : Call} {r : Store.Request}
    {k : signature.Answer (.inl r) → Prog signature (Except Error c.Result)} {held : List Mark}
    {m' : Memory} {t : Token} (ht : t ∈ (run settings start es).memory.tokens)
    (hasks : (run settings start es).threads[i]? = some ⟨c, .ask (.inl r) k, held⟩)
    (h : Memory.SpentBy m' (run settings start es).memory t r
      ((run settings start es).memory.answer r).1) :
    m'.Revoked t.session ∨ Cause settings start (es ++ [.go i id v]) t.hash := by
  obtain ⟨read, -, hmay, -⟩ := asks_lawfully hasks
  have hsound := (kept_run settings start es).sound
  generalize ha : ((run settings start es).memory.answer r).1 = a at h
  cases h with
  | closed h => exact .inl h
  | exchanged hfound =>
    right
    obtain ⟨x, hret, -⟩ := granted_returns id v hasks trivial ha
    cases hmay with
    | plain hp => exact absurd trivial hp
    | rotateToken hc =>
      subst hc
      exact .exchanged (hsound.tokenByHash?_eq_some.mp hfound).2.symm hret
  | revoked hfound =>
    right
    obtain ⟨x, hret, -⟩ := granted_returns id v hasks trivial ha
    cases hmay with
    | plain hp => exact absurd trivial hp
    | revokeToken hc =>
      subst hc
      exact .revoked (hsound.tokenByHash?_eq_some.mp hfound).2.symm hret
  | superseded hs =>
    right
    obtain ⟨x, hret, hend⟩ := granted_returns id v hasks trivial ha
    obtain ⟨hpolicy, hc⟩ := hmay.of_issueToken
    cases hend with
    | issued _ hx =>
      exact .superseded es (.go i id v) [] rfl ⟨hpolicy, t, ht, rfl, i, id, v, c, _, _, _, rfl,
        hs ▸ hc, ⟨_, _, _, hasks⟩, ha, hs, x, hret, hx⟩

/-- A row that a step leaves spent has been spent before, or there is a cause or its session has
been revoked. -/
theorem spent_step {u : Token} (hu : u ∈ (run settings start (es ++ [ev])).memory.tokens)
    (hspent : u.isSpent = true) :
    (∃ t ∈ (run settings start es).memory.tokens, t.Ages u ∧ t.isSpent = true) ∨
      (run settings start (es ++ [ev])).memory.Revoked u.session ∨
      Cause settings start (es ++ [ev]) u.hash := by
  have hk := kept_run settings start es
  have ho := hk.sound.orderly
  rw [run_concat] at hu ⊢
  rcases (step_step settings (run settings start es) ev).memory with hm | ⟨o, hp, hm⟩
  · exact .inl ⟨u, hm ▸ hu, .refl u, hspent⟩
  · rw [hm] at hu ⊢
    have e := ho.apply_effect o
    rcases e.token_before ho hu with ⟨t, ht, ha⟩ | hentered
    · by_cases htspent : t.isSpent = true
      · exact .inl ⟨t, ht, ha, htspent⟩
      · cases ev with
        | setClock | call => cases hp
        | addUser user | removeUser user =>
          cases hp
          exact .inl ⟨u, e.token_unchanged ho (by simp) hu, .refl u, hspent⟩
        | go i id v =>
          have hfresh := hk.custody.fresh hp
          obtain ⟨r, ⟨c, k, held, hasks⟩, rfl⟩ := hp
          have hcause := cause_of_spentBy id v ht hasks
            (ho.spent_cause hfresh ht hu ha.id (by simpa using htspent) hspent)
          rw [ha.session, ha.hash]
          exact .inr hcause
    · -- a row that has just been entered is not spent
      rw [(hk.custody.fresh hp u hentered).2] at hspent
      cases hspent

/-- Every spent row has a cause, unless its session has been revoked. -/
theorem spent_has_cause (settings : Settings) (start : Instant) (es : List Event) {t : Token}
    (ht : t ∈ (run settings start es).memory.tokens) (hspent : t.isSpent = true) :
    (run settings start es).memory.Revoked t.session ∨ Cause settings start es t.hash := by
  induction es using List.reverseRecOn generalizing t with
  | nil => simp [run, Memory.empty] at ht
  | append_singleton es ev ih =>
    rcases spent_step ht hspent with ⟨u, hu, ha, huspent⟩ | h
    · rcases ih hu huspent with hrevoked | hcause
      · -- the session is still there, since the row is
        left
        rw [run_concat] at ht ⊢
        rw [← ha.session] at hrevoked
        exact (step_step settings _ ev).revoked (kept_run settings start es) ht hrevoked
      · rw [ha.hash]
        exact .inr (hcause.append [ev])
    · exact h

/-! ## How an exchange is refused -/

/-- An exchange that fails before it asks for anything has been given a blank value, or the settings
do not allow it. -/
theorem rotate_fails_at_once {e : Error}
    (h : (Tokens.rotate settings.tokens value).run = .pure (.error e)) :
    (Text.allBlank value = true ∧ e.kind = .invalidToken) ∨ e.kind = .configuration := by
  cases hblank : Text.allBlank value with
  | true =>
    rw [Tokens.rotate_of_blank settings.tokens hblank] at h
    cases h
    exact .inl ⟨rfl, rfl⟩
  | false =>
    cases hlife : settings.tokens.lifetime with
    | error e' =>
      rw [Tokens.rotate_of_lifetime_error hblank hlife] at h
      cases h
      exact .inr (TokenSettings.kind_of_lifetime_error hlife)
    | ok lifetime =>
      rw [Tokens.rotate_of_lifetime hblank hlife] at h
      exact absurd h ((exchanging_retrying (Opaque.hash value) lifetime _).ne_pure _)

/-- How a call that exchanges a value is refused: before it asks for anything, or by the store, as
of an instant that it has been told. -/
inductive Refused (settings : Settings) (start : Instant) (es : List Event) (j : Nat)
    (value : String) (e : Error) : Prop where
  | atOnce (h : (Text.allBlank value = true ∧ e.kind = .invalidToken) ∨ e.kind = .configuration)
  | answered {id hash now lifetime m'}
      (hasks : (run settings start es).Asks j
        (.inl (.rotateToken (Opaque.hash value) id hash now lifetime)))
      (hn : Told settings start es j now)
      (h : Memory.Rotated (run settings start es).memory (Opaque.hash value) id hash now lifetime
        (.error e, m'))

theorem refused_of_ended {j : Nat} {e : Error}
    (hbefore : ¬ (run settings start es).Ended j value (.error e))
    (hafter : (run settings start (es ++ [ev])).Ended j value (.error e)) :
    Refused settings start es j value e := by
  have hreg := regular_run settings start es
  obtain ⟨held, hafter⟩ := hafter
  rw [run_concat] at hafter
  cases step_thread settings _ ev hafter with
  | same h => exact absurd ⟨held, h⟩ hbefore
  | begun _ hth =>
    injection hth with hcall hrest
    cases hcall
    exact .atOnce (rotate_fails_at_once (eq_of_heq hrest).symm)
  | told h hth =>
    -- a call does not end at an answer of the surroundings
    injection hth with hcall hrest
    cases hcall
    have hproper := hreg.proper _ (List.mem_of_getElem? h)
    exact absurd (eq_of_heq hrest).symm ((hproper.exchanging.2 _).ne_pure _)
  | served h hth =>
    injection hth with hcall hrest
    cases hcall
    have hproper := hreg.proper _ (List.mem_of_getElem? h)
    obtain ⟨-, ⟨id, hash, now, lifetime, rfl⟩, hend⟩ := hproper.exchanging
    obtain ⟨read, hread, hmay, -⟩ := asks_lawfully h
    have hx := Memory.rotateToken_rotated hreg.kept.sound.orderly (Opaque.hash value) id hash now
      lifetime
    rcases hend ((run settings start es).memory.answer _).1 with ⟨result, hk, hagrees⟩ | hk
    · cases (eq_of_heq hrest).trans hk
      simp only [Memory.answer] at hagrees
      generalize (run settings start es).memory.rotateToken (Opaque.hash value) id hash now
        lifetime = out at hx hagrees
      obtain ⟨a, m'⟩ := out
      cases hagrees
      exact .answered ⟨_, _, _, h⟩ (hread now hmay.of_rotateToken) hx
    · exact absurd (eq_of_heq hrest).symm (hk.ne_pure _)

/-! ## Grounds -/

/-- For every run and every call that is refused the exchange of an opaque value at its end:
if the token is said to be reused, a call has exchanged it, or a call has revoked it, or a call has
issued another token that superseded it;
if the token is said to be expired, a call has handed it out, and the instant of issue, which this
call was told, and the lifetime that it gives end no later than the instant of the refused request,
which the refused call was told;
if the token is said to be unknown, the value is blank, or no call has handed it out, or an event
has deleted its row. -/
theorem refusals_have_grounds {j : Nat} {e : Error}
    (hbefore : ¬ (run settings start es).Ended j value (.error e))
    (hafter : (run settings start (es ++ [ev])).Ended j value (.error e)) :
    (e.kind = .replayDetected → Cause settings start es (Opaque.hash value)) ∧
    (e.kind = .tokenExpired → ∃ i c other record lifetime id hash now next,
      (run settings start es).HandsOut i c other record ∧ Opaque.hash other = Opaque.hash value ∧
      c.Gives settings lifetime ∧ Told settings start es i record.issuedAt ∧
      record.issuedAt.add? lifetime = some record.expiresAt ∧
      (run settings start es).Asks j
        (.inl (.rotateToken (Opaque.hash value) id hash now next)) ∧
      Told settings start es j now ∧ record.expiresAt ≤ now) ∧
    (e.kind = .invalidToken → Text.allBlank value = true ∨
      (∀ i c record, ¬ (run settings start es).HandsOut i c value record) ∨
      ∃ before gone after, es = before ++ gone :: after ∧
        (run settings start before).Removes gone (Opaque.hash value)) := by
  have hsound := (kept_run settings start es).sound
  cases refused_of_ended hbefore hafter with
  | atOnce h =>
    rcases h with ⟨hblank, hk⟩ | hk
    · simp [hk, hblank]
    · simp [hk]
  | answered hasks hn hx =>
    refine ⟨fun hk => ?_, fun hk => ?_, fun hk => .inr ?_⟩
    · obtain ⟨t, s, hfound, ha, hspent⟩ := hx.spent hk
      obtain ⟨ht, hhash⟩ := hsound.tokenByHash?_eq_some.mp hfound
      rcases spent_has_cause settings start es ht hspent with hrevoked | hcause
      · exact absurd ha (hsound.orderly.not_active_of_revoked hrevoked)
      · exact hhash ▸ hcause
    · obtain ⟨t, hfound, hexpired⟩ := hx.expired_at hk
      obtain ⟨ht, hhash⟩ := hsound.tokenByHash?_eq_some.mp hfound
      obtain ⟨i, c, other, record, hout, ha⟩ := row_handed ht
      obtain ⟨hrecord, htold, lifetime, hgives, hend⟩ := hout.genuine
      refine ⟨i, c, other, record, lifetime, _, _, _, _, hout, ?_, hgives, htold, hend, hasks, hn,
        ?_⟩
      · rw [← hrecord, ← ha.hash, hhash]
      · simpa [Token.isExpiredAt, ha.expiresAt] using hexpired
    · by_cases hout : ∃ i c record, (run settings start es).HandsOut i c value record
      · -- the row was there when the token was handed out, and it is not there now
        obtain ⟨i, c, record, hout⟩ := hout
        obtain ⟨before, later, rfl, hgen, hrow⟩ := hout.entered
        rcases row_stays_or_removed settings start before later hrow with
          ⟨u, hu, hhash⟩ | ⟨mid, gone, rest, rfl, hrem⟩
        · have hfound := hsound.tokenByHash?_eq_some.mpr ⟨hu, hhash.trans hgen.hash⟩
          rw [hx.not_stored hk] at hfound
          cases hfound
        · exact .inr ⟨before ++ mid, gone, rest, by simp, hgen.hash ▸ hrem⟩
      · exact .inl fun i c record h => hout ⟨i, c, record, h⟩

/-- The second of two calls is told that the token is reused, and there is a cause for it. -/
theorem refusals_have_grounds_replayed :
    (∃ e, (afterwards [.go 3 ⟨0⟩ ""]).Ended 3 "a" (.error e) ∧ e.kind = .replayDetected) ∧
      Cause { database := { url := "" } } ⟨0, false⟩ exchangedTwice (Opaque.hash "a") := by
  obtain ⟨hnone, e, hend, hkind⟩ := second_call_replayed
  exact ⟨⟨e, hend, hkind⟩, (refusals_have_grounds (hnone _) hend).1 hkind⟩

end Service.System

end SessionKeeper
