import SessionKeeper.Proofs.Service.Exchange
import SessionKeeper.Proofs.Store.Reuse

/-!
# A token is exchanged once

What the holders of one opaque value can get for it, over all runs of the services. Once a call has
been granted the exchange, the stored row is spent and stays so: the hash of the value is settled,
so no other row can ever bear it (`Used`). After that a call can only find the reused row, a revoked
session, or nothing; and it finds nothing only if the row has been deleted (`Removes`).
-/

namespace SessionKeeper.Service.System

variable {settings : Settings} {σ σ' : System} {ev : Event} {value : String}

/-! ## Used values -/

/-- A hash is settled, and every row with it is spent. -/
def Used (σ : System) (hash : Hash) : Prop :=
  σ.Settled (.hash hash) ∧ ∀ t ∈ σ.memory.tokens, t.hash = hash → t.isSpent = true

/-- What has been used stays so. -/
theorem Step.used (h : Step settings σ ev σ') (hk : σ.Kept) {hash : Hash} (hu : σ.Used hash) :
    σ'.Used hash := by
  refine ⟨h.settled hu.1, fun u hum he => ?_⟩
  rcases hk.custody.row_before hk.sound.orderly h hum with ⟨t, ht, ha⟩ | hn
  · exact ha.isSpent (hu.2 t ht (by rw [← ha.hash, he]))
  · -- a row that has just been entered bears a hash that was not settled
    exact absurd (he ▸ hu.1) hn

/-- What is known of the exchanges of every run. -/
structure Regular (settings : Settings) (σ : System) : Prop where
  kept : σ.Kept
  proper : ∀ th ∈ σ.threads, th.Proper settings
  used : ∀ i value r, σ.Ended i value (.ok r) → σ.Used (Opaque.hash value)
  single : ∀ i j value r r', σ.Ended i value (.ok r) → σ.Ended j value (.ok r') → i = j

/-- A call that is granted the exchange finds the token unspent, and leaves it used. -/
theorem Returns.granted {j : Nat} {r : RotatedToken} (h : Returns settings σ σ' value ev j (.ok r))
    (hs : Step settings σ ev σ') (hk : σ.Kept) :
    ¬ σ.Used (Opaque.hash value) ∧ σ'.Used (Opaque.hash value) ∧
      (∃ u ∈ σ'.memory.tokens, u.hash = Opaque.hash value) ∧ ∃ x v, ev = .go j x v := by
  cases h with
  | answered _ hf hx ha =>
    cases ha with
    | granted =>
      obtain ⟨⟨t, ht, hunspent⟩, u, hu, hhash, hspent⟩ := hx.spends hk.sound hf
      obtain ⟨htm, hthash⟩ := hk.sound.tokenByHash?_eq_some.mp ht
      have hk' := hk.step hs
      refine ⟨fun hused => ?_, ⟨?_, fun w hw he => ?_⟩, ⟨u, hu, hhash⟩, _, _, rfl⟩
      · rw [hused.2 t htm hthash] at hunspent
        cases hunspent
      · exact hthash ▸ hs.settled (hk.custody.stored t htm).2
      · rwa [hk'.sound.orderly.token_eq hw hu (hk'.sound.indexed.id_eq hw hu (he.trans hhash.symm))]

theorem Regular.step (h : σ.Regular settings) (hs : Step settings σ ev σ') :
    σ'.Regular settings := by
  refine ⟨h.kept.step hs, proper_step h.proper hs, fun i value r hi => ?_,
    fun i j value r r' hi hj => ?_⟩
  · rcases hs.ended_or_returns h.kept h.proper hi with hi | ⟨-, hi⟩
    · exact hs.used h.kept (h.used i value r hi)
    · exact (hi.granted hs h.kept).2.1
  · -- of two calls at most one is granted the exchange at this step, and none if one was before
    rcases hs.ended_or_returns h.kept h.proper hi with hi | ⟨-, hi⟩ <;>
      rcases hs.ended_or_returns h.kept h.proper hj with hj | ⟨-, hj⟩
    · exact h.single i j value r r' hi hj
    · exact absurd (h.used i value r hi) (hj.granted hs h.kept).1
    · exact absurd (h.used j value r' hj) (hi.granted hs h.kept).1
    · obtain ⟨-, -, -, x, v, hev⟩ := hi.granted hs h.kept
      obtain ⟨-, -, -, y, w, hev'⟩ := hj.granted hs h.kept
      rw [hev] at hev'
      cases hev'
      rfl

theorem regular_run (settings : Settings) (start : Instant) (es : List Event) :
    (run settings start es).Regular settings := by
  refine run_invariant ?_ Regular.step es
  refine ⟨kept_run settings start [], by simp, ?_, ?_⟩
  · rintro i value r ⟨held, hi⟩
    simp at hi
  · rintro i j value r r' ⟨held, hi⟩
    simp at hi

/-! ## Deleted rows -/

/-- The event deletes a row with the hash: the owner of its session goes, or a purge that a
cleanup cycle asks for chooses it. -/
def Removes (σ : System) (ev : Event) (hash : Hash) : Prop :=
  ∃ t ∈ σ.memory.tokens, t.hash = hash ∧
    ((∃ user, ev = .removeUser user ∧ σ.memory.Owns user t.session) ∨
      ∃ i id value cutoff limit, ev = .go i id value ∧
        σ.Asks i (.inl (.purgeExpired cutoff limit)) ∧ t ∈ σ.memory.doomed cutoff limit)

/-- A row that is stored is so after a step, unless the step deletes it. -/
theorem Step.row_after (h : Step settings σ ev σ') (hk : σ.Kept) {t : Token}
    (ht : t ∈ σ.memory.tokens) :
    (∃ u ∈ σ'.memory.tokens, u.hash = t.hash) ∨ σ.Removes ev t.hash := by
  rcases h.memory with hm | ⟨o, hp, hm⟩
  · exact .inl ⟨t, hm ▸ ht, rfl⟩
  · rcases (hk.sound.orderly.apply_effect o).token_after hk.sound.orderly ht with
      ⟨u, hu, ha⟩ | hd | ⟨u, hu, hid⟩
    · exact .inl ⟨u, hm ▸ hu, ha.hash⟩
    · exact .inr ⟨t, ht, rfl, (hp.deletes hd).symm⟩
    · -- a row that is entered has a new identifier, so it takes no row's place
      exact absurd hid.symm ((hk.custody.fresh hp u hu).1 t ht)

/-- A row that is stored stays so until an event deletes it. -/
theorem row_stays_or_removed (settings : Settings) (start : Instant) (es later : List Event)
    {t : Token} (ht : t ∈ (run settings start es).memory.tokens) :
    (∃ u ∈ (run settings start (es ++ later)).memory.tokens, u.hash = t.hash) ∨
      ∃ mid ev rest, later = mid ++ ev :: rest ∧
        (run settings start (es ++ mid)).Removes ev t.hash := by
  induction later using List.reverseRecOn with
  | nil => exact .inl ⟨t, by simpa using ht, rfl⟩
  | append_singleton later ev ih =>
    rw [← List.append_assoc, run_concat]
    rcases ih with ⟨u, hu, hhash⟩ | ⟨mid, e, rest, rfl, hrem⟩
    · have hs := step_step settings (run settings start (es ++ later)) ev
      rcases hs.row_after (kept_run settings start _) hu with ⟨v, hv, hvu⟩ | hrem
      · exact .inl ⟨v, hv, hvu.trans hhash⟩
      · exact .inr ⟨later, ev, [], rfl, hhash ▸ hrem⟩
    · exact .inr ⟨mid, e, rest ++ [ev], by simp, hrem⟩

theorem ended_append (settings : Settings) (start : Instant) (es later : List Event) {i : Nat}
    {result : Except Error RotatedToken} (hi : (run settings start es).Ended i value result) :
    (run settings start (es ++ later)).Ended i value result :=
  Returned.append (c := .rotate value) hi later

/-- A call that ends in the course of a run ends at some event of it. -/
theorem ends_at (settings : Settings) (start : Instant) (es later : List Event) {j : Nat}
    {result : Except Error RotatedToken} (hbefore : ∀ x, ¬ (run settings start es).Ended j value x)
    (hafter : (run settings start (es ++ later)).Ended j value result) :
    ∃ mid ev rest, later = mid ++ ev :: rest ∧
      (∀ x, ¬ (run settings start (es ++ mid)).Ended j value x) ∧
      ((run settings start (es ++ mid)).step settings ev).Ended j value result := by
  obtain ⟨mid, ev, rest, rfl, hopen, x, hx⟩ :=
    begins_at (P := fun fs => ∃ x, (run settings start fs).Ended j value x)
      (by simpa using hbefore) ⟨result, hafter⟩
  refine ⟨mid, ev, rest, rfl, by simpa using hopen, ?_⟩
  have hlater := ended_append settings start _ rest hx
  rw [List.append_assoc, List.append_assoc, List.singleton_append] at hlater
  rwa [← run_concat, ← hlater.unique hafter]

/-- The row of a value that has been exchanged is stored, unless some event has deleted it. -/
theorem row_or_removed (settings : Settings) (start : Instant) (es : List Event) {i : Nat}
    {r : RotatedToken} (hi : (run settings start es).Ended i value (.ok r)) :
    (∃ t ∈ (run settings start es).memory.tokens, t.hash = Opaque.hash value) ∨
      ∃ before ev after, es = before ++ ev :: after ∧
        (run settings start before).Removes ev (Opaque.hash value) := by
  have hnone : ∀ x, ¬ (run settings start []).Ended i value x := by
    rintro x ⟨held, hx⟩
    simp [run] at hx
  obtain ⟨mid, ev, rest, rfl, hopen, hend⟩ := ends_at settings start [] es hnone hi
  -- the row is stored when the exchange is granted, and then until an event deletes it
  have hreg := regular_run settings start mid
  have hs := step_step settings (run settings start mid) ev
  obtain ⟨-, -, ⟨t, ht, hhash⟩, -⟩ :=
    (hs.returns hreg.kept hreg.proper hopen hend).granted hs hreg.kept
  rw [← run_concat] at ht
  have hstays := row_stays_or_removed settings start (mid ++ [ev]) rest ht
  rw [hhash, List.append_assoc, List.singleton_append] at hstays
  rcases hstays with hrow | ⟨more, e, after, rfl, hrem⟩
  · exact .inl hrow
  · exact .inr ⟨mid ++ [ev] ++ more, e, after, by simp, hrem⟩

/-- If the row of a value that has been exchanged is not stored, some event has deleted it, and a
call that has not ended had not ended then. -/
theorem removed_before (settings : Settings) (start : Instant) (es : List Event) {i j : Nat}
    {r : RotatedToken} (hi : (run settings start es).Ended i value (.ok r))
    (hnone : ∀ t ∈ (run settings start es).memory.tokens, t.hash ≠ Opaque.hash value)
    (hj : ∀ x, ¬ (run settings start es).Ended j value x) :
    ∃ before ev after, es = before ++ ev :: after ∧
      (∀ x, ¬ (run settings start (before ++ [ev])).Ended j value x) ∧
      (run settings start before).Removes ev (Opaque.hash value) := by
  rcases row_or_removed settings start es hi with ⟨t, ht, hhash⟩ | ⟨before, ev, after, rfl, hrem⟩
  · exact absurd hhash (hnone t ht)
  · refine ⟨before, ev, after, rfl, fun x hx => hj x ?_, hrem⟩
    have hlater := ended_append settings start (before ++ [ev]) after hx
    rwa [List.append_assoc, List.singleton_append] at hlater

/-! ## Later calls -/

theorem Ended.accepts (hp : ∀ th ∈ σ.threads, th.Proper settings) {i : Nat} {r : RotatedToken}
    (hi : σ.Ended i value (.ok r)) : Accepts settings value := by
  obtain ⟨held, hi⟩ := hi
  rcases hp _ (List.mem_of_getElem? hi) with ⟨-, e, he⟩ | ⟨ha, -⟩
  · cases he
  · exact ha

/-- Once the hash of an accepted value is used, a call that exchanges it is refused. -/
theorem Returns.refused {j : Nat} {result : Except Error RotatedToken}
    (h : Returns settings σ σ' value ev j result) (hk : σ.Kept) (ha : Accepts settings value)
    (hu : σ.Used (Opaque.hash value)) :
    ∃ e, result = .error e ∧ (e.kind = .replayDetected ∨ e.kind = .sessionRevoked ∨
      (e.kind = .invalidToken ∧ ∀ t ∈ σ.memory.tokens, t.hash ≠ Opaque.hash value)) := by
  cases h with
  | unaccepted hn => exact absurd ha hn
  | answered _ _ hx hagrees =>
    obtain ⟨e, rfl, hkind⟩ := hx.refused_of_spent hk.sound hu.2
    cases hagrees
    exact ⟨e, rfl, hkind⟩

/-! ## Single use -/

/-- For every run, with any number of calls whose requests are answered in any order, and for
every opaque value:
at most one call is granted its exchange;
a call that has not ended when another has been granted the exchange is refused, because the token
is reused, because its session is revoked, or because it is unknown, and then, before this call
ended, an event has deleted its row;
and when a call ends because the token is reused, the session of the token is closed. -/
theorem single_use (settings : Settings) (start : Instant) (es : List Event) (value : String) :
    (∀ i j r r', (run settings start es).Ended i value (.ok r) →
      (run settings start es).Ended j value (.ok r') → i = j) ∧
    (∀ later i j r result, (run settings start es).Ended i value (.ok r) →
      (∀ x, ¬ (run settings start es).Ended j value x) →
      (run settings start (es ++ later)).Ended j value result →
      ∃ e, result = .error e ∧ (e.kind = .replayDetected ∨ e.kind = .sessionRevoked ∨
        (e.kind = .invalidToken ∧ ∃ before ev after, es ++ later = before ++ ev :: after ∧
          (∀ x, ¬ (run settings start (before ++ [ev])).Ended j value x) ∧
          (run settings start before).Removes ev (Opaque.hash value)))) ∧
    (∀ ev j e, (∀ x, ¬ (run settings start es).Ended j value x) →
      (run settings start (es ++ [ev])).Ended j value (.error e) → e.kind = .replayDetected →
      ∃ t, (run settings start (es ++ [ev])).memory.tokenByHash? (Opaque.hash value) = some t ∧
        (run settings start (es ++ [ev])).memory.Closed t.session) := by
  refine ⟨fun i j r r' hi hj => (regular_run settings start es).single i j value r r' hi hj, ?_, ?_⟩
  · intro later i j r result hi hbefore hafter
    obtain ⟨mid, ev, rest, rfl, hmid, hend⟩ := ends_at settings start es later hbefore hafter
    have hi := ended_append settings start es mid hi
    have hreg := regular_run settings start (es ++ mid)
    have hs := step_step settings (run settings start (es ++ mid)) ev
    have hret := hs.returns hreg.kept hreg.proper hmid hend
    obtain ⟨e, rfl, hkind⟩ :=
      hret.refused hreg.kept (hi.accepts hreg.proper) (hreg.used i value r hi)
    refine ⟨e, rfl, hkind.imp_right fun hkind => hkind.imp_right fun ⟨hinvalid, hnone⟩ => ?_⟩
    obtain ⟨before, gone, after, hsplit, hopen, hrem⟩ :=
      removed_before settings start (es ++ mid) hi hnone hmid
    refine ⟨hinvalid, before, gone, after ++ ev :: rest, ?_, hopen, hrem⟩
    rw [← List.append_assoc, hsplit]
    simp
  · intro ev j e hbefore hafter hkind
    have hreg := regular_run settings start es
    have hs := step_step settings (run settings start es) ev
    rw [run_concat] at hafter ⊢
    cases hs.returns hreg.kept hreg.proper hbefore hafter with
    | unaccepted _ hk => exact absurd hkind hk
    | answered _ _ hx ha =>
      cases ha with
      | refused =>
        rcases hx.refused with ⟨-, hk⟩ | ⟨-, hreuse⟩
        · exact absurd hkind hk
        · exact hreuse.closed hreg.kept.sound (hreg.kept.step hs).sound

/-- With which refusal an exchange has ended, if it has ended and with one. -/
def outcome? (σ : System) (i : Nat) (value : String) : Option (Option ErrorKind) :=
  match σ.threads[i]? with
  | some ⟨.rotate v, .pure result, _⟩ => if v = value then some (refusal? result) else none
  | _ => none

theorem outcome?_eq_some {i : Nat} {k : Option ErrorKind} :
    σ.outcome? i value = some k ↔ ∃ result, σ.Ended i value result ∧ refusal? result = k := by
  constructor
  · intro h
    unfold outcome? at h
    split at h
    · rename_i v result held hth
      split at h
      · rename_i hv
        subst hv
        exact ⟨result, ⟨held, hth⟩, Option.some.inj h⟩
      · cases h
    · cases h
  · rintro ⟨result, ⟨held, hth⟩, rfl⟩
    simp only [outcome?, hth, if_true]
    rfl

theorem not_ended_of_outcome? {i : Nat} (h : σ.outcome? i value = none)
    (x : Except Error RotatedToken) : ¬ σ.Ended i value x := by
  intro hx
  rw [outcome?_eq_some.mpr ⟨x, hx, rfl⟩] at h
  cases h

theorem granted_of_outcome? {i : Nat} (h : σ.outcome? i value = some none) :
    ∃ r, σ.Ended i value (.ok r) := by
  obtain ⟨result, hend, hkind⟩ := outcome?_eq_some.mp h
  cases result with
  | ok r => exact ⟨r, hend⟩
  | error e => cases hkind

/-- A session with a first token, and two calls that exchange this token. The first of them has
been granted the exchange when the second is about to ask the store. -/
def exchangedTwice : List Event :=
  [.addUser ⟨1⟩, .call (.createSession ⟨1⟩ none), .go 0 ⟨7⟩ "", .go 0 ⟨0⟩ "", .go 0 ⟨0⟩ "",
    .call (.issueDefault ⟨7⟩), .go 1 ⟨0⟩ "a", .go 1 ⟨0⟩ "", .go 1 ⟨11⟩ "", .go 1 ⟨0⟩ "",
    .call (.rotate "a"), .call (.rotate "a"), .go 2 ⟨0⟩ "b", .go 3 ⟨0⟩ "c", .go 2 ⟨0⟩ "",
    .go 3 ⟨0⟩ "", .go 2 ⟨12⟩ "", .go 3 ⟨13⟩ "", .go 2 ⟨0⟩ ""]

/-- The system after these events and some more. -/
def afterwards (more : List Event) : System :=
  run { database := { url := "" } } ⟨0, false⟩ (exchangedTwice ++ more)

/-- At its last request the second call is refused because the token is reused. -/
theorem second_call_replayed :
    (∀ x, ¬ (afterwards []).Ended 3 "a" x) ∧
      ∃ e, (afterwards [.go 3 ⟨0⟩ ""]).Ended 3 "a" (.error e) ∧ e.kind = .replayDetected := by
  have hbefore : (afterwards []).outcome? 3 "a" = none := by decide +kernel
  have hafter : (afterwards [.go 3 ⟨0⟩ ""]).outcome? 3 "a" = some (some .replayDetected) := by
    decide +kernel
  refine ⟨not_ended_of_outcome? hbefore, ?_⟩
  obtain ⟨result, hend, hkind⟩ := outcome?_eq_some.mp hafter
  cases result with
  | ok r => cases hkind
  | error e => exact ⟨e, hend, Option.some.inj hkind⟩

/-- The first call has been granted the exchange. -/
theorem first_call_granted : ∃ r, (afterwards []).Ended 2 "a" (.ok r) :=
  granted_of_outcome? (by decide +kernel)

/-- The second call is refused after the first has been granted the exchange. It is because the
token is reused, and the session is closed. -/
theorem single_use_replayed :
    (∀ result, (afterwards [.go 3 ⟨0⟩ ""]).Ended 3 "a" result → ∃ e, result = .error e ∧
      (e.kind = .replayDetected ∨ e.kind = .sessionRevoked ∨ e.kind = .invalidToken)) ∧
    ∃ e t, (afterwards [.go 3 ⟨0⟩ ""]).Ended 3 "a" (.error e) ∧ e.kind = .replayDetected ∧
      (afterwards [.go 3 ⟨0⟩ ""]).memory.tokenByHash? (Opaque.hash "a") = some t ∧
      (afterwards [.go 3 ⟨0⟩ ""]).memory.Closed t.session := by
  obtain ⟨hopen, e, hend, hkind⟩ := second_call_replayed
  obtain ⟨r, hgranted⟩ := first_call_granted
  obtain ⟨-, hlater, hreplay⟩ :=
    single_use { database := { url := "" } } ⟨0, false⟩ exchangedTwice "a"
  constructor
  · intro result hresult
    obtain ⟨e, he, hreasons⟩ := hlater _ 2 3 r result hgranted hopen hresult
    exact ⟨e, he, hreasons.imp_right fun hreasons => hreasons.imp_right And.left⟩
  · obtain ⟨t, ht, hclosed⟩ := hreplay _ 3 e hopen hend hkind
    exact ⟨e, t, hend, hkind, ht, hclosed⟩

end SessionKeeper.Service.System
