import SessionKeeper.Proofs.Service.History
import SessionKeeper.Proofs.Service.Inspection
import SessionKeeper.Proofs.Service.SingleUse

/-!
# What is over stays over

A token whose check has failed never passes it again, as long as the clock is not set back, and a
session that has been revoked never comes back. Both follow from what no step can undo: of the rows
with a settled hash each is spent, expired or without an active session (`Dead`), and of the
sessions with a settled identifier each is revoked (`Barred`). Nothing is exchanged from then on, but
by a call that has been told an earlier instant and has yet to ask the store.
-/

namespace SessionKeeper

theorem Token.isExpiredAt_mono {t : Token} {now later : Instant} (hle : now ≤ later)
    (h : t.isExpiredAt now = true) : t.isExpiredAt later = true := by
  simp only [Token.isExpiredAt, decide_eq_true_eq] at h ⊢
  exact Int.le_trans h hle

namespace Service.System

variable {settings : Settings} {start : Instant} {σ σ' : System} {ev : Event}
  {es later : List Event} {value : String}

/-! ## The clock -/

/-- The clock is never set back. -/
def Forward (settings : Settings) (start : Instant) (es : List Event) : Prop :=
  ∀ before now after, es = before ++ .setClock now :: after →
    (run settings start before).clock ≤ now

theorem Forward.before (h : Forward settings start (es ++ later)) : Forward settings start es :=
  fun before now after he => h before now (after ++ later) (by simp [he])

theorem Forward.clock_le (h : Forward settings start (es ++ later)) :
    (run settings start es).clock ≤ (run settings start (es ++ later)).clock := by
  induction later using List.reverseRecOn with
  | nil => rw [List.append_nil]; exact Int.le_refl _
  | append_singleton later ev ih =>
    rw [← List.append_assoc] at h ⊢
    refine Int.le_trans (ih h.before) ?_
    rw [run_concat]
    have hs := step_step settings (run settings start (es ++ later)) ev
    generalize (run settings start (es ++ later)).step settings ev = σ' at hs
    cases hs with
    | clockSet now => exact h _ now [] rfl
    | idle | userAdded | userRemoved | called | stored | answered => exact Int.le_refl _

theorem Forward.concat (h : Forward settings start es) (ev : Event)
    (hev : ∀ now, ev = .setClock now → (run settings start es).clock ≤ now) :
    Forward settings start (es ++ [ev]) := by
  intro before now after he
  rcases List.eq_nil_or_concat after with rfl | ⟨after, e, rfl⟩
  · obtain ⟨rfl, hlast⟩ := List.append_inj' he rfl
    exact hev now (List.cons.inj hlast).1
  · rw [List.concat_eq_append, ← List.cons_append, ← List.append_assoc] at he
    exact h before now after (List.append_inj' he rfl).1

theorem forward_nil (settings : Settings) (start : Instant) : Forward settings start [] := by
  intro before now after he
  simp at he

theorem Forward.append_still (h : Forward settings start es) (later : List Event)
    (hstill : ∀ now, Event.setClock now ∉ later) : Forward settings start (es ++ later) := by
  induction later using List.reverseRecOn with
  | nil => rwa [List.append_nil]
  | append_singleton later ev ih =>
    rw [← List.append_assoc]
    refine (ih fun now hm => hstill now (by simp [hm])).concat ev fun now he => ?_
    exact absurd (by simp [he]) (hstill now)

/-- A call that has been told an instant at which the clock no longer stood has been told it
before. -/
theorem Told.earlier {j : Nat} {now : Instant} (h : Told settings start (es ++ later) j now)
    (hclock : Forward settings start (es ++ later)) (hnow : now < (run settings start es).clock) :
    Told settings start es j now := by
  obtain ⟨before, id, v, after, he, hasks, hread⟩ := h
  rcases List.append_eq_append_iff.mp he with ⟨mid, rfl, -⟩ | ⟨mid, rfl, hmid⟩
  · -- the clock has not gone back since
    rw [he] at hclock
    have hle := hclock.before.clock_le
    rw [hread] at hle
    exact absurd hnow (Int.not_lt.mpr hle)
  · cases mid with
    | nil =>
      rw [List.append_nil] at hnow
      rw [hread] at hnow
      exact absurd hnow (Int.lt_irrefl _)
    | cons e mid =>
      obtain ⟨rfl, -⟩ := List.cons.inj hmid
      exact ⟨before, id, v, mid, rfl, hasks, hread⟩

/-! ## Dead tokens -/

/-- Whether a value can be exchanged, as the service says at this moment. -/
def check (σ : System) (value : String) : Except Error Bool :=
  (Scene.perform ⟨σ.memory, { clock := σ.clock, draw := fun _ => [] }⟩
    (Tokens.isCurrentAndValid value)).1

theorem check_eq (σ : System) (value : String) :
    σ.check value =
      .ok (!Text.allBlank value && σ.memory.isCurrentAndValid (Opaque.hash value) σ.clock) :=
  Scene.perform_isCurrentAndValid _ value

/-- At the instant and later no row with the hash can be exchanged, and there will be no other row
with it. -/
def Dead (σ : System) (now : Instant) (hash : Hash) : Prop :=
  σ.Settled (.hash hash) ∧ ∀ t ∈ σ.memory.tokens, t.hash = hash →
    t.isSpent = true ∨ t.isExpiredAt now = true ∨ σ.memory.Revoked t.session

theorem dead_of_invalid (hk : σ.Kept) {now : Instant} {hash : Hash}
    (hs : σ.Settled (.hash hash)) (h : σ.memory.isCurrentAndValid hash now = false) :
    σ.Dead now hash := by
  refine ⟨hs, fun t ht hhash => ?_⟩
  obtain ⟨s, hsm, hid⟩ := hk.sound.owned.session t ht
  have hfound := hk.sound.tokenByHash?_eq_some.mpr ⟨ht, hhash⟩
  have hsession := hk.sound.orderly.session?_eq_some.mpr ⟨hsm, hid⟩
  cases hu : t.isSpent with
  | true => exact .inl rfl
  | false =>
    cases he : t.isExpiredAt now with
    | true => exact .inr (.inl rfl)
    | false =>
      refine .inr (.inr ⟨s, hsm, hid, ?_⟩)
      simpa [Memory.isCurrentAndValid, hfound, hsession, hu, he] using h

theorem Dead.invalid (hk : σ.Kept) {now later : Instant} {hash : Hash} (h : σ.Dead now hash)
    (hle : now ≤ later) : σ.memory.isCurrentAndValid hash later = false := by
  cases hfound : σ.memory.tokenByHash? hash with
  | none => simp [Memory.isCurrentAndValid, hfound]
  | some t =>
    obtain ⟨ht, hhash⟩ := hk.sound.tokenByHash?_eq_some.mp hfound
    rcases h.2 t ht hhash with hu | he | ⟨s, hs, hid, hr⟩
    · simp [Memory.isCurrentAndValid, hfound, hu]
    · simp [Memory.isCurrentAndValid, hfound, Token.isExpiredAt_mono hle he]
    · have hsession := hk.sound.orderly.session?_eq_some.mpr ⟨hs, hid⟩
      simp [Memory.isCurrentAndValid, hfound, hsession, hr]

/-- A revoked session of which there is still a token is still there and revoked. -/
theorem Step.revoked (h : Step settings σ ev σ') (hk : σ.Kept) {u : Token}
    (hu : u ∈ σ'.memory.tokens) (hr : σ.memory.Revoked u.session) :
    σ'.memory.Revoked u.session := by
  obtain ⟨x, hx, hid⟩ := (hk.step h).sound.owned.session u hu
  rcases h.memory with hm | ⟨o, -, hm⟩
  · rwa [hm]
  · rw [hm] at hx ⊢
    have e := hk.sound.orderly.apply_effect o
    exact ⟨x, hx, hid, e.revoked_stays hk.sound.orderly hr hx hid⟩

theorem Step.dead (h : Step settings σ ev σ') (hk : σ.Kept) {now : Instant} {hash : Hash}
    (hd : σ.Dead now hash) : σ'.Dead now hash := by
  refine ⟨h.settled hd.1, fun u hu hhash => ?_⟩
  rcases hk.custody.row_before hk.sound.orderly h hu with ⟨t, ht, ha⟩ | hn
  · rcases hd.2 t ht (by rw [← ha.hash, hhash]) with hspent | hexpired | hrevoked
    · exact .inl (ha.isSpent hspent)
    · refine .inr (.inl ?_)
      rwa [Token.isExpiredAt, ha.expiresAt]
    · rw [← ha.session] at hrevoked
      exact .inr (.inr (h.revoked hk hu hrevoked))
  · exact absurd (hhash ▸ hd.1) hn

theorem dead_run {now : Instant} {hash : Hash} (hd : (run settings start es).Dead now hash)
    (later : List Event) : (run settings start (es ++ later)).Dead now hash :=
  (run_after (I := fun σ => σ.Kept ∧ σ.Dead now hash) ⟨kept_run settings start es, hd⟩
    (fun h hs => ⟨h.1.step hs, hs.dead h.1 h.2⟩) later).2

/-- What is granted of a dead token is granted as of an instant before its expiry. -/
theorem Dead.granted {now : Instant} {told : Instant → Prop} {j : Nat} {r : RotatedToken}
    (hk : σ.Kept) (hd : σ.Dead now (Opaque.hash value))
    (h : Ends settings told σ j (.rotate value) (.ok r) ev) :
    told r.record.issuedAt ∧ ∃ t ∈ σ.memory.tokens, t.hash = Opaque.hash value ∧
      r.record.issuedAt < t.expiresAt ∧ t.expiresAt ≤ now := by
  obtain ⟨t, s, hfound, ha, hu, he, htold⟩ := h.exchanged hk.sound.orderly
  obtain ⟨ht, hhash⟩ := hk.sound.tokenByHash?_eq_some.mp hfound
  simp only [Token.isExpiredAt, decide_eq_false_iff_not] at he
  refine ⟨htold, t, ht, hhash, Int.not_le.mp he, ?_⟩
  rcases hd.2 t ht hhash with hspent | hexpired | hrevoked
  · rw [hu] at hspent
    cases hspent
  · simpa [Token.isExpiredAt] using hexpired
  · exact absurd ha (hk.sound.orderly.not_active_of_revoked hrevoked)

/-! ## Barred sessions -/

/-- A session with the identifier is revoked, if it is still there, and there will be no other. -/
def Barred (σ : System) (id : Uuid) : Prop :=
  σ.Settled (.id id) ∧ ∀ s ∈ σ.memory.sessions, s.id = id → s.isRevoked = true

theorem Barred.not_active {id : Uuid} (h : σ.Barred id) (s : Session) :
    ¬ σ.memory.Active id s := by
  intro ha
  obtain ⟨hs, hid⟩ := Memory.mem_of_session? ha.1
  have hactive := ha.2
  rw [h.2 s hs hid] at hactive
  cases hactive

theorem barred_of_revoked {s : Session} (hs : s ∈ (run settings start es).memory.sessions)
    (hr : s.isRevoked = true) : (run settings start es).Barred s.id := by
  refine ⟨session_settled settings start es hs, fun x hx hid => ?_⟩
  rwa [eq_of_key_eq (kept_run settings start es).sound.orderly.sessionIds hx hs hid]

theorem barred_run {id : Uuid} (h : (run settings start es).Barred id) (later : List Event) :
    (run settings start (es ++ later)).Barred id := by
  induction later using List.reverseRecOn with
  | nil => rwa [List.append_nil]
  | append_singleton later ev ih =>
    rw [← List.append_assoc]
    refine ⟨?_, fun x hx hid => ?_⟩
    · rw [run_concat]
      exact (step_step settings _ ev).settled ih.1
    · rcases session_before_or_created hx with ⟨s, hs, ha⟩ | ⟨hn, -⟩
      · exact ha.isRevoked (ih.2 s hs (by rw [← ha.id, hid]))
      · exact absurd (hid ▸ ih.1) hn

/-- Tokens with one hash belong to one session, also if they are stored at different times. -/
theorem session_of_hash {t u : Token} (ht : t ∈ (run settings start es).memory.tokens)
    (hu : u ∈ (run settings start (es ++ later)).memory.tokens) (hhash : u.hash = t.hash) :
    u.session = t.session := by
  have hk := kept_run settings start es
  obtain ⟨v, hv, ha⟩ := row_ancestor (hk.custody.stored t ht).2 hu hhash
  have hvt : v = t :=
    hk.sound.orderly.token_eq hv ht (hk.sound.indexed.id_eq hv ht (ha.hash.symm.trans hhash))
  rw [ha.session, hvt]

/-- In the course of the run a token of the session has been stored with the hash. -/
def Holds (settings : Settings) (start : Instant) (es : List Event) (session : Uuid) (hash : Hash) :
    Prop :=
  ∃ before after t, es = before ++ after ∧ t ∈ (run settings start before).memory.tokens ∧
    t.hash = hash ∧ t.session = session

theorem Holds.session {session : Uuid} {hash : Hash} (h : Holds settings start es session hash)
    (before after : List Event) (he : es = before ++ after) {u : Token}
    (hu : u ∈ (run settings start before).memory.tokens) (hhash : u.hash = hash) :
    u.session = session := by
  obtain ⟨first, rest, t, rfl, ht, rfl, rfl⟩ := h
  rcases List.append_eq_append_iff.mp he with ⟨mid, rfl, -⟩ | ⟨mid, rfl, -⟩
  · exact session_of_hash ht hu hhash
  · exact (session_of_hash hu ht hhash.symm).symm

/-! ## No resurrection -/

/-- A call that has been told something has been made. -/
theorem Told.made {j : Nat} {now : Instant} (h : Told settings start es j now) :
    j < (run settings start es).threads.length := by
  obtain ⟨before, id, v, after, rfl, ⟨c, k, held, hj⟩, -⟩ := h
  refine run_after (I := fun σ => j < σ.threads.length)
    (List.getElem?_eq_some_iff.mp hj).1 (fun hlt hs => ?_) _
  cases hs with
  | idle | clockSet | userAdded | userRemoved => exact hlt
  | called c => simp only [List.length_append]; omega
  | stored | answered => simpa using hlt

/-- The call has been told an instant before the token with the hash expired, by which it can still
be granted the exchange when the time is over. -/
def Late (settings : Settings) (start : Instant) (es : List Event) (j : Nat) (hash : Hash)
    (now : Instant) : Prop :=
  Told settings start es j now ∧ ∃ t ∈ (run settings start es).memory.tokens, t.hash = hash ∧
    now < t.expiresAt ∧ t.expiresAt ≤ (run settings start es).clock

theorem Dead.final {j : Nat} {r : RotatedToken}
    (hd : (run settings start es).Dead (run settings start es).clock (Opaque.hash value))
    (hclock : Forward settings start (es ++ later))
    (hafter : (run settings start (es ++ later)).Ended j value (.ok r)) :
    (run settings start es).Ended j value (.ok r) ∨
      Late settings start es j (Opaque.hash value) r.record.issuedAt := by
  by_cases hbefore : (run settings start es).Ended j value (.ok r)
  · exact .inl hbefore
  · right
    -- the token is still dead at the event at which the exchange is granted
    obtain ⟨mid, ev, rest, rfl, hends⟩ := ends_between (c := .rotate value) hbefore hafter
    obtain ⟨htold, u, hu, hhash, hlt, hle⟩ :=
      (dead_run hd mid).granted (kept_run settings start _) hends
    obtain ⟨t, ht, ha⟩ := row_ancestor hd.1 hu hhash
    rw [ha.expiresAt] at hlt hle
    rw [← List.append_assoc] at hclock
    have hbefore := htold.earlier hclock.before (Int.lt_of_lt_of_le hlt hle)
    exact ⟨hbefore, t, ht, ha.hash.symm.trans hhash, hlt, hle⟩

/-- Once the check of a value that has been handed out fails, it fails at every later moment, and
only a late call is still granted the exchange. -/
theorem final_of_check (hclock : Forward settings start (es ++ later)) {i : Nat} {c : Call}
    {record : Token} (hout : (run settings start es).HandsOut i c value record)
    (hcheck : (run settings start es).check value = .ok false) :
    (run settings start (es ++ later)).check value = .ok false ∧
      ∀ j r, (run settings start (es ++ later)).Ended j value (.ok r) →
        (run settings start es).Ended j value (.ok r) ∨
        Late settings start es j (Opaque.hash value) r.record.issuedAt := by
  rw [check_eq] at hcheck ⊢
  cases hblank : Text.allBlank value with
  | true =>
    -- nothing is granted for a blank value
    refine ⟨rfl, fun j r hj => ?_⟩
    obtain ⟨hb, -⟩ := hj.accepts (regular_run settings start (es ++ later)).proper
    rw [hblank] at hb
    cases hb
  | false =>
    have hinvalid : (run settings start es).memory.isCurrentAndValid (Opaque.hash value)
        (run settings start es).clock = false := by
      simpa [hblank] using hcheck
    have hdead := dead_of_invalid (kept_run settings start es) hout.settled hinvalid
    have hlater := (dead_run hdead later).invalid (kept_run settings start _) hclock.clock_le
    exact ⟨by rw [hlater]; simp, fun j r hj => hdead.final hclock hj⟩

theorem Barred.final {id : Uuid} {j : Nat} {c : Call} {x : c.Result}
    (hb : (run settings start es).Barred id) (hc : ∀ other, c.Issues other → other = id)
    (hx : c.hands x ≠ none) (hne : ∀ value, c ≠ .rotate value)
    (hafter : (run settings start (es ++ later)).Returned j c (.ok x)) :
    (run settings start es).Returned j c (.ok x) := by
  by_contra hbefore
  obtain ⟨mid, ev, rest, rfl, hends⟩ := ends_between hbefore hafter
  obtain ⟨s, ha⟩ := hends.issued (kept_run settings start _).sound.orderly hc hx hne
  exact (barred_run hb mid).not_active s ha

/-- A value whose token belongs to a barred session is not exchanged any more. -/
theorem Barred.not_exchanged {id : Uuid} {j : Nat} {r : RotatedToken}
    (hb : (run settings start es).Barred id)
    (hholds : Holds settings start (es ++ later) id (Opaque.hash value))
    (hafter : (run settings start (es ++ later)).Ended j value (.ok r)) :
    (run settings start es).Ended j value (.ok r) := by
  by_contra hbefore
  obtain ⟨mid, ev, rest, rfl, hends⟩ := ends_between (c := .rotate value) hbefore hafter
  have hk := kept_run settings start (es ++ mid)
  obtain ⟨t, s, hfound, ha, -⟩ := hends.exchanged hk.sound.orderly
  obtain ⟨ht, hhash⟩ := hk.sound.tokenByHash?_eq_some.mp hfound
  rw [hholds.session (es ++ mid) (ev :: rest) (by simp) ht hhash] at ha
  exact (barred_run hb mid).not_active s ha

theorem Barred.invalid {id : Uuid} (hb : (run settings start es).Barred id)
    (hholds : Holds settings start es id (Opaque.hash value)) :
    (run settings start es).check value = .ok false := by
  have hk := kept_run settings start es
  rw [check_eq]
  cases hfound : (run settings start es).memory.tokenByHash? (Opaque.hash value) with
  | none => simp [Memory.isCurrentAndValid, hfound]
  | some t =>
    obtain ⟨ht, hhash⟩ := hk.sound.tokenByHash?_eq_some.mp hfound
    obtain ⟨s, hs, hid⟩ := hk.sound.owned.session t ht
    have hsession := hk.sound.orderly.session?_eq_some.mpr ⟨hs, hid⟩
    have hr := hb.2 s hs (hid.trans (hholds.session es [] (by simp) ht hhash))
    simp [Memory.isCurrentAndValid, hfound, hsession, hr]

/-- For every run in which the clock is never set back:
once the check of an opaque value that has been handed out fails, it fails at every later moment,
and no call that is made from then on is granted an exchange of the value; nor is one that has been
made before, unless the token has merely expired and the call, told the time before that, has yet to
ask the store (`Late`);
once a session is revoked, no call is granted any more that issues a token of it or exchanges one
of its tokens, whenever it was made, and the check of each of its tokens fails at every later
moment. -/
theorem no_resurrection (hclock : Forward settings start (es ++ later)) :
    (∀ value i c record, (run settings start es).HandsOut i c value record →
      (run settings start es).check value = .ok false →
      (run settings start (es ++ later)).check value = .ok false ∧
      (∀ j r, (run settings start es).threads.length ≤ j →
        ¬ (run settings start (es ++ later)).Ended j value (.ok r)) ∧
      ∀ j r, (run settings start (es ++ later)).Ended j value (.ok r) →
        (run settings start es).Ended j value (.ok r) ∨
        Late settings start es j (Opaque.hash value) r.record.issuedAt) ∧
    (∀ s ∈ (run settings start es).memory.sessions, s.isRevoked = true →
      (∀ j lifetime h,
        (run settings start (es ++ later)).Returned j (.issue s.id lifetime) (.ok h) →
        (run settings start es).Returned j (.issue s.id lifetime) (.ok h)) ∧
      (∀ j h, (run settings start (es ++ later)).Returned j (.issueDefault s.id) (.ok h) →
        (run settings start es).Returned j (.issueDefault s.id) (.ok h)) ∧
      ∀ value, Holds settings start (es ++ later) s.id (Opaque.hash value) →
        (run settings start (es ++ later)).check value = .ok false ∧
        ∀ j r, (run settings start (es ++ later)).Ended j value (.ok r) →
          (run settings start es).Ended j value (.ok r)) := by
  refine ⟨fun value i c record hout hcheck => ?_, fun s hs hr => ?_⟩
  · obtain ⟨hlater, hgranted⟩ := final_of_check hclock hout hcheck
    refine ⟨hlater, fun j r hj hend => ?_, hgranted⟩
    -- such a call had not been made
    rcases hgranted j r hend with ⟨held, hended⟩ | ⟨htold, -⟩
    · exact absurd (List.getElem?_eq_some_iff.mp hended).1 (Nat.not_lt.mpr hj)
    · exact absurd htold.made (Nat.not_lt.mpr hj)
  · have hb := barred_of_revoked hs hr
    refine ⟨fun j lifetime h hj => ?_, fun j h hj => ?_, fun value hholds => ⟨?_, fun j r hj => ?_⟩⟩
    · exact hb.final (fun _ hi => hi.symm) (by simp [Call.hands]) (by simp) hj
    · exact hb.final (fun _ hi => hi.symm) (by simp [Call.hands]) (by simp) hj
    · exact (barred_run hb later).invalid hholds
    · exact hb.not_exchanged hholds hj

/-- The second call presents the token again, and later another one is to be issued. -/
def askedAgain : List Event :=
  [.setClock ⟨5, false⟩, .call (.issueDefault ⟨7⟩), .go 4 ⟨0⟩ "d", .go 4 ⟨0⟩ "", .go 4 ⟨14⟩ "",
    .go 4 ⟨0⟩ ""]

/-- After the reuse of a token its check keeps failing, and its session is issued no other. -/
theorem no_resurrection_replayed :
    (afterwards ([.go 3 ⟨0⟩ ""] ++ askedAgain)).check "a" = .ok false ∧
      ∀ h, ¬ (afterwards ([.go 3 ⟨0⟩ ""] ++ askedAgain)).Returned 4 (.issueDefault ⟨7⟩)
        (.ok h) := by
  have hclock : Forward { database := { url := "" } } ⟨0, false⟩
      ((exchangedTwice ++ [.go 3 ⟨0⟩ ""]) ++ askedAgain) := by
    have hstill := (forward_nil { database := { url := "" } } ⟨0, false⟩).append_still
      (exchangedTwice ++ [.go 3 ⟨0⟩ ""]) (by simp [exchangedTwice])
    have hset := hstill.concat (.setClock ⟨5, false⟩) fun now he => by
      cases he
      decide +kernel
    rw [askedAgain, List.append_cons]
    exact hset.append_still _ (by simp)
  obtain ⟨hdead, hbarred⟩ := no_resurrection hclock
  have houts : ((afterwards [.go 3 ⟨0⟩ ""]).handed? 1).map Prod.fst = some "a" := by
    decide +kernel
  have hcheck : (afterwards [.go 3 ⟨0⟩ ""]).memory.isCurrentAndValid (Opaque.hash "a")
      (afterwards [.go 3 ⟨0⟩ ""]).clock = false := by
    decide +kernel
  have hrevoked : ((afterwards [.go 3 ⟨0⟩ ""]).memory.sessions.any
      fun s => s.id == ⟨7⟩ && s.isRevoked) = true := by
    decide +kernel
  have hcalls : (afterwards [.go 3 ⟨0⟩ ""]).threads.length = 4 := by
    decide +kernel
  rw [List.append_assoc] at hdead hbarred
  obtain ⟨⟨_, record⟩, houts, rfl⟩ := Option.map_eq_some_iff.mp houts
  obtain ⟨c, houts⟩ := handsOut_of_handed? houts
  obtain ⟨s, hs, hsession⟩ := List.any_eq_true.mp hrevoked
  simp only [Bool.and_eq_true, beq_iff_eq] at hsession
  refine ⟨(hdead "a" 1 c record houts ?_).1, fun h hret => ?_⟩
  · rw [check_eq]
    refine congrArg Except.ok ?_
    exact Bool.and_eq_false_imp.mpr fun _ => hcheck
  · have hold := (hbarred s hs hsession.2).2.1 4 h (hsession.1 ▸ hret)
    obtain ⟨held, hold⟩ := hold
    have hlt := (List.getElem?_eq_some_iff.mp hold).1
    exact absurd (hcalls ▸ hlt) (Nat.lt_irrefl 4)

/-- A token is presented, and the call has read the clock and is about to draw an identifier, when
the clock comes to the token's expiry. -/
def presentedInTime : List Event :=
  [.addUser ⟨1⟩, .call (.createSession ⟨1⟩ none), .go 0 ⟨7⟩ "", .go 0 ⟨0⟩ "", .go 0 ⟨0⟩ "",
    .call (.issueDefault ⟨7⟩), .go 1 ⟨0⟩ "a", .go 1 ⟨0⟩ "", .go 1 ⟨11⟩ "", .go 1 ⟨0⟩ "",
    .call (.rotate "a"), .go 2 ⟨0⟩ "b", .go 2 ⟨0⟩ "", .setClock ⟨2592000000000000, false⟩]

/-- The check of the token fails then, and the exchange is granted for all that. -/
theorem expired_in_flight :
    let settings : Settings := { database := { url := "" } }
    let later : List Event := [.go 2 ⟨12⟩ "", .go 2 ⟨0⟩ ""]
    Forward settings ⟨0, false⟩ (presentedInTime ++ later) ∧
      (∃ i c record, (run settings ⟨0, false⟩ presentedInTime).HandsOut i c "a" record) ∧
      (run settings ⟨0, false⟩ presentedInTime).check "a" = .ok false ∧
      (∀ x, ¬ (run settings ⟨0, false⟩ presentedInTime).Ended 2 "a" x) ∧
      ∃ r, (run settings ⟨0, false⟩ (presentedInTime ++ later)).Ended 2 "a" (.ok r) := by
  intro settings later
  have hclock : Forward settings ⟨0, false⟩ (presentedInTime ++ later) := by
    have hstill := (forward_nil settings ⟨0, false⟩).append_still presentedInTime.dropLast
      (by simp [presentedInTime])
    have hset := hstill.concat (.setClock ⟨2592000000000000, false⟩) fun now he => by
      cases he
      decide +kernel
    exact hset.append_still later (by simp [later])
  have houts : ((run settings ⟨0, false⟩ presentedInTime).handed? 1).map Prod.fst = some "a" := by
    decide +kernel
  have hinvalid : (run settings ⟨0, false⟩ presentedInTime).memory.isCurrentAndValid
      (Opaque.hash "a") (run settings ⟨0, false⟩ presentedInTime).clock = false := by
    decide +kernel
  have hbefore : (run settings ⟨0, false⟩ presentedInTime).outcome? 2 "a" = none := by
    decide +kernel
  have hafter : (run settings ⟨0, false⟩ (presentedInTime ++ later)).outcome? 2 "a" =
      some none := by
    decide +kernel
  refine ⟨hclock, ?_, ?_, not_ended_of_outcome? hbefore, granted_of_outcome? hafter⟩
  · obtain ⟨⟨_, record⟩, houts, rfl⟩ := Option.map_eq_some_iff.mp houts
    obtain ⟨c, houts⟩ := handsOut_of_handed? houts
    exact ⟨1, c, record, houts⟩
  · rw [check_eq]
    exact congrArg Except.ok (Bool.and_eq_false_imp.mpr fun _ => hinvalid)

end Service.System

end SessionKeeper
