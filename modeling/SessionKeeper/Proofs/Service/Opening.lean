import SessionKeeper.Proofs.Service.Scene
import SessionKeeper.Service.Sessions
import SessionKeeper.Store.Rehearsal

/-!
# Opening a session on a store that may fail

A session is opened in two requests: it is created, and then its first token is issued. Each of the
two is done by the store entirely or not at all, and the store keeps what the first of them has
written, whatever comes of the second. So there are three outcomes and not two: nothing is written,
a session and its token are, or a session is that has no token yet. For the last there are three
reasons (`Hitch`): the settings, the calendar, or a try at the token that was not followed by
another. Each try has its own hash, drawn after the identifier of the session and two draws for
every try before, and its own fault, if so many are to come.
-/

namespace SessionKeeper

namespace Rehearsal

/-! ## Faults -/

/-- The errors that faults will make an operation end with, in order. -/
def duesAmong (operation : String) (faults : List Fault) : List Error :=
  (faults.filter fun f => f.operation == operation).flatMap fun f =>
    List.replicate f.times f.error.copy

theorem duesAmong_cons (operation : String) (f : Fault) (faults : List Fault) :
    duesAmong operation (f :: faults) =
      (if f.operation = operation then List.replicate f.times f.error.copy else []) ++
        duesAmong operation faults := by
  by_cases hname : f.operation = operation <;> simp [duesAmong, hname]

/-- A fault that an operation does not meet is not among those to come. -/
theorem duesAmong_cons_of_not {operation : String} {f : Fault} (faults : List Fault)
    (h : ¬(f.operation = operation ∧ 0 < f.times)) :
    duesAmong operation (f :: faults) = duesAmong operation faults := by
  rw [duesAmong_cons]
  by_cases hname : f.operation = operation
  · have htimes : f.times = 0 := Nat.eq_zero_of_not_pos fun hpos => h ⟨hname, hpos⟩
    simp [htimes]
  · simp [hname]

theorem dues_of_takeFault_none {operation : String} {faults : List Fault}
    (h : takeFault operation faults = none) : duesAmong operation faults = [] := by
  induction faults with
  | nil => rfl
  | cons f faults ih =>
    rw [takeFault] at h
    split at h
    · cases h
    · rename_i hf
      rw [duesAmong_cons_of_not faults hf]
      exact ih (Option.map_eq_none_iff.mp h)

/-- A fault that is met is the next one of its operation, and those of others stay. -/
theorem dues_of_takeFault {operation : String} {faults left : List Fault} {e : Error}
    (h : takeFault operation faults = some (e, left)) :
    duesAmong operation faults = e.copy :: duesAmong operation left ∧
      ∀ other, other ≠ operation → duesAmong other left = duesAmong other faults := by
  induction faults generalizing left with
  | nil => cases h
  | cons f faults ih =>
    rw [takeFault] at h
    split at h
    · rename_i hf
      cases h
      obtain ⟨rfl, htimes⟩ := hf
      obtain ⟨n, hn⟩ := Nat.exists_eq_succ_of_ne_zero (Nat.ne_of_gt htimes)
      constructor
      · simp [duesAmong_cons, hn, List.replicate_succ]
      · intro other hother
        simp [duesAmong_cons, Ne.symm hother]
    · rename_i hf
      obtain ⟨⟨e', left'⟩, htake, heq⟩ := Option.map_eq_some_iff.mp h
      cases heq
      obtain ⟨hdues, hothers⟩ := ih htake
      constructor
      · rw [duesAmong_cons_of_not faults hf, duesAmong_cons_of_not left' hf]
        exact hdues
      · intro other hother
        rw [duesAmong_cons, duesAmong_cons, hothers other hother]

/-- The errors that an operation is still to end with. -/
def dues (s : Rehearsal) (operation : String) : List Error := duesAmong operation s.faults

/-- A request other than a purge meets the next fault of its operation, which leaves the store
alone, or the store answers it, as no fault is to come. -/
theorem answer_cases (s : Rehearsal) {r : Store.Request} (hr : r.isPurge = false) :
    ∃ a next, s.answer r = (a, next) ∧
      (∀ other, other ≠ r.operation → next.dues other = s.dues other) ∧
      ((∃ e, a = .error e ∧ s.dues r.operation = e :: next.dues r.operation ∧
          next.memory = s.memory) ∨
        s.dues r.operation = [] ∧ next.dues r.operation = [] ∧
          s.memory.answer r = (a, next.memory)) := by
  unfold answer
  simp only
  cases htake : takeFault r.operation s.faults with
  | some taken =>
    obtain ⟨e, left⟩ := taken
    obtain ⟨hdues, hothers⟩ := dues_of_takeFault htake
    exact ⟨_, _, rfl, hothers, .inl ⟨_, rfl, hdues, rfl⟩⟩
  | none =>
    have hnone : s.dues r.operation = [] := dues_of_takeFault_none htake
    cases r with
    | purgeExpired => cases hr
    | _ => exact ⟨_, _, rfl, fun _ _ => rfl, .inr ⟨hnone, hnone, rfl⟩⟩

end Rehearsal

namespace Service

/-! ## Trials -/

/-- A store in memory that can be made to fail, and the surroundings of its services. -/
structure Trial where
  /-- The store and its faults. -/
  rehearsal : Rehearsal
  /-- The clock and the draws. -/
  surroundings : Surroundings

namespace Trial

variable {α β : Type} {w w' : Trial}

/-- The rows of the store. -/
def memory (w : Trial) : Memory := w.rehearsal.memory

/-- The present instant. -/
def clock (w : Trial) : Instant := w.surroundings.clock

/-- Answer a request. -/
def answer : (r : signature.Request) → StateM Trial (signature.Answer r)
  | .inl r => modifyGet fun w =>
    ((w.rehearsal.answer r).1, { w with rehearsal := (w.rehearsal.answer r).2 })
  | .inr r => modifyGet fun w =>
    ((w.surroundings.answer r).1, { w with surroundings := (w.surroundings.answer r).2 })

/-- Run an operation from start to end. -/
def perform (w : Trial) (x : Action α) : Except Error α × Trial := execute answer x w

/-! ## Creating a session -/

/-- A session that the user can start now: nothing stored has its identifier. -/
structure Started (w : Trial) (user : Uuid) (session : Session) : Prop where
  known : w.memory.users.contains user = true
  start : ∃ id thumbprint, session = .start id user thumbprint w.clock
  new : w.memory.session? session.id = none

/-- The store with one more session. -/
def withSession (w : Trial) (session : Session) : Memory :=
  { w.memory with sessions := w.memory.sessions ++ [session] }

theorem perform_create (w : Trial) (user : Uuid) (thumbprint : Option String) :
    ∃ a w', w.perform (Sessions.create user thumbprint) = (a, w') ∧
      ((∃ e, a = .error e ∧ w'.memory = w.memory) ∨
        ∃ session, a = .ok session ∧ w.Started user session ∧
          w'.memory = w.withSession session ∧
          w'.surroundings = { w.surroundings with drawn := w.surroundings.drawn + 1 } ∧
          w'.rehearsal.dues "issue_token" = w.rehearsal.dues "issue_token") := by
  unfold Sessions.create perform
  rw [execute_liftExcept_bind]
  cases Sessions.readThumbprint? thumbprint with
  | error e => exact ⟨_, _, rfl, .inl ⟨e, rfl, rfl⟩⟩
  | ok thumbprint =>
    obtain ⟨id, hw⟩ : ∃ id, execute answer (do
          let id ← freshId
          let now ← Service.now
          store (.createSession (Session.start id user thumbprint now))) w =
        ((w.rehearsal.answer (.createSession (.start id user thumbprint w.clock))).1,
          ⟨(w.rehearsal.answer (.createSession (.start id user thumbprint w.clock))).2,
            { w.surroundings with drawn := w.surroundings.drawn + 1 }⟩) :=
      ⟨_, rfl⟩
    simp only
    rw [hw]
    obtain ⟨a, next, hanswer, hdues, hcases⟩ : ∃ (a : Except Error Session) (next : Rehearsal),
        w.rehearsal.answer (.createSession (.start id user thumbprint w.clock)) = (a, next) ∧
        next.dues "issue_token" = w.rehearsal.dues "issue_token" ∧
        ((∃ e, a = .error e ∧ next.memory = w.memory) ∨
          w.memory.createSession (.start id user thumbprint w.clock) = (a, next.memory)) := by
      obtain ⟨a, next, hanswer, hothers, hcases⟩ :=
        w.rehearsal.answer_cases (r := .createSession (.start id user thumbprint w.clock)) rfl
      have hname : "issue_token" ≠ "create_session" := by decide
      refine ⟨a, next, hanswer, hothers _ hname, ?_⟩
      rcases hcases with ⟨e, he, -, hm⟩ | ⟨-, -, hcreate⟩
      · exact .inl ⟨e, he, hm⟩
      · exact .inr hcreate
    rw [hanswer]
    refine ⟨a, _, rfl, ?_⟩
    rcases hcases with ⟨e, he, hm⟩ | hcreate
    · exact .inl ⟨e, he, hm⟩
    · rcases w.memory.createSession_cases (.start id user thumbprint w.clock) with
        ⟨e, he⟩ | ⟨hknown, hnew, hcreated⟩
      · rw [he, Prod.mk.injEq] at hcreate
        exact .inl ⟨e, hcreate.1.symm, hcreate.2.symm⟩
      · rw [hcreated, Prod.mk.injEq] at hcreate
        exact .inr ⟨_, hcreate.1.symm, ⟨hknown, ⟨id, thumbprint, rfl⟩, hnew⟩, hcreate.2.symm, rfl,
          hdues⟩

/-! ## Issuing its first token -/

/-- The hash of the `k`-th try at the first token, counted from 0. One draw has been used for the
identifier of the session, and two for each try before. -/
def hashTried (w : Trial) (k : Nat) : Hash :=
  Opaque.hash (Surroundings.opaqueOf (w.surroundings.draw (w.surroundings.drawn + 1 + 2 * k)))

/-- What the `k`-th try at the first token is refused with: the error of its fault or, when no fault
is to come any more, a collision of its hash. -/
inductive Thwarted (w : Trial) (k : Nat) : Error → Prop where
  | fault {e} (h : (w.rehearsal.dues "issue_token")[k]? = some e) : Thwarted w k e
  | taken (hnone : (w.rehearsal.dues "issue_token").length ≤ k)
      (h : w.memory.hasHash (w.hashTried k) = true) : Thwarted w k .hashCollision

/-- The reasons for which a session that has been created gets no token: the settings allow no
lifetime, the calendar ends before the token does, or a try is refused and there is none after it.
All tries before that one have collided; it has not, or it was the last that the settings allow. -/
inductive Hitch (settings : TokenSettings) (w : Trial) : Error → Prop where
  | settings {e} (h : settings.lifetime = .error e) : Hitch settings w e
  | calendar {lifetime} (hl : settings.lifetime = .ok lifetime)
      (h : w.clock.add? lifetime = none) : Hitch settings w Token.lifetimeOutOfRange
  | tries {n e} (hn : n ≤ Tokens.retries settings) (h : w.Thwarted n e)
      (hbefore : ∀ k < n, ∃ e, w.Thwarted k e ∧ Tokens.isCollision e = true)
      (hend : Tokens.isCollision e = true → n = Tokens.retries settings) : Hitch settings w e

/-- The store with one more session and a token of it. -/
def withToken (w : Trial) (session : Session) (t : Token) : Memory :=
  { w.withSession session with
    tokens := w.memory.tokens ++ [t]
    byHash := w.memory.byHash ++ [(t.hash, t.id)] }

/-- What issuing the first token of a session comes to. -/
inductive FirstIssue (settings : TokenSettings) (w : Trial) (session : Session) :
    Except Error HandedToken → Memory → Prop where
  | failed {e} (h : Hitch settings w e) :
      FirstIssue settings w session (.error e) (w.withSession session)
  | issued {lifetime n handed} (hl : settings.lifetime = .ok lifetime)
      (hn : w.surroundings.drawn ≤ n)
      (hf : Token.fresh (Surroundings.idOf (w.surroundings.draw n)) session.id
        (Opaque.hash handed.value) w.clock lifetime = .ok handed.record) :
      FirstIssue settings w session (.ok handed) ((w.withSession session).enter handed.record)

theorem perform_issueOnce (w : Trial) (policy : IssuePolicy) (session : Uuid) (lifetime : Span) :
    let value := Surroundings.opaqueOf (w.surroundings.draw w.surroundings.drawn)
    let id := Surroundings.idOf (w.surroundings.draw (w.surroundings.drawn + 1))
    let surroundings := { w.surroundings with drawn := w.surroundings.drawn + 2 }
    w.perform (Tokens.issueOnce policy session lifetime) =
      match Token.fresh id session (Opaque.hash value) w.clock lifetime with
      | .error e => (.error e, { w with surroundings })
      | .ok t =>
        (.ok ((w.rehearsal.answer (.issueToken t policy w.clock)).1.map
            fun issued => ⟨value, issued.token⟩),
          ⟨(w.rehearsal.answer (.issueToken t policy w.clock)).2, surroundings⟩) := by
  intro value id surroundings
  exact execute_issueOnce policy session lifetime w

section FirstToken

variable {settings : TokenSettings} {user : Uuid} {session : Session} {t : Token}

theorem Started.active (h : w.Started user session) :
    (w.withSession session).Active session.id session := by
  obtain ⟨id, thumbprint, rfl⟩ := h.start
  refine ⟨?_, rfl⟩
  have hnew : w.memory.sessions.find? (fun s => s.id == id) = none := h.new
  simp [Memory.session?, withSession, hnew, Session.start]

/-- A session that has just been created has no tokens. -/
theorem Started.vacant (h : w.Started user session) (hm : w.memory.Reached) :
    ∀ t ∈ w.memory.tokens, t.session ≠ session.id := by
  intro t ht he
  obtain ⟨s, hs, hid⟩ := hm.owned.session t ht
  exact find?_key_none.mp h.new s hs (hid.trans he)

theorem enter_withSession (hid : ∀ u ∈ w.memory.tokens, u.id ≠ t.id) :
    (w.withSession session).enter t = w.withToken session t :=
  Memory.ext (Memory.enter_users t) (Memory.enter_sessions t) (Memory.enter_tokens_of_new hid)
    (Memory.enter_byHash t)

/-- The session has been created, and so many tries at its first token have collided. -/
structure Awaits (w : Trial) (session : Session) (k : Nat) (v : Trial) : Prop where
  surroundings :
    v.surroundings = { w.surroundings with drawn := w.surroundings.drawn + 1 + 2 * k }
  memory : v.memory = w.withSession session
  dues : v.rehearsal.dues "issue_token" = (w.rehearsal.dues "issue_token").drop k
  collided : ∀ j < k, ∃ e, w.Thwarted j e ∧ Tokens.isCollision e = true

theorem Awaits.clock_eq {k : Nat} {v : Trial} (hv : w.Awaits session k v) : v.clock = w.clock := by
  rw [clock, hv.surroundings]
  rfl

/-- One try: it enters the token, or it is thwarted and the store stays as it is. -/
theorem Awaits.attempt {k : Nat} {v : Trial} {value : String} {lifetime : Span}
    (hv : w.Awaits session k v) (hstarted : w.Started user session) (hm : w.memory.Reached)
    (hl : settings.lifetime = .ok lifetime)
    (hvalue : value = Surroundings.opaqueOf (v.surroundings.draw v.surroundings.drawn))
    (hfresh : Token.fresh (Surroundings.idOf (v.surroundings.draw (v.surroundings.drawn + 1)))
      session.id (Opaque.hash value) w.clock lifetime = .ok t) :
    ∃ (a : Except Error TokenIssue) (next : Rehearsal),
      v.rehearsal.answer (.issueToken t settings.policy v.clock) = (a, next) ∧
      next.dues "issue_token" = (w.rehearsal.dues "issue_token").drop (k + 1) ∧
      ((∃ e, a = .error e ∧ w.Thwarted k e ∧ next.memory = w.withSession session) ∨
        ∃ issued, a = .ok issued ∧
          FirstIssue settings w session (.ok ⟨value, issued.token⟩) next.memory) := by
  obtain ⟨a, next, hanswer, hcases⟩ : ∃ (a : Except Error TokenIssue) (next : Rehearsal),
      v.rehearsal.answer (.issueToken t settings.policy v.clock) = (a, next) ∧
      ((∃ e, a = .error e ∧
          v.rehearsal.dues "issue_token" = e :: next.dues "issue_token" ∧
          next.memory = v.memory) ∨
        v.rehearsal.dues "issue_token" = [] ∧ next.dues "issue_token" = [] ∧
          v.memory.issueToken t settings.policy v.clock = (a, next.memory)) := by
    obtain ⟨a, next, hanswer, -, hcases⟩ :=
      v.rehearsal.answer_cases (r := .issueToken t settings.policy v.clock) rfl
    exact ⟨a, next, hanswer, hcases⟩
  refine ⟨a, next, hanswer, ?_⟩
  have hdues := hv.dues
  rcases hcases with ⟨e, rfl, hdue, hkept⟩ | ⟨hnone, hleft, hissue⟩
  · rw [hdue] at hdues
    have hmet : (w.rehearsal.dues "issue_token")[k]? = some e := by
      rw [← Nat.add_zero k, ← List.getElem?_drop, ← hdues]
      rfl
    have hrest : next.dues "issue_token" = (w.rehearsal.dues "issue_token").drop (k + 1) := by
      rw [← List.tail_drop, ← hdues]
      rfl
    exact ⟨hrest, .inl ⟨e, rfl, .fault hmet, hkept.trans hv.memory⟩⟩
  · rw [hnone] at hdues
    have hlength := List.drop_eq_nil_iff.mp hdues.symm
    refine ⟨by rw [hleft, List.drop_eq_nil_of_le (Nat.le_succ_of_le hlength)], ?_⟩
    obtain ⟨hsession, hhash⟩ := Token.fresh_session_hash hfresh
    have hactive : (w.withSession session).Active t.session session := hsession ▸ hstarted.active
    have hvacant : (w.withSession session).currentOf? t.session = none :=
      Memory.currentOf?_eq_none.mpr fun u hu he =>
        absurd (he.trans hsession) (hstarted.vacant hm u hu)
    rw [hv.memory, Memory.issueToken_of_vacant hactive hvacant] at hissue
    cases hh : (w.withSession session).hasHash t.hash with
    | true =>
      rw [hh, if_pos rfl, Prod.mk.injEq] at hissue
      obtain ⟨rfl, hkept⟩ := hissue
      refine .inl ⟨_, rfl, .taken hlength ?_, hkept.symm⟩
      rw [hhash, hvalue, hv.surroundings] at hh
      exact hh
    | false =>
      rw [hh, if_neg Bool.false_ne_true, Prod.mk.injEq] at hissue
      obtain ⟨rfl, hentered⟩ := hissue
      refine .inr ⟨_, rfl, ?_⟩
      rw [← hentered]
      have hdrawn : w.surroundings.drawn ≤ w.surroundings.drawn + 1 + 2 * k + 1 := by omega
      rw [hv.surroundings] at hfresh
      exact .issued hl hdrawn hfresh

theorem Awaits.issueDefault {v : Trial} (hv : w.Awaits session 0 v)
    (hstarted : w.Started user session) (hm : w.memory.Reached)
    (settings : TokenSettings) :
    FirstIssue settings w session (v.perform (Tokens.issueDefault settings session.id)).1
      (v.perform (Tokens.issueDefault settings session.id)).2.memory := by
  unfold Tokens.issueDefault perform
  rw [execute_liftExcept_bind]
  cases hl : settings.lifetime with
  | error e => exact hv.memory ▸ .failed (.settings hl)
  | ok lifetime =>
    simp only [Tokens.issue, TokenSettings.isPositive_of_lifetime hl, if_true]
    refine execute_retrying (I := w.Awaits session)
      (Q := fun a v => FirstIssue settings w session a v.memory) ?_ ?_ hv
    · intro k v hv e v' hperform
      rw [show execute answer _ v = _ from perform_issueOnce v ..] at hperform
      split at hperform
      · rename_i hfresh
        cases hperform
        obtain ⟨hadd, rfl⟩ := Token.fresh_eq_error hfresh
        exact hv.memory ▸ .failed (.calendar hl (hv.clock_eq ▸ hadd))
      · cases hperform
    · intro k v hk hv a v' hperform
      rw [show execute answer _ v = _ from perform_issueOnce v ..] at hperform
      split at hperform
      · cases hperform
      · rename_i t hfresh
        cases hperform
        obtain ⟨a, next, hanswer, hdues, hcases⟩ :=
          hv.attempt hstarted hm hl rfl (hv.clock_eq ▸ hfresh)
        rw [hanswer]
        rcases hcases with ⟨e, rfl, hthwarted, hmemory⟩ | ⟨issued, rfl, hissue⟩
        · constructor
          · intro hend
            show FirstIssue settings w session (.error e) next.memory
            rw [hmemory]
            exact .failed (.tries hk hthwarted hv.collided (hend e rfl))
          · rintro e' ⟨⟩ hcollision
            refine ⟨by rw [hv.surroundings]; rfl, hmemory, hdues, fun j hj => ?_⟩
            rcases Nat.lt_succ_iff_lt_or_eq.mp hj with hj | rfl
            · exact hv.collided j hj
            · exact ⟨e, hthwarted, hcollision⟩
        · exact ⟨fun _ => hissue, fun e he => by cases he⟩

end FirstToken

/-! ## Opening -/

section Opening

variable {settings : TokenSettings} {user : Uuid} {thumbprint : Option String} {session : Session}

theorem perform_open_refused {e : Error}
    (h : w.perform (Sessions.create user thumbprint) = (.error e, w')) :
    w.perform (Sessions.openWithToken settings user thumbprint) = (.error e, w') := by
  refine (execute_bind ..).trans ?_
  rw [show execute answer (Sessions.create user thumbprint) w = _ from h]

theorem perform_open_created
    (h : w.perform (Sessions.create user thumbprint) = (.ok session, w')) :
    w.perform (Sessions.openWithToken settings user thumbprint) =
      ((w'.perform (Tokens.issueDefault settings session.id)).1.map fun token => (session, token),
        (w'.perform (Tokens.issueDefault settings session.id)).2) := by
  refine (execute_bind_ok h _).trans ((execute_bind ..).trans ?_)
  rw [show execute answer (Tokens.issueDefault settings session.id) w' = w'.perform _ from rfl]
  obtain ⟨a, v⟩ := w'.perform (Tokens.issueDefault settings session.id)
  cases a <;> rfl

end Opening

/-- On every store that operations can reach, under any settings, at any instant and with any faults
to come. When opening a session succeeds, one session and one current token of it have been entered:
these two rows are added and nothing else has changed, if the identifiers that were drawn are new.
When it fails, the store is as it was only if no session could be created; otherwise that session
stays, without a token, and one of the hitches is the reason. -/
theorem open_in_two_steps (w : Trial) (settings : TokenSettings) (user : Uuid)
    (thumbprint : Option String) (hm : w.memory.Reached) :
    ∃ a w', w.perform (Sessions.openWithToken settings user thumbprint) = (a, w') ∧
      (∀ session handed, a = .ok (session, handed) → w.Started user session ∧
        handed.record.isCurrent = true ∧ handed.record.session = session.id ∧
        w'.memory = (w.withSession session).enter handed.record ∧
        (w.surroundings.NewTo w.memory → w'.memory = w.withToken session handed.record)) ∧
      ∀ e, a = .error e →
        ((w.perform (Sessions.create user thumbprint)).1 = .error e ∧ w'.memory = w.memory) ∨
        ∃ session, (w.perform (Sessions.create user thumbprint)).1 = .ok session ∧
          w.Started user session ∧ w'.memory = w.withSession session ∧
          (∀ t ∈ w'.memory.tokens, t.session ≠ session.id) ∧ Hitch settings w e := by
  obtain ⟨created, v, hcreate, hcases⟩ := perform_create w user thumbprint
  rcases hcases with ⟨e, rfl, hkept⟩ | ⟨session, rfl, hstarted, hmemory, hdrawn, hdues⟩
  · refine ⟨_, _, perform_open_refused hcreate, ?_, ?_⟩
    · rintro _ _ ⟨⟩
    · rintro e' ⟨⟩
      exact .inl ⟨congrArg Prod.fst hcreate, hkept⟩
  · have hawaits : w.Awaits session 0 v := ⟨hdrawn, hmemory, hdues, fun j hj => by cases hj⟩
    have hissue := hawaits.issueDefault hstarted hm settings
    refine ⟨_, _, perform_open_created hcreate, ?_⟩
    generalize v.perform (Tokens.issueDefault settings session.id) = out at hissue ⊢
    obtain ⟨a, v'⟩ := out
    simp only at hissue ⊢
    generalize hrows : v'.memory = m at hissue ⊢
    cases hissue with
    | failed hitch =>
      constructor
      · rintro _ _ ⟨⟩
      · rintro e' ⟨⟩
        exact .inr ⟨session, congrArg Prod.fst hcreate, hstarted, rfl, hstarted.vacant hm, hitch⟩
    | issued hl hn hf =>
      constructor
      · rintro _ _ ⟨⟩
        obtain ⟨expiresAt, -, hrecord⟩ := Token.fresh_eq_ok hf
        refine ⟨hstarted, ?_, (Token.fresh_session_hash hf).1, rfl, ?_⟩
        · rw [hrecord]
          rfl
        · intro hnew
          refine enter_withSession ?_
          rw [Token.fresh_id hf]
          exact hnew _ hn
      · rintro e' ⟨⟩

/-- A store with one user, at which the next attempt to issue a token will fail. -/
def brittle : Trial where
  rehearsal :=
    { memory := .applyAll .empty [.addUser ⟨1⟩]
      faults := [⟨"issue_token", .plain .database "connection lost", 1⟩] }
  surroundings := ⟨⟨0, false⟩, fun _ => [], 0⟩

/-- Its user is told that no session was opened, and has a session. -/
theorem open_in_two_steps_brittle :
    ∃ e w' session, brittle.perform (Sessions.openWithToken {} ⟨1⟩ none) = (.error e, w') ∧
      brittle.Started ⟨1⟩ session ∧ w'.memory = brittle.withSession session ∧
      (∀ t ∈ w'.memory.tokens, t.session ≠ session.id) ∧ Hitch {} brittle e := by
  obtain ⟨a, w', hopen, -, hfailed⟩ :=
    open_in_two_steps brittle {} ⟨1⟩ none ⟨_, rfl⟩
  have ha : ∃ e, a = .error e := ⟨.plain .database "connection lost", by
    rw [← show (brittle.perform (Sessions.openWithToken {} ⟨1⟩ none)).1 = a from
      congrArg Prod.fst hopen]
    rfl⟩
  obtain ⟨e, rfl⟩ := ha
  rcases hfailed e rfl with ⟨hrefused, -⟩ | ⟨session, -, hstarted, hm, hnone, hitch⟩
  · cases hrefused
  · exact ⟨e, w', session, hopen, hstarted, hm, hnone, hitch⟩

/-- Opening a session is not all or nothing: it can fail and leave the store changed. -/
theorem open_not_atomic :
    ¬ ∀ (w : Trial) (settings : TokenSettings) (user : Uuid) (thumbprint : Option String)
      (e : Error) (w' : Trial), w.memory.Reached →
      w.perform (Sessions.openWithToken settings user thumbprint) = (.error e, w') →
      w'.memory = w.memory := by
  intro h
  have hbrittle := h brittle {} ⟨1⟩ none _ _ ⟨_, rfl⟩ rfl
  exact absurd (congrArg (fun m => m.sessions.length) hbrittle) (by decide)

end Trial

end Service

end SessionKeeper
