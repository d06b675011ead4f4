import SessionKeeper.Proofs.Service.Custody
import SessionKeeper.Proofs.Service.Inspection
import SessionKeeper.Proofs.Store.Granting

/-!
# What a call hands out

A call that issues or exchanges a token makes attempts: each draws an opaque value and an
identifier, and the store is asked to enter the token made of them. Only an attempt that collides is
followed by another, and it has written nothing. So the value that is handed out is the one of the
last attempt, and it belongs to the row that this attempt has entered (`HandedOver`).
-/

namespace SessionKeeper

/-! ## Opaque values -/

theorem Opaque.isBlank_base64Char (n : Nat) : Text.isBlank (base64Char n) = false := by
  by_cases hn : n < 64
  · have hchars : ∀ n < 64, Text.isBlank (base64Char n) = false := by decide
    exact hchars n hn
  · have hlast : base64Char n = '_' := by
      unfold base64Char
      rw [if_neg (by omega), if_neg (by omega), if_neg (by omega), if_neg (by omega)]
    rw [hlast]
    rfl

/-- An opaque value that is made of any bytes is not blank. -/
theorem Opaque.allBlank_ofBytes {bytes : List UInt8} (h : bytes ≠ []) :
    Text.allBlank (ofBytes bytes) = false := by
  match bytes with
  | [] => exact absurd rfl h
  | [_] | [_, _] | _ :: _ :: _ :: _ =>
    simp [Text.allBlank, ofBytes, encode, isBlank_base64Char]

namespace Service

/-- A presented token has been exchanged for the next one: `t` is the row that its hash led to, and
`s` the row of its session. -/
structure Rotates (m : Memory) (presented : Hash) (now : Instant) (r : RotatedToken) (m' : Memory)
    (t : Token) (s : Session) : Prop where
  found : m.tokenByHash? presented = some t
  session : m.session? t.session = some s
  previous : r.previous = t.id
  user : r.user = s.user
  sessionId : r.session = s.id ∧ r.record.session = s.id
  thumbprint : r.thumbprint = s.thumbprint
  used : m'.tokenByHash? presented =
    some { t with usedAt := some now, replacedBy := some r.record.id }
  touched : m'.session? s.id = some { s with lastUsedAt := some now }
  rows : m.Exchanged t s now r.record m'

namespace Scene

variable {w w' : Scene} {lifetime : Span}

/-! ## Attempts -/

/-- A token has just been handed out: its opaque value leads to the one live token of its session,
which lives from now on for the lifetime. -/
structure HandedOver (w : Scene) (value : String) (lifetime : Span) (record : Token) : Prop where
  live : w.memory.Live (Opaque.hash value) w.clock record
  expires : w.clock.add? lifetime = some record.expiresAt
  check : (w.perform (Tokens.isCurrentAndValid value)).1 = .ok true

/-- Draws have been used up, and nothing has been written. -/
structure Idled (w v : Scene) : Prop where
  memory : v.memory = w.memory
  later : w.surroundings.Later v.surroundings

theorem Idled.clock {v : Scene} (h : w.Idled v) : v.clock = w.clock := h.later.clock

theorem Idled.refl (w : Scene) : w.Idled w := ⟨rfl, .refl _⟩

theorem Idled.trans {u v : Scene} (h : w.Idled u) (h' : u.Idled v) : w.Idled v :=
  ⟨h'.memory.trans h.memory, h.later.trans h'.later⟩

/-- An attempt that collides leaves the store alone. -/
theorem idled_of_collision (ho : w.memory.Orderly) {r : Store.Request} {e : Error} {m' : Memory}
    (hcollision : Tokens.isCollision e = true) (h : w.memory.answer r = (.error e, m')) {n : Nat} :
    w.Idled ⟨m', { w.surroundings with drawn := w.surroundings.drawn + n }⟩ := by
  have hkind : e.kind = .constraintViolation := by
    simpa [Tokens.isCollision] using hcollision
  exact ⟨ho.answer_collision hkind h, rfl, rfl, Nat.le_add_right ..⟩

/-- What the last attempt comes to, all attempts come to, if one that collides writes nothing. -/
theorem perform_retrying_last {α : Type} {once : Action (Except Error α)}
    {Q : Except Error α → Scene → Prop}
    (hend : ∀ v, w.Idled v → ∀ e v', v.perform once = (.error e, v') → Q (.error e) v')
    (honce : ∀ v, w.Idled v → ∀ a v', v.perform once = (.ok a, v') →
      Q a v' ∧ ∀ e, a = .error e → Tokens.isCollision e = true → v.Idled v') (n : Nat) :
    Q (w.perform (Tokens.retrying once n)).1 (w.perform (Tokens.retrying once n)).2 := by
  refine execute_retrying (I := fun _ => w.Idled) (Q := Q) (fun _ => hend) ?_ (.refl w)
  intro _ v _ hv a v' hperform
  obtain ⟨hq, hcollision⟩ := honce v hv a v' hperform
  exact ⟨fun _ => hq, fun e he hkind => hv.trans (hcollision e he hkind)⟩

/-- A sound store, to which all identifiers are new that will be drawn, and draws of as many bytes
as an opaque value has. -/
structure Ready (w : Scene) : Prop where
  sound : w.memory.Sound
  new : w.surroundings.NewTo w.memory
  bytes : ∀ n, w.surroundings.drawn ≤ n → (w.surroundings.draw n).length = Opaque.byteCount

theorem Ready.later (h : w.Ready) (hsound : w'.memory.Sound)
    (htokens : w'.memory.tokens = w.memory.tokens)
    (hlater : w.surroundings.Later w'.surroundings) : w'.Ready where
  sound := hsound
  new := h.new.later hlater htokens
  bytes := by
    intro n hn
    rw [hlater.draw]
    exact h.bytes n (Nat.le_trans hlater.drawn hn)

theorem Ready.idled (h : w.Ready) (hidled : w.Idled w') : w'.Ready :=
  h.later (hidled.memory ▸ h.sound) (by rw [hidled.memory]) hidled.later

theorem perform_retrying_ok {α : Type} {once : Action (Except Error α)} {Q : α → Scene → Prop}
    (honce : ∀ v, w.Idled v → ∀ a v', v.perform once = (.ok a, v') →
      (∀ x, a = .ok x → Q x v') ∧
        ∀ e, a = .error e → Tokens.isCollision e = true → v.Idled v') {n : Nat} {x : α}
    (h : w.perform (Tokens.retrying once n) = (.ok x, w')) : Q x w' := by
  have hall := perform_retrying_last (Q := fun a v => ∀ x, a = .ok x → Q x v)
    (by rintro v hv e v' - x ⟨⟩) honce n
  rw [h] at hall
  exact hall x rfl

/-- The value that has just been drawn is not blank, so the check looks at its row. -/
theorem Ready.handedOver (hw : w.Ready) {record : Token} {m' : Memory} {n : Nat}
    (hlive : m'.Live (Opaque.hash (Surroundings.opaqueOf (w.surroundings.draw
      w.surroundings.drawn))) w.clock record)
    (hends : w.clock.add? lifetime = some record.expiresAt) :
    HandedOver ⟨m', { w.surroundings with drawn := n }⟩
      (Surroundings.opaqueOf (w.surroundings.draw w.surroundings.drawn)) lifetime record := by
  have hbytes : w.surroundings.draw w.surroundings.drawn ≠ [] := by
    intro hnil
    have hlength := hw.bytes _ (Nat.le_refl _)
    rw [hnil] at hlength
    cases hlength
  refine ⟨hlive, hends, ?_⟩
  rw [perform_isCurrentAndValid, Surroundings.opaqueOf, Opaque.allBlank_ofBytes hbytes]
  exact congrArg Except.ok hlive.valid

/-! ## Issuing -/

theorem perform_issueOnce_ok {policy : IssuePolicy} {session : Uuid} {a : Except Error HandedToken}
    (h : w.perform (Tokens.issueOnce policy session lifetime) = (.ok a, w')) :
    ∃ t answered m',
      Token.fresh (Surroundings.idOf (w.surroundings.draw (w.surroundings.drawn + 1))) session
        (Opaque.hash (Surroundings.opaqueOf (w.surroundings.draw w.surroundings.drawn))) w.clock
        lifetime = .ok t ∧
      w.memory.issueToken t policy w.clock = (answered, m') ∧
      a = answered.map (fun issued =>
        ⟨Surroundings.opaqueOf (w.surroundings.draw w.surroundings.drawn), issued.token⟩) ∧
      w' = ⟨m', { w.surroundings with drawn := w.surroundings.drawn + 2 }⟩ := by
  rw [show w.perform _ = _ from execute_issueOnce policy session lifetime w] at h
  split at h
  · cases h
  · rename_i t hfresh
    cases h
    exact ⟨t, _, _, hfresh, rfl, rfl, rfl⟩

theorem Ready.issueOnce (hw : w.Ready) (hlifetime : lifetime.isPositive = true)
    {policy : IssuePolicy} {session : Uuid} {a : Except Error HandedToken}
    (h : w.perform (Tokens.issueOnce policy session lifetime) = (.ok a, w')) :
    (∀ handed, a = .ok handed →
      w'.clock = w.clock ∧ w'.HandedOver handed.value lifetime handed.record) ∧
    ∀ e, a = .error e → Tokens.isCollision e = true → w.Idled w' := by
  obtain ⟨t, answered, m', hfresh, hissue, rfl, rfl⟩ := perform_issueOnce_ok h
  cases answered with
  | error e =>
    constructor
    · rintro _ ⟨⟩
    · rintro _ ⟨⟩ hcollision
      exact idled_of_collision hw.sound.orderly hcollision (r := .issueToken t policy w.clock) hissue
  | ok issued =>
    refine ⟨?_, by rintro _ ⟨⟩⟩
    rintro _ ⟨⟩
    obtain ⟨hunspent, hunexpired, hends⟩ := Token.fresh_usable hfresh hlifetime
    have hnew : ∀ u ∈ w.memory.tokens, u.id ≠ t.id := by
      rw [Token.fresh_id hfresh]
      exact hw.new _ (Nat.le_succ _)
    obtain ⟨rfl, hlive⟩ := Memory.issueToken_live hw.sound hnew hunspent hunexpired hissue
    rw [(Token.fresh_session_hash hfresh).2] at hlive
    exact ⟨rfl, hw.handedOver hlive hends⟩

theorem Ready.issue (hw : w.Ready) {settings : TokenSettings} {session : Uuid}
    {handed : HandedToken}
    (h : w.perform (Tokens.issue settings session lifetime) = (.ok handed, w')) :
    w'.clock = w.clock ∧ w'.HandedOver handed.value lifetime handed.record := by
  unfold Tokens.issue at h
  split at h
  · rename_i hlifetime
    refine perform_retrying_ok (Q := fun handed v => v.clock = w.clock ∧
      v.HandedOver handed.value lifetime handed.record) ?_ h
    intro v hv a v' hperform
    rw [← hv.clock]
    exact (hw.idled hv).issueOnce hlifetime hperform
  · cases h

theorem Ready.issueDefault (hw : w.Ready) {settings : TokenSettings} {session : Uuid}
    {handed : HandedToken}
    (h : w.perform (Tokens.issueDefault settings session) = (.ok handed, w')) :
    ∃ lifetime, settings.lifetime = .ok lifetime ∧ w'.clock = w.clock ∧
      w'.HandedOver handed.value lifetime handed.record := by
  obtain ⟨lifetime, hl, hissue⟩ := perform_liftExcept_bind_eq_ok h
  exact ⟨lifetime, hl, hw.issue hissue⟩

theorem Ready.create (hw : w.Ready) {user : Uuid} {thumbprint : Option String} {session : Session}
    (h : w.perform (Sessions.create user thumbprint) = (.ok session, w')) :
    w'.clock = w.clock ∧ w'.Ready := by
  obtain ⟨thumbprint, -, hcreate⟩ := perform_liftExcept_bind_eq_ok h
  obtain ⟨id, rfl⟩ : ∃ id, w' =
      ⟨(w.memory.createSession (.start id user thumbprint w.clock)).2,
        { w.surroundings with drawn := w.surroundings.drawn + 1 }⟩ :=
    ⟨_, (congrArg Prod.snd hcreate).symm⟩
  have hsound := hw.sound.apply (o := .ask (.createSession (.start id user thumbprint w.clock)))
    fun _ hu => hu.elim
  refine ⟨rfl, hw.later hsound ?_ ⟨rfl, rfl, Nat.le_succ _⟩⟩
  rcases w.memory.createSession_cases (.start id user thumbprint w.clock) with
    ⟨e, he⟩ | ⟨-, -, hcreated⟩
  · rw [he]
  · rw [hcreated]

theorem Ready.openWithToken (hw : w.Ready) {settings : TokenSettings} {user : Uuid}
    {thumbprint : Option String} {x : Session × HandedToken}
    (h : w.perform (Sessions.openWithToken settings user thumbprint) = (.ok x, w')) :
    ∃ lifetime, settings.lifetime = .ok lifetime ∧ w'.clock = w.clock ∧
      w'.HandedOver x.2.value lifetime x.2.record := by
  obtain ⟨session, v, hcreate, hrest⟩ := perform_bind_eq_ok h
  obtain ⟨handed, v', hissue, hend⟩ := perform_bind_eq_ok hrest
  cases hend
  obtain ⟨hclock, hready⟩ := hw.create hcreate
  obtain ⟨lifetime, hl, hclock', hhanded⟩ := hready.issueDefault hissue
  exact ⟨lifetime, hl, hclock'.trans hclock, hhanded⟩

/-! ## Exchanging -/

theorem perform_rotateOnce_ok {presented : Hash} {a : Except Error RotatedToken}
    (h : w.perform (Tokens.rotateOnce presented lifetime) = (.ok a, w')) :
    ∃ answered m',
      w.memory.rotateToken presented
        (Surroundings.idOf (w.surroundings.draw (w.surroundings.drawn + 1)))
        w.surroundings.nextHash w.clock lifetime = (answered, m') ∧
      a = answered.map (fun r =>
        { value := Surroundings.opaqueOf (w.surroundings.draw w.surroundings.drawn)
          record := r.replacement
          previous := r.previous.id
          user := r.session.user
          session := r.session.id
          thumbprint := r.session.thumbprint }) ∧
      w' = ⟨m', { w.surroundings with drawn := w.surroundings.drawn + 2 }⟩ := by
  cases h
  exact ⟨_, _, rfl, rfl, rfl⟩

theorem Ready.rotateOnce (hw : w.Ready) (hlifetime : lifetime.isPositive = true)
    {presented : Hash} {a : Except Error RotatedToken}
    (h : w.perform (Tokens.rotateOnce presented lifetime) = (.ok a, w')) :
    (∀ r, a = .ok r → w'.clock = w.clock ∧ w'.HandedOver r.value lifetime r.record ∧
      ∃ t s, Rotates w.memory presented w.clock r w'.memory t s) ∧
    ∀ e, a = .error e → Tokens.isCollision e = true → w.Idled w' := by
  obtain ⟨answered, m', hrotate, rfl, rfl⟩ := perform_rotateOnce_ok h
  cases answered with
  | error e =>
    constructor
    · rintro _ ⟨⟩
    · rintro _ ⟨⟩ hcollision
      exact idled_of_collision hw.sound.orderly hcollision (r := .rotateToken ..) hrotate
  | ok rotated =>
    refine ⟨?_, by rintro _ ⟨⟩⟩
    rintro _ ⟨⟩
    obtain ⟨hsound, t, s, next, ht, ha, hfresh, rfl, hexchanged⟩ :=
      Memory.rotateToken_exchanged hw.sound (hw.new _ (Nat.le_succ _)) hrotate
    obtain ⟨htm, rfl⟩ := hw.sound.tokenByHash?_eq_some.mp ht
    obtain ⟨hsm, hid⟩ := Memory.mem_of_session? ha.1
    refine ⟨rfl, hw.handedOver (hexchanged.live hsound ha hfresh hlifetime)
      (Token.fresh_usable hfresh hlifetime).2.2, t, s, ?_⟩
    exact {
      found := ht
      session := ha.1
      previous := rfl
      user := rfl
      sessionId := ⟨rfl, (Token.fresh_session_hash hfresh).1.trans hid.symm⟩
      thumbprint := rfl
      used := hexchanged.used hsound htm
      touched := hexchanged.touched hsound hsm
      rows := hexchanged }

theorem Ready.rotate (hw : w.Ready) {settings : TokenSettings} {value : String} {r : RotatedToken}
    (h : w.perform (Tokens.rotate settings value) = (.ok r, w')) :
    ∃ lifetime, settings.lifetime = .ok lifetime ∧ w'.clock = w.clock ∧
      w'.HandedOver r.value lifetime r.record ∧
      ∃ t s, Rotates w.memory (Opaque.hash value) w.clock r w'.memory t s := by
  obtain ⟨presented, hvalue, hrest⟩ := perform_liftExcept_bind_eq_ok h
  obtain ⟨lifetime, hl, hretry⟩ := perform_liftExcept_bind_eq_ok hrest
  obtain ⟨-, rfl⟩ := presentedHash_eq_ok hvalue
  refine ⟨lifetime, hl, ?_⟩
  refine perform_retrying_ok (Q := fun r v => v.clock = w.clock ∧
    v.HandedOver r.value lifetime r.record ∧
    ∃ t s, Rotates w.memory (Opaque.hash value) w.clock r v.memory t s) ?_ hretry
  intro v hv a v' hperform
  rw [← hv.clock, ← hv.memory]
  exact (hw.idled hv).rotateOnce (TokenSettings.isPositive_of_lifetime hl) hperform

end Scene

namespace System

/-! ## Every run -/

/-- Let a call go through after any run, at any instant, under any settings, if what it will draw is
new. If it hands out an opaque value and a token, the value leads to this token, the token is the
only current one of its session, it can be exchanged now, it lives for the lifetime from now on, and
no other token of its session can be exchanged any more. If it has exchanged a token, that token is
marked as used now and replaced by the one handed out, its session as used now, and nothing else has
changed but for the row of the new token. -/
theorem handed_out_live (settings : Settings) (start : Instant) (es : List Event)
    (surroundings : Surroundings) (s : Settings)
    (hnew : surroundings.NewTo (run settings start es).memory)
    (hbytes : ∀ n, surroundings.drawn ≤ n → (surroundings.draw n).length = Opaque.byteCount) :
    let w : Scene := ⟨(run settings start es).memory, surroundings⟩
    (∀ (c : Call) (x : c.Result) (w' : Scene) (value : String) (record : Token),
      w.perform (c.action s) = (.ok x, w') → c.hands x = some (value, record) →
      ∃ lifetime, c.Gives s lifetime ∧ w'.clock = w.clock ∧
        w'.HandedOver value lifetime record) ∧
    ∀ (value : String) (r : RotatedToken) (w' : Scene),
      w.perform (Tokens.rotate s.tokens value) = (.ok r, w') →
      ∃ t session, Rotates w.memory (Opaque.hash value) w.clock r w'.memory t session := by
  intro w
  have hw : w.Ready := ⟨(kept_run settings start es).sound, hnew, hbytes⟩
  constructor
  · intro c x w' value record h hx
    cases c with
    | openSession =>
      cases hx
      exact hw.openWithToken h
    | issue session lifetime =>
      cases hx
      exact ⟨lifetime, rfl, hw.issue h⟩
    | issueDefault =>
      cases hx
      exact hw.issueDefault h
    | rotate =>
      cases hx
      obtain ⟨lifetime, hl, hclock, hhanded, -⟩ := hw.rotate h
      exact ⟨lifetime, hl, hclock, hhanded⟩
    | _ => cases hx
  · intro value r w' h
    obtain ⟨-, -, -, -, hrotates⟩ := hw.rotate h
    exact hrotates

/-- A session with a first token. -/
def firstToken : List Event :=
  [.addUser ⟨1⟩, .call (.createSession ⟨1⟩ none), .go 0 ⟨7⟩ "", .go 0 ⟨0⟩ "", .go 0 ⟨0⟩ "",
    .call (.issueDefault ⟨7⟩), .go 1 ⟨0⟩ "a", .go 1 ⟨0⟩ "", .go 1 ⟨11⟩ "", .go 1 ⟨0⟩ ""]

/-- This token is exchanged, and its holder gets the live token of the session for it. -/
theorem handed_out_live_exchanged :
    let settings : Settings := { database := { url := "" } }
    let surroundings : Surroundings :=
      { clock := ⟨5, false⟩, draw := fun _ => List.replicate Opaque.byteCount 0 }
    let w : Scene := ⟨(run settings ⟨0, false⟩ firstToken).memory, surroundings⟩
    ∃ r w' t session, w.perform (Tokens.rotate settings.tokens "a") = (.ok r, w') ∧
      w'.HandedOver r.value ⟨2592000000000000⟩ r.record ∧
      Rotates w.memory (Opaque.hash "a") w.clock r w'.memory t session := by
  intro settings surroundings w
  have hnew : surroundings.NewTo (run settings ⟨0, false⟩ firstToken).memory := by
    have hids : ∀ t ∈ (run settings ⟨0, false⟩ firstToken).memory.tokens,
        t.id ≠ Surroundings.idOf (List.replicate Opaque.byteCount 0) := by decide +kernel
    exact fun _ _ => hids
  have hbytes : ∀ n, surroundings.drawn ≤ n →
      (surroundings.draw n).length = Opaque.byteCount := fun _ _ => rfl
  have hgranted : (w.perform (Tokens.rotate settings.tokens "a")).1.toOption.isSome = true := by
    decide +kernel
  obtain ⟨hhanded, hrotates⟩ :=
    handed_out_live settings ⟨0, false⟩ firstToken surroundings settings hnew hbytes
  rw [show Scene.mk (run settings ⟨0, false⟩ firstToken).memory surroundings = w from rfl]
    at hhanded hrotates
  clear_value w
  obtain ⟨a, w', hperform⟩ : ∃ a w', w.perform (Tokens.rotate settings.tokens "a") = (a, w') :=
    ⟨_, _, rfl⟩
  rw [hperform] at hgranted
  cases a with
  | error e => cases hgranted
  | ok r =>
    obtain ⟨lifetime, hl, -, hlive⟩ := hhanded (.rotate "a") r w' _ _ hperform rfl
    obtain ⟨t, session, hrotated⟩ := hrotates "a" r w' hperform
    cases hl
    exact ⟨r, w', t, session, hperform, hlive, hrotated⟩

end System

end Service

end SessionKeeper
