import SessionKeeper.Proofs.Service.Conduct
import SessionKeeper.Proofs.Store.Deletion

/-!
# What a program asks of the store

`AsksOnly ok p` says that every request that `p` can put to the store is one that `ok` allows,
whatever the answers are. It passes through sequences and attempts, so what a call asks is read off
the way in which it is written. `Call.Sends` is the list of what each call asks, with what it has
been given in its place (`asksOnly_sends`); anything else about the requests of a call follows from
the list. So a call that presents none of some tokens, and neither lists the tokens of a session nor
cleans up, asks nothing that a store without these tokens would answer differently
(`asksOnly_discreet`).
-/

namespace SessionKeeper.Service

/-- Every request that the program puts to the store is allowed. -/
def AsksOnly {α : Type} (ok : Store.Request → Prop) : Prog signature α → Prop
  | .pure _ => True
  | .ask (.inl r) k => ok r ∧ ∀ a, AsksOnly ok (k a)
  | .ask (.inr _) k => ∀ a, AsksOnly ok (k a)

section

variable {α β : Type} {ok : Store.Request → Prop}

theorem AsksOnly.mono {ok' : Store.Request → Prop} (h : ∀ r, ok r → ok' r) {p : Prog signature α}
    (hp : AsksOnly ok p) : AsksOnly ok' p := by
  induction p with
  | pure a => exact trivial
  | ask r k ih =>
    cases r with
    | inl r => exact ⟨h r hp.1, fun a => ih a (hp.2 a)⟩
    | inr r => exact fun a => ih a (hp a)

theorem asksOnly_progBind {p : Prog signature α} {f : α → Prog signature β} (hp : AsksOnly ok p)
    (hf : ∀ a, AsksOnly ok (f a)) : AsksOnly ok (p.bind f) := by
  induction p with
  | pure a => exact hf a
  | ask r k ih =>
    cases r with
    | inl r => exact ⟨hp.1, fun a => ih a (hp.2 a)⟩
    | inr r => exact fun a => ih a (hp a)

theorem asksOnly_bind {x : Action α} {f : α → Action β} (hx : AsksOnly ok x.run)
    (hf : ∀ a, AsksOnly ok (f a).run) : AsksOnly ok (x >>= f).run := by
  rw [run_bind]
  refine asksOnly_progBind hx fun a => ?_
  cases a with
  | ok a => exact hf a
  | error e => exact trivial

theorem asksOnly_store {r : Store.Request} (h : ok r) : AsksOnly ok (store r).run :=
  ⟨h, fun _ => trivial⟩

theorem asksOnly_tryStore {r : Store.Request} (h : ok r) : AsksOnly ok (tryStore r).run :=
  ⟨h, fun _ => trivial⟩

theorem asksOnly_now : AsksOnly ok now.run := fun _ => trivial

theorem asksOnly_freshId : AsksOnly ok freshId.run := fun _ => trivial

theorem asksOnly_freshOpaque : AsksOnly ok freshOpaque.run := fun _ => trivial

theorem asksOnly_liftExcept (x : Except Error α) : AsksOnly ok (liftExcept x : Action α).run := by
  cases x <;> exact trivial

theorem asksOnly_orThrow (e : Error) (o : Option α) : AsksOnly ok (orThrow e o).run := by
  cases o <;> exact trivial

theorem asksOnly_liftExcept_bind {x : Except Error α} {f : α → Action β}
    (hf : ∀ a, x = .ok a → AsksOnly ok (f a).run) : AsksOnly ok (liftExcept x >>= f).run := by
  cases x with
  | ok a => exact hf a rfl
  | error e => exact trivial

theorem asksOnly_retrying {once : Action (Except Error α)} (h : AsksOnly ok once.run) (n : Nat) :
    AsksOnly ok (Tokens.retrying once n).run := by
  induction n with
  | zero => exact asksOnly_bind h asksOnly_liftExcept
  | succ n ih =>
    refine asksOnly_bind h fun a => ?_
    cases a with
    | ok a => exact trivial
    | error e =>
      simp only
      split
      · exact ih
      · exact trivial

end

/-! ## What each call asks -/

/-- What a call asks of the store. -/
inductive Call.Sends : Call → Store.Request → Prop where
  | create {user thumbprint key id now} (h : Sessions.readThumbprint? thumbprint = .ok key) :
      Sends (.createSession user thumbprint) (.createSession (Session.start id user key now))
  | start {user thumbprint key id now} (h : Sessions.readThumbprint? thumbprint = .ok key) :
      Sends (.openSession user thumbprint) (.createSession (Session.start id user key now))
  | issueFirst {user thumbprint t policy now} :
      Sends (.openSession user thumbprint) (.issueToken t policy now)
  | bind {session thumbprint key} (h : Sessions.readThumbprint thumbprint = .ok key) :
      Sends (.bindSession session thumbprint) (.bindThumbprint session key)
  | touch {session now} : Sends (.touchSession session) (.touchSession session now)
  | revoke {session now} : Sends (.revokeSession session) (.revokeSession session now)
  | get {session} : Sends (.getSession session) (.findSession session)
  | list {user includeRevoked} :
      Sends (.listSessions user includeRevoked) (.listSessions user includeRevoked)
  | revokeAll {user now} : Sends (.revokeSessions user) (.revokeUserSessions user now)
  | issue {session lifetime t policy now} :
      Sends (.issue session lifetime) (.issueToken t policy now)
  | issueDefault {session t policy now} : Sends (.issueDefault session) (.issueToken t policy now)
  | rotate {value id hash now lifetime} :
      Sends (.rotate value) (.rotateToken (Opaque.hash value) id hash now lifetime)
  | revokeToken {value now} : Sends (.revokeToken value) (.revokeToken (Opaque.hash value) now)
  | check {value now} :
      Sends (.isCurrentAndValid value) (.isCurrentAndValid (Opaque.hash value) now)
  | inspect {value} : Sends (.inspect value) (.findToken (Opaque.hash value))
  | inspectSession {value session} : Sends (.inspect value) (.findSession session)
  | chain {session} : Sends (.chain session) (.findSession session)
  | chainTokens {session} : Sends (.chain session) (.sessionTokens session)
  | purge {cutoff limit} : Sends .cleanUp (.purgeExpired cutoff limit)

section

variable {ok : Store.Request → Prop}

theorem asksOnly_create {user : Uuid} {thumbprint : Option String}
    (h : ∀ key id now, Sessions.readThumbprint? thumbprint = .ok key →
      ok (.createSession (Session.start id user key now))) :
    AsksOnly ok (Sessions.create user thumbprint).run :=
  asksOnly_liftExcept_bind fun key hkey => asksOnly_bind asksOnly_freshId fun id =>
    asksOnly_bind asksOnly_now fun now => asksOnly_store (h key id now hkey)

theorem asksOnly_issue (h : ∀ t policy now, ok (.issueToken t policy now)) (s : TokenSettings)
    (session : Uuid) (lifetime : Span) : AsksOnly ok (Tokens.issue s session lifetime).run := by
  unfold Tokens.issue
  split
  · refine asksOnly_retrying ?_ _
    refine asksOnly_bind asksOnly_freshOpaque fun _ => asksOnly_bind asksOnly_now fun _ =>
      asksOnly_bind asksOnly_freshId fun _ => asksOnly_bind (asksOnly_liftExcept _) fun _ => ?_
    exact asksOnly_bind (asksOnly_tryStore (h ..)) fun _ => trivial
  · exact trivial

theorem asksOnly_issueDefault (h : ∀ t policy now, ok (.issueToken t policy now))
    (s : TokenSettings) (session : Uuid) : AsksOnly ok (Tokens.issueDefault s session).run :=
  asksOnly_bind (asksOnly_liftExcept _) fun _ => asksOnly_issue h ..

theorem asksOnly_rotate {value : String} (h : ∀ id hash now lifetime,
    ok (.rotateToken (Opaque.hash value) id hash now lifetime)) (s : TokenSettings) :
    AsksOnly ok (Tokens.rotate s value).run := by
  refine asksOnly_liftExcept_bind fun hash hp =>
    asksOnly_bind (asksOnly_liftExcept _) fun _ => asksOnly_retrying ?_ _
  obtain ⟨-, rfl⟩ := presentedHash_eq_ok hp
  refine asksOnly_bind asksOnly_freshOpaque fun _ => asksOnly_bind asksOnly_now fun _ =>
    asksOnly_bind asksOnly_freshId fun _ => ?_
  exact asksOnly_bind (asksOnly_tryStore (h ..)) fun _ => trivial

theorem asksOnly_purgeAll (h : ∀ cutoff limit, ok (.purgeExpired cutoff limit)) (cutoff : Instant)
    (budget deleted passes : Nat) :
    AsksOnly ok (Cleanup.purgeAll cutoff budget deleted passes).run := by
  induction deleted, passes using Cleanup.purgeAll.induct budget with
  | case1 deleted passes hbelow ih =>
    rw [Cleanup.purgeAll, dif_pos hbelow]
    refine asksOnly_bind (asksOnly_store (h ..)) fun removed => ?_
    split
    · exact trivial
    · exact ih removed ‹_›
  | case2 deleted passes hbelow =>
    rw [Cleanup.purgeAll, dif_neg hbelow]
    exact trivial

end

theorem asksOnly_sends (settings : Settings) (c : Call) :
    AsksOnly c.Sends (c.action settings).run := by
  cases c with
  | createSession user thumbprint => exact asksOnly_create fun _ _ _ h => .create h
  | openSession user thumbprint =>
    exact asksOnly_bind (asksOnly_create fun _ _ _ h => .start h) fun _ =>
      asksOnly_bind (asksOnly_issueDefault (fun _ _ _ => .issueFirst) _ _) fun _ => trivial
  | bindSession session thumbprint =>
    exact asksOnly_liftExcept_bind fun _ h =>
      asksOnly_bind (asksOnly_store (.bind h)) fun _ => trivial
  | touchSession session =>
    exact asksOnly_bind asksOnly_now fun _ => asksOnly_store .touch
  | revokeSession session =>
    exact asksOnly_bind asksOnly_now fun _ =>
      asksOnly_bind (asksOnly_store .revoke) fun _ => trivial
  | getSession session =>
    exact asksOnly_bind (asksOnly_store .get) fun _ => asksOnly_orThrow _ _
  | listSessions user includeRevoked => exact asksOnly_store .list
  | revokeSessions user => exact asksOnly_bind asksOnly_now fun _ => asksOnly_store .revokeAll
  | issue session lifetime => exact asksOnly_issue (fun _ _ _ => .issue) ..
  | issueDefault session => exact asksOnly_issueDefault (fun _ _ _ => .issueDefault) ..
  | rotate value => exact asksOnly_rotate (fun _ _ _ _ => .rotate) _
  | revokeToken value =>
    refine asksOnly_liftExcept_bind fun hash hp => ?_
    obtain ⟨-, rfl⟩ := presentedHash_eq_ok hp
    exact asksOnly_bind asksOnly_now fun _ =>
      asksOnly_bind (asksOnly_store .revokeToken) fun _ => trivial
  | isCurrentAndValid value =>
    simp only [Call.action, Tokens.isCurrentAndValid]
    split
    · exact trivial
    · exact asksOnly_bind asksOnly_now fun _ => asksOnly_store .check
  | inspect value =>
    refine asksOnly_liftExcept_bind fun hash hp => ?_
    obtain ⟨-, rfl⟩ := presentedHash_eq_ok hp
    refine asksOnly_bind (asksOnly_store .inspect) fun found =>
      asksOnly_bind (asksOnly_orThrow _ _) fun t => ?_
    exact asksOnly_bind (asksOnly_store .inspectSession) fun _ =>
      asksOnly_bind asksOnly_now fun _ => trivial
  | chain session =>
    exact asksOnly_bind (asksOnly_store .chain) fun _ => asksOnly_bind (asksOnly_orThrow _ _)
      fun _ => asksOnly_bind (asksOnly_store .chainTokens) fun _ => trivial
  | cleanUp =>
    exact asksOnly_bind (asksOnly_liftExcept _) fun _ => asksOnly_bind asksOnly_now fun _ =>
      asksOnly_bind (asksOnly_liftExcept _) fun _ => asksOnly_bind (asksOnly_liftExcept _)
        fun _ => asksOnly_purgeAll (fun _ _ => .purge) ..

/-! ## Calls that do not present a token -/

/-- The call presents no opaque value of the tokens, and does not ask for all tokens of a session or
of the store. -/
def Call.Blind (gone : List Token) : Call → Prop
  | .rotate value | .revokeToken value | .isCurrentAndValid value | .inspect value =>
    ∀ d ∈ gone, d.hash ≠ Opaque.hash value
  | .chain _ | .cleanUp => False
  | _ => True

instance (gone : List Token) : (c : Call) → Decidable (c.Blind gone)
  | .rotate value | .revokeToken value | .isCurrentAndValid value | .inspect value =>
    inferInstanceAs (Decidable (∀ d ∈ gone, d.hash ≠ Opaque.hash value))
  | .chain _ | .cleanUp => .isFalse not_false
  | .createSession _ _ | .openSession _ _ | .bindSession _ _ | .touchSession _ | .revokeSession _
  | .getSession _ | .listSessions _ _ | .revokeSessions _ | .issue _ _ | .issueDefault _ =>
    .isTrue trivial

/-- A call that presents none of the tokens asks no request that presents one. -/
theorem asksOnly_discreet {gone : List Token} (settings : Settings) {c : Call}
    (h : c.Blind gone) : AsksOnly (Memory.Discreet gone) (c.action settings).run := by
  refine (asksOnly_sends settings c).mono fun r hr => ?_
  cases hr with
  | rotate | revokeToken | check | inspect => exact h
  | chain | chainTokens | purge => cases h
  | _ => exact trivial

end SessionKeeper.Service
