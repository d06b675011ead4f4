import SessionKeeper.Proofs.Service.Run

/-!
# What calls ask of the store, and how they end

A program `Conduct`s itself by a rule if it asks the store for nothing that the rule forbids, and if
it ends as it should: once a request that writes a token has been granted, it ends with a result,
which hands out the token that has been entered, and by no other way does it hand one out. The rule
for a call (`May`) says for which session it issues a token, which token it presents, and that the
identifiers it enters and the instants it names are its own draws and readings of the clock. There
is a law for each request at the head of a sequence, and every call follows its rule. What is left of
it without the instants and the ends is that a call is `Tame`: it enters nothing that it has not just
drawn.
-/

namespace SessionKeeper.Service

/-! ## What calls are for -/

/-- The opaque value and the token that a result hands out. -/
def Call.hands : (c : Call) → c.Result → Option (String × Token)
  | .openSession _ _, (x : Session × HandedToken) => some (x.2.value, x.2.record)
  | .issue _ _, (h : HandedToken) => some (h.value, h.record)
  | .issueDefault _, (h : HandedToken) => some (h.value, h.record)
  | .rotate _, (r : RotatedToken) => some (r.value, r.record)
  | _, _ => none

/-- The call issues a token of the session, perhaps one that it opens. -/
def Call.Issues (session : Uuid) : Call → Prop
  | .openSession _ _ => True
  | .issue s _ => s = session
  | .issueDefault s => s = session
  | _ => False

/-- The tokens that the call hands out live for the lifetime. -/
def Call.Gives (settings : Settings) (lifetime : Span) : Call → Prop
  | .issue _ l => l = lifetime
  | .openSession _ _ | .issueDefault _ | .rotate _ => settings.tokens.lifetime = .ok lifetime
  | _ => False

/-- The instants in an answer of the surroundings. -/
def readings : (r : Ambient) → r.Answer → List Instant
  | .now, now => [now]
  | .freshId, _ => []
  | .freshOpaque, _ => []

/-- A request that writes a token: granting it ends a call. -/
def Decisive : Store.Request → Prop
  | .issueToken _ _ _ => True
  | .rotateToken _ _ _ _ _ => True
  | .revokeToken _ _ => True
  | _ => False

/-- A request that neither writes a token nor enters a session. -/
def Plain : Store.Request → Prop
  | .createSession _ => False
  | r => ¬ Decisive r

/-- What a call may ask of the store, with what it has drawn since its last request to the store and
what it has read from the clock. -/
inductive May (settings : Settings) (c : Call) (held : List Mark) (read : List Instant) :
    Store.Request → Prop where
  | createSession {s} (hid : .id s.id ∈ held) : May settings c held read (.createSession s)
  | issueToken {session lifetime t now} (hc : c.Issues session) (hl : c.Gives settings lifetime)
      (hid : .id t.id ∈ held) (hhash : .hash t.hash ∈ held) (hn : now ∈ read)
      (hf : Token.fresh t.id session t.hash now lifetime = .ok t) :
      May settings c held read (.issueToken t settings.tokens.policy now)
  | rotateToken {value id hash now lifetime} (hc : c = .rotate value)
      (hl : c.Gives settings lifetime) (hid : .id id ∈ held) (hhash : .hash hash ∈ held)
      (hn : now ∈ read) :
      May settings c held read (.rotateToken (Opaque.hash value) id hash now lifetime)
  | revokeToken {value now} (hc : c = .revokeToken value) :
      May settings c held read (.revokeToken (Opaque.hash value) now)
  | plain {r} (h : Plain r) : May settings c held read r

theorem May.of_issueToken {settings : Settings} {c : Call} {held : List Mark} {read : List Instant}
    {t : Token} {policy : IssuePolicy} {now : Instant}
    (h : May settings c held read (.issueToken t policy now)) :
    settings.tokens.policy = policy ∧ c.Issues t.session := by
  cases h with
  | plain hp => exact absurd trivial hp
  | issueToken hc _ _ _ _ hf =>
    rw [(Token.fresh_session_hash hf).1]
    exact ⟨rfl, hc⟩

theorem May.of_rotateToken {settings : Settings} {c : Call} {held : List Mark}
    {read : List Instant} {presented hash : Hash} {id : Uuid} {now : Instant} {lifetime : Span}
    (h : May settings c held read (.rotateToken presented id hash now lifetime)) : now ∈ read := by
  cases h with
  | plain hp => exact absurd trivial hp
  | rotateToken _ _ _ _ hn => exact hn

/-! ## Conduct -/

section

variable {α β : Type}

/-- The store has granted a request that writes a token, and the program has ended. What it hands
out is the token that has been entered, with its opaque value. -/
inductive Concludes (hands : α → Option (String × Token)) :
    (r : Store.Request) → Except Error r.Reply → Prog signature (Except Error α) → Prop where
  | issued {t policy now value x} {i : TokenIssue} (hv : t.hash = Opaque.hash value)
      (hx : hands x = some (value, i.token)) :
      Concludes hands (.issueToken t policy now) (Except.ok i) (.pure (.ok x))
  | exchanged {presented id now lifetime value x} {r : TokenRotation}
      (hx : hands x = some (value, r.replacement)) :
      Concludes hands (.rotateToken presented id (Opaque.hash value) now lifetime) (Except.ok r)
        (.pure (.ok x))
  | revoked {hash now x} {u : Token} (hx : hands x = none) :
      Concludes hands (.revokeToken hash now) (Except.ok u) (.pure (.ok x))

theorem Concludes.ended {hands : α → Option (String × Token)} {r : Store.Request}
    {a : Except Error r.Reply} {p : Prog signature (Except Error α)} (h : Concludes hands r a p) :
    ∃ x, p = .pure (.ok x) := by
  cases h <;> exact ⟨_, rfl⟩

/-- The answer to a request that writes a token is a refusal. -/
def Undecided (r : Store.Request) (a : Except Error r.Reply) : Prop :=
  Decisive r → ∃ e, a = .error e

/-- A program asks the store for what it may ask, ends with a result once a request that writes a
token has been granted, and hands out a token in no other way. -/
def Conduct (may : List Mark → List Instant → Store.Request → Prop)
    (hands : α → Option (String × Token)) :
    List Mark → List Instant → Prog signature (Except Error α) → Prop
  | _, _, .pure result => ∀ x, result = .ok x → hands x = none
  | held, read, .ask (.inl r) k =>
    may held read r ∧ ∀ a : Except Error r.Reply,
      Concludes hands r a (k a) ∨ (Undecided r a ∧ Conduct may hands [] read (k a))
  | held, read, .ask (.inr r) k =>
    ∀ a, Conduct may hands (marks r a ++ held) (readings r a ++ read) (k a)

variable {may : List Mark → List Instant → Store.Request → Prop}
  {hands : α → Option (String × Token)} {handsβ : β → Option (String × Token)} {held : List Mark}
  {read : List Instant}

/-! ### Laws -/

theorem conduct_pure {b : β} (h : handsβ b = none) :
    Conduct may handsβ held read (pure b : Action β).run := by
  intro x hx
  cases hx
  exact h

theorem conduct_throw (e : Error) : Conduct may handsβ held read (throw e : Action β).run := by
  intro x hx
  cases hx

theorem conduct_now_bind {f : Instant → Action β}
    (hf : ∀ now, Conduct may handsβ held (now :: read) (f now).run) :
    Conduct may handsβ held read (now >>= f).run := hf

theorem conduct_freshId_bind {f : Uuid → Action β}
    (hf : ∀ id, Conduct may handsβ (.id id :: held) read (f id).run) :
    Conduct may handsβ held read (freshId >>= f).run := hf

theorem conduct_freshOpaque_bind {f : String → Action β}
    (hf : ∀ value, Conduct may handsβ (.hash (Opaque.hash value) :: held) read (f value).run) :
    Conduct may handsβ held read (freshOpaque >>= f).run := hf

theorem conduct_liftExcept_bind {x : Except Error α} {f : α → Action β}
    (hf : ∀ a, x = .ok a → Conduct may handsβ held read (f a).run) :
    Conduct may handsβ held read (liftExcept x >>= f).run := by
  cases x with
  | ok a => exact hf a rfl
  | error e => exact conduct_throw e

theorem conduct_orThrow_bind {e : Error} {o : Option α} {f : α → Action β}
    (hf : ∀ a, Conduct may handsβ held read (f a).run) :
    Conduct may handsβ held read (orThrow e o >>= f).run := by
  cases o with
  | none => exact conduct_throw e
  | some a => exact hf a

/-- A request that writes no token may be followed by anything. -/
theorem conduct_store_bind {r : Store.Request} {f : r.Reply → Action β} (h : may held read r)
    (hr : ¬ Decisive r) (hf : ∀ a, Conduct may handsβ [] read (f a).run) :
    Conduct may handsβ held read (store r >>= f).run := by
  refine ⟨h, fun a => .inr ⟨fun hd => absurd hd hr, ?_⟩⟩
  cases a with
  | ok a => exact hf a
  | error e => exact conduct_throw e

theorem conduct_store {r : Store.Request} {hands : r.Reply → Option (String × Token)}
    (h : may held read r) (hr : ¬ Decisive r) (hnone : ∀ a, hands a = none) :
    Conduct may hands held read (store r).run :=
  ⟨h, fun _ => .inr ⟨fun hd => absurd hd hr, fun x _ => hnone x⟩⟩

/-- Passing a result on in another form hands out the same. -/
theorem Conduct.map {x : Action α} {g : α → β} (hg : ∀ a, handsβ (g a) = hands a)
    (h : Conduct may hands held read x.run) :
    Conduct may handsβ held read (x >>= fun a => pure (g a)).run := by
  rw [run_bind]
  revert h
  generalize x.run = p
  intro h
  induction p generalizing held read with
  | pure result =>
    cases result with
    | error e => exact conduct_throw e
    | ok a => exact conduct_pure ((hg a).trans (h a rfl))
  | ask r k ih =>
    cases r with
    | inr r => exact fun a => ih a (h a)
    | inl r =>
      refine ⟨h.1, fun a => ?_⟩
      rcases h.2 a with hend | ⟨hopen, hgo⟩
      · left
        simp only
        generalize k a = q at hend
        cases hend with
        | issued hv hx => exact .issued hv ((hg _).trans hx)
        | exchanged hx => exact .exchanged ((hg _).trans hx)
        | revoked hx => exact .revoked ((hg _).trans hx)
      · exact .inr ⟨hopen, ih a hgo⟩

/-! ### Attempts -/

theorem conduct_issueOnce_bind {policy : IssuePolicy} {session : Uuid} {lifetime : Span}
    {f : Except Error HandedToken → Action HandedToken}
    (hmay : ∀ held read t now, .id t.id ∈ held → .hash t.hash ∈ held → now ∈ read →
      Token.fresh t.id session t.hash now lifetime = .ok t →
      may held read (.issueToken t policy now))
    (hok : ∀ h, f (.ok h) = pure h)
    (herror : ∀ e read, Conduct may (fun h => some (h.value, h.record)) [] read
      (f (.error e)).run) :
    Conduct may (fun h => some (h.value, h.record)) held read
      (Tokens.issueOnce policy session lifetime >>= f).run := by
  simp only [Tokens.issueOnce, bind_assoc, pure_bind]
  refine conduct_freshOpaque_bind fun value => conduct_now_bind fun now =>
    conduct_freshId_bind fun id => conduct_liftExcept_bind fun t ht => ?_
  obtain ⟨expiresAt, hend, rfl⟩ := Token.fresh_eq_ok ht
  refine ⟨hmay _ _ _ _ (by simp) (by simp) (by simp) ht, fun a => ?_⟩
  cases a with
  | ok i =>
    left
    show Concludes _ _ _ (f (.ok ⟨value, i.token⟩)).run
    rw [hok]
    exact .issued rfl rfl
  | error e => exact .inr ⟨fun _ => ⟨e, rfl⟩, herror e _⟩

theorem conduct_rotateOnce_bind {presented : Hash} {lifetime : Span}
    {f : Except Error RotatedToken → Action RotatedToken}
    (hmay : ∀ held read id hash now, .id id ∈ held → .hash hash ∈ held → now ∈ read →
      may held read (.rotateToken presented id hash now lifetime))
    (hok : ∀ r, f (.ok r) = pure r)
    (herror : ∀ e read, Conduct may (fun r => some (r.value, r.record)) [] read
      (f (.error e)).run) :
    Conduct may (fun r => some (r.value, r.record)) held read
      (Tokens.rotateOnce presented lifetime >>= f).run := by
  simp only [Tokens.rotateOnce, bind_assoc, pure_bind]
  refine conduct_freshOpaque_bind fun value => conduct_now_bind fun now =>
    conduct_freshId_bind fun id => ?_
  refine ⟨hmay _ _ _ _ _ (by simp) (by simp) (by simp), fun a => ?_⟩
  cases a with
  | ok r =>
    left
    show Concludes _ _ _ (f (.ok _)).run
    rw [hok]
    exact .exchanged rfl
  | error e => exact .inr ⟨fun _ => ⟨e, rfl⟩, herror e _⟩

/-- If one attempt conducts itself whatever follows its failure, so do all of them together. -/
theorem conduct_retrying {once : Action (Except Error α)}
    (honce : ∀ (f : Except Error α → Action α) (read : List Instant), (∀ a, f (.ok a) = pure a) →
      (∀ e read, Conduct may hands [] read (f (.error e)).run) →
      Conduct may hands [] read (once >>= f).run)
    (n : Nat) (read : List Instant) : Conduct may hands [] read (Tokens.retrying once n).run := by
  -- every attempt starts with nothing held, and with all readings of those before
  induction n generalizing read with
  | zero => exact honce _ read (fun _ => rfl) fun e _ => conduct_throw e
  | succ n ih =>
    refine honce _ read (fun _ => rfl) fun e read => ?_
    simp only
    split
    · exact ih read
    · exact conduct_throw e

end

/-! ## Every call follows its rule -/

section

variable {settings : Settings} {read : List Instant}

theorem conduct_issue {c : Call} {session : Uuid} {lifetime : Span} (hc : c.Issues session)
    (hl : c.Gives settings lifetime) :
    Conduct (May settings c) (fun h => some (h.value, h.record)) [] read
      (Tokens.issue settings.tokens session lifetime).run := by
  unfold Tokens.issue
  split
  · exact conduct_retrying (fun f read hok herror => conduct_issueOnce_bind
      (fun _ _ _ _ hid hhash hn hf => .issueToken hc hl hid hhash hn hf) hok herror) _ read
  · exact conduct_throw _

theorem conduct_issueDefault {c : Call} {session : Uuid} (hc : c.Issues session)
    (hl : ∀ lifetime, settings.tokens.lifetime = .ok lifetime → c.Gives settings lifetime) :
    Conduct (May settings c) (fun h => some (h.value, h.record)) [] read
      (Tokens.issueDefault settings.tokens session).run := by
  unfold Tokens.issueDefault
  exact conduct_liftExcept_bind fun lifetime hlife => conduct_issue hc (hl lifetime hlife)

theorem presentedHash_eq_ok {value : String} {hash : Hash}
    (h : Tokens.presentedHash value = .ok hash) :
    Text.allBlank value = false ∧ hash = Opaque.hash value := by
  simp only [Tokens.presentedHash] at h
  split at h
  · cases h
  · rename_i hb
    cases h
    exact ⟨by simpa using hb, rfl⟩

theorem conduct_purgeAll {c : Call} {hands : CleanupReport → Option (String × Token)}
    (hnone : ∀ report, hands report = none) (cutoff : Instant) (budget deleted passes : Nat) :
    Conduct (May settings c) hands [] read
      (Cleanup.purgeAll cutoff budget deleted passes).run := by
  induction deleted, passes using Cleanup.purgeAll.induct budget with
  | case1 deleted passes hbelow ih =>
    rw [Cleanup.purgeAll, dif_pos hbelow]
    refine conduct_store_bind (.plain not_false) not_false fun removed => ?_
    split
    · exact conduct_pure (hnone _)
    · exact ih removed ‹_›
  | case2 deleted passes hbelow =>
    rw [Cleanup.purgeAll, dif_neg hbelow]
    exact conduct_pure (hnone _)

theorem conduct_action (settings : Settings) (c : Call) :
    Conduct (May settings c) c.hands [] [] (c.action settings).run := by
  cases c with
  | createSession user thumbprint =>
    refine conduct_liftExcept_bind fun _ _ => conduct_freshId_bind fun id =>
      conduct_now_bind fun now => ?_
    exact conduct_store (.createSession (by simp [Session.start])) not_false fun _ => rfl
  | openSession user thumbprint =>
    simp only [Call.action, Sessions.openWithToken, Sessions.create, bind_assoc]
    refine conduct_liftExcept_bind fun _ _ => conduct_freshId_bind fun id =>
      conduct_now_bind fun now => ?_
    refine conduct_store_bind (.createSession (by simp [Session.start])) not_false fun s => ?_
    exact Conduct.map (fun _ => rfl) (conduct_issueDefault trivial fun _ h => h)
  | bindSession session thumbprint =>
    exact conduct_liftExcept_bind fun _ _ =>
      conduct_store_bind (.plain not_false) not_false fun _ => conduct_pure rfl
  | touchSession session =>
    exact conduct_now_bind fun _ => conduct_store (.plain not_false) not_false fun _ => rfl
  | revokeSession session =>
    exact conduct_now_bind fun _ =>
      conduct_store_bind (.plain not_false) not_false fun _ => conduct_pure rfl
  | getSession session =>
    refine conduct_store_bind (.plain not_false) not_false fun found => ?_
    cases found with
    | none => exact conduct_throw _
    | some s => exact conduct_pure rfl
  | listSessions user includeRevoked =>
    exact conduct_store (.plain not_false) not_false fun _ => rfl
  | revokeSessions user =>
    exact conduct_now_bind fun _ => conduct_store (.plain not_false) not_false fun _ => rfl
  | issue session lifetime => exact conduct_issue rfl rfl
  | issueDefault session => exact conduct_issueDefault rfl fun _ h => h
  | rotate value =>
    refine conduct_liftExcept_bind fun presented hp => conduct_liftExcept_bind fun lifetime hl => ?_
    obtain ⟨-, rfl⟩ := presentedHash_eq_ok hp
    exact conduct_retrying (fun f read hok herror => conduct_rotateOnce_bind
      (fun _ _ _ _ _ hid hhash hn => .rotateToken rfl hl hid hhash hn) hok herror) _ _
  | revokeToken value =>
    refine conduct_liftExcept_bind fun hash hp => conduct_now_bind fun now => ?_
    obtain ⟨-, rfl⟩ := presentedHash_eq_ok hp
    refine ⟨.revokeToken rfl, fun a => ?_⟩
    cases a with
    | ok u => exact .inl (.revoked rfl)
    | error e => exact .inr ⟨fun _ => ⟨e, rfl⟩, conduct_throw e⟩
  | isCurrentAndValid value =>
    simp only [Call.action, Tokens.isCurrentAndValid]
    split
    · exact conduct_pure rfl
    · exact conduct_now_bind fun _ => conduct_store (.plain not_false) not_false fun _ => rfl
  | inspect value =>
    refine conduct_liftExcept_bind fun hash _ =>
      conduct_store_bind (.plain not_false) not_false fun found => conduct_orThrow_bind fun t => ?_
    exact conduct_store_bind (.plain not_false) not_false fun s => conduct_now_bind fun _ =>
      conduct_pure rfl
  | chain session =>
    refine conduct_store_bind (.plain not_false) not_false fun found =>
      conduct_orThrow_bind fun _ => ?_
    exact conduct_store_bind (.plain not_false) not_false fun _ => conduct_pure rfl
  | cleanUp =>
    refine conduct_liftExcept_bind fun budget _ => conduct_now_bind fun now => ?_
    refine conduct_liftExcept_bind fun retention _ => conduct_liftExcept_bind fun cutoff _ => ?_
    exact conduct_purgeAll (fun _ => rfl) cutoff _ 0 0

end

/-! ## What is entered has been drawn -/

/-- A token that a request would enter bears held marks and has not been used. -/
def Carries (held : List Mark) : Store.Request → Prop
  | .issueToken t _ _ => .id t.id ∈ held ∧ .hash t.hash ∈ held ∧ t.isSpent = false
  | .rotateToken _ id hash _ _ => .id id ∈ held ∧ .hash hash ∈ held
  | _ => True

/-- Each token that a program enters bears marks that were drawn after its last request to the
store, or, up to its first one, that are held already. -/
def Tame {α : Type} : List Mark → Prog signature α → Prop
  | _, .pure _ => True
  | held, .ask (.inl r) k => Carries held r ∧ ∀ a, Tame [] (k a)
  | held, .ask (.inr r) k => ∀ a, Tame (marks r a ++ held) (k a)

theorem May.carries {settings : Settings} {c : Call} {held : List Mark} {read : List Instant}
    {r : Store.Request} (h : May settings c held read r) : Carries held r := by
  cases h with
  | createSession | revokeToken => exact trivial
  | issueToken _ _ hid hhash _ hf =>
    obtain ⟨expiresAt, -, ht⟩ := Token.fresh_eq_ok hf
    exact ⟨hid, hhash, by rw [ht]; rfl⟩
  | rotateToken _ _ hid hhash => exact ⟨hid, hhash⟩
  | plain hp =>
    cases r with
    | issueToken | rotateToken => exact absurd trivial hp
    | _ => exact trivial

theorem Conduct.tame {α : Type} {may : List Mark → List Instant → Store.Request → Prop}
    {hands : α → Option (String × Token)} {held : List Mark} {read : List Instant}
    {p : Prog signature (Except Error α)} (h : Conduct may hands held read p)
    (hmay : ∀ held read r, may held read r → Carries held r) : Tame held p := by
  induction p generalizing held read with
  | pure result => exact trivial
  | ask r k ih =>
    cases r with
    | inr r => exact fun a => ih a (h a)
    | inl r =>
      refine ⟨hmay _ _ _ h.1, fun a => ?_⟩
      rcases h.2 a with hend | ⟨-, hgo⟩
      · obtain ⟨x, hx⟩ := hend.ended
        rw [hx]
        exact trivial
      · exact ih a hgo

theorem tame_action (settings : Settings) (c : Call) : Tame [] (c.action settings).run :=
  (conduct_action settings c).tame fun _ _ _ h => h.carries

end SessionKeeper.Service
