import SessionKeeper.Proofs.Service.Attempts
import SessionKeeper.Proofs.Service.Lifetimes
import SessionKeeper.Service.Sessions

/-!
# Settings that are accepted

Settings are looked at once, when they are loaded, and each service looks again at those that it
uses. What is accepted when it is loaded keeps every service from finding fault with its settings or
its input (`Spared`), as long as the clock is ten years away from both ends of the calendar and the
store finds no such fault itself. That is a matter of what a program may end with if all that it is
told is `Benign` (`Ends`), which passes through sequences, attempts and purges. Conversely, settings
that are refused for a lifetime, a number of tokens or a number of hours alone are refused by the
services that use them, before the store is asked.
-/

namespace SessionKeeper

/-- The settings or the input are to blame. -/
def Error.IsMisuse (e : Error) : Prop := e.kind = .configuration ∨ e.kind = .validation

instance (e : Error) : Decidable e.IsMisuse := inferInstanceAs (Decidable (_ ∨ _))

/-! ## What is accepted -/

/-- After a check that may refuse, there is a result if it does not refuse. -/
theorem refuse_eq_ok {α : Type} {c : Prop} [Decidable c] {e : Error}
    {f : PUnit → Except Error α} {x : Except Error α} {a : α} :
    (if c then throw e >>= f else x) = .ok a ↔ ¬ c ∧ x = .ok a := by
  by_cases h : c
  · simp [h, throw, throwThe, MonadExceptOf.throw, bind, Except.bind]
  · simp [h]

theorem TokenSettings.exists_lifetime_iff {s : TokenSettings} :
    (∃ l, s.lifetime = .ok l) ↔ s.Allows := by
  constructor
  · intro ⟨l, hl⟩
    by_contra h
    obtain ⟨e, he, -⟩ := TokenSettings.lifetime_of_not_allows h
    rw [he] at hl
    cases hl
  · exact fun h => ⟨_, TokenSettings.lifetime_of_allows h⟩

theorem CleanupSettings.exists_retention_iff {s : CleanupSettings} :
    (∃ l, s.retention = .ok l) ↔ s.Allows := by
  constructor
  · intro ⟨l, hl⟩
    by_contra h
    obtain ⟨e, he, -⟩ := CleanupSettings.retention_of_not_allows h
    rw [he] at hl
    cases hl
  · exact fun h => ⟨_, CleanupSettings.retention_of_allows h⟩

theorem CleanupSettings.budget_of_positive {s : CleanupSettings} (h : 1 ≤ s.batchSize) :
    s.budget = .ok s.batchSize := if_neg (Int.not_lt.mpr h)

theorem CleanupSettings.budget_of_not_positive {s : CleanupSettings} (h : s.batchSize < 1) :
    ∃ e, s.budget = .error e ∧ e.kind = .configuration := ⟨_, if_pos h, rfl⟩

theorem CleanupSettings.exists_budget_iff {s : CleanupSettings} :
    (∃ n, s.budget = .ok n) ↔ 1 ≤ s.batchSize := by
  by_cases h : s.batchSize < 1
  · obtain ⟨e, he, -⟩ := CleanupSettings.budget_of_not_positive h
    simp [he, h]
  · simp [CleanupSettings.budget_of_positive (Int.not_lt.mp h), Int.not_lt.mp h]

namespace Settings

/-- The rules on settings. -/
structure Acceptable (s : Settings) : Prop where
  address : Text.allBlank s.database.url = false
  connections : s.database.minConnections ≤ s.database.maxConnections
  lifetime : s.tokens.Allows
  attempts : 0 < s.tokens.maxAttempts
  batch : 1 ≤ s.cleanup.batchSize
  retention : s.cleanup.Allows

/-- Exactly the settings that keep to the rules are accepted. -/
theorem validate_eq_ok_iff (s : Settings) : s.validate = .ok () ↔ s.Acceptable := by
  have hrules : s.validate = .ok () ↔ ¬ Text.allBlank s.database.url = true ∧
      ¬ s.database.maxConnections < s.database.minConnections ∧ s.tokens.Allows ∧
      ¬ s.tokens.maxAttempts = 0 ∧ 1 ≤ s.cleanup.batchSize ∧ s.cleanup.Allows := by
    rw [← TokenSettings.exists_lifetime_iff, ← CleanupSettings.exists_retention_iff,
      ← CleanupSettings.exists_budget_iff]
    unfold Settings.validate
    simp only [refuse_eq_ok, except_bind_eq_ok, exists_and_right, pure, Except.pure, and_true]
  rw [hrules]
  constructor
  · rintro ⟨haddress, hconnections, hlifetime, hattempts, hbatch, hretention⟩
    exact ⟨by simpa using haddress, by omega, hlifetime, by omega, hbatch, hretention⟩
  · intro h
    have hattempts := h.attempts
    have hconnections := h.connections
    exact ⟨by simp [h.address], by omega, h.lifetime, by omega, h.batch, h.retention⟩

/-- The settings with another lifetime of tokens. -/
def withLifetime (s : Settings) (seconds : Int) : Settings :=
  { s with tokens := { s.tokens with lifetimeSeconds := seconds } }

/-- The settings with another cleanup. -/
def withCleanup (s : Settings) (batchSize retentionHours : Int) : Settings :=
  { s with cleanup := { s.cleanup with batchSize, retentionHours } }

/-- The settings are refused, and nothing but the lifetime of tokens is to blame. -/
def RefusedForLifetime (s : Settings) : Prop :=
  s.validate ≠ .ok () ∧ ∃ seconds, (s.withLifetime seconds).validate = .ok ()

/-- The settings are refused, and nothing is to blame but how many tokens a cycle may delete and how
long they are kept. -/
def RefusedForCleanup (s : Settings) : Prop :=
  s.validate ≠ .ok () ∧
    ∃ batchSize retentionHours, (s.withCleanup batchSize retentionHours).validate = .ok ()

theorem RefusedForLifetime.not_allows {s : Settings} (h : s.RefusedForLifetime) :
    ¬ s.tokens.Allows := by
  obtain ⟨hrefused, seconds, haccepted⟩ := h
  have hother := (validate_eq_ok_iff _).mp haccepted
  intro hallows
  exact hrefused ((validate_eq_ok_iff s).mpr ⟨hother.address, hother.connections, hallows,
    hother.attempts, hother.batch, hother.retention⟩)

theorem RefusedForCleanup.not_allows {s : Settings} (h : s.RefusedForCleanup)
    (hbatch : 1 ≤ s.cleanup.batchSize) : ¬ s.cleanup.Allows := by
  obtain ⟨hrefused, batchSize, retentionHours, haccepted⟩ := h
  have hother := (validate_eq_ok_iff _).mp haccepted
  intro hallows
  exact hrefused ((validate_eq_ok_iff s).mpr ⟨hother.address, hother.connections,
    hother.lifetime, hother.attempts, hbatch, hallows⟩)

end Settings

namespace Service

/-! ## What programs end with -/

/-- If it is an error, it blames neither settings nor input. -/
def Blameless {α : Type} (a : Except Error α) : Prop := ∀ e, a = .error e → ¬ e.IsMisuse

instance decidableBlameless {α : Type} : (a : Except Error α) → Decidable (Blameless a)
  | .ok _ => .isTrue nofun
  | .error e => decidable_of_iff (¬ e.IsMisuse)
    ⟨fun h _ he => Except.error.inj he ▸ h, fun h => h e rfl⟩

theorem blameless_map {α β : Type} {a : Except Error α} {f : α → β} (h : Blameless a) :
    Blameless (a.map f) := by
  intro e he
  cases a with
  | ok a => cases he
  | error e' =>
    cases he
    exact h e rfl

/-- The longest lifetime of a token: ten years of 365 days. -/
def decade : Span := .ofSeconds TokenSettings.maxLifetimeSeconds

/-- The calendar reaches ten years back and ten years ahead. -/
def Central (now : Instant) : Prop :=
  (now.plus (-decade)).OnCalendar ∧ (now.plus decade).OnCalendar

instance decidableCentral (now : Instant) : Decidable (Central now) :=
  inferInstanceAs (Decidable (_ ∧ _))

/-- The store blames neither settings nor input, and the clock is far from the ends of the
calendar. -/
def Benign : Turn → Prop
  | ⟨.inl r, a⟩ => Blameless (α := r.Reply) a
  | ⟨.inr .now, now⟩ => Central now
  | ⟨.inr .freshId, _⟩ => True
  | ⟨.inr .freshOpaque, _⟩ => True

instance : DecidablePred Benign
  | ⟨.inl r, a⟩ => decidableBlameless (α := r.Reply) a
  | ⟨.inr .now, now⟩ => decidableCentral now
  | ⟨.inr .freshId, _⟩ => .isTrue trivial
  | ⟨.inr .freshOpaque, _⟩ => .isTrue trivial

/-- The result of a program is like this if all its turns are fine. -/
def Ends {α : Type} (fine : Turn → Prop) (post : α → Prop) : Prog signature α → Prop
  | .pure a => post a
  | .ask r k => ∀ a, fine ⟨r, a⟩ → Ends fine post (k a)

section

variable {σ α β : Type} {fine : Turn → Prop}

theorem Ends.run {answer : (r : signature.Request) → StateM σ (signature.Answer r)}
    {post : α → Prop} {p : Prog signature α} (h : Ends fine post p) {s : σ}
    (hfine : ∀ t ∈ transcript answer p s, fine t) : post ((p.run answer).run s).1 := by
  induction p generalizing s with
  | pure a => exact h
  | ask r k ih =>
    exact ih _ (h _ (hfine _ List.mem_cons_self)) fun t ht => hfine t (List.mem_cons_of_mem _ ht)

theorem ends_progBind {post : α → Prop} {post' : β → Prop} {p : Prog signature α}
    {f : α → Prog signature β} (hp : Ends fine post p) (hf : ∀ a, post a → Ends fine post' (f a)) :
    Ends fine post' (p.bind f) := by
  induction p with
  | pure a => exact hf a hp
  | ask r k ih => exact fun a ha => ih a (hp a ha)

/-- An operation that finds only benign turns has a result like this, or an error that blames
neither settings nor input. -/
def Spares (post : α → Prop) (x : Action α) : Prop :=
  Ends Benign (fun
    | .ok a => post a
    | .error e => ¬ e.IsMisuse) x.run

variable {post : α → Prop} {post' : β → Prop}

theorem Spares.blameless {answer : (r : signature.Request) → StateM σ (signature.Answer r)}
    {x : Action α} (h : Spares post x) {s : σ}
    (hbenign : ∀ t ∈ transcript answer x.run s, Benign t) : Blameless (execute answer x s).1 := by
  have hends := Ends.run h hbenign
  intro e he
  rw [show ((x.run.run answer).run s).1 = .error e from he] at hends
  exact hends

theorem spares_pure {a : α} (h : post a) : Spares post (pure a) := h

theorem spares_throw {e : Error} (h : ¬ e.IsMisuse) : Spares post (throw e) := h

theorem spares_bind {x : Action α} {f : α → Action β} (hx : Spares post x)
    (hf : ∀ a, post a → Spares post' (f a)) : Spares post' (x >>= f) := by
  unfold Spares
  rw [run_bind]
  apply ends_progBind hx
  intro a ha
  cases a with
  | ok a => exact hf a ha
  | error e => exact ha

theorem spares_liftExcept {x : Except Error α} (h : Blameless x) :
    Spares (fun _ => True) (liftExcept x) := by
  cases x with
  | ok a => trivial
  | error e => exact h e rfl

theorem spares_liftExcept_bind {x : Except Error α} {f : α → Action β} (h : Blameless x)
    (hf : ∀ a, x = .ok a → Spares post' (f a)) : Spares post' (liftExcept x >>= f) := by
  cases x with
  | ok a => exact hf a rfl
  | error e => exact h e rfl

theorem spares_store (r : Store.Request) : Spares (fun _ => True) (store r) := by
  intro a ha
  cases a with
  | ok a => trivial
  | error e => exact ha e rfl

theorem spares_tryStore (r : Store.Request) : Spares Blameless (tryStore r) := fun _ ha => ha

theorem spares_now : Spares Central now := fun _ ha => ha

theorem spares_freshId : Spares (fun _ => True) freshId := fun _ ha => ha

theorem spares_freshOpaque : Spares (fun _ => True) freshOpaque := fun _ ha => ha

/-- Attempts that are spared are spared together, by induction on the retries that are left. -/
theorem spares_retrying {once : Action (Except Error α)} (h : Spares Blameless once) (n : Nat) :
    Spares (fun _ => True) (Tokens.retrying once n) := by
  induction n with
  | zero => exact spares_bind h fun a ha => spares_liftExcept ha
  | succ n ih =>
    apply spares_bind h
    intro a ha
    cases a with
    | ok a => trivial
    | error e =>
      by_cases hcollision : Tokens.isCollision e = true
      · simp only [hcollision, if_true]
        exact ih
      · simp only [hcollision, Bool.false_eq_true, if_false]
        exact spares_throw (ha e rfl)

end

/-! ## What each operation needs -/

theorem spares_issueOnce {lifetime : Span} (hzero : 0 ≤ lifetime.nanos)
    (hdecade : lifetime.nanos ≤ decade.nanos) (policy : IssuePolicy) (session : Uuid) :
    Spares Blameless (Tokens.issueOnce policy session lifetime) := by
  apply spares_bind spares_freshOpaque
  intro value _
  apply spares_bind spares_now
  intro now hnow
  apply spares_bind spares_freshId
  intro id _
  have hback : (-decade).nanos ≤ lifetime.nanos := Int.le_trans (by decide) hzero
  have hend : (now.plus lifetime).OnCalendar :=
    Instant.onCalendar_plus_of_between hnow.1 hnow.2 hback hdecade
  have hfresh : Blameless (Token.fresh id session (Opaque.hash value) now lifetime) := by
    intro e he
    obtain ⟨hnone, -⟩ := Token.fresh_eq_error he
    exact absurd hend (Instant.add?_eq_none_iff.mp hnone)
  apply spares_liftExcept_bind hfresh
  intro token _
  exact spares_bind (spares_tryStore _) fun issued h => spares_pure (blameless_map h)

theorem spares_rotateOnce (presented : Hash) (lifetime : Span) :
    Spares Blameless (Tokens.rotateOnce presented lifetime) := by
  apply spares_bind spares_freshOpaque
  intro value _
  apply spares_bind spares_now
  intro now _
  apply spares_bind spares_freshId
  intro id _
  exact spares_bind (spares_tryStore _) fun rotated h => spares_pure (blameless_map h)

theorem spares_issueDefault {settings : TokenSettings} (h : settings.Allows) (session : Uuid) :
    Spares (fun _ => True) (Tokens.issueDefault settings session) := by
  have hnanos : (Span.ofSeconds settings.lifetimeSeconds).nanos =
      settings.lifetimeSeconds * 1000000000 := rfl
  have hdecade : decade.nanos = TokenSettings.maxLifetimeSeconds * 1000000000 := rfl
  obtain ⟨hone, hmost⟩ := id h
  have hissue : Tokens.issueDefault settings session =
      Tokens.retrying (Tokens.issueOnce settings.policy session
        (.ofSeconds settings.lifetimeSeconds)) (Tokens.retries settings) := by
    rw [Tokens.issueDefault, TokenSettings.lifetime_of_allows h]
    exact if_pos (decide_eq_true (TokenSettings.inRange_of_allows h).2)
  rw [hissue]
  exact spares_retrying (spares_issueOnce (by omega) (by omega) _ _) _

theorem spares_rotate {settings : TokenSettings} (h : settings.Allows) (value : String) :
    Spares (fun _ => True) (Tokens.rotate settings value) := by
  cases hblank : Text.allBlank value with
  | true =>
    rw [Tokens.rotate_of_blank settings hblank]
    exact spares_throw (by decide)
  | false =>
    rw [Tokens.rotate_of_lifetime hblank (TokenSettings.lifetime_of_allows h)]
    exact spares_retrying (spares_rotateOnce _ _) _

/-- The thumbprint is missing or more than blanks. -/
def Legible (thumbprint : Option String) : Prop :=
  ∀ raw, thumbprint = some raw → Text.allBlank raw = false

theorem spares_openWithToken {settings : TokenSettings} (h : settings.Allows) (user : Uuid)
    {thumbprint : Option String} (hlegible : Legible thumbprint) :
    Spares (fun _ => True) (Sessions.openWithToken settings user thumbprint) := by
  have hread : Blameless (Sessions.readThumbprint? thumbprint) := by
    intro e he
    cases thumbprint with
    | none => cases he
    | some raw =>
      simp [Sessions.readThumbprint?, Sessions.readThumbprint, hlegible raw rfl, Except.map] at he
  have hcreate : Spares (fun _ => True) (Sessions.create user thumbprint) := by
    apply spares_liftExcept_bind hread
    intro key _
    apply spares_bind spares_freshId
    intro id _
    exact spares_bind spares_now fun now _ => spares_store _
  apply spares_bind hcreate
  intro session _
  exact spares_bind (spares_issueDefault h _) fun token _ => trivial

theorem spares_purgeAll (cutoff : Instant) (budget deleted passes : Nat) :
    Spares (fun _ => True) (Cleanup.purgeAll cutoff budget deleted passes) := by
  induction deleted, passes using Cleanup.purgeAll.induct budget with
  | case1 deleted passes hbelow ih =>
    rw [Cleanup.purgeAll, dif_pos hbelow]
    apply spares_bind (spares_store _)
    intro removed _
    split
    · exact trivial
    · exact ih removed ‹_›
  | case2 deleted passes hbelow =>
    rw [Cleanup.purgeAll, dif_neg hbelow]
    exact trivial

theorem spares_runOnce {s : CleanupSettings} (hbatch : 1 ≤ s.batchSize) (h : s.Allows) :
    Spares (fun _ => True) (Cleanup.runOnce s) := by
  have hnanos : (Span.ofHours s.retentionHours).nanos = s.retentionHours * 3600000000000 := rfl
  have hdecade : decade.nanos = 315360000000000000 := rfl
  obtain ⟨hzero, hmost⟩ := id h
  unfold CleanupSettings.maxRetentionHours at hmost
  unfold Cleanup.runOnce
  rw [CleanupSettings.budget_of_positive hbatch, CleanupSettings.retention_of_allows h]
  show Spares _ (Service.now >>= fun now =>
    liftExcept (Cleanup.cutoff (.ofHours s.retentionHours) now) >>= fun cutoff =>
      Cleanup.purgeAll cutoff s.batchSize.toNat 0 0)
  apply spares_bind spares_now
  intro now hnow
  have hstart : (now.plus (-.ofHours s.retentionHours)).OnCalendar := by
    refine Instant.onCalendar_plus_of_between hnow.1 hnow.2 ?_ ?_ <;>
      simp only [Span.nanos_neg] <;> omega
  have hcutoff : Blameless (Cleanup.cutoff (.ofHours s.retentionHours) now) := by
    intro e he
    rw [Cleanup.cutoff, Instant.sub?, Instant.add?_of_onCalendar hstart] at he
    cases he
  apply spares_liftExcept_bind hcutoff
  intro cutoff _
  exact spares_purgeAll ..

/-! ## Settings that are refused -/

/-- The operation ends with an error that blames the settings, and does not ask the store. -/
structure Misconfigured {σ α : Type}
    (answer : (r : signature.Request) → StateM σ (signature.Answer r)) (x : Action α) (s : σ) :
    Prop where
  ends : ∃ e : Error, (execute answer x s).1 = .error e ∧ e.kind = .configuration
  unasked : ∀ r a, ⟨.inl r, a⟩ ∉ transcript answer x.run s

section

variable {σ : Type} {answer : (r : signature.Request) → StateM σ (signature.Answer r)} {s : σ}

theorem misconfigured_throw {α : Type} {e : Error} (h : e.kind = .configuration) :
    Misconfigured answer (throw e : Action α) s where
  ends := ⟨e, rfl, h⟩
  unasked := by
    intro r a hmem
    cases hmem

theorem misconfigured_issueDefault {settings : TokenSettings} (h : ¬ settings.Allows)
    (session : Uuid) : Misconfigured answer (Tokens.issueDefault settings session) s := by
  obtain ⟨e, he, hkind⟩ := TokenSettings.lifetime_of_not_allows h
  have hthrow : Tokens.issueDefault settings session = throw e := by
    rw [Tokens.issueDefault, he]
    rfl
  rw [hthrow]
  exact misconfigured_throw hkind

theorem misconfigured_rotate {settings : TokenSettings} (h : ¬ settings.Allows) {value : String}
    (hblank : Text.allBlank value = false) :
    Misconfigured answer (Tokens.rotate settings value) s := by
  obtain ⟨e, he, hkind⟩ := TokenSettings.lifetime_of_not_allows h
  rw [Tokens.rotate_of_lifetime_error hblank he]
  exact misconfigured_throw hkind

/-- The clock is read before the hours are looked at, but not before the number of tokens is. -/
theorem misconfigured_runOnce {settings : CleanupSettings}
    (h : 1 ≤ settings.batchSize → ¬ settings.Allows) :
    Misconfigured answer (Cleanup.runOnce settings) s := by
  by_cases hbatch : 1 ≤ settings.batchSize
  · obtain ⟨e, he, hkind⟩ := CleanupSettings.retention_of_not_allows (h hbatch)
    have hrun : Cleanup.runOnce settings = Service.now >>= fun _ => throw e := by
      unfold Cleanup.runOnce
      rw [CleanupSettings.budget_of_positive hbatch, he]
      rfl
    rw [hrun]
    constructor
    · exact ⟨e, rfl, hkind⟩
    · intro r a hmem
      replace hmem : (⟨.inl r, a⟩ : Turn) ∈ [⟨.inr .now, ((answer (.inr .now)).run s).1⟩] := hmem
      cases List.mem_singleton.mp hmem
  · obtain ⟨e, he, hkind⟩ := CleanupSettings.budget_of_not_positive (Int.not_le.mp hbatch)
    have hrun : Cleanup.runOnce settings = throw e := by
      unfold Cleanup.runOnce
      rw [he]
      rfl
    rw [hrun]
    exact misconfigured_throw hkind

end

/-! ## What loading decides -/

/-- If all that an operation is told is benign, it blames neither settings nor input. -/
def Spared {σ α : Type} (answer : (r : signature.Request) → StateM σ (signature.Answer r))
    (x : Action α) (s : σ) : Prop :=
  (∀ t ∈ transcript answer x.run s, Benign t) → Blameless (execute answer x s).1

/-- Whatever answers, and from any state on. With settings that are accepted when they are loaded,
no issue, exchange, opening or cleanup cycle blames settings or input, if the store does not and the
clock is ten years away from the ends of the calendar. With settings that are refused for nothing but
the lifetime of tokens, every issue for the lifetime of the settings and every exchange blames the
settings before the store is asked, and so does every cycle with settings that are refused for
nothing but its own. -/
theorem acceptance_suffices {σ : Type}
    (answer : (r : signature.Request) → StateM σ (signature.Answer r)) (s : σ)
    (settings : Settings) :
    (settings.validate = .ok () →
      (∀ session, Spared answer (Tokens.issueDefault settings.tokens session) s) ∧
      (∀ value, Spared answer (Tokens.rotate settings.tokens value) s) ∧
      (∀ user thumbprint, Legible thumbprint →
        Spared answer (Sessions.openWithToken settings.tokens user thumbprint) s) ∧
      Spared answer (Cleanup.runOnce settings.cleanup) s) ∧
    (settings.RefusedForLifetime →
      (∀ session, Misconfigured answer (Tokens.issueDefault settings.tokens session) s) ∧
      ∀ value, Text.allBlank value = false →
        Misconfigured answer (Tokens.rotate settings.tokens value) s) ∧
    (settings.RefusedForCleanup → Misconfigured answer (Cleanup.runOnce settings.cleanup) s) := by
  refine ⟨fun haccepted => ?_, fun hrefused => ?_, fun hrefused => ?_⟩
  · have hrules := (settings.validate_eq_ok_iff).mp haccepted
    exact ⟨fun session => (spares_issueDefault hrules.lifetime session).blameless,
      fun value => (spares_rotate hrules.lifetime value).blameless,
      fun user thumbprint hlegible =>
        (spares_openWithToken hrules.lifetime user hlegible).blameless,
      (spares_runOnce hrules.batch hrules.retention).blameless⟩
  · exact ⟨misconfigured_issueDefault hrefused.not_allows,
      fun value => misconfigured_rotate hrefused.not_allows⟩
  · exact misconfigured_runOnce hrefused.not_allows

/-- A store with one session. -/
def oneSession : Scene where
  memory := .applyAll .empty
    [.addUser ⟨1⟩, .ask (.createSession (.start ⟨2⟩ ⟨1⟩ none ⟨0, false⟩))]
  surroundings := ⟨⟨0, false⟩, fun _ => [], 0⟩

/-- On it nobody is blamed with the default settings, and the settings are blamed if tokens are to
live for no time, or if a cycle is to delete no token. -/
theorem acceptance_suffices_defaults :
    let settings : Settings := { database := { url := "postgres://localhost" } }
    settings.validate = .ok () ∧
      Blameless (execute Scene.answer (Tokens.issueDefault settings.tokens ⟨2⟩) oneSession).1 ∧
      Blameless (execute Scene.answer (Tokens.rotate settings.tokens "token") oneSession).1 ∧
      Blameless (execute Scene.answer
        (Sessions.openWithToken settings.tokens ⟨1⟩ (some " key ")) oneSession).1 ∧
      Blameless (execute Scene.answer (Cleanup.runOnce settings.cleanup) oneSession).1 ∧
      Misconfigured Scene.answer (Tokens.issueDefault (settings.withLifetime 0).tokens ⟨2⟩)
        oneSession ∧
      Misconfigured Scene.answer (Tokens.rotate (settings.withLifetime 0).tokens "token")
        oneSession ∧
      Misconfigured Scene.answer (Cleanup.runOnce (settings.withCleanup 0 168).cleanup)
        oneSession := by
  intro settings
  have haccepted : settings.validate = .ok () := by decide
  have hlifetime : (settings.withLifetime 0).RefusedForLifetime :=
    ⟨by decide, settings.tokens.lifetimeSeconds, haccepted⟩
  have hcleanup : (settings.withCleanup 0 168).RefusedForCleanup :=
    ⟨by decide, settings.cleanup.batchSize, settings.cleanup.retentionHours, haccepted⟩
  obtain ⟨hissue, hrotate, hopen, hrun⟩ :=
    (acceptance_suffices Scene.answer oneSession settings).1 haccepted
  have hno := (acceptance_suffices Scene.answer oneSession (settings.withLifetime 0)).2.1 hlifetime
  refine ⟨haccepted, hissue ⟨2⟩ (by decide +kernel), hrotate "token" (by decide +kernel),
    hopen ⟨1⟩ (some " key ") ?_ (by decide +kernel), hrun (by decide +kernel), hno.1 ⟨2⟩,
    hno.2 "token" (by decide), ?_⟩
  · rintro raw ⟨⟩
    decide
  · exact (acceptance_suffices Scene.answer oneSession (settings.withCleanup 0 168)).2.2 hcleanup

end Service

end SessionKeeper
