import SessionKeeper.Proofs.Service.Custody

/-!
# Calls that exchange a token

A call that exchanges an opaque value is either refused at once, or it asks the store for the
exchange again and again until one answer ends it (`Exchanging`). So such a call ends at one step,
and as the store answers at this step (`Returns`).
-/

namespace SessionKeeper.Service

/-! ## What is left of an exchange -/

/-- A call ends as the store answers: with its refusal, or with a result for its result. -/
inductive Agrees {α β : Type} : Except Error α → Except Error β → Prop where
  | refused (e) : Agrees (.error e) (.error e)
  | granted (a b) : Agrees (.ok a) (.ok b)

/-- What is left of a call that exchanges the token with a hash: it asks the store for nothing but
the exchange, and it ends as the store answers. -/
def Exchanging (presented : Hash) : Prog signature (Except Error RotatedToken) → Prop
  | .pure _ => False
  | .ask (.inl r) k =>
    (∃ id hash now lifetime, r = .rotateToken presented id hash now lifetime) ∧
      ∀ a : Except Error r.Reply,
        (∃ result, k a = .pure result ∧ Agrees a result) ∨ Exchanging presented (k a)
  | .ask (.inr _) k => ∀ a, Exchanging presented (k a)

theorem Exchanging.ne_pure {presented : Hash} {p : Prog signature (Except Error RotatedToken)}
    (h : Exchanging presented p) (result : Except Error RotatedToken) : p ≠ .pure result := by
  rintro rfl
  exact h

/-- The value and the settings let an exchange begin. -/
def Accepts (settings : Settings) (value : String) : Prop :=
  Text.allBlank value = false ∧ ∃ lifetime, settings.tokens.lifetime = .ok lifetime

/-- One attempt, and what is done with its outcome: a result is returned, and a refusal is either
returned or followed by another attempt. -/
theorem exchanging_once {presented : Hash} {lifetime : Span}
    {f : Except Error RotatedToken → Action RotatedToken}
    (hok : ∀ r, ∃ result, (f (.ok r)).run = .pure (.ok result))
    (herror : ∀ e, (f (.error e)).run = .pure (.error e) ∨
      Exchanging presented (f (.error e)).run) :
    Exchanging presented (Tokens.rotateOnce presented lifetime >>= f).run := by
  intro value now id
  refine ⟨⟨id, Opaque.hash value, now, lifetime, rfl⟩, fun a => ?_⟩
  cases a with
  | ok r =>
    obtain ⟨result, hr⟩ := hok _
    exact .inl ⟨_, hr, .granted _ _⟩
  | error e =>
    rcases herror e with he | he
    · exact .inl ⟨_, he, .refused e⟩
    · exact .inr he

theorem exchanging_retrying (presented : Hash) (lifetime : Span) (n : Nat) :
    Exchanging presented (Tokens.retrying (Tokens.rotateOnce presented lifetime) n).run := by
  induction n with
  | zero => exact exchanging_once (fun r => ⟨r, rfl⟩) fun e => .inl rfl
  | succ n ih =>
    refine exchanging_once (fun r => ⟨r, rfl⟩) fun e => ?_
    simp only
    split
    · exact .inr ih
    · exact .inl rfl

/-- A call either fails at once or begins an exchange. -/
theorem rotate_run (settings : Settings) (value : String) :
    (¬ Accepts settings value ∧ ∃ e, (Tokens.rotate settings.tokens value).run = .pure (.error e) ∧
      e.kind ≠ .replayDetected) ∨
    (Accepts settings value ∧
      Exchanging (Opaque.hash value) (Tokens.rotate settings.tokens value).run) := by
  cases hblank : Text.allBlank value with
  | true =>
    refine .inl ⟨fun h => by simp [Accepts, hblank] at h, .tokenEmpty, ?_, by decide⟩
    rw [Tokens.rotate_of_blank settings.tokens hblank]
    rfl
  | false =>
    cases hlife : settings.tokens.lifetime with
    | error e =>
      refine .inl ⟨fun h => by simp [Accepts, hlife] at h, e, ?_, ?_⟩
      · rw [Tokens.rotate_of_lifetime_error hblank hlife]
        rfl
      · simp [TokenSettings.kind_of_lifetime_error hlife]
    | ok lifetime =>
      refine .inr ⟨⟨hblank, lifetime, hlife⟩, ?_⟩
      rw [Tokens.rotate_of_lifetime hblank hlife]
      exact exchanging_retrying _ _ _

/-- What is left of a call, if it is an exchange. -/
def Thread.Proper (settings : Settings) : Thread → Prop
  | ⟨.rotate value, rest, _⟩ =>
    (¬ Accepts settings value ∧ ∃ e, rest = .pure (.error e)) ∨
      (Accepts settings value ∧
        ((∃ result, rest = .pure result) ∨ Exchanging (Opaque.hash value) rest))
  | _ => True

/-- An exchange that asks for something has been accepted. -/
theorem Thread.Proper.exchanging {settings : Settings} {value : String} {r : signature.Request}
    {k : signature.Answer r → Prog signature (Except Error RotatedToken)} {held : List Mark}
    (h : Thread.Proper settings ⟨.rotate value, .ask r k, held⟩) :
    Accepts settings value ∧ Exchanging (Opaque.hash value) (.ask r k) := by
  rcases h with ⟨-, e, he⟩ | ⟨ha, ⟨result, he⟩ | he⟩
  · cases he
  · cases he
  · exact ⟨ha, he⟩

namespace System

variable {settings : Settings} {σ σ' : System} {ev : Event} {value : String}

/-! ## Ended calls -/

/-- The call is an exchange of the value, and it has ended with the result. -/
def Ended (σ : System) (i : Nat) (value : String) (result : Except Error RotatedToken) : Prop :=
  ∃ held, σ.threads[i]? = some ⟨.rotate value, .pure result, held⟩

theorem Ended.unique {i : Nat} {result result' : Except Error RotatedToken}
    (h : σ.Ended i value result) (h' : σ.Ended i value result') : result = result' := by
  obtain ⟨held, h⟩ := h
  obtain ⟨held', h'⟩ := h'
  rw [h] at h'
  cases h'
  rfl

theorem Step.ended (h : Step settings σ ev σ') {i : Nat} {result : Except Error RotatedToken}
    (hi : σ.Ended i value result) : σ'.Ended i value result :=
  h.returned (c := .rotate value) hi

/-- How a call comes to its end: it is not accepted, or the store has answered it. -/
inductive Returns (settings : Settings) (σ σ' : System) (value : String) :
    Event → Nat → Except Error RotatedToken → Prop where
  | unaccepted {ev j e} (h : ¬ Accepts settings value) (hk : e.kind ≠ .replayDetected) :
      Returns settings σ σ' value ev j (.error e)
  | answered {j x v id hash now lifetime a result} (h : Accepts settings value)
      (hf : Memory.Operation.Fresh σ.memory
        (.ask (.rotateToken (Opaque.hash value) id hash now lifetime)))
      (hx : Memory.Rotated σ.memory (Opaque.hash value) id hash now lifetime (a, σ'.memory))
      (ha : Agrees a result) : Returns settings σ σ' value (.go j x v) j result

theorem proper_step (hp : ∀ th ∈ σ.threads, th.Proper settings) (h : Step settings σ ev σ') :
    ∀ th ∈ σ'.threads, th.Proper settings := by
  have hrest : ∀ th : Thread,
      th.Proper settings ↔ Thread.Proper settings ⟨th.call, th.rest, []⟩ := by
    rintro ⟨c, rest, held⟩
    cases c <;> rfl
  simp only [hrest] at hp ⊢
  refine h.threads (P := fun c p => Thread.Proper settings ⟨c, p, []⟩) ?_ ?_ hp
  · intro c
    cases c with
    | rotate value =>
      rcases rotate_run settings value with ⟨hn, e, he, -⟩ | ⟨ha, he⟩
      · exact .inl ⟨hn, e, he⟩
      · exact .inr ⟨ha, .inr he⟩
    | _ => exact trivial
  · intro c r k hth a
    cases c with
    | rotate value =>
      obtain ⟨ha, hgo⟩ := hth.exchanging
      refine .inr ⟨ha, ?_⟩
      cases r with
      | inr r => exact .inr (hgo a)
      | inl r =>
        rcases hgo.2 a with ⟨result, hk, -⟩ | hk
        · exact .inl ⟨result, hk⟩
        · exact .inr hk
    | _ => exact trivial

/-- A call that ends at a step ends as the store answers at this step. -/
theorem Step.returns (hkept : σ.Kept) (hp : ∀ th ∈ σ.threads, th.Proper settings)
    (h : Step settings σ ev σ') {j : Nat} {result : Except Error RotatedToken}
    (hbefore : ∀ x, ¬ σ.Ended j value x) (hafter : σ'.Ended j value result) :
    Returns settings σ σ' value ev j result := by
  obtain ⟨held, hj⟩ := hafter
  cases h with
  | idle | clockSet | userAdded | userRemoved => exact absurd ⟨held, hj⟩ (hbefore result)
  | called c =>
    rw [List.getElem?_append] at hj
    split at hj
    · exact absurd ⟨held, hj⟩ (hbefore result)
    · have hth := List.mem_singleton.mp (List.mem_of_getElem? hj)
      cases c with
      | rotate value =>
        injection hth with hcall hrest
        cases hcall
        rcases rotate_run settings value with ⟨hn, e, he, hk⟩ | ⟨ha, he⟩
        · cases hrest.trans he
          exact .unaccepted hn hk
        · exact absurd hrest.symm (he.ne_pure result)
      | _ => cases hth
  | @stored _ y v c _ r k h =>
    rcases thread_set hj with ⟨rfl, hnew⟩ | ⟨-, hj⟩
    · have hth := hp _ (List.mem_of_getElem? h)
      injection hnew with hcall hrest
      cases hcall
      have hrest := eq_of_heq hrest
      obtain ⟨ha, ⟨id, hash, now, lifetime, rfl⟩, hend⟩ := hth.exchanging
      rcases hend (σ.memory.answer _).1 with ⟨x, hk, hx⟩ | hk
      · cases hrest.trans hk
        have hputs : σ.Puts (.go j y v) _ := ⟨_, ⟨_, _, _, h⟩, rfl⟩
        exact .answered ha (hkept.custody.fresh hputs)
          (Memory.rotateToken_rotated hkept.sound.orderly _ id hash now lifetime) hx
      · exact absurd hrest.symm (hk.ne_pure result)
    · exact absurd ⟨held, hj⟩ (hbefore result)
  | @answered _ _ _ c _ _ k a h =>
    -- a call does not end at an answer of the surroundings
    rcases thread_set hj with ⟨rfl, hnew⟩ | ⟨-, hj⟩
    · have hth := hp _ (List.mem_of_getElem? h)
      injection hnew with hcall hrest
      cases hcall
      exact absurd (eq_of_heq hrest).symm ((hth.exchanging.2 a).ne_pure result)
    · exact absurd ⟨held, hj⟩ (hbefore result)

/-- A call that has ended after a step has ended before it, or ends at it. -/
theorem Step.ended_or_returns (hkept : σ.Kept) (hp : ∀ th ∈ σ.threads, th.Proper settings)
    (h : Step settings σ ev σ') {j : Nat} {result : Except Error RotatedToken}
    (hafter : σ'.Ended j value result) : σ.Ended j value result ∨
      (∀ x, ¬ σ.Ended j value x) ∧ Returns settings σ σ' value ev j result := by
  by_cases hbefore : ∃ x, σ.Ended j value x
  · obtain ⟨x, hx⟩ := hbefore
    exact .inl ((h.ended hx).unique hafter ▸ hx)
  · have hnone : ∀ x, ¬ σ.Ended j value x := fun x hx => hbefore ⟨x, hx⟩
    exact .inr ⟨hnone, h.returns hkept hp hnone hafter⟩

end System

end SessionKeeper.Service
