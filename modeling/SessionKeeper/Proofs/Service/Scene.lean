import SessionKeeper.Proofs.Execution
import SessionKeeper.Proofs.Store.Deletion
import SessionKeeper.Service.Cleanup
import SessionKeeper.Service.Surroundings
import SessionKeeper.Service.Tokens

/-!
# Operations run by themselves

A service operation that is run from start to end: nothing comes between its requests, whatever it
is that answers them. A `Scene` answers them with a store in memory, a clock that stands
still and a supply of draws. The equations for a sequence (`perform_bind`) and for what may stand at
its head evaluate an operation step by step as it is written. An attempt that does not collide is
the only one (`perform_retrying`), and a purge that finds nothing is the last one of its cycle
(`perform_purgeAll_below`).
-/

namespace SessionKeeper.Service

/-! ## Any surroundings -/

section Execution

variable {σ α β : Type} {answer : (r : signature.Request) → StateM σ (signature.Answer r)}

/-- What the last attempt comes to, the attempts together come to. It is the one that does not
collide, or the one after which there is no retry left; the attempts before it are counted, and each
that collides leaves things as they have to be for the next. -/
theorem execute_retrying {once : Action (Except Error α)} {I : Nat → σ → Prop}
    {Q : Except Error α → σ → Prop} {n : Nat}
    (hend : ∀ k s, I k s → ∀ e s', execute answer once s = (.error e, s') → Q (.error e) s')
    (honce : ∀ k s, k ≤ n → I k s → ∀ a s', execute answer once s = (.ok a, s') →
      ((∀ e, a = .error e → Tokens.isCollision e = true → k = n) → Q a s') ∧
        ∀ e, a = .error e → Tokens.isCollision e = true → I (k + 1) s') {s : σ} (hs : I 0 s) :
    Q (execute answer (Tokens.retrying once n) s).1
      (execute answer (Tokens.retrying once n) s).2 := by
  -- so many attempts have been made, and so many retries are left
  suffices hleft : ∀ left k s, k + left = n → I k s →
      Q (execute answer (Tokens.retrying once left) s).1
        (execute answer (Tokens.retrying once left) s).2 from hleft n 0 s (Nat.zero_add n) hs
  intro left
  induction left with
  | zero =>
    intro k s hk hs
    rw [Tokens.retrying, execute_bind]
    obtain ⟨a, s', h⟩ : ∃ a s', execute answer once s = (a, s') := ⟨_, _, rfl⟩
    rw [h]
    cases a with
    | error e => exact hend k s hs e s' h
    | ok a =>
      have hq := (honce k s (by omega) hs a s' h).1 fun _ _ _ => by omega
      cases a <;> exact hq
  | succ left ih =>
    intro k s hk hs
    rw [Tokens.retrying, execute_bind]
    obtain ⟨a, s', h⟩ : ∃ a s', execute answer once s = (a, s') := ⟨_, _, rfl⟩
    rw [h]
    cases a with
    | error e => exact hend k s hs e s' h
    | ok a =>
      obtain ⟨hq, hnext⟩ := honce k s (by omega) hs a s' h
      cases a with
      | ok a => exact hq fun _ he _ => by cases he
      | error e =>
        by_cases hcollision : Tokens.isCollision e = true
        · simp only [hcollision, if_true]
          exact ih (k + 1) s' (by omega) (hnext e rfl hcollision)
        · simp only [hcollision, Bool.false_eq_true, if_false]
          refine hq fun e' he hcollides => absurd hcollides ?_
          cases he
          exact hcollision

/-- One attempt to issue a token: two draws and a reading of the clock, and then the store is asked,
unless the calendar ends before the token does. -/
theorem execute_issueOnce (policy : IssuePolicy) (session : Uuid) (lifetime : Span) (s : σ) :
    let value := (answer (.inr .freshOpaque)).run s
    let now := (answer (.inr .now)).run value.2
    let id := (answer (.inr .freshId)).run now.2
    execute answer (Tokens.issueOnce policy session lifetime) s =
      match Token.fresh id.1 session (Opaque.hash value.1) now.1 lifetime with
      | .error e => (.error e, id.2)
      | .ok t =>
        let issued := (answer (.inl (.issueToken t policy now.1))).run id.2
        (.ok (issued.1.map fun issued => ⟨value.1, issued.token⟩), issued.2) := by
  intro value now id
  have hdraws : execute answer (Tokens.issueOnce policy session lifetime) s =
      execute answer (liftExcept (Token.fresh id.1 session (Opaque.hash value.1) now.1 lifetime) >>=
        fun token => do
          let issued ← tryStore (.issueToken token policy now.1)
          return issued.map fun issued => ⟨value.1, issued.token⟩) id.2 := rfl
  rw [hdraws, execute_liftExcept_bind]
  generalize Token.fresh id.1 session (Opaque.hash value.1) now.1 lifetime = token
  cases token <;> rfl

end Execution

namespace Surroundings

/-- One state of the surroundings is a later one in the course of an operation: the clock stands
still, and draws are used up. -/
structure Later (s s' : Surroundings) : Prop where
  clock : s'.clock = s.clock
  draw : s'.draw = s.draw
  drawn : s.drawn ≤ s'.drawn

theorem Later.refl (s : Surroundings) : s.Later s := ⟨rfl, rfl, Nat.le_refl _⟩

theorem Later.trans {s s' s'' : Surroundings} (h : s.Later s') (h' : s'.Later s'') : s.Later s'' :=
  ⟨h'.clock.trans h.clock, h'.draw.trans h.draw, Nat.le_trans h.drawn h'.drawn⟩

/-- The identifiers that are still to be drawn are not those of stored tokens. -/
def NewTo (s : Surroundings) (m : Memory) : Prop :=
  ∀ n, s.drawn ≤ n → ∀ t ∈ m.tokens, t.id ≠ idOf (s.draw n)

theorem NewTo.later {s s' : Surroundings} {m m' : Memory} (h : s.NewTo m) (hs : s.Later s')
    (hm : m'.tokens = m.tokens) : s'.NewTo m' := by
  intro n hn
  rw [hs.draw, hm]
  exact h n (Nat.le_trans hs.drawn hn)

end Surroundings

/-! ## Scenes -/

/-- A store in memory and the surroundings of its services. -/
structure Scene where
  /-- The store. -/
  memory : Memory
  /-- The clock and the draws. -/
  surroundings : Surroundings

namespace Scene

variable {α β : Type} {w w' : Scene}

/-- The present instant. -/
def clock (w : Scene) : Instant := w.surroundings.clock

/-- Answer a request. -/
def answer : (r : signature.Request) → StateM Scene (signature.Answer r)
  | .inl r => modifyGet fun w =>
    ((w.memory.answer r).1, { w with memory := (w.memory.answer r).2 })
  | .inr r => modifyGet fun w =>
    ((w.surroundings.answer r).1, { w with surroundings := (w.surroundings.answer r).2 })

/-- Run an operation from start to end. -/
def perform (w : Scene) (x : Action α) : Except Error α × Scene := (x.run.run answer).run w

/-! ## Requests -/

theorem perform_bind_ok {x : Action α} {a : α} (h : w.perform x = (.ok a, w'))
    (f : α → Action β) : w.perform (x >>= f) = w'.perform (f a) := execute_bind_ok h f

theorem perform_bind (w : Scene) (x : Action α) (f : α → Action β) :
    w.perform (x >>= f) = match w.perform x with
      | (.ok a, w') => w'.perform (f a)
      | (.error e, w') => (.error e, w') := by
  obtain ⟨a, v, hx⟩ : ∃ a v, w.perform x = (a, v) := ⟨_, _, rfl⟩
  rw [hx]
  cases a with
  | ok a => exact execute_bind_ok hx f
  | error e => exact execute_bind_error hx f

theorem perform_bind_eq_ok {x : Action α} {f : α → Action β} {b : β}
    (h : w.perform (x >>= f) = (.ok b, w')) :
    ∃ a v, w.perform x = (.ok a, v) ∧ v.perform (f a) = (.ok b, w') := execute_bind_eq_ok h

@[simp] theorem perform_throw (w : Scene) (e : Error) :
    w.perform (throw e : Action α) = (.error e, w) := rfl

theorem perform_store (w : Scene) (r : Store.Request) :
    w.perform (store r) = ((w.memory.answer r).1, { w with memory := (w.memory.answer r).2 }) := rfl

@[simp] theorem perform_liftExcept (w : Scene) (x : Except Error α) :
    w.perform (liftExcept x : Action α) = (x, w) := execute_liftExcept x w

theorem perform_liftExcept_bind (w : Scene) (x : Except Error α) (f : α → Action β) :
    w.perform (liftExcept x >>= f) = match x with
      | .ok a => w.perform (f a)
      | .error e => (.error e, w) := by
  cases x <;> rfl

theorem perform_liftExcept_bind_eq_ok {x : Except Error α} {f : α → Action β} {b : β}
    (h : w.perform (liftExcept x >>= f) = (.ok b, w')) :
    ∃ a, x = .ok a ∧ w.perform (f a) = (.ok b, w') := by
  rw [perform_liftExcept_bind] at h
  cases x with
  | error e => cases h
  | ok a => exact ⟨a, rfl, h⟩

theorem perform_orThrow_bind (w : Scene) (e : Error) (x : Option α) (f : α → Action β) :
    w.perform (orThrow e x >>= f) = match x with
      | some a => w.perform (f a)
      | none => (.error e, w) := by
  cases x <;> rfl

/-! ## Attempts -/

/-- If the first attempt does not end in a collision, there is no other. -/
theorem perform_retrying {once : Action (Except Error α)} {a : Except Error α}
    (h : w.perform once = (.ok a, w')) (hne : ∀ e, a = .error e → Tokens.isCollision e = false)
    (n : Nat) : w.perform (Tokens.retrying once n) = (a, w') := by
  cases n with
  | zero => rw [Tokens.retrying, perform_bind_ok h, perform_liftExcept]
  | succ n =>
    rw [Tokens.retrying, perform_bind_ok h]
    cases a with
    | ok a => rfl
    | error e => simp only [hne e rfl, Bool.false_eq_true, if_false, perform_throw]

/-- An exchange that the store refuses whatever is drawn for it is refused at the first attempt. -/
theorem perform_rotate_refused {settings : TokenSettings} {value : String} {lifetime : Span}
    {e : Error} (hb : Text.allBlank value = false) (hlife : settings.lifetime = .ok lifetime)
    (h : ∀ id hash, w.memory.rotateToken (Opaque.hash value) id hash w.clock lifetime =
      (.error e, w.memory)) (he : Tokens.isCollision e = false) :
    ∃ surroundings, w.perform (Tokens.rotate settings value) =
      (.error e, { w with surroundings }) := by
  obtain ⟨id, hash, f, surroundings, honce⟩ : ∃ id hash f surroundings,
      w.perform (Tokens.rotateOnce (Opaque.hash value) lifetime) =
        (.ok ((w.memory.rotateToken (Opaque.hash value) id hash w.clock lifetime).1.map f),
          ⟨(w.memory.rotateToken (Opaque.hash value) id hash w.clock lifetime).2,
            surroundings⟩) :=
    ⟨_, _, _, _, rfl⟩
  rw [h] at honce
  refine ⟨surroundings, ?_⟩
  rw [Tokens.rotate_of_lifetime hb hlife]
  refine perform_retrying honce ?_ _
  intro e' he'
  cases he'
  exact he

/-! ## Cleanup cycles -/

/-- The cycle ends with a purge that finds nothing, or goes on after it. -/
theorem perform_purgeAll_below {cutoff : Instant} {budget deleted : Nat}
    (hbelow : deleted < budget) (passes : Nat) :
    w.perform (Cleanup.purgeAll cutoff budget deleted passes) =
      if w.memory.doomed cutoff ((budget - deleted : Nat) : Int) = [] then
        (.ok ⟨cutoff, deleted, passes⟩, w)
      else
        { w with
          memory := w.memory.dropTokens (w.memory.doomed cutoff ((budget - deleted : Nat) : Int))
        }.perform (Cleanup.purgeAll cutoff budget
          (deleted + (w.memory.doomed cutoff ((budget - deleted : Nat) : Int)).length)
          (passes + 1)) := by
  have hpurge : w.perform (store (.purgeExpired cutoff ((budget - deleted : Nat) : Int))) =
      (.ok (w.memory.doomed cutoff ((budget - deleted : Nat) : Int)).length,
        { w with
          memory := w.memory.dropTokens (w.memory.doomed cutoff ((budget - deleted : Nat) : Int))
        }) := rfl
  rw [Cleanup.purgeAll, dif_pos hbelow]
  refine (perform_bind_ok hpurge _).trans ?_
  by_cases hnothing : w.memory.doomed cutoff ((budget - deleted : Nat) : Int) = []
  · simp only [hnothing, List.length_nil, if_true, dif_pos, Memory.dropTokens_nil]
    rfl
  · rw [if_neg hnothing, dif_neg (by simpa using hnothing)]

theorem perform_purgeAll_spent {cutoff : Instant} {budget deleted : Nat}
    (hspent : ¬ deleted < budget) (passes : Nat) :
    w.perform (Cleanup.purgeAll cutoff budget deleted passes) =
      (.ok ⟨cutoff, deleted, passes⟩, w) := by
  rw [Cleanup.purgeAll, dif_neg hspent]
  rfl

/-- A cycle whose settings are acceptable is its purges. -/
theorem perform_runOnce_eq (s : CleanupSettings) (w : Scene) :
    w.perform (Cleanup.runOnce s) =
      match s.budget, s.retention.bind fun retention => Cleanup.cutoff retention w.clock with
      | .ok budget, .ok cutoff => w.perform (Cleanup.purgeAll cutoff budget.toNat 0 0)
      | .error e, _ => (.error e, w)
      | .ok _, .error e => (.error e, w) := by
  have hnow : w.perform Service.now = (.ok w.clock, w) := rfl
  unfold Cleanup.runOnce
  rw [perform_liftExcept_bind]
  cases s.budget with
  | error e => rfl
  | ok budget =>
    simp only
    rw [perform_bind_ok hnow, perform_liftExcept_bind]
    cases s.retention with
    | error e => rfl
    | ok retention =>
      simp only [Except.bind]
      rw [perform_liftExcept_bind]
      cases Cleanup.cutoff retention w.clock <;> rfl

end Scene

end SessionKeeper.Service
