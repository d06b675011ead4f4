import Mathlib.Data.List.Induction
import SessionKeeper.Proofs.Store.Effect
import SessionKeeper.Service.Cleanup
import SessionKeeper.Service.Sessions

/-!
# Runs of the services

Any number of clients call the operations of the services on one store in memory. Each call is a
program, and a run takes the requests of all calls in any order, one after the other: the store
answers each request at once, but between two requests of one call anything may happen. The clock
is set at will, users come and go, and a call that is given up is one that is not continued.

Identifiers and opaque values are drawn at random, and no draw repeats an earlier one: an event
that would draw something again does not happen. The step of a run is a total function, so a run
is a list of events; `Step` says what an event can do.
-/

namespace SessionKeeper.Service

/-! ## Calls -/

/-- A call of a service operation. -/
inductive Call where
  /-- Start a session. -/
  | createSession (user : Uuid) (thumbprint : Option String)
  /-- Start a session and issue its first token. -/
  | openSession (user : Uuid) (thumbprint : Option String)
  /-- Bind a session to a key. -/
  | bindSession (session : Uuid) (thumbprint : String)
  /-- Note that a session is used. -/
  | touchSession (session : Uuid)
  /-- Revoke a session. -/
  | revokeSession (session : Uuid)
  /-- Look a session up. -/
  | getSession (session : Uuid)
  /-- List the sessions of a user. -/
  | listSessions (user : Uuid) (includeRevoked : Bool)
  /-- Revoke the sessions of a user. -/
  | revokeSessions (user : Uuid)
  /-- Issue a token for a lifetime. -/
  | issue (session : Uuid) (lifetime : Span)
  /-- Issue a token for the lifetime of the settings. -/
  | issueDefault (session : Uuid)
  /-- Exchange an opaque value for the next one. -/
  | rotate (value : String)
  /-- Revoke a token. -/
  | revokeToken (value : String)
  /-- Ask whether a token can be exchanged. -/
  | isCurrentAndValid (value : String)
  /-- Describe a token. -/
  | inspect (value : String)
  /-- List the tokens of a session along their links. -/
  | chain (session : Uuid)
  /-- Run one cleanup cycle. -/
  | cleanUp

/-- What a call returns, unless it fails. -/
def Call.Result : Call → Type
  | .createSession _ _ => Session
  | .openSession _ _ => Session × HandedToken
  | .bindSession _ _ => Unit
  | .touchSession _ => Unit
  | .revokeSession _ => Unit
  | .getSession _ => Session
  | .listSessions _ _ => List Session
  | .revokeSessions _ => Nat
  | .issue _ _ => HandedToken
  | .issueDefault _ => HandedToken
  | .rotate _ => RotatedToken
  | .revokeToken _ => Unit
  | .isCurrentAndValid _ => Bool
  | .inspect _ => TokenStatus
  | .chain _ => List Token
  | .cleanUp => CleanupReport

/-- What a call does, under the settings of the services. -/
def Call.action (settings : Settings) : (c : Call) → Action c.Result
  | .createSession user thumbprint => Sessions.create user thumbprint
  | .openSession user thumbprint => Sessions.openWithToken settings.tokens user thumbprint
  | .bindSession session thumbprint => Sessions.bind session thumbprint
  | .touchSession session => Sessions.touch session
  | .revokeSession session => Sessions.revoke session
  | .getSession session => Sessions.get session
  | .listSessions user includeRevoked => Sessions.list user includeRevoked
  | .revokeSessions user => Sessions.revokeAll user
  | .issue session lifetime => Tokens.issue settings.tokens session lifetime
  | .issueDefault session => Tokens.issueDefault settings.tokens session
  | .rotate value => Tokens.rotate settings.tokens value
  | .revokeToken value => Tokens.revoke value
  | .isCurrentAndValid value => Tokens.isCurrentAndValid value
  | .inspect value => Tokens.inspect value
  | .chain session => Tokens.chain session
  | .cleanUp => Cleanup.runOnce settings.cleanup

/-! ## Draws -/

/-- What a draw leaves behind: an identifier, or the hash of an opaque value. -/
inductive Mark where
  /-- An identifier. -/
  | id (id : Uuid)
  /-- The hash of an opaque value. -/
  | hash (hash : Hash)
deriving DecidableEq

/-- The marks of an answer of the surroundings. -/
def marks : (r : Ambient) → r.Answer → List Mark
  | .now, _ => []
  | .freshId, id => [.id id]
  | .freshOpaque, value => [.hash (Opaque.hash value)]

/-! ## Systems -/

/-- A call and what is left to do of it. -/
structure Thread where
  /-- The call. -/
  call : Call
  /-- What is left to do. -/
  rest : Prog signature (Except Error call.Result)
  /-- What it has drawn since its last request to the store. -/
  held : List Mark := []

/-- A store in memory and the calls that have been made on it. -/
structure System where
  /-- The store. -/
  memory : Memory := .empty
  /-- The present instant. -/
  clock : Instant
  /-- Everything that has been drawn. -/
  drawn : List Mark := []
  /-- The calls, in the order in which they were made. -/
  threads : List Thread := []

/-- What can happen. -/
inductive Event where
  /-- The clock is set. -/
  | setClock (now : Instant)
  /-- Sessions may be opened for a user. -/
  | addUser (user : Uuid)
  /-- A user goes. -/
  | removeUser (user : Uuid)
  /-- A call is made. -/
  | call (c : Call)
  /-- The next request of a call is answered. If it is a draw, it draws what is given here. -/
  | go (i : Nat) (id : Uuid) (value : String)

/-- The answer of the surroundings, at an instant and with the given draws. -/
def ambient (now : Instant) (id : Uuid) (value : String) : (r : Ambient) → r.Answer
  | .now => now
  | .freshId => id
  | .freshOpaque => value

namespace System

/-- The system after the next request of a call. -/
def go (σ : System) (i : Nat) (id : Uuid) (value : String) : Thread → System
  | ⟨_, .pure _, _⟩ => σ
  | ⟨c, .ask (.inl r) k, _⟩ =>
    { σ with
      memory := σ.memory.apply (.ask r)
      threads := σ.threads.set i ⟨c, k (σ.memory.answer r).1, []⟩ }
  | ⟨c, .ask (.inr r) k, held⟩ =>
    let a := ambient σ.clock id value r
    if ∀ x ∈ marks r a, x ∉ σ.drawn then
      { σ with
        drawn := marks r a ++ σ.drawn
        threads := σ.threads.set i ⟨c, k a, marks r a ++ held⟩ }
    else σ

/-- The system after an event. -/
def step (settings : Settings) (σ : System) : Event → System
  | .setClock now => { σ with clock := now }
  | .addUser user => { σ with memory := σ.memory.apply (.addUser user) }
  | .removeUser user => { σ with memory := σ.memory.apply (.removeUser user) }
  | .call c => { σ with threads := σ.threads ++ [⟨c, (c.action settings).run, []⟩] }
  | .go i id value =>
    match σ.threads[i]? with
    | none => σ
    | some th => σ.go i id value th

/-- The system after the given events, from an empty store on. -/
def run (settings : Settings) (start : Instant) (es : List Event) : System :=
  es.foldl (step settings) { clock := start }

theorem run_append (settings : Settings) (start : Instant) (es fs : List Event) :
    run settings start (es ++ fs) = fs.foldl (step settings) (run settings start es) :=
  List.foldl_append ..

theorem run_concat (settings : Settings) (start : Instant) (es : List Event) (ev : Event) :
    run settings start (es ++ [ev]) = (run settings start es).step settings ev := by
  rw [run_append]; rfl

/-- The next request of a call is the given one. -/
def Asks (σ : System) (i : Nat) (r : signature.Request) : Prop :=
  ∃ c k held, σ.threads[i]? = some ⟨c, .ask r k, held⟩

/-- The operation that an event puts to the store. -/
def Puts (σ : System) : Event → Memory.Operation → Prop
  | .addUser user, o => o = .addUser user
  | .removeUser user, o => o = .removeUser user
  | .go i _ _, o => ∃ r, σ.Asks i (.inl r) ∧ o = .ask r
  | _, _ => False

/-! ## Steps -/

/-- What an event can do. -/
inductive Step (settings : Settings) (σ : System) : Event → System → Prop where
  | idle (ev) : Step settings σ ev σ
  | clockSet (now) : Step settings σ (.setClock now) { σ with clock := now }
  | userAdded (user) :
      Step settings σ (.addUser user) { σ with memory := σ.memory.apply (.addUser user) }
  | userRemoved (user) :
      Step settings σ (.removeUser user) { σ with memory := σ.memory.apply (.removeUser user) }
  | called (c) :
      Step settings σ (.call c)
        { σ with threads := σ.threads ++ [⟨c, (c.action settings).run, []⟩] }
  | stored {i id value c held} {r : Store.Request} {k}
      (h : σ.threads[i]? = some ⟨c, .ask (.inl r) k, held⟩) :
      Step settings σ (.go i id value)
        { σ with
          memory := σ.memory.apply (.ask r)
          threads := σ.threads.set i ⟨c, k (σ.memory.answer r).1, []⟩ }
  | answered {i id value c held} {r : Ambient} {k} (a : r.Answer)
      (h : σ.threads[i]? = some ⟨c, .ask (.inr r) k, held⟩) (hnew : ∀ x ∈ marks r a, x ∉ σ.drawn) :
      Step settings σ (.go i id value)
        { σ with
          drawn := marks r a ++ σ.drawn
          threads := σ.threads.set i ⟨c, k a, marks r a ++ held⟩ }

theorem step_step (settings : Settings) (σ : System) (ev : Event) :
    Step settings σ ev (σ.step settings ev) := by
  cases ev with
  | setClock now => exact .clockSet now
  | addUser user => exact .userAdded user
  | removeUser user => exact .userRemoved user
  | call c => exact .called c
  | go i id value =>
    cases hth : σ.threads[i]? with
    | none => simpa only [step, hth] using .idle _
    | some th =>
      simp only [step, hth]
      obtain ⟨c, rest, held⟩ := th
      cases rest with
      | pure result => exact .idle _
      | ask r k =>
        cases r with
        | inl r => exact .stored hth
        | inr r =>
          simp only [go]
          split
          · rename_i hnew
            exact .answered _ hth hnew
          · exact .idle _

/-- The store changes by the operation that is put to it, if any. -/
theorem Step.memory {settings : Settings} {σ σ' : System} {ev : Event}
    (h : Step settings σ ev σ') :
    σ'.memory = σ.memory ∨ ∃ o, σ.Puts ev o ∧ σ'.memory = σ.memory.apply o := by
  cases h with
  | idle | clockSet | called | answered => exact .inl rfl
  | userAdded user => exact .inr ⟨_, rfl, rfl⟩
  | userRemoved user => exact .inr ⟨_, rfl, rfl⟩
  | stored h => exact .inr ⟨_, ⟨_, ⟨_, _, _, h⟩, rfl⟩, rfl⟩

/-- Rows are deleted by a purge, or when a user goes. -/
theorem Puts.deletes {σ : System} {ev : Event} {o : Memory.Operation} (hp : σ.Puts ev o) {t : Token}
    (hd : o.Deletes σ.memory t) :
    (∃ i id value cutoff limit, ev = .go i id value ∧
      σ.Asks i (.inl (.purgeExpired cutoff limit)) ∧ t ∈ σ.memory.doomed cutoff limit) ∨
    ∃ user, ev = .removeUser user ∧ σ.memory.Owns user t.session := by
  cases ev with
  | setClock | call => cases hp
  | addUser user => cases hp; cases hd
  | removeUser user => cases hp; exact .inr ⟨user, rfl, hd⟩
  | go i id value =>
    obtain ⟨r, hq, rfl⟩ := hp
    cases r with
    | purgeExpired cutoff limit => exact .inl ⟨i, id, value, cutoff, limit, rfl, hq, hd⟩
    | _ => cases hd

theorem Puts.removeUser {σ : System} {ev : Event} {user : Uuid}
    (hp : σ.Puts ev (.removeUser user)) : ev = .removeUser user := by
  cases ev with
  | setClock | call => cases hp
  | addUser other => cases hp
  | removeUser other => cases hp; rfl
  | go i id value =>
    obtain ⟨r, -, hr⟩ := hp
    cases hr

/-- After one call has gone on, every other call is where it was. -/
theorem thread_set {threads : List Thread} {i j : Nat} {new th : Thread}
    (h : (threads.set i new)[j]? = some th) :
    (j = i ∧ th = new) ∨ (j ≠ i ∧ threads[j]? = some th) := by
  by_cases hij : j = i
  · subst hij
    rw [List.getElem?_set, if_pos rfl] at h
    split at h
    · exact .inl ⟨rfl, (Option.some.inj h).symm⟩
    · cases h
  · rw [List.getElem?_set_ne (Ne.symm hij)] at h
    exact .inr ⟨hij, h⟩

/-- What holds of every call at its beginning, and is kept by every answer, holds of what is left of
all calls. -/
theorem Step.threads {settings : Settings} {σ σ' : System} {ev : Event}
    {P : (c : Call) → Prog signature (Except Error c.Result) → Prop} (h : Step settings σ ev σ')
    (hcall : ∀ c, P c (c.action settings).run)
    (hask : ∀ {c : Call} {r : signature.Request}
      {k : signature.Answer r → Prog signature (Except Error c.Result)},
      P c (.ask r k) → ∀ a, P c (k a))
    (hp : ∀ th ∈ σ.threads, P th.call th.rest) : ∀ th ∈ σ'.threads, P th.call th.rest := by
  intro th hth
  cases h with
  | idle | clockSet | userAdded | userRemoved => exact hp th hth
  | called c =>
    rcases List.mem_append.mp hth with hth | hth
    · exact hp th hth
    · rw [List.mem_singleton.mp hth]
      exact hcall c
  | stored h | answered _ h =>
    rcases (List.mem_or_eq_of_mem_set hth).symm with rfl | hth
    · exact hask (hp _ (List.mem_of_getElem? h)) _
    · exact hp th hth

/-- What every step keeps holds from then on. -/
theorem run_after {settings : Settings} {I : System → Prop} {start : Instant} {es : List Event}
    (h : I (run settings start es))
    (hstep : ∀ {σ σ' ev}, I σ → Step settings σ ev σ' → I σ') (later : List Event) :
    I (run settings start (es ++ later)) := by
  rw [run_append]
  generalize run settings start es = σ at h
  induction later generalizing σ with
  | nil => exact h
  | cons ev later ih => exact ih _ (hstep h (step_step settings σ ev))

/-- What every step keeps holds after every run. -/
theorem run_invariant {settings : Settings} {I : System → Prop} {start : Instant}
    (hstart : I { clock := start })
    (hstep : ∀ {σ σ' ev}, I σ → Step settings σ ev σ' → I σ') (es : List Event) :
    I (run settings start es) := by
  have hempty : I (run settings start []) := hstart
  exact run_after hempty hstep es

/-- What does not hold at first and holds later begins to hold at some event. -/
theorem begins_at {P : List Event → Prop} {es later : List Event} (hbefore : ¬ P es)
    (hafter : P (es ++ later)) : ∃ mid ev rest, later = mid ++ ev :: rest ∧ ¬ P (es ++ mid) ∧
      P (es ++ mid ++ [ev]) := by
  induction later using List.reverseRecOn with
  | nil => exact absurd (by simpa using hafter) hbefore
  | append_singleton later ev ih =>
    by_cases hlater : P (es ++ later)
    · obtain ⟨mid, e, rest, rfl, hmid⟩ := ih hlater
      exact ⟨mid, e, rest ++ [ev], by simp, hmid⟩
    · exact ⟨later, ev, [], rfl, hlater, by rwa [List.append_assoc]⟩

/-! ## Ended calls -/

/-- The call has ended with the result. -/
def Returned (σ : System) (i : Nat) (c : Call) (result : Except Error c.Result) : Prop :=
  ∃ held, σ.threads[i]? = some ⟨c, .pure result, held⟩

/-- A call that has ended stays so. -/
theorem Step.returned {settings : Settings} {σ σ' : System} {ev : Event}
    (h : Step settings σ ev σ') {i : Nat} {c : Call} {result : Except Error c.Result}
    (hi : σ.Returned i c result) : σ'.Returned i c result := by
  obtain ⟨held, hi⟩ := hi
  refine ⟨held, ?_⟩
  cases h with
  | idle | clockSet | userAdded | userRemoved => exact hi
  | called c => rwa [List.getElem?_append_left (List.getElem?_eq_some_iff.mp hi).1]
  | stored h | answered _ h =>
    rwa [List.getElem?_set_ne]
    -- a call that goes on has not ended
    rintro rfl
    rw [hi] at h
    cases h

theorem Returned.append {settings : Settings} {start : Instant} {es : List Event} {i : Nat}
    {c : Call} {result : Except Error c.Result} (h : (run settings start es).Returned i c result)
    (later : List Event) : (run settings start (es ++ later)).Returned i c result :=
  run_after (I := fun σ => σ.Returned i c result) h (fun hi hs => hs.returned hi) later

end System

end SessionKeeper.Service
