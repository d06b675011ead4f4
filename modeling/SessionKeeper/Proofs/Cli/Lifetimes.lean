import SessionKeeper.Cli.Run
import SessionKeeper.Proofs.Service.Lifetimes

/-!
# Lifetimes from the command line

A command runs operations of the services in a scene. What else it asks for, of the database and of
the terminal, is answered by anything at all and leaves the scene alone. So a command that issues a
token comes to what the operation comes to that it runs, if its identifier and its number of seconds
can be read, and to nothing otherwise (`Cli.Issues`).
-/

namespace SessionKeeper.Cli

open Service (Scene)

section

variable {τ α β : Type}

/-- What answers the requests of a command that are not for a service. -/
abbrev Elsewhere (τ : Type) : Type :=
  (r : (Database.signature.sum Console.signature).Request) →
    StateM τ ((Database.signature.sum Console.signature).Answer r)

/-- Answer the services in a scene. -/
def answer (other : Elsewhere τ) : (r : signature.Request) → StateM (Scene × τ) (signature.Answer r)
  | .inl r => modifyGet fun s =>
    (((Scene.answer r).run s.1).1, (((Scene.answer r).run s.1).2, s.2))
  | .inr r => modifyGet fun s => (((other r).run s.2).1, (s.1, ((other r).run s.2).2))

/-- Run a command from start to end. -/
def perform (other : Elsewhere τ) (x : Action α) (s : Scene × τ) : Except Error α × Scene × τ :=
  (x.run.run (answer other)).run s

variable (other : Elsewhere τ)

/-! ## Sequences -/

theorem perform_bind_ok {x : Action α} {a : α} {s s' : Scene × τ}
    (h : perform other x s = (.ok a, s')) (f : α → Action β) :
    perform other (x >>= f) s = perform other (f a) s' := execute_bind_ok h f

theorem perform_bind_error {x : Action α} {e : Error} {s s' : Scene × τ}
    (h : perform other x s = (.error e, s')) (f : α → Action β) :
    perform other (x >>= f) s = (.error e, s') := execute_bind_error h f

theorem perform_liftExcept_bind (x : Except Error α) (f : α → Action β) (s : Scene × τ) :
    perform other (liftExcept x >>= f) s = match x with
      | .ok a => perform other (f a) s
      | .error e => (.error e, s) := by
  cases x <;> rfl

/-- An operation of the services is run in the scene. -/
theorem perform_service (x : Service.Action α) (w : Scene) (t : τ) :
    perform other (service x) (w, t) = ((w.perform x).1, (w.perform x).2, t) :=
  run_left (fun _ _ _ => rfl) x.run w t

/-! ## Issuing a token -/

/-- The lifetime that a command asks for, if it asks for one. -/
def requested : Option Int → Except Error (Option Span)
  | some seconds => (readLifetime seconds).map some
  | none => .ok none

theorem requested_of_inRange {seconds : Int} (h : (Span.ofSeconds seconds).inRange = true) :
    requested (some seconds) = .ok (some (.ofSeconds seconds)) := by
  simp [requested, readLifetime, Span.ofSeconds?, h, Except.map]

theorem requested_of_not_inRange {seconds : Int} (h : (Span.ofSeconds seconds).inRange = false) :
    ∃ e, requested (some seconds) = .error e ∧ e.kind = .validation := by
  simp [requested, readLifetime, Span.ofSeconds?, h, Except.map, Error.plain]

theorem kind_of_readUuid {text : String} {e : Error} (h : readUuid text = .error e) :
    e.kind = .validation := by
  unfold readUuid at h
  split at h
  · cases h
  · cases h
    rfl

/-- The operation that a command runs to issue a token. -/
def issuing (settings : TokenSettings) (session : Uuid) :
    Option Span → Service.Action HandedToken
  | some lifetime => Tokens.issue settings session lifetime
  | none => Tokens.issueDefault settings session

/-- Print a token that has been issued. -/
def printIssued (c : Context) (token : HandedToken) : Action Unit := do
  printItem c (tokenRow token.record)
  printToken token.value

theorem issueToken_eq (c : Context) (session : String) (seconds : Option Int) :
    issueToken c session seconds = liftExcept (readUuid session) >>= fun id =>
      liftExcept (requested seconds) >>= fun lifetime =>
        service (issuing c.tokens id lifetime) >>= printIssued c := by
  refine congrArg (liftExcept (readUuid session) >>= ·) (funext fun id => ?_)
  cases seconds with
  | none => rfl
  | some seconds =>
    show (liftExcept (readLifetime seconds) >>= fun lifetime =>
        service (Tokens.issue c.tokens id lifetime) >>= printIssued c) =
      liftExcept ((readLifetime seconds).map some) >>= fun lifetime =>
        service (issuing c.tokens id lifetime) >>= printIssued c
    cases readLifetime seconds <;> rfl

/-- A token that has been issued is printed, whatever comes of that. -/
theorem perform_issuing (c : Context) (x : Service.Action HandedToken) (w : Scene) (t : τ) :
    ∃ t', perform other (service x >>= printIssued c) (w, t) =
      ((w.perform x).1.map fun _ => (), (w.perform x).2, t') := by
  have hperform := perform_service other x w t
  generalize w.perform x = out at hperform ⊢
  obtain ⟨a, v⟩ := out
  cases a with
  | error e => exact ⟨t, perform_bind_error other hperform _⟩
  | ok token =>
    rw [perform_bind_ok other hperform]
    -- printing leaves the scene alone
    exact ⟨_, rfl⟩

/-- What a command that issues a token comes to. -/
structure Issues (w : Scene) (c : Context) (session : String) (seconds : Option Int)
    (out : Except Error Unit × Scene) : Prop where
  /-- A text that is no identifier is invalid, and nothing is done. -/
  unread : ∀ e, readUuid session = .error e → out = (.error e, w) ∧ e.kind = .validation
  /-- Seconds that are not a span are invalid, and nothing is done. -/
  tooLong : ∀ id n, readUuid session = .ok id → seconds = some n →
    (Span.ofSeconds n).inRange = false → ∃ e, out = (.error e, w) ∧ e.kind = .validation
  /-- Seconds that are a span are a lifetime to issue a token for. -/
  issued : ∀ id n, readUuid session = .ok id → seconds = some n →
    (Span.ofSeconds n).inRange = true → ∃ result : Except Error HandedToken,
      out.1 = result.map (fun _ => ()) ∧ w.Issues id (.ofSeconds n) (result, out.2)
  /-- Without them it is the lifetime of the settings. -/
  issuedDefault : ∀ id, readUuid session = .ok id → seconds = none →
    ∃ result : Except Error HandedToken,
      out.1 = result.map (fun _ => ()) ∧ w.IssuesDefault c.tokens id (result, out.2)

theorem issues {w : Scene} (ho : w.memory.Orderly) (c : Context) (session : String)
    (seconds : Option Int) (t : τ) :
    Issues w c session seconds ((perform other (issueToken c session seconds) (w, t)).1,
      (perform other (issueToken c session seconds) (w, t)).2.1) := by
  rw [issueToken_eq, perform_liftExcept_bind]
  constructor
  · intro e he
    rw [he]
    exact ⟨rfl, kind_of_readUuid he⟩
  · rintro id n hid rfl hlong
    obtain ⟨e, he, hkind⟩ := requested_of_not_inRange hlong
    rw [hid]
    simp only [perform_liftExcept_bind, he]
    exact ⟨e, rfl, hkind⟩
  · rintro id n hid rfl hrange
    obtain ⟨t', hperform⟩ := perform_issuing other c
      (issuing c.tokens id (some (.ofSeconds n))) w t
    rw [hid]
    simp only [perform_liftExcept_bind, requested_of_inRange hrange, hperform]
    exact ⟨_, rfl, Scene.issues ho c.tokens id _⟩
  · rintro id hid rfl
    obtain ⟨t', hperform⟩ := perform_issuing other c (issuing c.tokens id none) w t
    rw [hid]
    simp only [perform_liftExcept_bind, requested, hperform]
    exact ⟨_, rfl, Scene.issuesDefault ho c.tokens id⟩

end

end SessionKeeper.Cli
