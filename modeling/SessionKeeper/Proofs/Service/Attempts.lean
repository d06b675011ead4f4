import SessionKeeper.Proofs.Service.Opening

/-!
# Attempts to enter a token

A token whose hash is taken is made anew. What is asked in the course of an operation, and how it is
answered, is its transcript, whatever answers it: a store that refuses at will, a clock that is set
at will, draws that repeat. The transcript of an issue or of an exchange consists of attempts
(`Attempt`), each with draws of its own and one request to the store, and nothing else is asked. The
attempts go on for as long as hashes collide and the settings allow (`Settles`), by induction on the
number of retries that are left, and what comes of the last one is the result.
-/

namespace SessionKeeper.Service

/-! ## Transcripts -/

/-- A request and how it is answered. -/
abbrev Turn := (r : signature.Request) × signature.Answer r

section

variable {σ α β : Type} {answer : (r : signature.Request) → StateM σ (signature.Answer r)}

/-- What a program asks and how it is answered, in order. -/
def transcript (answer : (r : signature.Request) → StateM σ (signature.Answer r)) :
    Prog signature α → σ → List Turn
  | .pure _, _ => []
  | .ask r k, s =>
    let (a, s') := (answer r).run s
    ⟨r, a⟩ :: transcript answer (k a) s'

theorem transcript_progBind (p : Prog signature α) (f : α → Prog signature β) (s : σ) :
    transcript answer (p.bind f) s =
      transcript answer p s ++
        transcript answer (f ((p.run answer).run s).1) ((p.run answer).run s).2 := by
  induction p generalizing s with
  | pure a => rfl
  | ask r k ih =>
    show (⟨r, _⟩ : Turn) :: transcript answer ((k _).bind f) _ = _
    rw [ih]
    rfl

/-- The parts of a sequence ask one after the other, and nothing is asked after an error. -/
theorem transcript_bind (x : Action α) (f : α → Action β) (s : σ) :
    transcript answer (x >>= f).run s =
      transcript answer x.run s ++
        match execute answer x s with
        | (.ok a, s') => transcript answer (f a).run s'
        | (.error _, _) => [] := by
  rw [run_bind, transcript_progBind]
  unfold execute
  obtain ⟨a, s'⟩ := (x.run.run answer).run s
  cases a <;> rfl

theorem transcript_bind_ok {x : Action α} {a : α} {s s' : σ} (h : execute answer x s = (.ok a, s'))
    (f : α → Action β) :
    transcript answer (x >>= f).run s =
      transcript answer x.run s ++ transcript answer (f a).run s' := by
  rw [transcript_bind, h]

theorem transcript_bind_error {x : Action α} {e : Error} {s s' : σ}
    (h : execute answer x s = (.error e, s')) (f : α → Action β) :
    transcript answer (x >>= f).run s = transcript answer x.run s := by
  rw [transcript_bind, h, List.append_nil]

end

/-! ## Attempts -/

/-- An attempt to enter a token: what is drawn and read for it, and what the store replies. -/
structure Attempt (ρ : Type) where
  value : String
  now : Instant
  id : Uuid
  reply : Except Error ρ

namespace Attempt

variable {ρ α : Type}

/-- The store refuses because of a constraint, as it does when a hash is taken. -/
def Collides (a : Attempt ρ) : Prop := ∃ e, a.reply = .error e ∧ e.kind = .constraintViolation

theorem not_isCollision {a : Attempt ρ} {f : ρ → α} {e : Error} (h : ¬ a.Collides)
    (he : a.reply.map f = .error e) : Tokens.isCollision e = false := by
  cases hreply : a.reply with
  | ok r =>
    rw [hreply] at he
    cases he
  | error e' =>
    rw [hreply] at he
    cases he
    cases hcollision : Tokens.isCollision e with
    | false => rfl
    | true => exact absurd ⟨e, hreply, by simpa [Tokens.isCollision] using hcollision⟩ h

/-- The token that is made in the attempt, unless the calendar ends before. -/
def token (a : Attempt ρ) (session : Uuid) (lifetime : Span) : Token where
  id := a.id
  session := session
  hash := Opaque.hash a.value
  issuedAt := a.now
  expiresAt := a.now.plus lifetime
  usedAt := none
  revokedAt := none
  replacedBy := none

theorem fresh_eq_token {a : Attempt ρ} {lifetime : Span} (h : (a.now.add? lifetime).isSome)
    (session : Uuid) :
    Token.fresh a.id session (Opaque.hash a.value) a.now lifetime =
      .ok (a.token session lifetime) := by
  obtain ⟨expiresAt, hend⟩ := Option.isSome_iff_exists.mp h
  obtain ⟨rfl, -⟩ := Instant.add?_eq_some.mp hend
  simp only [Token.fresh, hend, token]

/-- What is asked in an attempt: two draws, the clock between them, and one request to the store. -/
def turns (a : Attempt ρ) (r : Store.Request) (reply : Except Error r.Reply) : List Turn :=
  [⟨.inr .freshOpaque, a.value⟩, ⟨.inr .now, a.now⟩, ⟨.inr .freshId, a.id⟩, ⟨.inl r, reply⟩]

/-- An attempt to issue a token. -/
def issuing (policy : IssuePolicy) (session : Uuid) (lifetime : Span) (a : Attempt TokenIssue) :
    List Turn :=
  a.turns (.issueToken (a.token session lifetime) policy a.now) a.reply

/-- An attempt to exchange the token with the presented hash. -/
def exchanging (presented : Hash) (lifetime : Span) (a : Attempt TokenRotation) : List Turn :=
  a.turns (.rotateToken presented a.id (Opaque.hash a.value) a.now lifetime) a.reply

/-- What an issue returns after its last attempt: the stored token with the opaque value of that
attempt, or the refusal. -/
def issued (a : Attempt TokenIssue) : Except Error HandedToken :=
  a.reply.map fun i => ⟨a.value, i.token⟩

/-- What an exchange returns after its last attempt. -/
def exchanged (a : Attempt TokenRotation) : Except Error RotatedToken :=
  a.reply.map fun r =>
    { value := a.value
      record := r.replacement
      previous := r.previous.id
      user := r.session.user
      session := r.session.id
      thumbprint := r.session.thumbprint }

end Attempt

/-- Of at most `n` attempts these have been made: each but the last collides, and the last does not
unless it is the `n`th. -/
structure Settles {ρ : Type} (n : Nat) (attempts : List (Attempt ρ)) (last : Attempt ρ) :
    Prop where
  ends : attempts.getLast? = some last
  bound : attempts.length ≤ n
  before : ∀ a ∈ attempts.dropLast, a.Collides
  settled : attempts.length < n → ¬ last.Collides

namespace Settles

variable {ρ : Type} {n : Nat} {attempts : List (Attempt ρ)} {a last : Attempt ρ}

theorem only (h : 0 < n → ¬ a.Collides) : Settles (n + 1) [a] a where
  ends := rfl
  bound := by simp
  before := by simp
  settled := by
    intro hlt
    exact h (by simpa using hlt)

theorem after (ha : a.Collides) (h : Settles n attempts last) :
    Settles (n + 1) (a :: attempts) last := by
  have hne : attempts ≠ [] := by
    intro hnil
    have hends := h.ends
    rw [hnil] at hends
    cases hends
  constructor
  · rw [List.getLast?_cons_of_ne_nil hne]
    exact h.ends
  · have hbound := h.bound
    simp only [List.length_cons]
    omega
  · intro b hb
    rw [List.dropLast_cons_of_ne_nil hne] at hb
    rcases List.mem_cons.mp hb with rfl | hb
    · exact ha
    · exact h.before b hb
  · intro hlt
    simp only [List.length_cons] at hlt
    exact h.settled (by omega)

end Settles

/-! ## Retrying -/

section

variable {σ α ρ : Type} {answer : (r : signature.Request) → StateM σ (signature.Answer r)}
  {once : Action (Except Error α)}

theorem mem_transcript_retrying {t : Turn} {s : σ} (h : t ∈ transcript answer once.run s)
    (n : Nat) : t ∈ transcript answer (Tokens.retrying once n).run s := by
  cases n with
  | zero =>
    rw [Tokens.retrying, transcript_bind]
    exact List.mem_append_left _ h
  | succ n =>
    rw [Tokens.retrying, transcript_bind]
    exact List.mem_append_left _ h

/-- The last attempt is one that does not collide, or the one after which no retry is left. -/
theorem transcript_retrying_last {a : Except Error α} {s s' : σ}
    (h : execute answer once s = (.ok a, s')) (n : Nat)
    (hlast : 0 < n → ∀ e, a = .error e → Tokens.isCollision e = false) :
    transcript answer (Tokens.retrying once n).run s = transcript answer once.run s ∧
      (execute answer (Tokens.retrying once n) s).1 = a := by
  cases n with
  | zero =>
    rw [Tokens.retrying, transcript_bind, execute_bind, h]
    cases a with
    | ok a => exact ⟨List.append_nil _, rfl⟩
    | error e => exact ⟨List.append_nil _, rfl⟩
  | succ n =>
    rw [Tokens.retrying, transcript_bind, execute_bind, h]
    cases a with
    | ok a => exact ⟨List.append_nil _, rfl⟩
    | error e =>
      have he : Tokens.isCollision e = false := hlast (Nat.succ_pos n) e rfl
      simp only [he, Bool.false_eq_true, if_false]
      exact ⟨List.append_nil _, rfl⟩

/-- After a collision everything goes on with one retry less. -/
theorem transcript_retrying_again {e : Error} {s s' : σ}
    (h : execute answer once s = (.ok (.error e), s')) (he : Tokens.isCollision e = true)
    (n : Nat) :
    transcript answer (Tokens.retrying once (n + 1)).run s =
        transcript answer once.run s ++ transcript answer (Tokens.retrying once n).run s' ∧
      execute answer (Tokens.retrying once (n + 1)) s =
        execute answer (Tokens.retrying once n) s' := by
  rw [Tokens.retrying, transcript_bind, execute_bind, h]
  simp only [he, if_true, and_self]

/-- If whatever is tried once is an attempt, as long as its turns are `Fine`, then whatever is tried
again and again is a list of attempts that settles. -/
theorem transcript_retrying {Fine : Turn → Prop} {turns : Attempt ρ → List Turn}
    {hands : Attempt ρ → ρ → α}
    (honce : ∀ s, (∀ t ∈ transcript answer once.run s, Fine t) →
      ∃ a : Attempt ρ, transcript answer once.run s = turns a ∧
        (execute answer once s).1 = .ok (a.reply.map (hands a)))
    (n : Nat) (s : σ) (hfine : ∀ t ∈ transcript answer (Tokens.retrying once n).run s, Fine t) :
    ∃ attempts last,
      transcript answer (Tokens.retrying once n).run s = attempts.flatMap turns ∧
      Settles (n + 1) attempts last ∧
      (execute answer (Tokens.retrying once n) s).1 = last.reply.map (hands last) := by
  induction n generalizing s with
  | zero =>
    obtain ⟨a, hturns, hresult⟩ := honce s fun t ht => hfine t (mem_transcript_retrying ht 0)
    obtain ⟨hasked, hends⟩ := transcript_retrying_last (Prod.ext hresult rfl) 0 (by simp)
    refine ⟨[a], a, ?_, .only (by simp), hends⟩
    rw [hasked, hturns, List.flatMap_singleton]
  | succ n ih =>
    obtain ⟨a, hturns, hresult⟩ :=
      honce s fun t ht => hfine t (mem_transcript_retrying ht (n + 1))
    by_cases hcollides : a.Collides
    · obtain ⟨e, hreply, hkind⟩ := id hcollides
      have he : Tokens.isCollision e = true := by simp [Tokens.isCollision, hkind]
      rw [hreply] at hresult
      obtain ⟨hasked, hends⟩ := transcript_retrying_again (Prod.ext hresult rfl) he n
      rw [hasked] at hfine ⊢
      obtain ⟨attempts, last, hrest, hsettles, hlast⟩ :=
        ih _ fun t ht => hfine t (List.mem_append_right _ ht)
      refine ⟨a :: attempts, last, ?_, hsettles.after hcollides, ?_⟩
      · rw [hturns, hrest, List.flatMap_cons]
      · rw [hends, hlast]
    · obtain ⟨hasked, hends⟩ := transcript_retrying_last (Prod.ext hresult rfl) (n + 1)
        fun _ e he => Attempt.not_isCollision hcollides he
      refine ⟨[a], a, ?_, .only fun _ => hcollides, hends⟩
      rw [hasked, hturns, List.flatMap_singleton]

/-! ## One attempt -/

/-- The calendar reaches as far as `lifetime` from the instant that is read, if one is. -/
def Reaches (lifetime : Span) (t : Turn) : Prop :=
  ∀ now : Instant, t = ⟨.inr .now, now⟩ → (now.add? lifetime).isSome

theorem transcript_issueOnce (policy : IssuePolicy) (session : Uuid) (lifetime : Span) (s : σ)
    (hreaches : ∀ t ∈ transcript answer (Tokens.issueOnce policy session lifetime).run s,
      Reaches lifetime t) :
    ∃ a : Attempt TokenIssue,
      transcript answer (Tokens.issueOnce policy session lifetime).run s =
        a.issuing policy session lifetime ∧
      (execute answer (Tokens.issueOnce policy session lifetime) s).1 = .ok a.issued := by
  let value := (answer (.inr .freshOpaque)).run s
  let now := (answer (.inr .now)).run value.2
  let id := (answer (.inr .freshId)).run now.2
  let rest (token : Token) : Action (Except Error HandedToken) := do
    let issued ← tryStore (.issueToken token policy now.1)
    return issued.map fun issued => ⟨value.1, issued.token⟩
  have hturns : transcript answer (Tokens.issueOnce policy session lifetime).run s =
      ⟨.inr .freshOpaque, value.1⟩ :: ⟨.inr .now, now.1⟩ :: ⟨.inr .freshId, id.1⟩ ::
        transcript answer (liftExcept (Token.fresh id.1 session (Opaque.hash value.1) now.1
          lifetime) >>= rest).run id.2 := rfl
  have hresult : execute answer (Tokens.issueOnce policy session lifetime) s =
      execute answer (liftExcept (Token.fresh id.1 session (Opaque.hash value.1) now.1
        lifetime) >>= rest) id.2 := rfl
  have hend : (Instant.add? now.1 lifetime).isSome :=
    hreaches ⟨.inr .now, now.1⟩ (by rw [hturns]; simp) now.1 rfl
  let drawn : Attempt TokenIssue := ⟨value.1, now.1, id.1, .error .hashCollision⟩
  have hfresh := Attempt.fresh_eq_token (a := drawn) hend session
  let reply :=
    ((answer (.inl (.issueToken (drawn.token session lifetime) policy now.1))).run id.2).1
  refine ⟨⟨value.1, now.1, id.1, reply⟩, ?_, ?_⟩
  · rw [hturns, hfresh]
    rfl
  · rw [hresult, hfresh]
    rfl

theorem transcript_rotateOnce (presented : Hash) (lifetime : Span) (s : σ) :
    ∃ a : Attempt TokenRotation,
      transcript answer (Tokens.rotateOnce presented lifetime).run s =
        a.exchanging presented lifetime ∧
      (execute answer (Tokens.rotateOnce presented lifetime) s).1 = .ok a.exchanged := by
  let value := (answer (.inr .freshOpaque)).run s
  let now := (answer (.inr .now)).run value.2
  let id := (answer (.inr .freshId)).run now.2
  let reply :=
    ((answer (.inl (.rotateToken presented id.1 (Opaque.hash value.1) now.1 lifetime))).run id.2).1
  exact ⟨⟨value.1, now.1, id.1, reply⟩, rfl, rfl⟩

/-! ## Whole operations -/

/-- The operation is a list of attempts that settles, and returns what comes of the last one. -/
def Tries (answer : (r : signature.Request) → StateM σ (signature.Answer r)) (x : Action α) (s : σ)
    (n : Nat) (turns : Attempt ρ → List Turn) (result : Attempt ρ → Except Error α) : Prop :=
  ∃ attempts last, transcript answer x.run s = attempts.flatMap turns ∧ Settles n attempts last ∧
    (execute answer x s).1 = result last

/-- The operation fails before it asks for anything. -/
def AsksNothing (answer : (r : signature.Request) → StateM σ (signature.Answer r)) (x : Action α)
    (s : σ) (e : Error) : Prop :=
  transcript answer x.run s = [] ∧ execute answer x s = (.error e, s)

theorem retries_add_one (settings : TokenSettings) :
    Tokens.retries settings + 1 = max 1 settings.maxAttempts := by
  unfold Tokens.retries
  omega

/-- Whatever answers, and whatever the settings are: as long as hashes collide, a token is made anew
for an issue or an exchange, until `maxAttempts` attempts have been made, but one at least. Each
attempt puts one request to the store, for a token with an opaque value that was drawn for it, and
what comes of the last attempt is returned together with its opaque value. A lifetime that is not
positive, a blank token and settings without a lifetime are refused before anything is asked. -/
theorem collisions_retried (answer : (r : signature.Request) → StateM σ (signature.Answer r))
    (s : σ) (settings : TokenSettings) (session : Uuid) (lifetime : Span) (value : String) :
    let n := max 1 settings.maxAttempts
    (0 < lifetime.nanos →
      (∀ now : Instant,
        ⟨.inr .now, now⟩ ∈ transcript answer (Tokens.issue settings session lifetime).run s →
          (now.add? lifetime).isSome) →
      Tries answer (Tokens.issue settings session lifetime) s n
        (Attempt.issuing settings.policy session lifetime) Attempt.issued) ∧
    (∀ lifetime, Text.allBlank value = false → settings.lifetime = .ok lifetime →
      Tries answer (Tokens.rotate settings value) s n
        (Attempt.exchanging (Opaque.hash value) lifetime) Attempt.exchanged) ∧
    (lifetime.nanos ≤ 0 →
      AsksNothing answer (Tokens.issue settings session lifetime) s .lifetimeNotPositive) ∧
    (Text.allBlank value = true →
      AsksNothing answer (Tokens.rotate settings value) s .tokenEmpty) ∧
    ∀ e, settings.lifetime = .error e →
      AsksNothing answer (Tokens.issueDefault settings session) s e ∧
        (Text.allBlank value = false → AsksNothing answer (Tokens.rotate settings value) s e) := by
  intro n
  have hn : Tokens.retries settings + 1 = n := retries_add_one settings
  refine ⟨?_, ?_, ?_, ?_, ?_⟩
  · intro hpositive hreaches
    have hpositive : lifetime.isPositive = true := decide_eq_true hpositive
    have hissue : Tokens.issue settings session lifetime =
        Tokens.retrying (Tokens.issueOnce settings.policy session lifetime)
          (Tokens.retries settings) := if_pos hpositive
    rw [hissue] at hreaches ⊢
    rw [← hn]
    refine transcript_retrying (fun s => transcript_issueOnce settings.policy session lifetime s)
      (Tokens.retries settings) s ?_
    intro t ht now hnow
    rw [hnow] at ht
    exact hreaches now ht
  · intro lifetime hvalue hlifetime
    rw [Tokens.rotate_of_lifetime hvalue hlifetime, ← hn]
    have hfine : ∀ t ∈ transcript answer (Tokens.retrying
        (Tokens.rotateOnce (Opaque.hash value) lifetime) (Tokens.retries settings)).run s,
        (fun _ => True) t := fun _ _ => trivial
    exact transcript_retrying (fun s _ => transcript_rotateOnce (Opaque.hash value) lifetime s)
      (Tokens.retries settings) s hfine
  · intro hnone
    have hnot : ¬ lifetime.isPositive = true := by
      simp only [Span.isPositive, decide_eq_true_eq]
      omega
    unfold AsksNothing Tokens.issue
    rw [if_neg hnot]
    exact ⟨rfl, rfl⟩
  · intro hblank
    rw [Tokens.rotate_of_blank settings hblank]
    exact ⟨rfl, rfl⟩
  · intro e he
    constructor
    · unfold AsksNothing Tokens.issueDefault
      rw [he]
      exact ⟨rfl, rfl⟩
    · intro hvalue
      rw [Tokens.rotate_of_lifetime_error hvalue he]
      exact ⟨rfl, rfl⟩

end

/-- In a trial the clock stands still. -/
theorem Trial.transcript_now {α : Type} {p : Prog signature α} {w : Trial} {now : Instant}
    (h : ⟨.inr .now, now⟩ ∈ transcript Trial.answer p w) : now = w.clock := by
  induction p generalizing w with
  | pure a => cases h
  | ask r k ih =>
    cases h with
    | head => rfl
    | tail _ h =>
      rw [ih _ h]
      cases r with
      | inl r => rfl
      | inr r => cases r <;> rfl

/-- A store with one session, which takes the hash of the next token for one that it has. -/
def crowded : Trial where
  rehearsal :=
    { memory := .applyAll .empty
        [.addUser ⟨1⟩, .ask (.createSession (.start ⟨2⟩ ⟨1⟩ none ⟨0, false⟩))]
      faults := [⟨"issue_token", .hashCollision, 1⟩] }
  surroundings := ⟨⟨0, false⟩, fun _ => [], 0⟩

/-- Of three attempts that may be made on it two are, and the second succeeds. -/
theorem collisions_retried_crowded :
    Tries Trial.answer (Tokens.issue { maxAttempts := 3 } ⟨2⟩ ⟨5⟩) crowded 3
        (Attempt.issuing .reject ⟨2⟩ ⟨5⟩) Attempt.issued ∧
      (transcript Trial.answer (Tokens.issue { maxAttempts := 3 } ⟨2⟩ ⟨5⟩).run crowded).length =
        8 ∧
      (execute Trial.answer (Tokens.issue { maxAttempts := 3 } ⟨2⟩ ⟨5⟩) crowded).1.isOk = true := by
  refine ⟨(collisions_retried Trial.answer crowded { maxAttempts := 3 } ⟨2⟩ ⟨5⟩ "").1 (by decide)
    ?_, rfl, rfl⟩
  intro now hnow
  rw [Trial.transcript_now hnow]
  rfl

end SessionKeeper.Service
