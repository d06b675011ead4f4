import SessionKeeper.Proofs.Service.History

/-!
# Calls that the store decides

A call that opens a session, binds one or exchanges a token may ask for this more than once, but it
succeeds only when the store grants it, and then at once and with what the store has granted
(`Yielding`). So a call of this kind succeeds at one event of a run, at which its request is granted
(`Succeeds.granted`).
-/

namespace SessionKeeper.Service

/-- What a call comes to when the store grants its request: opening a session, binding it, or
exchanging a token. -/
inductive Call.Yields : (c : Call) → (r : Store.Request) → r.Reply → c.Result → Prop where
  | opened {user thumbprint s} {opened : Session} :
      Yields (.createSession user thumbprint) (.createSession s) opened opened
  | bound {session raw key} {bound : Session} :
      Yields (.bindSession session raw) (.bindThumbprint session key) bound ()
  | exchanged {value id hash now lifetime} {rotated : TokenRotation} {x : RotatedToken}
      (hsession : x.session = rotated.session.id)
      (hkey : x.thumbprint = rotated.session.thumbprint) :
      Yields (.rotate value) (.rotateToken (Opaque.hash value) id hash now lifetime) rotated x

/-- The calls that succeed only when the store grants their last request. -/
def Call.Decided : Call → Prop
  | .createSession _ _ | .bindSession _ _ | .rotate _ => True
  | _ => False

/-- What is left of a call that succeeds only when the store grants its request, and at once. -/
def Yielding (c : Call) : Prog signature (Except Error c.Result) → Prop
  | .pure result => ∃ e, result = .error e
  | .ask (.inl r) k => ∀ a : Except Error r.Reply,
    (∃ y x, a = .ok y ∧ k a = .pure (.ok x) ∧ c.Yields r y x) ∨ Yielding c (k a)
  | .ask (.inr _) k => ∀ a, Yielding c (k a)

theorem yielding_create (user : Uuid) (thumbprint : Option String) :
    Yielding (.createSession user thumbprint) (Sessions.create user thumbprint).run := by
  unfold Sessions.create
  cases Sessions.readThumbprint? thumbprint with
  | error e => exact ⟨e, rfl⟩
  | ok key =>
    intro id now a
    cases a with
    | error e => exact .inr ⟨e, rfl⟩
    | ok s => exact .inl ⟨s, s, rfl, rfl, .opened⟩

theorem yielding_bind (session : Uuid) (raw : String) :
    Yielding (.bindSession session raw) (Sessions.bind session raw).run := by
  unfold Sessions.bind
  cases Sessions.readThumbprint raw with
  | error e => exact ⟨e, rfl⟩
  | ok key =>
    intro a
    cases a with
    | error e => exact .inr ⟨e, rfl⟩
    | ok s => exact .inl ⟨s, (), rfl, rfl, .bound⟩

theorem yielding_once {value : String} {lifetime : Span}
    {f : Except Error RotatedToken → Action RotatedToken} (hok : ∀ r, f (.ok r) = pure r)
    (herror : ∀ e, Yielding (.rotate value) (f (.error e)).run) :
    Yielding (.rotate value)
      (Tokens.rotateOnce (Opaque.hash value) lifetime >>= f).run := by
  intro opaque_ now id a
  cases a with
  | error e => exact .inr (herror e)
  | ok rotated =>
    refine .inl ⟨rotated, _, rfl, congrArg ExceptT.run (hok _), ?_⟩
    exact .exchanged rfl rfl

theorem yielding_retrying (value : String) (lifetime : Span) (n : Nat) :
    Yielding (.rotate value)
      (Tokens.retrying (Tokens.rotateOnce (Opaque.hash value) lifetime) n).run := by
  induction n with
  | zero => exact yielding_once (fun _ => rfl) fun e => ⟨e, rfl⟩
  | succ n ih =>
    refine yielding_once (fun _ => rfl) fun e => ?_
    simp only
    split
    · exact ih
    · exact ⟨e, rfl⟩

theorem yielding_rotate (s : TokenSettings) (value : String) :
    Yielding (.rotate value) (Tokens.rotate s value).run := by
  unfold Tokens.rotate
  cases hp : Tokens.presentedHash value with
  | error e => exact ⟨e, rfl⟩
  | ok hash =>
    obtain ⟨-, rfl⟩ := presentedHash_eq_ok hp
    cases hl : s.lifetime with
    | error e => exact ⟨e, rfl⟩
    | ok lifetime => exact yielding_retrying value lifetime _

theorem yielding_action (settings : Settings) {c : Call} (hc : c.Decided) :
    Yielding c (c.action settings).run := by
  cases c with
  | createSession user thumbprint => exact yielding_create user thumbprint
  | bindSession session raw => exact yielding_bind session raw
  | rotate value => exact yielding_rotate settings.tokens value
  | _ => cases hc

namespace System

variable {fresh : Mark → Bool} {settings : Settings} {start : Instant} {σ : System} {ev : Event}
  {es : List Event}

/-- The calls that the store decides have succeeded, or will only when it grants their request. -/
def Deciding (σ : System) : Prop :=
  ∀ th ∈ σ.threads, th.call.Decided →
    (∃ x, th.rest = .pure (.ok x)) ∨ Yielding th.call th.rest

theorem deciding_runUnder (fresh : Mark → Bool) (settings : Settings) (start : Instant)
    (es : List Event) : (runUnder fresh settings start es).Deciding := by
  refine runUnder_invariant (I := Deciding) (by simp [Deciding]) (fun h => h) ?_ es
  intro σ σ' ev h hs
  refine hs.threads (P := fun c p => c.Decided → (∃ x, p = .pure (.ok x)) ∨ Yielding c p) ?_ ?_ h
  · exact fun c hc => .inr (yielding_action settings hc)
  · intro c r k hp a hc
    rcases hp hc with ⟨x, hx⟩ | hgo
    · cases hx
    · cases r with
      | inr r => exact .inr (hgo a)
      | inl r =>
        rcases hgo a with ⟨y, x, -, hend, -⟩ | hgo
        · exact .inl ⟨x, hend⟩
        · exact .inr hgo

/-- At the event the call succeeds. -/
def Succeeds (fresh : Mark → Bool) (settings : Settings) (start : Instant) (es : List Event)
    (ev : Event) (c : Call) (x : c.Result) : Prop :=
  ∃ i, ¬ (runUnder fresh settings start es).Returned i c (.ok x) ∧
    (runUnder fresh settings start (es ++ [ev])).Returned i c (.ok x)

/-- A call that the store decides succeeds when the store grants its request. -/
theorem Succeeds.granted {c : Call} {x : c.Result}
    (h : Succeeds fresh settings start es ev c x) (hc : c.Decided) :
    ∃ i id value r k held y, ev = .go i id value ∧
      (runUnder fresh settings start es).threads[i]? = some ⟨c, .ask (.inl r) k, held⟩ ∧
      ((runUnder fresh settings start es).memory.answer r).1 = .ok y ∧ c.Yields r y x := by
  obtain ⟨i, hbefore, held, hafter⟩ := h
  have hopen : ∀ {p}, Yielding c p → p ≠ .pure (.ok x) := by
    rintro _ hp rfl
    obtain ⟨e, he⟩ := hp
    cases he
  have hd := deciding_runUnder fresh settings start es
  rw [runUnder_concat] at hafter
  cases step_thread settings _ ev hafter with
  | same h => exact absurd ⟨held, h⟩ hbefore
  | begun _ hth =>
    injection hth with hcall hrest
    subst hcall
    exact absurd (eq_of_heq hrest).symm (hopen (yielding_action settings hc))
  | told h hth =>
    injection hth with hcall hrest
    subst hcall
    rcases hd _ (List.mem_of_getElem? h) hc with ⟨y, hy⟩ | hgo
    · cases hy
    · exact absurd (eq_of_heq hrest).symm (hopen (hgo _))
  | served h hth =>
    injection hth with hcall hrest
    subst hcall
    rcases hd _ (List.mem_of_getElem? h) hc with ⟨y, hy⟩ | hgo
    · cases hy
    · rcases hgo _ with ⟨y, x', hy, hx', hyields⟩ | hgo
      · cases (eq_of_heq hrest).trans hx'
        exact ⟨_, _, _, _, _, _, y, rfl, h, hy, hyields⟩
      · exact absurd (eq_of_heq hrest).symm (hopen hgo)

end System

end SessionKeeper.Service
