import SessionKeeper.Proofs.Service.Custody
import SessionKeeper.Proofs.Store.Causes

/-!
# What calls have done

The history of a run, as far as calls can tell it: which calls have returned with what, which
instants a call has been told (`Told`), and which tokens have been handed out. Every call follows
its rule in every run (`lawful_run`), so a call that returns at an event either hands out nothing or
has just been granted its request (`Ends`), and conversely the granted request ends the call that
made it (`granted_returns`).
-/

namespace SessionKeeper.Service.System

variable {settings : Settings} {start : Instant} {σ : System} {ev : Event} {es : List Event}

/-! ## Calls at an event -/

/-- How a call gets to where it is after an event. -/
inductive Gets (settings : Settings) (σ : System) (j : Nat) (th : Thread) : Event → Prop where
  | same {e} (h : σ.threads[j]? = some th) : Gets settings σ j th e
  | begun {c} (hj : j = σ.threads.length) (hth : th = ⟨c, (c.action settings).run, []⟩) :
      Gets settings σ j th (.call c)
  | told {id value c held} {r : Ambient} {k} (h : σ.threads[j]? = some ⟨c, .ask (.inr r) k, held⟩)
      (hth : th = ⟨c, k (ambient σ.clock id value r),
        marks r (ambient σ.clock id value r) ++ held⟩) : Gets settings σ j th (.go j id value)
  | served {id value c held} {r : Store.Request} {k}
      (h : σ.threads[j]? = some ⟨c, .ask (.inl r) k, held⟩)
      (hth : th = ⟨c, k (σ.memory.answer r).1, []⟩) : Gets settings σ j th (.go j id value)

theorem step_thread (settings : Settings) (σ : System) (ev : Event) {j : Nat} {th : Thread}
    (h : (σ.step settings ev).threads[j]? = some th) : Gets settings σ j th ev := by
  cases ev with
  | setClock | addUser | removeUser => exact .same h
  | call c =>
    simp only [step] at h
    rw [List.getElem?_append] at h
    split at h
    · exact .same h
    · rename_i hj
      obtain ⟨hlt, hth⟩ := List.getElem?_eq_some_iff.mp h
      simp only [List.length_singleton] at hlt
      refine .begun (by omega) ?_
      rw [← hth, List.getElem_singleton]
  | go i id value =>
    simp only [step] at h
    cases hi : σ.threads[i]? with
    | none => rw [hi] at h; exact .same h
    | some uh =>
      obtain ⟨c, rest, held⟩ := uh
      rw [hi] at h
      cases rest with
      | pure result => exact .same h
      | ask r k =>
        cases r with
        | inl r =>
          rcases thread_set h with ⟨rfl, hth⟩ | ⟨-, h⟩
          · exact .served hi hth
          · exact .same h
        | inr r =>
          simp only [go] at h
          split at h
          · rcases thread_set h with ⟨rfl, hth⟩ | ⟨-, h⟩
            · exact .told hi hth
            · exact .same h
          · exact .same h

theorem step_served {i : Nat} {id : Uuid} {value : String} {c : Call} {r : Store.Request}
    {k : signature.Answer (.inl r) → Prog signature (Except Error c.Result)} {held : List Mark}
    (h : σ.threads[i]? = some ⟨c, .ask (.inl r) k, held⟩) :
    σ.step settings (.go i id value) =
      { σ with
        memory := (σ.memory.answer r).2
        threads := σ.threads.set i ⟨c, k (σ.memory.answer r).1, []⟩ } := by
  simp only [step, h, go]
  rfl

/-! ## What calls have been told -/

/-- In the course of the run the call has asked for the time and been told the instant. -/
def Told (settings : Settings) (start : Instant) (es : List Event) (j : Nat) (now : Instant) :
    Prop :=
  ∃ before id value after, es = before ++ .go j id value :: after ∧
    (run settings start before).Asks j (.inr .now) ∧ (run settings start before).clock = now

theorem Told.append {j : Nat} {now : Instant} (h : Told settings start es j now)
    (later : List Event) : Told settings start (es ++ later) j now := by
  obtain ⟨before, id, value, after, rfl, h⟩ := h
  exact ⟨before, id, value, after ++ later, by simp, h⟩

/-- The call has ended, or it follows its rule with readings of the clock that it has been told. -/
def Lawful (settings : Settings) (told : Instant → Prop) (th : Thread) : Prop :=
  (∃ result, th.rest = .pure result) ∨
    ∃ read, (∀ now ∈ read, told now) ∧ Conduct (May settings th.call) th.call.hands th.held read
      th.rest

theorem lawful_run (settings : Settings) (start : Instant) (es : List Event) {j : Nat}
    {th : Thread} (h : (run settings start es).threads[j]? = some th) :
    Lawful settings (Told settings start es j) th := by
  -- on the last event: what the call has been told grows with the run, and so does its rule
  induction es using List.reverseRecOn generalizing th with
  | nil => simp [run] at h
  | append_singleton es ev ih =>
    rw [run_concat] at h
    have hmono : ∀ uh : Thread, Lawful settings (Told settings start es j) uh →
        Lawful settings (Told settings start (es ++ [ev]) j) uh := by
      rintro uh (hend | ⟨read, hread, hc⟩)
      · exact .inl hend
      · exact .inr ⟨read, fun now hn => (hread now hn).append [ev], hc⟩
    cases step_thread settings _ ev h with
    | same h => exact hmono th (ih h)
    | begun _ hth =>
      subst hth
      exact .inr ⟨[], by simp, conduct_action settings _⟩
    | @told id value c held r k hj hth =>
      subst hth
      rcases ih hj with ⟨_, hend⟩ | ⟨read, hread, hc⟩
      · cases hend
      · refine .inr ⟨_, fun now hn => ?_, hc _⟩
        rcases List.mem_append.mp hn with hn | hn
        · -- the reading is the clock's
          cases r with
          | now =>
            rw [List.mem_singleton.mp hn]
            exact ⟨es, id, value, [], rfl, ⟨c, k, held, hj⟩, rfl⟩
          | freshId | freshOpaque => cases hn
        · exact (hread now hn).append _
    | served hj hth =>
      subst hth
      rcases ih hj with ⟨_, hend⟩ | ⟨read, hread, hc⟩
      · cases hend
      · rcases hc.2 _ with hend | ⟨-, hc⟩
        · obtain ⟨x, hx⟩ := hend.ended
          exact .inl ⟨_, hx⟩
        · exact .inr ⟨read, fun now hn => (hread now hn).append _, hc⟩

/-- A call that asks the store asks what it may, and goes on as its rule says. -/
theorem asks_lawfully {i : Nat} {c : Call} {r : Store.Request}
    {k : signature.Answer (.inl r) → Prog signature (Except Error c.Result)} {held : List Mark}
    (h : (run settings start es).threads[i]? = some ⟨c, .ask (.inl r) k, held⟩) :
    ∃ read, (∀ now ∈ read, Told settings start es i now) ∧ May settings c held read r ∧
      ∀ a : Except Error r.Reply, Concludes c.hands r a (k a) ∨
        (Undecided r a ∧ Conduct (May settings c) c.hands [] read (k a)) := by
  rcases lawful_run settings start es h with ⟨_, hend⟩ | ⟨read, hread, hmay, hgo⟩
  · cases hend
  · exact ⟨read, hread, hmay, hgo⟩

/-! ## How calls return -/

/-- How a call comes to its end at an event: it hands out nothing, or the store has just granted
what it asked. -/
inductive Ends (settings : Settings) (told : Instant → Prop) (σ : System) (j : Nat) (c : Call)
    (result : Except Error c.Result) : Event → Prop where
  | granted {id value held r k read} (h : σ.threads[j]? = some ⟨c, .ask (.inl r) k, held⟩)
      (hread : ∀ now ∈ read, told now) (hmay : May settings c held read r)
      (hend : Concludes c.hands r (σ.memory.answer r).1 (.pure result)) :
      Ends settings told σ j c result (.go j id value)
  | emptyHanded {e} (h : ∀ x, result = .ok x → c.hands x = none) :
      Ends settings told σ j c result e

theorem ends_of_returned {j : Nat} {c : Call} {result : Except Error c.Result}
    (hbefore : ¬ (run settings start es).Returned j c result)
    (hafter : (run settings start (es ++ [ev])).Returned j c result) :
    Ends settings (Told settings start es j) (run settings start es) j c result ev := by
  obtain ⟨held, hafter⟩ := hafter
  rw [run_concat] at hafter
  cases step_thread settings _ ev hafter with
  | same h => exact absurd ⟨held, h⟩ hbefore
  | begun _ hth =>
    injection hth with hcall hrest
    subst hcall
    have hc := conduct_action settings c
    rw [← eq_of_heq hrest] at hc
    exact .emptyHanded hc
  | @told id value _ _ r k h hth =>
    injection hth with hcall hrest
    subst hcall
    rcases lawful_run settings start es h with ⟨_, hend⟩ | ⟨read, hread, hc⟩
    · cases hend
    · have hk := hc (ambient (run settings start es).clock id value r)
      rw [← eq_of_heq hrest] at hk
      exact .emptyHanded hk
  | served h hth =>
    injection hth with hcall hrest
    subst hcall
    obtain ⟨read, hread, hmay, hgo⟩ := asks_lawfully h
    rcases hgo ((run settings start es).memory.answer _).1 with hend | ⟨-, hc⟩
    · rw [← eq_of_heq hrest] at hend
      exact .granted h hread hmay hend
    · rw [← eq_of_heq hrest] at hc
      exact .emptyHanded hc

theorem ends_between {later : List Event} {j : Nat} {c : Call} {result : Except Error c.Result}
    (hbefore : ¬ (run settings start es).Returned j c result)
    (hafter : (run settings start (es ++ later)).Returned j c result) :
    ∃ mid ev rest, later = mid ++ ev :: rest ∧
      Ends settings (Told settings start (es ++ mid) j) (run settings start (es ++ mid)) j c result
        ev := by
  obtain ⟨mid, ev, rest, he, hopen, hend⟩ :=
    begins_at (P := fun fs => (run settings start fs).Returned j c result) hbefore hafter
  exact ⟨mid, ev, rest, he, ends_of_returned hopen hend⟩

/-- A request that writes a token ends the call when it is granted. -/
theorem granted_returns (id : Uuid) (value : String) {i : Nat} {c : Call} {r : Store.Request}
    {k : signature.Answer (.inl r) → Prog signature (Except Error c.Result)} {held : List Mark}
    (h : (run settings start es).threads[i]? = some ⟨c, .ask (.inl r) k, held⟩)
    (hd : Decisive r) {reply : r.Reply}
    (hok : ((run settings start es).memory.answer r).1 = .ok reply) :
    ∃ x, (run settings start (es ++ [.go i id value])).Returned i c (.ok x) ∧
      Concludes c.hands r (.ok reply) (.pure (.ok x)) := by
  obtain ⟨read, -, -, hgo⟩ := asks_lawfully h
  rcases hgo (.ok reply) with hend | ⟨hopen, -⟩
  · obtain ⟨x, hx⟩ := hend.ended
    rw [hx] at hend
    refine ⟨x, ⟨[], ?_⟩, hend⟩
    rw [run_concat, step_served h]
    simp only [hok, hx]
    rw [List.getElem?_set_self (List.getElem?_eq_some_iff.mp h).1]
  · obtain ⟨e, he⟩ := hopen hd
    cases he

/-- A call that issues a token finds the session active when it is granted. -/
theorem Ends.issued {told : Instant → Prop} {i : Nat} {c : Call} {session : Uuid} {x : c.Result}
    (h : Ends settings told σ i c (.ok x) ev) (ho : σ.memory.Orderly)
    (hc : ∀ other, c.Issues other → other = session) (hx : c.hands x ≠ none)
    (hne : ∀ value, c ≠ .rotate value) : ∃ s, σ.memory.Active session s := by
  cases h with
  | emptyHanded hnone => exact absurd (hnone x rfl) hx
  | @granted _ _ _ r _ _ hasks _ hmay hend =>
    generalize ha : (σ.memory.answer r).1 = a at hend
    cases hend with
    | @issued t =>
      obtain ⟨-, -, hactive⟩ := Memory.issueToken_granted ho ha
      cases hmay with
      | plain hp => exact absurd trivial hp
      | issueToken hi _ _ _ _ hf =>
        rw [(Token.fresh_session_hash hf).1, hc _ hi] at hactive
        exact hactive
    | exchanged =>
      cases hmay with
      | plain hp => exact absurd trivial hp
      | rotateToken hi => exact absurd hi (hne _)
    | revoked hnone => exact absurd hnone hx

/-- A call that exchanges a value finds its token unspent, unexpired at an instant that it has been
told, and its session active when it is granted. -/
theorem Ends.exchanged {told : Instant → Prop} {i : Nat} {value : String} {x : RotatedToken}
    (h : Ends settings told σ i (.rotate value) (.ok x) ev) (ho : σ.memory.Orderly) :
    ∃ t s, σ.memory.tokenByHash? (Opaque.hash value) = some t ∧ σ.memory.Active t.session s ∧
      t.isSpent = false ∧ t.isExpiredAt x.record.issuedAt = false ∧ told x.record.issuedAt := by
  cases h with
  | emptyHanded hnone => cases hnone x rfl
  | @granted _ _ _ r _ _ hasks hread hmay hend =>
    generalize ha : (σ.memory.answer r).1 = a at hend
    cases hend with
    | issued =>
      cases hmay with
      | plain hp => exact absurd trivial hp
      | issueToken hi => cases hi
    | revoked hnone => cases hnone
    | @exchanged _ _ now _ _ _ _ hx =>
      obtain ⟨-, hrecord⟩ := Prod.mk.inj (Option.some.inj hx)
      obtain ⟨t, s, ht, hs, hu, he, hf, -⟩ := Memory.rotateToken_granted ho ha
      cases hmay with
      | plain hp => exact absurd trivial hp
      | rotateToken hi _ _ _ hn =>
        cases hi
        obtain ⟨expiresAt, -, hfresh⟩ := Token.fresh_eq_ok hf
        have hnow : x.record.issuedAt = now := by rw [hrecord, hfresh]
        rw [hnow]
        exact ⟨t, s, ht, hs, hu, he, hread _ hn⟩

/-! ## Tokens that have been handed out -/

/-- The call has ended, and it has handed out the token with the opaque value. -/
def HandsOut (σ : System) (i : Nat) (c : Call) (value : String) (record : Token) : Prop :=
  ∃ x, σ.Returned i c (.ok x) ∧ c.hands x = some (value, record)

theorem HandsOut.append {i : Nat} {c : Call} {value : String} {record : Token}
    (h : (run settings start es).HandsOut i c value record) (later : List Event) :
    (run settings start (es ++ later)).HandsOut i c value record := by
  obtain ⟨x, hret, hx⟩ := h
  exact ⟨x, hret.append later, hx⟩

/-- What a call has handed out, if it has ended and handed out anything. -/
def handed? (σ : System) (i : Nat) : Option (String × Token) :=
  match σ.threads[i]? with
  | some ⟨c, .pure (.ok x), _⟩ => c.hands x
  | _ => none

theorem handsOut_of_handed? {i : Nat} {value : String} {record : Token}
    (h : σ.handed? i = some (value, record)) : ∃ c, σ.HandsOut i c value record := by
  unfold handed? at h
  split at h
  · rename_i c x held hi
    exact ⟨c, x, ⟨held, hi⟩, h⟩
  · cases h

/-- A token as a call hands it out: it bears the hash of the opaque value, it is issued at an
instant that the call has been told, and it lives for a lifetime that the call gives. -/
structure Genuine (settings : Settings) (start : Instant) (es : List Event) (i : Nat) (c : Call)
    (value : String) (record : Token) : Prop where
  hash : record.hash = Opaque.hash value
  told : Told settings start es i record.issuedAt
  lives : ∃ lifetime, c.Gives settings lifetime ∧
    record.issuedAt.add? lifetime = some record.expiresAt

theorem Genuine.append {i : Nat} {c : Call} {value : String} {record : Token}
    (h : Genuine settings start es i c value record) (later : List Event) :
    Genuine settings start (es ++ later) i c value record :=
  ⟨h.hash, h.told.append later, h.lives⟩

/-- The call that hands out a token at an event has just had its row entered. -/
theorem Ends.handsOut {i : Nat} {c : Call} {x : c.Result} {value : String} {record : Token}
    (h : Ends settings (Told settings start es i) (run settings start es) i c (.ok x) ev)
    (hx : c.hands x = some (value, record)) :
    Genuine settings start es i c value record ∧
      record ∈ (run settings start (es ++ [ev])).memory.tokens := by
  have ho := (kept_run settings start es).sound.orderly
  cases h with
  | emptyHanded hnone =>
    rw [hnone x rfl] at hx
    cases hx
  | @granted _ _ _ r _ _ hasks hread hmay hend =>
    rw [run_concat, step_served hasks]
    simp only
    generalize ha : ((run settings start es).memory.answer r).1 = a at hend
    cases hend with
    | @issued t policy now value' _ i hv hx' =>
      rw [hx] at hx'
      cases hx'
      obtain ⟨htok, hrow, -⟩ := Memory.issueToken_granted ho ha
      cases hmay with
      | plain hp => exact absurd trivial hp
      | issueToken hc hl _ _ hn hf =>
        obtain ⟨expiresAt, hadd, ht⟩ := Token.fresh_eq_ok hf
        rw [htok]
        refine ⟨⟨hv, ?_, _, hl, ?_⟩, hrow⟩
        · rw [ht]
          exact hread _ hn
        · rw [ht]
          exact hadd
    | @exchanged presented id now lifetime value' _ y hx' =>
      rw [hx] at hx'
      cases hx'
      obtain ⟨t, s, -, -, -, -, hf, hrow⟩ := Memory.rotateToken_granted ho ha
      cases hmay with
      | plain hp => exact absurd trivial hp
      | rotateToken hc hl _ _ hn =>
        obtain ⟨expiresAt, hadd, ht⟩ := Token.fresh_eq_ok hf
        refine ⟨⟨?_, ?_, _, hl, ?_⟩, hrow⟩
        · rw [ht]
        · rw [ht]
          exact hread _ hn
        · rw [ht]
          exact hadd
    | revoked hx' =>
      rw [hx] at hx'
      cases hx'

/-- At some event of the run the call has handed out the token, and the row was there then. -/
theorem HandsOut.entered {i : Nat} {c : Call} {value : String} {record : Token}
    (h : (run settings start es).HandsOut i c value record) :
    ∃ before later, es = before ++ later ∧ Genuine settings start before i c value record ∧
      record ∈ (run settings start before).memory.tokens := by
  obtain ⟨x, hret, hx⟩ := h
  induction es using List.reverseRecOn with
  | nil =>
    obtain ⟨held, hi⟩ := hret
    simp [run] at hi
  | append_singleton es ev ih =>
    by_cases hbefore : (run settings start es).Returned i c (.ok x)
    · obtain ⟨before, later, rfl, hgen, hrow⟩ := ih hbefore
      exact ⟨before, later ++ [ev], by simp, hgen, hrow⟩
    · obtain ⟨hgen, hrow⟩ := (ends_of_returned hbefore hret).handsOut hx
      exact ⟨es ++ [ev], [], by simp, hgen.append [ev], hrow⟩

theorem HandsOut.genuine {i : Nat} {c : Call} {value : String} {record : Token}
    (h : (run settings start es).HandsOut i c value record) :
    Genuine settings start es i c value record := by
  obtain ⟨before, later, rfl, hgen, -⟩ := h.entered
  exact hgen.append later

/-- The hash of a value that has been handed out is settled. -/
theorem HandsOut.settled {i : Nat} {c : Call} {value : String} {record : Token}
    (h : (run settings start es).HandsOut i c value record) :
    (run settings start es).Settled (.hash (Opaque.hash value)) := by
  obtain ⟨before, later, rfl, hgen, hrow⟩ := h.entered
  have hsettled := ((kept_run settings start before).custody.stored record hrow).2
  rw [hgen.hash] at hsettled
  exact run_after (I := fun σ => σ.Settled (.hash (Opaque.hash value))) hsettled
    (fun hs h => h.settled hs) later

/-- A row after an event is an older row, or it has just been handed out. -/
theorem row_before_or_handed {u : Token}
    (hu : u ∈ (run settings start (es ++ [ev])).memory.tokens) :
    (∃ t ∈ (run settings start es).memory.tokens, t.Ages u) ∨
      ∃ i c value, (run settings start (es ++ [ev])).HandsOut i c value u := by
  have ho := (kept_run settings start es).sound.orderly
  rw [run_concat] at hu
  rcases (step_step settings (run settings start es) ev).memory with hm | ⟨o, hp, hm⟩
  · exact .inl ⟨u, hm ▸ hu, .refl u⟩
  · rw [hm] at hu
    cases ev with
    | setClock | call => cases hp
    | addUser user | removeUser user =>
      cases hp
      exact .inl (((ho.apply_effect _).token_before ho hu).resolve_right id)
    | go i id value =>
      obtain ⟨r, ⟨c, k, held, hasks⟩, rfl⟩ := hp
      rcases ho.row_cause r hu with hold | hentered
      · exact .inl hold
      · right
        -- the granted request has ended the call that made it
        generalize ha : ((run settings start es).memory.answer r).1 = a at hentered
        cases hentered with
        | issued =>
          obtain ⟨x, hret, hend⟩ := granted_returns id value hasks trivial ha
          cases hend with
          | issued _ hx => exact ⟨i, c, _, x, hret, hx⟩
        | exchanged hr =>
          obtain ⟨x, hret, hend⟩ := granted_returns id value hasks trivial ha
          cases hend with
          | exchanged hx => exact ⟨i, c, _, x, hret, hr ▸ hx⟩

/-- Every row is that of a token that a call has handed out. -/
theorem row_handed {u : Token} (hu : u ∈ (run settings start es).memory.tokens) :
    ∃ i c value record, (run settings start es).HandsOut i c value record ∧ record.Ages u := by
  induction es using List.reverseRecOn generalizing u with
  | nil => simp [run, Memory.empty] at hu
  | append_singleton es ev ih =>
    rcases row_before_or_handed hu with ⟨t, ht, ha⟩ | ⟨i, c, value, h⟩
    · obtain ⟨i, c, value, record, h, hr⟩ := ih ht
      exact ⟨i, c, value, record, h.append [ev], hr.trans ha⟩
    · exact ⟨i, c, value, u, h, .refl u⟩

/-- A row with a hash that was settled before has aged from a row of that time. -/
theorem row_ancestor {hash : Hash} (hs : (run settings start es).Settled (.hash hash))
    {later : List Event} {u : Token} (hu : u ∈ (run settings start (es ++ later)).memory.tokens)
    (hhash : u.hash = hash) : ∃ t ∈ (run settings start es).memory.tokens, t.Ages u := by
  -- the hash has to stay settled for no call to enter it again
  refine (run_after (I := fun σ => σ.Kept ∧ σ.Settled (.hash hash) ∧ ∀ v ∈ σ.memory.tokens,
    v.hash = hash → ∃ t ∈ (run settings start es).memory.tokens, t.Ages v)
    ⟨kept_run settings start es, hs, fun v hv _ => ⟨v, hv, .refl v⟩⟩ ?_ later).2.2 u hu hhash
  rintro σ σ' ev ⟨hk, hsettled, hall⟩ hstep
  refine ⟨hk.step hstep, hstep.settled hsettled, fun v hv hvh => ?_⟩
  rcases hk.custody.row_before hk.sound.orderly hstep hv with ⟨w, hw, ha⟩ | hn
  · obtain ⟨t, ht, hta⟩ := hall w hw (ha.hash.symm.trans hvh)
    exact ⟨t, ht, hta.trans ha⟩
  · exact absurd (hvh ▸ hsettled) hn

/-! ## Sessions -/

/-- A session that is there after an event has been there before, or its identifier was held by the
call that has created it. -/
theorem session_before_or_created {x : Session}
    (hx : x ∈ (run settings start (es ++ [ev])).memory.sessions) :
    (∃ s ∈ (run settings start es).memory.sessions, s.Ages x) ∨
      (¬ (run settings start es).Settled (.id x.id) ∧
        (run settings start (es ++ [ev])).Settled (.id x.id)) := by
  have hk := kept_run settings start es
  rw [run_concat] at hx ⊢
  rcases (step_step settings (run settings start es) ev).memory with hm | ⟨o, hp, hm⟩
  · exact .inl ⟨x, hm ▸ hx, .refl x⟩
  · rw [hm] at hx
    rcases (hk.sound.orderly.apply_effect o).session_before hk.sound.orderly hx with
      hold | ⟨rfl, -⟩
    · exact .inl hold
    · cases ev with
      | setClock | call => cases hp
      | addUser user | removeUser user => cases hp
      | go i id value =>
        obtain ⟨r, ⟨c, k, held, hasks⟩, hr⟩ := hp
        cases hr
        obtain ⟨read, -, hmay, -⟩ := asks_lawfully hasks
        cases hmay with
        | plain hplain => exact False.elim hplain
        | createSession hid =>
          refine .inr ⟨fun hs => hs.2 _ (List.mem_of_getElem? hasks) hid, ?_⟩
          rw [step_served hasks]
          exact (custodyOf_all.mpr hk.custody).released hasks hid rfl

/-- The identifiers of the stored sessions are settled. -/
theorem session_settled (settings : Settings) (start : Instant) (es : List Event) {s : Session}
    (hs : s ∈ (run settings start es).memory.sessions) :
    (run settings start es).Settled (.id s.id) := by
  induction es using List.reverseRecOn generalizing s with
  | nil => simp [run, Memory.empty] at hs
  | append_singleton es ev ih =>
    rcases session_before_or_created hs with ⟨x, hx, ha⟩ | ⟨-, hsettled⟩
    · rw [run_concat, ha.id]
      exact (step_step settings _ ev).settled (ih hx)
    · exact hsettled

end SessionKeeper.Service.System
