import SessionKeeper.Proofs.Service.Decision
import SessionKeeper.Proofs.Service.Requests
import SessionKeeper.Proofs.Service.Scene
import SessionKeeper.Proofs.Store.Binding
import SessionKeeper.Proofs.Text.Trim

/-!
# A session is bound once

A session is bound when it is opened with a thumbprint, or by the first bind that the store grants,
and to the thumbprint without the blanks around it. `BoundBy` says that an event of a run has done
so, or has done it again, and that the session has been stored ever since. By induction on the run,
the key of a stored session is the one that it is bound to in this sense, and it has none if no
event has bound it (`thumbprint_iff_boundBy`). From this follow the answer to every later bind and
the key that every exchange hands out. None of it rests on draws being new.
-/

namespace SessionKeeper

/-! ## Thumbprints -/

theorem Sessions.readThumbprint_eq_ok {raw key : String} (h : readThumbprint raw = .ok key) :
    Text.allBlank raw = false ∧ key = Text.trim raw := by
  unfold readThumbprint at h
  split at h
  · cases h
  · rename_i hb
    cases h
    exact ⟨by simpa using hb, rfl⟩

theorem Sessions.readThumbprint?_eq_ok {thumbprint key : Option String}
    (h : readThumbprint? thumbprint = .ok key) :
    (∀ raw, thumbprint = some raw → Text.allBlank raw = false) ∧
      key = thumbprint.map Text.trim := by
  cases thumbprint with
  | none =>
    cases h
    exact ⟨nofun, rfl⟩
  | some raw =>
    cases hr : readThumbprint raw with
    | error e =>
      simp only [readThumbprint?, hr] at h
      cases h
    | ok k =>
      simp only [readThumbprint?, hr] at h
      cases h
      obtain ⟨hb, rfl⟩ := readThumbprint_eq_ok hr
      refine ⟨?_, rfl⟩
      rintro _ ⟨⟩
      exact hb

namespace Service

/-! ## Requests that give a key -/

/-- The thumbprint that a call is given for a session. -/
def Call.thumbprint? : Call → Option String
  | .createSession _ thumbprint => thumbprint
  | .openSession _ thumbprint => thumbprint
  | .bindSession _ thumbprint => some thumbprint
  | _ => none

/-- The key that a request gives is the thumbprint that the call was given, trimmed. -/
theorem Call.Sends.key {c : Call} {r : Store.Request} (hs : c.Sends r) {m : Memory} {id : Uuid}
    {key : Option String} (hg : m.Grants r id key) :
    (∀ raw, c.thumbprint? = some raw → Text.allBlank raw = false) ∧
      key = c.thumbprint?.map Text.trim := by
  cases hg with
  | created =>
    cases hs with
    | create h => exact Sessions.readThumbprint?_eq_ok h
    | start h => exact Sessions.readThumbprint?_eq_ok h
  | bound =>
    cases hs with
    | bind h =>
      obtain ⟨hb, rfl⟩ := Sessions.readThumbprint_eq_ok h
      refine ⟨?_, rfl⟩
      rintro _ ⟨⟩
      exact hb

namespace System

variable {fresh : Mark → Bool} {settings : Settings} {start : Instant} {σ σ' : System} {ev : Event}

/-- All calls ask what is on the list. -/
def Listed (σ : System) : Prop := ∀ th ∈ σ.threads, AsksOnly th.call.Sends th.rest

theorem listed_runUnder (fresh : Mark → Bool) (settings : Settings) (start : Instant)
    (es : List Event) : (runUnder fresh settings start es).Listed := by
  refine runUnder_invariant (I := Listed) (by simp [Listed]) (fun h => h) ?_ es
  intro σ σ' ev h hs
  refine hs.threads (P := fun c p => AsksOnly c.Sends p) (asksOnly_sends settings) ?_ h
  intro c r k hp a
  cases r with
  | inl r => exact hp.2 a
  | inr r => exact hp a

/-! ## Binding a session -/

/-- At the event the store grants a call that has been given the thumbprint its request to open the
session or to bind it. -/
inductive Binds (σ : System) (session : Uuid) (raw : String) : Event → Prop where
  | granted {i id value c r k held key} (h : σ.threads[i]? = some ⟨c, .ask (.inl r) k, held⟩)
      (hraw : c.thumbprint? = some raw) (hg : σ.memory.Grants r session key) :
      Binds σ session raw (.go i id value)

/-- The session is stored. -/
def Stores (σ : System) (session : Uuid) : Prop := ∃ x ∈ σ.memory.sessions, x.id = session

/-- An event of the run has bound the session to the thumbprint, and from then on the session has
been stored. -/
def BoundBy (fresh : Mark → Bool) (settings : Settings) (start : Instant) (es : List Event)
    (session : Uuid) (raw : String) : Prop :=
  ∃ before ev after, es = before ++ ev :: after ∧
    (runUnder fresh settings start before).Binds session raw ev ∧
    ∀ mid, mid <+: after → (runUnder fresh settings start (before ++ ev :: mid)).Stores session

theorem binds_forget {session : Uuid} {raw : String} :
    (σ.forget fresh).Binds session raw ev ↔ σ.Binds session raw ev := by
  constructor
  · rintro ⟨h, hraw, hg⟩
    exact .granted h hraw hg
  · rintro ⟨h, hraw, hg⟩
    exact .granted h hraw hg

theorem Binds.not_blank {session : Uuid} {raw : String} (h : σ.Binds session raw ev)
    (hl : σ.Listed) : Text.allBlank raw = false := by
  cases h with
  | granted h hraw hg =>
    have hsends := (hl _ (List.mem_of_getElem? h)).1
    exact (hsends.key hg).1 raw hraw

theorem Binds.thumbprint {session : Uuid} {raw : String} (h : σ.Binds session raw ev)
    (hl : σ.Listed) (ho : σ.memory.Orderly) {x : Session}
    (hx : x ∈ (σ.step settings ev).memory.sessions) (hid : x.id = session) :
    x.thumbprint = some (Text.trim raw) := by
  cases h with
  | @granted i id value c r k held key h hraw hg =>
    have hsends := (hl _ (List.mem_of_getElem? h)).1
    rw [step_served h] at hx
    rw [hg.thumbprint ho hx hid, (hsends.key hg).2, hraw, Option.map_some]

/-- The key of a session that is stored after a step is what it was before, or the step binds the
session, if the key is one, and the session was unbound. -/
theorem Step.thumbprint_before (h : Step settings σ ev σ') (hl : σ.Listed) (ho : σ.memory.Orderly)
    {x : Session} (hx : x ∈ σ'.memory.sessions) :
    (∃ s ∈ σ.memory.sessions, s.id = x.id ∧ s.thumbprint = x.thumbprint) ∨
      ((∀ b, x.thumbprint = some b → ∃ raw, σ.Binds x.id raw ev ∧ Text.trim raw = b) ∧
        ∀ s ∈ σ.memory.sessions, s.id = x.id → s.thumbprint = none) := by
  rcases h.memory with hm | ⟨o, hp, hm⟩
  · rw [hm] at hx
    exact .inl ⟨x, hx, rfl, rfl⟩
  · rw [hm] at hx
    rcases (ho.apply_effect o).thumbprint_before ho hx with hold | ⟨r, rfl, hg, hnone⟩
    · exact .inl hold
    · refine .inr ⟨?_, hnone⟩
      intro b hb
      cases ev with
      | setClock | call => cases hp
      | addUser user | removeUser user => cases hp
      | go i id value =>
        obtain ⟨_, ⟨c, k, held, hth⟩, ⟨⟩⟩ := hp
        have hkey := ((hl _ (List.mem_of_getElem? hth)).1.key hg).2
        rw [hb] at hkey
        obtain ⟨raw, hraw, htrim⟩ := Option.map_eq_some_iff.mp hkey.symm
        exact ⟨raw, .granted hth hraw hg, htrim⟩

/-! ## Every run -/

theorem BoundBy.stores {es : List Event} {session : Uuid} {raw : String}
    (h : BoundBy fresh settings start es session raw) :
    (runUnder fresh settings start es).Stores session := by
  obtain ⟨before, e, after, rfl, -, hstored⟩ := h
  exact hstored after (List.prefix_refl _)

theorem BoundBy.ne_empty {es : List Event} {session : Uuid} {raw : String}
    (h : BoundBy fresh settings start es session raw) : Text.trim raw ≠ "" := by
  obtain ⟨before, e, after, -, hbinds, -⟩ := h
  have hraw := hbinds.not_blank (listed_runUnder fresh settings start before)
  intro he
  rw [Text.trim_eq_empty_iff.mp he] at hraw
  cases hraw

theorem boundBy_concat {es : List Event} {session : Uuid} {raw : String} :
    BoundBy fresh settings start (es ++ [ev]) session raw ↔
      (runUnder fresh settings start (es ++ [ev])).Stores session ∧
        (BoundBy fresh settings start es session raw ∨
          (runUnder fresh settings start es).Binds session raw ev) := by
  constructor
  · rintro ⟨before, e, after, hsplit, hbinds, hstored⟩
    refine ⟨hsplit ▸ hstored after (List.prefix_refl _), ?_⟩
    -- the last event is the one that binds, or comes after it
    rcases List.eq_nil_or_concat after with rfl | ⟨after, last, rfl⟩
    · obtain ⟨rfl, ⟨⟩⟩ := List.append_inj' hsplit rfl
      exact .inr hbinds
    · rw [List.concat_eq_append] at hsplit hstored
      rw [← List.cons_append, ← List.append_assoc] at hsplit
      obtain ⟨rfl, -⟩ := List.append_inj' hsplit rfl
      refine .inl ⟨before, e, after, rfl, hbinds, ?_⟩
      intro mid hmid
      exact hstored mid (hmid.trans (List.prefix_append _ _))
  · rintro ⟨hlast, ⟨before, e, after, rfl, hbinds, hstored⟩ | hbinds⟩
    · refine ⟨before, e, after ++ [ev], by simp, hbinds, ?_⟩
      intro mid hmid
      rcases List.prefix_concat_iff.mp hmid with rfl | hmid
      · rwa [← List.cons_append, ← List.append_assoc]
      · exact hstored mid hmid
    · refine ⟨es, ev, [], rfl, hbinds, ?_⟩
      intro mid hmid
      rw [List.prefix_nil.mp hmid]
      exact hlast

/-- What a stored session is bound to is its key. -/
theorem thumbprint_iff_boundBy (fresh : Mark → Bool) (settings : Settings) (start : Instant)
    (es : List Event) {x : Session}
    (hx : x ∈ (runUnder fresh settings start es).memory.sessions) (b : String) :
    x.thumbprint = some b ↔
      ∃ raw, BoundBy fresh settings start es x.id raw ∧ Text.trim raw = b := by
  induction es using List.reverseRecOn generalizing x with
  | nil => cases hx
  | append_singleton es ev ih =>
    have hstored : (runUnder fresh settings start (es ++ [ev])).Stores x.id := ⟨x, hx, rfl⟩
    have ho := (custody_runUnder fresh settings start es).1
    have hl := listed_runUnder fresh settings start es
    have hstep := step_step settings ((runUnder fresh settings start es).forget fresh) ev
    simp only [boundBy_concat, hstored, true_and]
    rw [runUnder_concat] at hx
    have hgiven : ∀ raw, (runUnder fresh settings start es).Binds x.id raw ev →
        x.thumbprint = some (Text.trim raw) :=
      fun raw hraw => (binds_forget.mpr hraw).thumbprint hl ho hx rfl
    rcases hstep.thumbprint_before hl ho hx with ⟨s, hs, hid, hkey⟩ | ⟨hbinds, hnone⟩
    · rw [← hid] at hgiven ⊢
      rw [← hkey, ih hs]
      constructor
      · rintro ⟨raw, hraw, htrim⟩
        exact ⟨raw, .inl hraw, htrim⟩
      · rintro ⟨raw, hraw | hraw, htrim⟩
        · exact ⟨raw, hraw, htrim⟩
        · -- it is bound again, so to the key that it has
          rw [← ih hs, hkey, hgiven raw hraw, htrim]
    · constructor
      · intro hb
        obtain ⟨raw, hraw, htrim⟩ := hbinds b hb
        exact ⟨raw, .inr (binds_forget.mp hraw), htrim⟩
      · rintro ⟨raw, hraw | hraw, htrim⟩
        · -- if it had been bound before, it would have had a key
          obtain ⟨s, hs, hid⟩ := hraw.stores
          have hbound := (ih hs).mpr ⟨raw, hid ▸ hraw, htrim⟩
          rw [hnone s hs hid] at hbound
          cases hbound
        · rw [hgiven raw hraw, htrim]

end System

/-! ## Later binds -/

/-- A bind of the session is granted for texts that are the key when they are trimmed, and refused
for all others. -/
structure KeepsTo (m : Memory) (session : Uuid) (b : String) : Prop where
  granted : ∀ surroundings raw,
    ((Scene.mk m surroundings).perform (Sessions.bind session raw)).1 = .ok () ↔ Text.trim raw = b
  blank : ∀ surroundings raw,
    (∃ e, ((Scene.mk m surroundings).perform (Sessions.bind session raw)).1 = .error e ∧
      e.kind = .validation) ↔ Text.allBlank raw = true
  other : ∀ surroundings raw,
    (∃ e, ((Scene.mk m surroundings).perform (Sessions.bind session raw)).1 = .error e ∧
      e.kind = .alreadyBound) ↔ Text.allBlank raw = false ∧ Text.trim raw ≠ b

namespace Scene

variable {m : Memory} {session : Uuid} {s : Session} {raw b : String}

theorem perform_bindSession (w : Scene) (session : Uuid) (raw : String) :
    (w.perform (Sessions.bind session raw)).1 =
      if Text.allBlank raw then .error .thumbprintBlank
      else (w.memory.bindThumbprint session (Text.trim raw)).1.map fun _ => () := by
  have hstore : ∀ key, w.perform (store (.bindThumbprint session key)) =
      ((w.memory.bindThumbprint session key).1,
        { w with memory := (w.memory.bindThumbprint session key).2 }) := fun _ => rfl
  rw [Sessions.bind, perform_liftExcept_bind, Sessions.readThumbprint]
  by_cases hb : Text.allBlank raw = true
  · simp only [hb, if_true]
  · simp only [hb, Bool.false_eq_true, if_false]
    rw [perform_bind, hstore]
    cases (w.memory.bindThumbprint session (Text.trim raw)).1 <;> rfl

theorem perform_bindSession_bound (ha : m.Active session s) (hs : s.thumbprint = some b)
    (surroundings : Surroundings) (raw : String) :
    ((Scene.mk m surroundings).perform (Sessions.bind session raw)).1 =
      if Text.allBlank raw then .error .thumbprintBlank
      else if Text.trim raw = b then .ok () else .error (.boundElsewhere session) := by
  rw [perform_bindSession]
  by_cases he : b = Text.trim raw
  · simp only [Memory.bindThumbprint, ha.withActive, hs, he, if_true]
    rfl
  · simp only [Memory.bindThumbprint, ha.withActive, hs, he, Ne.symm he, if_false]
    rfl

theorem keepsTo (ha : m.Active session s) (hs : s.thumbprint = some b) (hb : b ≠ "") :
    KeepsTo m session b := by
  have hblank : ∀ {raw}, Text.allBlank raw = true → Text.trim raw ≠ b := by
    intro raw hraw he
    exact hb (he.symm.trans (Text.trim_eq_empty_iff.mpr hraw))
  constructor
  all_goals
    intro surroundings raw
    rw [perform_bindSession_bound ha hs]
    cases hraw : Text.allBlank raw with
    | true =>
      simp [Error.thumbprintBlank, Error.plain, hblank hraw]
    | false =>
      by_cases he : Text.trim raw = b
      · simp [he]
      · simp [he, Error.boundElsewhere, Error.plain]

theorem perform_bindSession_revoked (hs : m.session? session = some s) (hr : s.isRevoked = true)
    (hraw : Text.allBlank raw = false) (surroundings : Surroundings) :
    ((Scene.mk m surroundings).perform (Sessions.bind session raw)).1 =
      .error (.sessionRevoked session) := by
  rw [perform_bindSession, hraw]
  simp only [Memory.bindThumbprint, Memory.withActive_of_revoked hs hr]
  rfl

end Scene

namespace System

variable {fresh : Mark → Bool} {settings : Settings} {start : Instant} {ev : Event}
  {es : List Event}

/-! ## Calls that succeed -/

/-- Who opens a session with a thumbprint binds it. -/
theorem Succeeds.binds_opened {user : Uuid} {raw : String} {x : Session}
    (h : Succeeds fresh settings start es ev (.createSession user (some raw)) x) :
    (runUnder fresh settings start es).Binds x.id raw ev := by
  obtain ⟨i, id, value, r, k, held, y, rfl, hth, hanswer, hyields⟩ := h.granted trivial
  cases hyields with
  | @opened _ _ s =>
    have hgranted : ((runUnder fresh settings start es).memory.createSession s).1 = .ok x := hanswer
    have hsame : s = x := by
      rcases Memory.createSession_cases _ s with ⟨e, he⟩ | ⟨-, -, he⟩
      · rw [he] at hgranted
        cases hgranted
      · rw [he] at hgranted
        exact Except.ok.inj hgranted
    subst hsame
    exact .granted hth rfl (.created hgranted)

theorem Succeeds.binds {session : Uuid} {raw : String}
    (h : Succeeds fresh settings start es ev (.bindSession session raw) ()) :
    (runUnder fresh settings start es).Binds session raw ev := by
  obtain ⟨i, id, value, r, k, held, y, rfl, hth, hanswer, hyields⟩ := h.granted trivial
  cases hyields with
  | bound => exact .granted hth rfl (.bound hanswer)

/-- An exchange hands out the key that the session of the token is bound to when it is granted. -/
theorem Succeeds.exchanged_key {value : String} {x : RotatedToken}
    (h : Succeeds fresh settings start es ev (.rotate value) x) :
    ∃ t, (runUnder fresh settings start es).memory.tokenByHash? (Opaque.hash value) = some t ∧
      x.session = t.session ∧ ∀ b, x.thumbprint = some b ↔
        ∃ raw, BoundBy fresh settings start es t.session raw ∧ Text.trim raw = b := by
  obtain ⟨i, id, v, r, k, held, y, rfl, hth, hanswer, hyields⟩ := h.granted trivial
  cases hyields with
  | exchanged hsession hkey =>
    obtain ⟨t, s, ht, hs, hid, hthumbprint⟩ :=
      (custody_runUnder fresh settings start es).1.rotated_key hanswer
    obtain ⟨hs, hsid⟩ := Memory.mem_of_session? hs
    refine ⟨t, ht, hsession.trans (hid.trans hsid), ?_⟩
    intro b
    rw [hkey, hthumbprint, ← hsid]
    exact thumbprint_iff_boundBy fresh settings start es hs b

end System
end Service
end SessionKeeper
