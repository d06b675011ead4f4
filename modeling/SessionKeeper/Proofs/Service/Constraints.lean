import SessionKeeper.Proofs.Database.Constraints
import SessionKeeper.Proofs.Service.Binding

/-!
# The services write what the tables admit

A service over a database puts each request of the store to the database and asks its surroundings
for instants and draws itself (`Served`). Nothing is assumed of any answer but this: an identifier
that has been drawn is not known to the database before a statement has named it (`Unguessed`).
Calls that are made one after the other then write nothing that fails a check on a single row. What
is asked of the store comes to rows that pass (`May.writable`): the thumbprint of a key is trimmed
and not blank, a hash is a digest, and a lifetime is longer than what is lost when instants are kept
by the database. That is a microsecond at most when they are cut off, and a second where the clock
shows a leap second, as the database has none and keeps such a reading a second later.
-/

namespace SessionKeeper

theorem TokenSettings.le_lifetime {s : TokenSettings} {lifetime : Span}
    (h : s.lifetime = .ok lifetime) : (Span.ofMillis 1).nanos ≤ lifetime.nanos := by
  unfold TokenSettings.lifetime at h
  split at h
  · cases h
    show (1 * 1000000 : Int) ≤ s.lifetimeSeconds * 1000000000
    omega
  · cases h

namespace Service

open Database (Trace Traced Statement Failure Untold Writable)

/-! ## Services over a database -/

/-- What a service has to do with the outside. -/
inductive Contact where
  | database (x : Database.Exchange)
  | surroundings (r : Ambient) (a : r.Answer)

/-- What is exchanged with the database, if anything is. -/
def Contact.exchange? : Contact → Option Database.Exchange
  | database x => some x
  | surroundings _ _ => none

/-- The identifiers that are drawn. -/
def Contact.draws : Contact → List Uuid
  | surroundings .freshId id => [id]
  | _ => []

/-- What is exchanged with the database. -/
def exchanges (contacts : List Contact) : Trace := contacts.filterMap Contact.exchange?

@[simp] theorem exchanges_nil : exchanges [] = [] := rfl

@[simp] theorem exchanges_append (contacts later : List Contact) :
    exchanges (contacts ++ later) = exchanges contacts ++ exchanges later :=
  List.filterMap_append

@[simp] theorem exchanges_surroundings (r : Ambient) (a : r.Answer) (contacts : List Contact) :
    exchanges (.surroundings r a :: contacts) = exchanges contacts := rfl

@[simp] theorem exchanges_map_database (trace : Trace) :
    exchanges (trace.map .database) = trace := by
  rw [exchanges, List.filterMap_map]
  exact List.filterMap_some

/-- A program, what it has to do with the outside when the requests of the store are put to a
database, and what it ends with. -/
inductive Served {α : Type} : Prog signature α → List Contact → α → Prop where
  | pure (a : α) : Served (.pure a) [] a
  | store {r k trace answer contacts result} (h : Traced (Database.answer r) trace answer)
      (hrest : Served (k answer) contacts result) :
      Served (.ask (.inl r) k) (trace.map .database ++ contacts) result
  | surroundings {r k contacts result} (a : r.Answer) (hrest : Served (k a) contacts result) :
      Served (.ask (.inr r) k) (.surroundings r a :: contacts) result

/-- A call, with what it has to do with the outside. -/
structure Made where
  call : Call
  contacts : List Contact

/-- The services make the call when they are so served. -/
def Made.Under (settings : Settings) (m : Made) : Prop :=
  ∃ result, Served (m.call.action settings).run m.contacts result

/-- What calls that are made one after the other have to do with the outside. -/
def contactsOf (made : List Made) : List Contact := made.flatMap Made.contacts

@[simp] theorem contactsOf_cons (m : Made) (made : List Made) :
    contactsOf (m :: made) = m.contacts ++ contactsOf made := rfl

theorem served_pure {α : Type} {a b : α} {contacts : List Contact}
    (h : Served (.pure a) contacts b) : contacts = [] := by
  cases h
  rfl

/-! ## Draws that are not known to the database -/

/-- An identifier that is drawn is not told by the database before a statement has named it. -/
def Unguessed : List Contact → Prop
  | [] => True
  | x :: rest => (∀ id ∈ x.draws, Untold id (exchanges rest)) ∧ Unguessed rest

instance : (contacts : List Contact) → Decidable (Unguessed contacts)
  | [] => .isTrue trivial
  | x :: rest =>
    have : Decidable (Unguessed rest) := instDecidableUnguessed rest
    inferInstanceAs (Decidable ((∀ id ∈ x.draws, Untold id (exchanges rest)) ∧ Unguessed rest))

theorem Unguessed.after {contacts later : List Contact} (h : Unguessed (contacts ++ later)) :
    Unguessed later := by
  induction contacts with
  | nil => exact h
  | cons x contacts ih => exact ih h.2

theorem Unguessed.before {contacts later : List Contact} (h : Unguessed (contacts ++ later)) :
    Unguessed contacts := by
  induction contacts with
  | nil => exact trivial
  | cons x contacts ih =>
    refine ⟨fun id hid => ?_, ih h.2⟩
    have htold : Untold id (exchanges (contacts ++ later)) := h.1 id hid
    rw [exchanges_append] at htold
    exact htold.before

/-- It is enough that no reply at all tells an identifier that is drawn. -/
theorem unguessed_of_not_tells {contacts : List Contact}
    (h : ∀ x ∈ contacts, ∀ id ∈ x.draws, ∀ y ∈ exchanges contacts, y.tells id = false) :
    Unguessed contacts := by
  suffices hsub : ∀ later, (∀ x ∈ later, x ∈ contacts) → Unguessed later from
    hsub contacts fun _ hx => hx
  intro later hlater
  induction later with
  | nil => exact trivial
  | cons x later ih =>
    refine ⟨fun id hid => Database.untold_of_not_tells fun y hy => ?_,
      ih fun z hz => hlater z (List.mem_cons_of_mem x hz)⟩
    obtain ⟨z, hz, hy⟩ := List.mem_filterMap.mp hy
    exact h x (hlater x (by simp)) id hid y
      (List.mem_filterMap.mpr ⟨z, hlater z (List.mem_cons_of_mem x hz), hy⟩)

/-! ## What is asked of the store -/

/-- A lifetime that is asked for is at least a millisecond. -/
def Call.AsksMilli : Call → Prop
  | .issue _ lifetime => (Span.ofMillis 1).nanos ≤ lifetime.nanos
  | _ => True

/-- A call that reads a leap second off the clock gives its token a lifetime that ends in the leap
second or is at least two microseconds longer than a second. -/
def Made.OutlastsLeap (settings : Settings) (m : Made) : Prop :=
  ∀ now : Instant, .surroundings .now now ∈ m.contacts → now.leap = true →
    ∀ lifetime, m.call.Gives settings lifetime → (now.plus lifetime).leap = false →
      Span.perSecond + 2000 ≤ lifetime.nanos

section

variable {settings : Settings} {c : Call} {lifetime : Span} {held : List Mark}
  {read : List Instant} {r : Store.Request}

theorem Call.Gives.le_nanos (h : c.Gives settings lifetime) (hc : c.AsksMilli) :
    (Span.ofMillis 1).nanos ≤ lifetime.nanos := by
  cases c with
  | issue session l =>
    obtain rfl : l = lifetime := h
    exact hc
  | openSession | issueDefault | rotate => exact TokenSettings.le_lifetime h
  | _ => cases h

theorem isThumbprint_of_readThumbprint? {thumbprint key : Option String}
    (h : Sessions.readThumbprint? thumbprint = .ok key) :
    (Database.Value.ofOption .text key).IsThumbprint := by
  obtain ⟨hblank, rfl⟩ := Sessions.readThumbprint?_eq_ok h
  cases thumbprint with
  | none => exact .none
  | some raw => exact Database.isThumbprint_trim (hblank raw rfl)

theorem May.writable (h : May settings c held read r) (hsends : c.Sends r)
    (hlasts : ∀ now ∈ read, ∀ lifetime, c.Gives settings lifetime → lifetime.Lasts now)
    (hheld : ∀ hash, .hash hash ∈ held → hash.length = 32) : Writable r := by
  cases h with
  | createSession hid =>
    cases hsends with
    | create h | start h => exact isThumbprint_of_readThumbprint? h
  | issueToken _ hl _ hhash hn hf =>
    have hlives := Token.toMicros_lt_of_fresh hf (hlasts _ hn _ hl)
    obtain ⟨expiresAt, -, ht⟩ := Token.fresh_eq_ok hf
    exact ⟨hheld _ hhash, hlives, by rw [ht]⟩
  | rotateToken _ hl _ hhash hn => exact ⟨hheld _ hhash, hlasts _ hn _ hl⟩
  | revokeToken => exact Opaque.length_hash _
  | plain hp =>
    cases hsends with
    | create | start => cases hp
    | issueFirst | issue | issueDefault | rotate | revokeToken => exact absurd trivial hp
    | bind h =>
      obtain ⟨hblank, rfl⟩ := Sessions.readThumbprint_eq_ok h
      exact Database.isThumbprint_trim hblank
    | _ => exact trivial

end

/-! ## What is written -/

section

variable {settings : Settings} {c : Call} {contacts : List Contact}

theorem Served.observant {α : Type} {hands : α → Option (String × Token)}
    {p : Prog signature (Except Error α)} {result : Except Error α} (h : Served p contacts result)
    {held : List Mark} {read : List Instant} (hconduct : Conduct (May settings c) hands held read p)
    (hsends : AsksOnly c.Sends p)
    (hread : ∀ now ∈ read, ∀ lifetime, c.Gives settings lifetime → lifetime.Lasts now)
    (hlater : ∀ now : Instant, .surroundings .now now ∈ contacts →
      ∀ lifetime, c.Gives settings lifetime → lifetime.Lasts now)
    (hheld : ∀ hash, .hash hash ∈ held → hash.length = 32)
    (hids : ∀ id, .id id ∈ held → Untold id (exchanges contacts)) (hu : Unguessed contacts)
    {s : Statement} {a : Except Failure Database.Reply}
    (hmem : Database.Exchange.ran s a ∈ exchanges contacts) : s.Observant := by
  -- carried along are digests, identifiers of which the rest does not tell, and readings of the
  -- clock that the lifetime outlasts
  induction h generalizing held read with
  | pure => cases hmem
  | @store r k trace answer contacts result ht hrest ih =>
    rw [exchanges_append, exchanges_map_database] at hmem hids
    rcases List.mem_append.mp hmem with hmem | hmem
    · refine Database.answer_observant (hconduct.1.writable hsends.1 hread hheld) ht ?_ hmem
      rintro presented id hash now lifetime rfl
      cases hconduct.1 with
      | plain hp => exact absurd trivial hp
      | rotateToken _ _ hid => exact (hids id hid).before
    · rcases hconduct.2 answer with hend | ⟨-, hgo⟩
      · -- once a token has been written the call ends
        obtain ⟨x, hx⟩ := hend.ended
        rw [hx] at hrest
        rw [served_pure hrest] at hmem
        cases hmem
      · have hlater' := fun now hnow => hlater now (List.mem_append_right _ hnow)
        exact ih hgo (hsends.2 answer) hread hlater' nofun nofun hu.after hmem
  | @surroundings r k contacts result b hrest ih =>
    have hlater' := fun now hnow => hlater now (List.mem_cons_of_mem _ hnow)
    refine ih (hconduct b) (hsends b) ?_ hlater' ?_ ?_ hu.2 hmem
    · intro now hnow
      rcases List.mem_append.mp hnow with hnow | hnow
      · cases r with
        | now =>
          obtain rfl := List.mem_singleton.mp hnow
          exact hlater now (List.mem_cons_self)
        | freshId | freshOpaque => cases hnow
      · exact hread now hnow
    · intro hash hhash
      rcases List.mem_append.mp hhash with hhash | hhash
      · cases r with
        | freshOpaque =>
          cases List.mem_singleton.mp hhash
          exact Opaque.length_hash b
        | now => cases hhash
        | freshId => cases List.mem_singleton.mp hhash
      · exact hheld hash hhash
    · intro id hid
      rcases List.mem_append.mp hid with hid | hid
      · cases r with
        | freshId =>
          cases List.mem_singleton.mp hid
          exact hu.1 id (List.mem_singleton.mpr rfl)
        | now => cases hid
        | freshOpaque => cases List.mem_singleton.mp hid
      · exact hids id hid

theorem Made.Under.observant {m : Made} (h : m.Under settings) (hmilli : m.call.AsksMilli)
    (hleap : m.OutlastsLeap settings) (hu : Unguessed m.contacts) {s : Statement}
    {a : Except Failure Database.Reply} (hmem : .database (.ran s a) ∈ m.contacts) :
    s.Observant := by
  obtain ⟨result, hserved⟩ := h
  have hlasts : ∀ now : Instant, .surroundings .now now ∈ m.contacts →
      ∀ lifetime, m.call.Gives settings lifetime → lifetime.Lasts now :=
    fun now hnow lifetime hl =>
      ⟨hl.le_nanos hmilli, fun hleaps hends => hleap now hnow hleaps lifetime hl hends⟩
  exact hserved.observant (conduct_action settings m.call) (asksOnly_sends settings m.call) nofun
    hlasts nofun nofun hu (List.mem_filterMap.mpr ⟨_, hmem, rfl⟩)

/-- Whatever the clock shows and the database answers, as long as no reply tells an identifier that
has been drawn before a statement has named it: what calls of the services write passes the checks
of the tables, if lifetimes that are asked for are at least a millisecond, and those that lead out of
a leap second are longer than a second. -/
theorem writes_observe {made : List Made} (h : ∀ m ∈ made, m.Under settings)
    (hmilli : ∀ m ∈ made, m.call.AsksMilli) (hleap : ∀ m ∈ made, m.OutlastsLeap settings)
    (hu : Unguessed (contactsOf made)) {s : Statement} {a : Except Failure Database.Reply}
    (hmem : .database (.ran s a) ∈ contactsOf made) (hwrites : s.Writes) : s.row.Observes := by
  revert hwrites
  show s.Observant
  induction made with
  | nil => cases hmem
  | cons m made ih =>
    rw [List.forall_mem_cons] at h hmilli hleap
    rw [contactsOf_cons] at hu hmem
    rcases List.mem_append.mp hmem with hmem | hmem
    · exact h.1.observant hmilli.1 hleap.1 hu.before hmem
    · exact ih h.2 hmilli.2 hleap.2 hu.after hmem

end

/-- A token that an exchange hands out in a leap second, after a microsecond and for two seconds. -/
def handedToken : Token :=
  ⟨⟨12⟩, ⟨7⟩, Opaque.hash "b", ⟨1000, true⟩, ⟨1000001000, false⟩, none, none, none⟩

/-- The statements of the exchange, with their answers. -/
def exchangeAnswers : Database.Answered :=
  let session : Session := ⟨⟨7⟩, ⟨1⟩, none, ⟨0, false⟩, none, none⟩
  let old : Token := ⟨⟨11⟩, ⟨7⟩, Opaque.hash "a", ⟨0, false⟩, ⟨9000, false⟩, none, none, none⟩
  [(.sessionOf (Opaque.hash "a"), ⟨[[("session_id", .uuid ⟨7⟩)]], 1⟩),
    (.lockSession ⟨7⟩, ⟨[Database.sessionRow session], 1⟩),
    (.lockToken (Opaque.hash "a"), ⟨[Database.tokenRow old], 1⟩),
    (.consume ⟨11⟩ ⟨12⟩ ⟨1000, true⟩, ⟨[Database.tokenRow old], 1⟩),
    (.insertToken handedToken, ⟨[Database.tokenRow handedToken], 1⟩),
    (.touchSession ⟨7⟩ ⟨1000, true⟩, ⟨[Database.sessionRow session], 1⟩)]

/-- The reply to the insertion tells the new identifier, which has been named before. -/
theorem writes_observe_exchanged :
    (Statement.consume ⟨11⟩ ⟨12⟩ ⟨1000, true⟩).row.Observes ∧
      (Statement.insertToken handedToken).row.Observes := by
  let settings : Settings := { database := { url := "" }, tokens := { lifetimeSeconds := 2 } }
  let trace : Trace := .begun (.ok ()) :: exchangeAnswers.trace ++ [.committed (.ok ())]
  let m : Made := ⟨.rotate "a", [.surroundings .freshOpaque "b",
    .surroundings .now (⟨1000, true⟩ : Instant), .surroundings .freshId (⟨12⟩ : Uuid)] ++
    trace.map .database ++ []⟩
  have hlifetime : settings.tokens.lifetime = .ok (Span.ofSeconds 2) := rfl
  have htrace : Traced (Database.answer (.rotateToken (Opaque.hash "a") ⟨12⟩ (Opaque.hash "b")
      ⟨1000, true⟩ (Span.ofSeconds 2))) trace _ :=
    Database.traced_exchange (Database.inTurn (exchangeAnswers.map fun x => .ok x.2)) [] _
  have hunder : m.Under settings := by
    unfold Made.Under
    rw [show (Call.rotate "a").action settings =
      Tokens.retrying (Tokens.rotateOnce (Opaque.hash "a") (Span.ofSeconds 2)) 2 from
      Tokens.rotate_of_lifetime (by decide +kernel) hlifetime]
    exact ⟨_, .surroundings (r := .freshOpaque) "b" (.surroundings (r := .now) ⟨1000, true⟩
      (.surroundings (r := .freshId) ⟨12⟩ (.store htrace (.pure _))))⟩
  have hleap : m.OutlastsLeap settings := by
    intro now _ _ lifetime hl _
    obtain rfl : Span.ofSeconds 2 = lifetime := Except.ok.inj (hlifetime.symm.trans hl)
    decide
  have hu : Unguessed (contactsOf [m]) := by decide +kernel
  have hrow : ∀ x ∈ exchangeAnswers, x.1.Writes → x.1.row.Observes := by
    intro x hx
    have hmem : .database (.ran x.1 (.ok x.2)) ∈ contactsOf [m] :=
      List.mem_append_left _ (List.mem_append_left _ (List.mem_append_right _
        (List.mem_map_of_mem (by simpa [trace] using hx))))
    exact writes_observe (List.forall_mem_singleton.mpr hunder)
      (List.forall_mem_singleton.mpr trivial) (List.forall_mem_singleton.mpr hleap) hu hmem
  have hconsume := hrow _ (List.getElem_mem (show 3 < exchangeAnswers.length by decide))
  have hinsert := hrow _ (List.getElem_mem (show 4 < exchangeAnswers.length by decide))
  exact ⟨hconsume (.inr (by decide +kernel)), hinsert (.inl (by decide +kernel))⟩

/-- A token that is issued for a millisecond at 2016-12-31T23:59:60.9995Z. It ends after the leap
second, at 2017-01-01T00:00:00.0005Z, before the instant that the database keeps for its issue. -/
def leapToken : Token :=
  ⟨⟨12⟩, ⟨7⟩, Opaque.hash "b", ⟨1483228800999500000, true⟩, ⟨1483228800000500000, false⟩, none,
    none, none⟩

/-- The statements of the issuance, with their answers. -/
def leapAnswers : Database.Answered :=
  let session : Session := ⟨⟨7⟩, ⟨1⟩, none, ⟨0, false⟩, none, none⟩
  [(.lockSession ⟨7⟩, ⟨[Database.sessionRow session], 1⟩), (.lockCurrent ⟨7⟩, ⟨[], 0⟩),
    (.insertToken leapToken, ⟨[Database.tokenRow leapToken], 1⟩)]

/-- A millisecond does not outlast a leap second: the insertion fails the check that a token ends
after it was issued. -/
theorem writes_not_observe_in_leap_second :
    ∃ (settings : Settings) (m : Made) (a : Except Failure Database.Reply),
      m.call = .issue ⟨7⟩ (Span.ofMillis 1) ∧ m.Under settings ∧ m.call.AsksMilli ∧
      Unguessed m.contacts ∧ .database (.ran (.insertToken leapToken) a) ∈ m.contacts ∧
      (Statement.insertToken leapToken).Writes ∧
      ¬(Statement.insertToken leapToken).row.Observes := by
  let settings : Settings := { database := { url := "" } }
  let trace : Trace := .begun (.ok ()) :: leapAnswers.trace ++ [.committed (.ok ())]
  let m : Made := ⟨.issue ⟨7⟩ (Span.ofMillis 1), [.surroundings .freshOpaque "b",
    .surroundings .now leapToken.issuedAt, .surroundings .freshId (⟨12⟩ : Uuid)] ++
    trace.map .database ++ []⟩
  have htrace : Traced (Database.answer (.issueToken leapToken .reject leapToken.issuedAt))
      trace _ :=
    Database.traced_exchange (Database.inTurn (leapAnswers.map fun x => .ok x.2)) [] _
  have hunder : m.Under settings :=
    ⟨_, .surroundings (r := .freshOpaque) "b" (.surroundings (r := .now) leapToken.issuedAt
      (.surroundings (r := .freshId) ⟨12⟩ (.store htrace (.pure _))))⟩
  have hmem : .database (.ran (.insertToken leapToken) (.ok ⟨[Database.tokenRow leapToken], 1⟩)) ∈
      m.contacts :=
    List.mem_append_left _ (List.mem_append_right _ (List.mem_map_of_mem (by
      simp [trace, leapAnswers, Database.Answered.trace])))
  refine ⟨settings, m, _, rfl, hunder, Int.le_refl _, by decide +kernel, hmem,
    .inl (by decide +kernel), fun hobserves => ?_⟩
  have hlives := hobserves.lives (by decide +kernel)
  exact absurd hlives (by decide +kernel)

end Service

end SessionKeeper
