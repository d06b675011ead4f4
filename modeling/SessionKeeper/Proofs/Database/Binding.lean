import SessionKeeper.Proofs.Database.Tables
import SessionKeeper.Proofs.Database.Transactions
import SessionKeeper.Proofs.Service.Binding
import SessionKeeper.Proofs.Service.SingleUse

/-!
# Binding a session in a database

A client binds a session in a transaction: it locks the row, and sends an UPDATE if the row is
neither revoked nor bound. Against any database that answers from the rows of a store (`Serves`) it
comes to what the store comes to, and nothing is written to a session that is revoked or bound
(`leaves_bindThumbprint`). With what runs of the services keep, this makes a key final on both
sides.
-/

namespace SessionKeeper.Database

open Exchange

/-! ## A database with the rows of a store -/

/-- The statement that binds a session to a key. -/
def Statement.bindSession (id : Uuid) (key : String) : Statement :=
  ⟨"UPDATE auth_sessions SET dpop_jkt = $2 WHERE id = $1 RETURNING *", [.uuid id, .text key]⟩

@[simp] theorem Statement.writes_bindSession (id : Uuid) (key : String) :
    (bindSession id key).writes = true := by
  simp [writes, bindSession, List.isPrefixOf]

/-- The rows of sessions with an identifier. -/
def sessionsWith (m : Memory) (id : Uuid) : List Session := m.sessions.filter fun s => s.id == id

/-- A database has the rows of a store. It begins and commits transactions, and as long as nothing
has been written to it, it gives the rows of a session as they are, or as it has bound them. -/
structure Serves (m : Memory) (reply : Trace → (r : Request) → r.Answer) : Prop where
  begins : ∀ before, reply before .begin = Except.ok ()
  commits : ∀ before, reply before .commit = Except.ok ()
  locks : ∀ before id, writes before = [] → reply before (.run (.lockSession id)) =
    Except.ok ⟨(sessionsWith m id).map sessionRow, (sessionsWith m id).length⟩
  binds : ∀ before id key, writes before = [] → reply before (.run (.bindSession id key)) =
    Except.ok ⟨(sessionsWith m id).map fun s => sessionRow { s with thumbprint := some key },
      (sessionsWith m id).length⟩

variable {m : Memory} {reply : Trace → (r : Request) → r.Answer} {before : Trace} {id : Uuid}
  {key : String} {s : Session}

theorem Serves.leaves_lock (h : Serves m reply) (ho : m.Orderly) (hbefore : writes before = [])
    (id : Uuid) :
    ∃ a, Leaves reply before (Sessions.lock id) [ran (.lockSession id) a]
      (match m.session? id with
        | none => .error (.sessionNotFound id)
        | some s => .ok s.kept) := by
  have hread : ∀ s, m.session? id = some s → Sessions.read (sessionRow s) = .ok s.kept :=
    fun s _ => read_sessionRow s
  have hlock := h.locks before id hbefore
  rw [sessionsWith, filter_session ho] at hlock
  refine ⟨_, (leaves_fetchOptional hlock hread).then_result ?_⟩
  cases m.session? id <;> rfl

/-- What is done with a session once it is locked. -/
def bindLocked (id : Uuid) (key : String) (s : Session) : Action (Verdict Session) := do
  if s.isRevoked then throw (.sessionRevoked id)
  let bound ← match s.thumbprint with
    | some existing => if existing = key then pure s else throw (.boundElsewhere id)
    | none => fetchOne "Failed to bind thumbprint" Sessions.read (.bindSession id key)
  return .ofResult "Failed to commit thumbprint binding" bound

theorem bindThumbprint_eq (id : Uuid) (key : String) :
    Sessions.bindThumbprint id key =
      transaction (Sessions.lock id >>= fun s => bindLocked id key s) := rfl

theorem leaves_bindLocked_revoked (id : Uuid) (key : String) (hr : s.isRevoked = true) :
    Leaves reply before (bindLocked id key s) [] (.error (.sessionRevoked id)) := by
  unfold bindLocked
  rw [if_pos hr]
  rfl

theorem leaves_bindLocked_bound {existing : String} (id : Uuid) (key : String)
    (hr : s.isRevoked = false) (hb : s.thumbprint = some existing) :
    Leaves reply before (bindLocked id key s) []
      (if existing = key then .ok (.ofResult "Failed to commit thumbprint binding" s)
        else .error (.boundElsewhere id)) := by
  unfold bindLocked
  rw [if_neg (by simp [hr]), hb]
  by_cases he : existing = key
  · simp only [he, if_true]
    rfl
  · simp only [he, if_false]
    rfl

theorem Serves.leaves_bindLocked (h : Serves m reply) (ho : m.Orderly)
    (hbefore : writes before = []) (key : String) {x : Session} (hx : m.session? id = some x)
    (hr : s.isRevoked = false) (hb : s.thumbprint = none) :
    ∃ a, Leaves reply before (bindLocked id key s) [ran (.bindSession id key) a]
      (.ok (.ofResult "Failed to commit thumbprint binding"
        (Session.kept { x with thumbprint := some key }))) := by
  have hbind := h.binds before id key hbefore
  rw [sessionsWith, filter_session ho, hx] at hbind
  unfold bindLocked
  rw [if_neg (by simp [hr]), hb]
  exact ⟨_, (leaves_fetchOne hbind (read_sessionRow _)).then_result rfl⟩

/-- Binding comes to what it comes to in the store, up to the precision of instants, and only an
active session without a key is written to. -/
theorem Serves.leaves_bindThumbprint (h : Serves m reply) (ho : m.Orderly) (id : Uuid)
    (key : String) :
    ∃ trace, Leaves reply [] (Sessions.bindThumbprint id key) trace
        ((m.bindThumbprint id key).1.map Session.kept) ∧
      ∀ s ∈ writes trace, s = .bindSession id key ∧
        ∃ x, m.Active id x ∧ x.thumbprint = none := by
  have hbegun : writes [begun (.ok ())] = [] := rfl
  obtain ⟨a, hlock⟩ := h.leaves_lock ho hbegun id
  have hbound := m.bindThumbprint_bound id key
  generalize m.bindThumbprint id key = out at hbound
  rw [bindThumbprint_eq]
  cases hbound with
  | missing hs =>
    rw [hs] at hlock
    refine ⟨_, leaves_transaction (h.begins []) hlock.bind_error (leaves_abandon _), ?_⟩
    simp [writes]
  | @revoked s hs hr =>
    rw [hs] at hlock
    have hbody := hlock.bind (leaves_bindLocked_revoked id key (by simpa using hr))
    refine ⟨_, leaves_transaction (h.begins []) hbody (leaves_abandon _), ?_⟩
    simp [writes]
  | @elsewhere s existing ha hb hne =>
    rw [ha.1] at hlock
    have hbody := hlock.bind (leaves_bindLocked_bound id key (by simpa using ha.2) hb)
    rw [if_neg hne] at hbody
    refine ⟨_, leaves_transaction (h.begins []) hbody (leaves_abandon _), ?_⟩
    simp [writes]
  | @again s ha hb =>
    rw [ha.1] at hlock
    have hbody := hlock.bind (leaves_bindLocked_bound id key (by simpa using ha.2) hb)
    rw [if_pos rfl] at hbody
    refine ⟨_, leaves_transaction (h.begins []) hbody (leaves_conclude (h.commits _)), ?_⟩
    simp [writes]
  | @first s ha hb =>
    rw [ha.1] at hlock
    have hread : writes [begun (.ok ()), ran (.lockSession id) a] = [] := by
      simp [writes]
    obtain ⟨b, hlocked⟩ := h.leaves_bindLocked (s := s.kept) ho hread key ha.1
      (by simpa using ha.2) hb
    refine ⟨_, leaves_transaction (h.begins []) (hlock.bind hlocked)
      (leaves_conclude (h.commits _)), ?_⟩
    have hwrites : writes [begun (.ok ()), ran (.lockSession id) a,
        ran (.bindSession id key) b, committed (.ok ())] = [.bindSession id key] := by
      simp [writes, List.filterMap_cons]
    intro s' hs'
    change s' ∈ writes [begun (.ok ()), ran (.lockSession id) a,
      ran (.bindSession id key) b, committed (.ok ())] at hs'
    rw [hwrites] at hs'
    exact ⟨List.mem_singleton.mp hs', s, ha, hb⟩

/-! ## Every run -/

open Service in
/-- After any run, whichever draws are repeated. The key of a stored session is the thumbprint,
without the blanks around it, of every call that has bound it since it has been stored, so that of
the first, and it has none if there is no such call. As long as the session is active, binds are
granted for this key alone, and once it is revoked for none. Who opens a session with a thumbprint
or binds it, and succeeds, has bound it; an exchange that succeeds next hands out the key, or none
if there is none. And a client of a database with the rows of the store, which is asked to bind a
session, comes to what the store comes to, and writes only to an active session without a key. -/
theorem keys_are_bound_once (fresh : Mark → Bool) (settings : Settings) (start : Instant)
    (es : List Event) :
    let σ := System.runUnder fresh settings start es
    let m := σ.memory
    (∀ x ∈ m.sessions,
      (∀ b, x.thumbprint = some b ↔
        ∃ raw, System.BoundBy fresh settings start es x.id raw ∧ Text.trim raw = b) ∧
      (∀ raw, System.BoundBy fresh settings start es x.id raw → x.isRevoked = false →
        KeepsTo m x.id (Text.trim raw)) ∧
      (x.isRevoked = true → ∀ surroundings raw, Text.allBlank raw = false →
        ((Scene.mk m surroundings).perform (SessionKeeper.Sessions.bind x.id raw)).1 =
          .error (.sessionRevoked x.id))) ∧
    (∀ ev user raw x,
      System.Succeeds fresh settings start es ev (.createSession user (some raw)) x →
      σ.Binds x.id raw ev) ∧
    (∀ ev session raw, System.Succeeds fresh settings start es ev (.bindSession session raw) () →
      σ.Binds session raw ev) ∧
    (∀ ev value r, System.Succeeds fresh settings start es ev (.rotate value) r →
      ∃ t, m.tokenByHash? (Opaque.hash value) = some t ∧ r.session = t.session ∧
        ∀ b, r.thumbprint = some b ↔
          ∃ raw, System.BoundBy fresh settings start es t.session raw ∧ Text.trim raw = b) ∧
    (∀ reply, Serves m reply → ∀ session key,
      let bound := exchange reply [] (Sessions.bindThumbprint session key).run
      bound.2 = (m.bindThumbprint session key).1.map Session.kept ∧
        ∀ s ∈ writes bound.1, s = .bindSession session key ∧
          ∃ x ∈ m.sessions, x.id = session ∧ x.isRevoked = false ∧ x.thumbprint = none) := by
  intro σ m
  have ho : m.Orderly := (System.custody_runUnder fresh settings start es).1
  refine ⟨?_, fun ev user raw x h => h.binds_opened, fun ev session raw h => h.binds,
    fun ev value r h => h.exchanged_key, ?_⟩
  · intro x hx
    have hkey := System.thumbprint_iff_boundBy fresh settings start es hx
    have hfound : m.session? x.id = some x := ho.session?_eq_some.mpr ⟨hx, rfl⟩
    refine ⟨hkey, ?_, ?_⟩
    · intro raw hraw hr
      have hb : x.thumbprint = some (Text.trim raw) := (hkey _).mpr ⟨raw, hraw, rfl⟩
      exact Scene.keepsTo ⟨hfound, hr⟩ hb hraw.ne_empty
    · intro hr surroundings raw hraw
      exact Scene.perform_bindSession_revoked hfound hr hraw surroundings
  · intro reply h session key
    obtain ⟨trace, hleaves, hwrites⟩ := h.leaves_bindThumbprint ho session key
    rw [show exchange reply [] (Sessions.bindThumbprint session key).run = _ from hleaves]
    refine ⟨rfl, ?_⟩
    intro s hs
    obtain ⟨hbind, x, ⟨hx, hr⟩, hb⟩ := hwrites s hs
    obtain ⟨hx, hid⟩ := Memory.mem_of_session? hx
    exact ⟨hbind, x, hx, hid, hr, hb⟩

/-- Run a statement of a client that binds sessions. -/
def Tables.runBinding (d : Tables) (s : Statement) : Except Failure (Reply × Tables) :=
  if s.text = "UPDATE auth_sessions SET dpop_jkt = $2 WHERE id = $1 RETURNING *" then
    d.exec s.parameters (.update .sessions [("dpop_jkt", .parameter 2)] [.equals "id" 1] true)
  else d.run s

/-- What a database with these tables answers, in a transaction that writes at its end. -/
def Tables.replies (d : Tables) (_ : Trace) : (r : Request) → r.Answer
  | .begin | .commit | .migrate _ => Except.ok ()
  | .rollback => ()
  | .migrationLog => ({} : MigrationLog)
  | .run s => (d.runBinding s).map Prod.fst

theorem serves_replies (m : Memory) : Serves m (Tables.of m).replies where
  begins := fun _ => rfl
  commits := fun _ => rfl
  locks := by
    intro before id _
    have hother : (Statement.lockSession id).text ≠
        "UPDATE auth_sessions SET dpop_jkt = $2 WHERE id = $1 RETURNING *" := by
      simp [Statement.lockSession]
    have hexec : (Tables.of m).exec _ (.select none .sessions [.equals "id" 1]) = _ :=
      exec_select rfl (meets_session id []) none
    have hrun := (Tables.run_eq (Statement.command?_lockSession id)).trans hexec
    show ((Tables.of m).runBinding (.lockSession id)).map Prod.fst = _
    rw [Tables.runBinding, if_neg hother, hrun]
    rfl
  binds := by
    intro before id key _
    have hchange : ∀ s : Session, (s.id == id) = true →
        change [.uuid id, .text key] [("dpop_jkt", .parameter 2)] (sessionRow s) =
          sessionRow { s with thumbprint := some key } := by
      intro s _
      simp [change, sessionRow, List.lookup_cons, Source.value, parameter, Value.ofOption]
    have hexec : (Tables.of m).exec _ (.update .sessions _ [.equals "id" 1] true) = _ :=
      exec_update rfl (meets_session id [.text key]) hchange true
    show ((Tables.of m).runBinding (.bindSession id key)).map Prod.fst = _
    rw [Tables.runBinding, if_pos (by rfl)]
    exact congrArg (Except.map Prod.fst) hexec

section

open Service

/-- A session that is bound after it has been opened. A call that exchanges its token is about to
ask the store. -/
def boundSession : List Event :=
  [.addUser ⟨1⟩, .call (.openSession ⟨1⟩ none), .go 0 ⟨7⟩ "", .go 0 ⟨0⟩ "", .go 0 ⟨0⟩ "",
    .go 0 ⟨0⟩ "a", .go 0 ⟨0⟩ "", .go 0 ⟨11⟩ "", .go 0 ⟨0⟩ "", .call (.bindSession ⟨7⟩ " k "),
    .go 1 ⟨0⟩ "", .call (.rotate "a"), .go 2 ⟨0⟩ "b", .go 2 ⟨0⟩ "", .go 2 ⟨12⟩ ""]

/-- The exchange hands out the key, and neither the store nor a database binds the session to
another. After it has been revoked it is not bound to its key either. -/
theorem keys_are_bound_once_exchanged :
    let settings : Settings := { database := { url := "" } }
    let revoked : List Event :=
      boundSession ++ [.call (.revokeSession ⟨7⟩), .go 3 ⟨0⟩ "", .go 3 ⟨0⟩ ""]
    let m := (System.runUnder (fun _ => false) settings ⟨0, false⟩ boundSession).memory
    let m' := (System.runUnder (fun _ => false) settings ⟨0, false⟩ revoked).memory
    KeepsTo m ⟨7⟩ "k" ∧
      (∃ r, System.Succeeds (fun _ => false) settings ⟨0, false⟩ boundSession (.go 2 ⟨0⟩ "")
        (.rotate "a") r ∧ r.thumbprint = some "k") ∧
      writes (exchange (Tables.of m).replies [] (Sessions.bindThumbprint ⟨7⟩ "l").run).1 = [] ∧
      ∀ surroundings, ((Scene.mk m' surroundings).perform
        (SessionKeeper.Sessions.bind ⟨7⟩ "k")).1 = .error (.sessionRevoked ⟨7⟩) := by
  intro settings revoked m m'
  obtain ⟨hsessions, -, -, hrotate, hdatabase⟩ :=
    keys_are_bound_once (fun _ => false) settings ⟨0, false⟩ boundSession
  have hstored : (m.sessions.any fun x =>
      x.id == ⟨7⟩ && x.thumbprint == some "k" && !x.isRevoked) = true := by decide +kernel
  obtain ⟨x, hx, hmatch⟩ := List.any_eq_true.mp hstored
  simp only [Bool.and_eq_true, beq_iff_eq, Bool.not_eq_true'] at hmatch
  obtain ⟨⟨hid, hkey⟩, hactive⟩ := hmatch
  obtain ⟨hbound, hkeeps, -⟩ := hsessions x hx
  obtain ⟨raw, hraw, htrim⟩ := (hbound "k").mp hkey
  refine ⟨?_, ?_, ?_, ?_⟩
  · rw [← hid, ← htrim]
    exact hkeeps raw hraw hactive
  · have hbefore : (System.runUnder (fun _ => false) settings ⟨0, false⟩ boundSession).outcome?
        2 "a" = none := by decide +kernel
    have hafter : (System.runUnder (fun _ => false) settings ⟨0, false⟩
        (boundSession ++ [.go 2 ⟨0⟩ ""])).outcome? 2 "a" = some none := by decide +kernel
    obtain ⟨r, hend⟩ := System.granted_of_outcome? hafter
    have hsucceeds : System.Succeeds (fun _ => false) settings ⟨0, false⟩ boundSession
        (.go 2 ⟨0⟩ "") (.rotate "a") r :=
      ⟨2, System.not_ended_of_outcome? hbefore _, hend⟩
    obtain ⟨t, ht, -, hdelivered⟩ := hrotate _ "a" r hsucceeds
    have hsession : (m.tokenByHash? (Opaque.hash "a")).map (·.session) = some ⟨7⟩ := by
      decide +kernel
    rw [ht] at hsession
    refine ⟨r, hsucceeds, (hdelivered "k").mpr ⟨raw, ?_, htrim⟩⟩
    rw [show t.session = x.id from (Option.some.inj hsession).trans hid.symm]
    exact hraw
  · have hall : (m.sessions.all fun x => x.thumbprint != none) = true := by decide +kernel
    obtain ⟨-, hwrites⟩ := hdatabase _ (serves_replies m) ⟨7⟩ "l"
    refine List.eq_nil_iff_forall_not_mem.mpr fun s hs => ?_
    obtain ⟨-, y, hy, -, -, hnone⟩ := hwrites s hs
    have hsome := List.all_eq_true.mp hall y hy
    rw [hnone] at hsome
    cases hsome
  · intro surroundings
    have hrevoked : (m'.sessions.any fun x => x.id == ⟨7⟩ && x.isRevoked) = true := by
      decide +kernel
    obtain ⟨y, hy, hmatch⟩ := List.any_eq_true.mp hrevoked
    simp only [Bool.and_eq_true, beq_iff_eq] at hmatch
    obtain ⟨hyid, hyr⟩ := hmatch
    obtain ⟨-, -, hrefuses⟩ :=
      (keys_are_bound_once (fun _ => false) settings ⟨0, false⟩ revoked).1 y hy
    rw [← hyid]
    exact hrefuses hyr surroundings "k" (by decide +kernel)

end

end SessionKeeper.Database
