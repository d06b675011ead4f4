import SessionKeeper.Database.Script
import SessionKeeper.Proofs.Cli.Lifetimes
import SessionKeeper.Proofs.Database.Catalogue
import SessionKeeper.Proofs.Store.Rows

/-!
# The user that a key names

Commands on a single user are given a key, which is an identifier in one of its written forms or a
name. They are run here over a database that keeps a table of users and answers the statements about
single users from it (`Users.Directory`). A key that can be read as an identifier is never taken for
a name, so a user whose name looks like an identifier cannot be reached by that name
(`names_shadowed`); every other user is reached by identifier and by name, and no other user is
shown or deleted instead (`users_reached`).
-/

namespace SessionKeeper

/-! ## A table of users -/

namespace Database.Users

/-- The users of a database. No two have the same identifier, and no two the same name. -/
structure Directory where
  /-- The rows. -/
  users : List User
  ids : (users.map User.id).Nodup
  names : (users.map User.name).Nodup

/-- A user as a row. -/
def row (u : User) : Row :=
  [("userId", .uuid u.id), ("userName", .text u.name), ("imageUrl", .ofOption .text u.image),
    ("createdAt", .instant u.createdAt), ("updatedAt", .instant u.updatedAt)]

theorem read_row (u : User) : read (row u) = .ok u := by
  obtain ⟨id, name, image, createdAt, updatedAt⟩ := u
  cases image <;> rfl

namespace Directory

/-- The user with an identifier. -/
def withId? (d : Directory) (id : Uuid) : Option User := d.users.find? fun u => u.id == id

/-- The first user with a name, which is the only one. -/
def withName? (d : Directory) (name : String) : Option User := d.users.find? fun u => u.name == name

/-- The table without the user that has an identifier. -/
def without (d : Directory) (id : Uuid) : Directory where
  users := d.users.filter fun u => u.id != id
  ids := nodup_key_filter d.ids _
  names := nodup_key_filter d.names _

variable (d : Directory)

theorem withId?_eq_some {id : Uuid} {u : User} :
    d.withId? id = some u ↔ u ∈ d.users ∧ u.id = id :=
  find?_key_iff d.ids

theorem withName?_eq_some {name : String} {u : User} :
    d.withName? name = some u ↔ u ∈ d.users ∧ u.name = name :=
  find?_key_iff d.names

theorem withId?_eq_none {id : Uuid} : d.withId? id = none ↔ ∀ u ∈ d.users, u.id ≠ id := by
  simp [withId?]

theorem withName?_eq_none {name : String} :
    d.withName? name = none ↔ ∀ u ∈ d.users, u.name ≠ name := by
  simp [withName?]

/-- Deleting a user deletes no other. -/
theorem mem_without {id : Uuid} {u : User} :
    u ∈ (d.without id).users ↔ u ∈ d.users ∧ u.id ≠ id := by
  simp [without]

/-- The rows that are found, of which there is one at most. -/
def found (u : Option User) : Reply := ⟨u.toList.map row, u.toList.length⟩

/-- Answer a statement. Statements that are not about a single user are refused. -/
def answer (d : Directory) (s : Statement) : Except Failure Reply × Directory :=
  match s.parameters with
  | [.uuid id] =>
    if s.text = Query.findUser.entry.text then (.ok (found (d.withId? id)), d)
    else if s.text = Query.deleteUser.entry.text then
      (.ok ⟨[], d.users.countP fun u => u.id == id⟩, d.without id)
    else (.error Script.noReply, d)
  | [.text name] =>
    if s.text = Query.findUserByName.entry.text then (.ok (found (d.withName? name)), d)
    else (.error Script.noReply, d)
  | _ => (.error Script.noReply, d)

@[simp] theorem answer_find (id : Uuid) :
    d.answer ⟨Query.findUser.entry.text, [.uuid id]⟩ = (.ok (found (d.withId? id)), d) := by
  simp [answer]

@[simp] theorem answer_findByName (name : String) :
    d.answer ⟨Query.findUserByName.entry.text, [.text name]⟩ =
      (.ok (found (d.withName? name)), d) := by
  simp [answer]

@[simp] theorem answer_delete (id : Uuid) :
    d.answer ⟨Query.deleteUser.entry.text, [.uuid id]⟩ =
      (.ok ⟨[], d.users.countP fun u => u.id == id⟩, d.without id) := by
  have hne : Query.deleteUser.entry.text ≠ Query.findUser.entry.text := by
    intro he
    cases Query.eq_of_text he
  simp [answer, hne]

/-- Serve the requests of a client. -/
def serve : (r : Request) → StateM Directory r.Answer
  | .begin => pure (.ok ())
  | .commit => pure (.ok ())
  | .rollback => pure ()
  | .run s => modifyGet fun d => d.answer s
  | .migrationLog => pure {}
  | .migrate _ => pure (.ok ())

/-- Run an operation of a client from start to end. -/
def perform {α : Type} (d : Directory) (x : Action α) : Except Error α × Directory :=
  (x.run.run serve).run d

theorem perform_run_bind {α : Type} (step : String) (s : Statement) (f : Reply → Action α) :
    d.perform (run step s >>= f) = match orFail step (d.answer s).1 with
      | .ok reply => (d.answer s).2.perform (f reply)
      | .error e => (.error e, (d.answer s).2) := by
  show (Prog.run serve (ExceptT.bindCont f (orFail step (d.answer s).1))).run (d.answer s).2 = _
  cases orFail step (d.answer s).1 <;> rfl

theorem perform_fetchOptional {step : String} {s : Statement} {u : Option User}
    (h : d.answer s = (.ok (found u), d)) : d.perform (fetchOptional step read s) = (.ok u, d) := by
  unfold fetchOptional
  rw [perform_run_bind, h]
  cases u with
  | none => rfl
  | some u =>
    show d.perform (liftExcept (orFail step (read (row u))) >>= fun u => pure (some u)) = _
    rw [read_row]
    rfl

theorem perform_find (id : Uuid) : d.perform (find id) = (.ok (d.withId? id), d) :=
  d.perform_fetchOptional (d.answer_find id)

theorem perform_findByName (name : String) :
    d.perform (findByName name) = (.ok (d.withName? name), d) :=
  d.perform_fetchOptional (d.answer_findByName name)

theorem perform_delete {u : User} (hu : u ∈ d.users) :
    d.perform (delete u.id) = (.ok true, d.without u.id) := by
  have hcount : 0 < d.users.countP fun v => v.id == u.id :=
    List.countP_pos_iff.mpr ⟨u, hu, by simp⟩
  have hperform : d.perform (delete u.id) =
      (.ok (decide (0 < d.users.countP fun v => v.id == u.id)), d.without u.id) := by
    show d.perform (execute "Failed to delete user" ⟨Query.deleteUser.entry.text, [.uuid u.id]⟩ >>=
      fun count => pure (decide (0 < count))) = _
    unfold execute
    rw [bind_assoc, perform_run_bind, answer_delete]
    rfl
  rw [hperform, decide_eq_true hcount]

end Directory

end Database.Users

namespace Cli

open Database.Users (Directory)
open Service (Scene)

/-! ## A desk with a table of users and a sheet to print on -/

/-- What commands on users change: the table, and what has been printed. -/
structure Desk where
  /-- The table of users. -/
  directory : Directory
  /-- The lines that have been printed. -/
  lines : List String := []

namespace Desk

/-- Print a line. -/
def print (d : Desk) (line : String) : Desk := { d with lines := d.lines ++ [line] }

/-- Answer the requests of a command that are not for a service. -/
def answer : Elsewhere Desk
  | .inl r => modifyGet fun d =>
    (((Directory.serve r).run d.directory).1,
      { d with directory := ((Directory.serve r).run d.directory).2 })
  | .inr (.print line) => modifyGet fun d => ((), d.print line)

variable (w : Scene) (d : Desk)

theorem perform_print (line : String) :
    perform answer (Cli.print line) (w, d) = (.ok (), w, d.print line) := rfl

theorem run_database {α : Type} (p : Prog Database.signature α) :
    ((Prog.right (Prog.left p)).run (Cli.answer answer)).run (w, d) =
      (((p.run Directory.serve).run d.directory).1, w,
        { d with directory := ((p.run Directory.serve).run d.directory).2 }) := by
  induction p generalizing d with
  | pure a => rfl
  | ask r k ih => exact ih _ _

/-- An operation of the database is run on the table. -/
theorem perform_database {α : Type} (x : Database.Action α) :
    perform answer (database x) (w, d) =
      ((d.directory.perform x).1, w, { d with directory := (d.directory.perform x).2 }) :=
  run_database w d x.run

end Desk

/-! ## Keys -/

/-- The user that a key is read as. -/
def Desk.named? (d : Desk) (key : String) : Option User :=
  match Uuid.ofText? (Text.trim key) with
  | some id => d.directory.withId? id
  | none => d.directory.withName? (Text.trim key)

theorem Desk.named?_of_id {d : Desk} {key : String} {id : Uuid}
    (h : Uuid.ofText? (Text.trim key) = some id) : d.named? key = d.directory.withId? id := by
  rw [Desk.named?, h]

theorem Desk.named?_of_name {d : Desk} {key : String} (h : Uuid.ofText? (Text.trim key) = none) :
    d.named? key = d.directory.withName? (Text.trim key) := by
  rw [Desk.named?, h]

section

variable (c : Context) (w : Scene) (d : Desk) (key : String)

theorem perform_findUser :
    perform Desk.answer (findUser key) (w, d) = match d.named? key with
      | some u => (.ok u, w, d)
      | none => (.error (userMissing key), w, d) := by
  have hlookup : perform Desk.answer (database (match Uuid.ofText? (Text.trim key) with
      | some id => Database.Users.find id
      | none => Database.Users.findByName (Text.trim key))) (w, d) = (.ok (d.named? key), w, d) := by
    rw [Desk.perform_database]
    cases h : Uuid.ofText? (Text.trim key) with
    | some id => simp only [Directory.perform_find, Desk.named?_of_id h]
    | none => simp only [Directory.perform_findByName, Desk.named?_of_name h]
  apply (perform_bind_ok Desk.answer hlookup _).trans
  cases d.named? key <;> rfl

/-- Both commands on a single user act on `u`: it is shown as it is, or deleted alone. -/
structure Reaches (u : User) : Prop where
  shown : perform Desk.answer (run c (.userShow key)) (w, d) =
    (.ok (), w, d.print (itemText c.format (userRow u)))
  deleted : perform Desk.answer (run c (.userDelete key true)) (w, d) =
    (.ok (), w,
      { d with directory := d.directory.without u.id }.print
        (successLine ("User '" ++ u.name ++ "' deleted")))

/-- Neither command finds a user, and nothing is printed or deleted. -/
structure Misses : Prop where
  shown : perform Desk.answer (run c (.userShow key)) (w, d) = (.error (userMissing key), w, d)
  deleted : perform Desk.answer (run c (.userDelete key true)) (w, d) =
    (.error (userMissing key), w, d)

variable {c w d key}

theorem reaches_of_named {u : User} (h : d.named? key = some u) (hu : u ∈ d.directory.users) :
    Reaches c w d key u := by
  have hfind := perform_findUser w d key
  rw [h] at hfind
  constructor
  · show perform Desk.answer (findUser key >>= fun u => printItem c (userRow u)) (w, d) = _
    rw [perform_bind_ok Desk.answer hfind]
    exact Desk.perform_print w d _
  · have hconfirm : perform Desk.answer (confirm true) (w, d) = (.ok (), w, d) := rfl
    have hdelete := Desk.perform_database w d (Database.Users.delete u.id)
    rw [Directory.perform_delete _ hu] at hdelete
    show perform Desk.answer (findUser key >>= fun u => confirm true >>= fun _ =>
      database (Database.Users.delete u.id) >>= fun gone => _) (w, d) = _
    rw [perform_bind_ok Desk.answer hfind, perform_bind_ok Desk.answer hconfirm,
      perform_bind_ok Desk.answer hdelete]
    exact Desk.perform_print w _ _

theorem misses_of_unnamed (h : d.named? key = none) : Misses c w d key := by
  have hfind := perform_findUser w d key
  rw [h] at hfind
  exact ⟨perform_bind_error Desk.answer hfind _, perform_bind_error Desk.answer hfind _⟩

/-- What keys are for: a key reaches the user that has it as identifier, failing that the one that
has it as name, and finds nobody only if there is neither. -/
structure Addresses (c : Context) (w : Scene) (d : Desk) (key : String) : Prop where
  byId : ∀ u ∈ d.directory.users, Uuid.ofText? (Text.trim key) = some u.id → Reaches c w d key u
  byName : ∀ u ∈ d.directory.users,
    (∀ v ∈ d.directory.users, Uuid.ofText? (Text.trim key) ≠ some v.id) → u.name = Text.trim key →
    Reaches c w d key u
  neither : (∀ u ∈ d.directory.users, Uuid.ofText? (Text.trim key) ≠ some u.id) →
    (∀ u ∈ d.directory.users, u.name ≠ Text.trim key) → Misses c w d key

theorem reaches_by_id {u : User} (hu : u ∈ d.directory.users)
    (hkey : Uuid.ofText? (Text.trim key) = some u.id) : Reaches c w d key u := by
  apply reaches_of_named _ hu
  rw [Desk.named?_of_id hkey]
  exact d.directory.withId?_eq_some.mpr ⟨hu, rfl⟩

theorem reaches_by_name {u : User} (hu : u ∈ d.directory.users)
    (hkey : Uuid.ofText? (Text.trim key) = none) (hname : u.name = Text.trim key) :
    Reaches c w d key u := by
  apply reaches_of_named _ hu
  rw [Desk.named?_of_name hkey]
  exact d.directory.withName?_eq_some.mpr ⟨hu, hname⟩

theorem misses_id {id : Uuid} (hkey : Uuid.ofText? (Text.trim key) = some id)
    (hid : ∀ u ∈ d.directory.users, u.id ≠ id) : Misses c w d key := by
  apply misses_of_unnamed
  rw [Desk.named?_of_id hkey]
  exact d.directory.withId?_eq_none.mpr hid

theorem misses_name (hkey : Uuid.ofText? (Text.trim key) = none)
    (hname : ∀ u ∈ d.directory.users, u.name ≠ Text.trim key) : Misses c w d key := by
  apply misses_of_unnamed
  rw [Desk.named?_of_name hkey]
  exact d.directory.withName?_eq_none.mpr hname

theorem addresses_of_name (hkey : Uuid.ofText? (Text.trim key) = none) : Addresses c w d key where
  byId := by
    intro u _ h
    rw [hkey] at h
    cases h
  byName := fun u hu _ hname => reaches_by_name hu hkey hname
  neither := fun _ hname => misses_name hkey hname

theorem addresses_of_id {u : User} (hu : u ∈ d.directory.users)
    (hkey : Uuid.ofText? (Text.trim key) = some u.id) : Addresses c w d key where
  byId := fun _ hv h => reaches_by_id hv h
  byName := fun _ _ hid _ => absurd hkey (hid u hu)
  neither := fun hid _ => absurd hkey (hid u hu)

/-- Whatever the table of users and the key: unless the key can be read as an identifier that no
user has, both commands act on the user that has it as identifier, failing that on the one that has
it as name, and find nobody only if there is neither. A key that can be read so finds nobody,
whatever the names are. So every user whose name has no blanks around it and does not look like an
identifier is shown and deleted by its name. -/
theorem users_reached (c : Context) (w : Scene) (d : Desk) :
    (∀ key, (∀ id, Uuid.ofText? (Text.trim key) = some id → ∃ u ∈ d.directory.users, u.id = id) →
      Addresses c w d key) ∧
    (∀ key id, Uuid.ofText? (Text.trim key) = some id → (∀ u ∈ d.directory.users, u.id ≠ id) →
      Misses c w d key) ∧
    ∀ u ∈ d.directory.users, Text.trim u.name = u.name → Uuid.ofText? u.name = none →
      Reaches c w d u.name u := by
  refine ⟨fun key hheld => ?_, fun key id => misses_id, fun u hu htrim hname => ?_⟩
  · cases hkey : Uuid.ofText? (Text.trim key) with
    | none => exact addresses_of_name hkey
    | some id =>
      obtain ⟨u, hu, rfl⟩ := hheld id hkey
      exact addresses_of_id hu hkey
  · have hkey : Uuid.ofText? (Text.trim u.name) = none := by rw [htrim, hname]
    exact reaches_by_name hu hkey htrim.symm

end

/-! ## A name that looks like an identifier -/

/-- A user whose name consists of 32 hexadecimal digits. -/
def hexNamed : User :=
  ⟨⟨1⟩, "0123456789abcdef0123456789abcdef", none, ⟨0, false⟩, ⟨0, false⟩⟩

/-- A user whose name could not be an identifier. -/
def plainNamed : User := ⟨⟨2⟩, "ada", none, ⟨0, false⟩, ⟨0, false⟩⟩

/-- A desk with two users, of which one has a name that looks like an identifier. -/
def twoUsers : Desk := ⟨⟨[hexNamed, plainNamed], by decide, by decide⟩, []⟩

/-- Services that have nothing stored and nothing drawn, which commands on users do not ask. -/
def bareScene : Scene := ⟨.empty, ⟨⟨0, false⟩, fun _ => [], 0⟩⟩

/-- Both users are reached by identifier or by name, and an identifier that no user has reaches
nobody. -/
theorem users_reached_twoUsers :
    Reaches ⟨{}, {}, .table⟩ bareScene twoUsers "00000000-0000-0000-0000-000000000001" hexNamed ∧
    Reaches ⟨{}, {}, .json⟩ bareScene twoUsers " ada " plainNamed ∧
    Reaches ⟨{}, {}, .table⟩ bareScene twoUsers plainNamed.name plainNamed ∧
    Misses ⟨{}, {}, .table⟩ bareScene twoUsers "00000000000000000000000000000003" := by
  have hhex : hexNamed ∈ twoUsers.directory.users := by simp [twoUsers]
  have hplain : plainNamed ∈ twoUsers.directory.users := by simp [twoUsers]
  have hid : Uuid.ofText? (Text.trim "00000000-0000-0000-0000-000000000001") = some ⟨1⟩ := by
    decide +kernel
  have hname : Uuid.ofText? (Text.trim " ada ") = none := by decide +kernel
  refine ⟨?_, ?_, ?_, ?_⟩
  · have hheld : ∀ id, Uuid.ofText? (Text.trim "00000000-0000-0000-0000-000000000001") = some id →
        ∃ u ∈ twoUsers.directory.users, u.id = id := by
      intro id h
      exact ⟨hexNamed, hhex, Option.some.inj (hid.symm.trans h)⟩
    exact ((users_reached _ bareScene twoUsers).1 _ hheld).byId hexNamed hhex hid
  · have hheld : ∀ id, Uuid.ofText? (Text.trim " ada ") = some id →
        ∃ u ∈ twoUsers.directory.users, u.id = id := by
      intro id h
      rw [hname] at h
      cases h
    apply ((users_reached _ bareScene twoUsers).1 _ hheld).byName plainNamed hplain
    · intro v _ h
      rw [hname] at h
      cases h
    · decide
  · exact (users_reached _ bareScene twoUsers).2.2 plainNamed hplain (by decide) (by decide +kernel)
  · exact (users_reached _ bareScene twoUsers).2.1 _ ⟨3⟩ (by decide +kernel) (by decide)

theorem ofText?_hexNamed :
    Uuid.ofText? (Text.trim hexNamed.name) = some ⟨0x0123456789abcdef0123456789abcdef⟩ := by
  decide +kernel

/-- The user cannot be shown or deleted by its own name, although no user has it as identifier. -/
theorem names_shadowed :
    hexNamed ∈ twoUsers.directory.users ∧
    Misses ⟨{}, {}, .table⟩ bareScene twoUsers hexNamed.name ∧
    ¬ Addresses ⟨{}, {}, .table⟩ bareScene twoUsers hexNamed.name := by
  have hhex : hexNamed ∈ twoUsers.directory.users := by simp [twoUsers]
  have hmiss : Misses ⟨{}, {}, .table⟩ bareScene twoUsers hexNamed.name :=
    misses_id ofText?_hexNamed (by decide)
  refine ⟨hhex, hmiss, fun haddress => ?_⟩
  have hreach : Reaches ⟨{}, {}, .table⟩ bareScene twoUsers hexNamed.name hexNamed := by
    apply haddress.byName hexNamed hhex
    · rw [ofText?_hexNamed]
      decide
    · decide
  -- one command cannot both find the user and find nobody
  have hresult := congrArg Prod.fst (hmiss.shown.symm.trans hreach.shown)
  cases hresult

end Cli

end SessionKeeper
