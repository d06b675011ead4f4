import Mathlib.Data.List.Nodup
import SessionKeeper.Proofs.Database.Server
import SessionKeeper.Proofs.Database.Statements
import SessionKeeper.Proofs.Store.Structure

/-!
# The tables of a store

A database keeps instants in whole microseconds; a store in which all instants are whole
(`Memory.Whole`) is read back as it was. The rows of a store as a database keeps them are
`Tables.of`, and here is what the statements of issues and exchanges come to on them: each finds the
rows that the store finds, and changes the tables to those of the store after the corresponding
change (`run_sessionOf` to `run_insertToken`). A token is entered unless its hash is stored, if it
is otherwise `Admissible`.
-/

namespace SessionKeeper

/-! ## Whole microseconds -/

/-- The session with its instants in whole microseconds. -/
def Session.kept (s : Session) : Session :=
  { s with
    createdAt := s.createdAt.toMicros
    lastUsedAt := s.lastUsedAt.map Instant.toMicros
    revokedAt := s.revokedAt.map Instant.toMicros }

@[simp] theorem Session.isRevoked_kept (s : Session) : s.kept.isRevoked = s.isRevoked := by
  simp [kept, isRevoked]

/-- The token with its instants in whole microseconds. -/
def Token.kept (t : Token) : Token :=
  { t with
    issuedAt := t.issuedAt.toMicros
    expiresAt := t.expiresAt.toMicros
    usedAt := t.usedAt.map Instant.toMicros
    revokedAt := t.revokedAt.map Instant.toMicros }

/-- An instant that a database keeps as it is: a whole number of microseconds, and not in a leap
second. -/
def Instant.Whole (t : Instant) : Prop := t.toMicros = t

/-- A span of whole microseconds. -/
def Span.Whole (s : Span) : Prop := 1000 ∣ s.nanos

theorem Instant.whole_iff {t : Instant} :
    t.Whole ↔ t.leap = false ∧ 1000 ∣ t.nanos - databaseEpoch := by
  obtain ⟨nanos, leap⟩ := t
  simp only [Whole, toMicros, Instant.mk.injEq]
  constructor
  · rintro ⟨hnanos, hleap⟩
    exact ⟨hleap.symm, ⟨(nanos - databaseEpoch).tdiv 1000, by omega⟩⟩
  · rintro ⟨hleap, hdvd⟩
    rw [Int.tdiv_mul_cancel hdvd]
    exact ⟨by omega, hleap.symm⟩

theorem Instant.Whole.add? {t u : Instant} {s : Span} (ht : t.Whole) (hs : s.Whole)
    (h : t.add? s = some u) : u.Whole := by
  obtain ⟨hleap, hdvd⟩ := whole_iff.mp ht
  obtain ⟨rfl, -⟩ := add?_eq_some.mp h
  rw [plus_of_not_leap hleap]
  refine whole_iff.mpr ⟨rfl, ?_⟩
  show 1000 ∣ t.nanos + s.nanos - databaseEpoch
  rw [show t.nanos + s.nanos - databaseEpoch = t.nanos - databaseEpoch + s.nanos by omega]
  exact Int.dvd_add hdvd hs

theorem Session.kept_touch {s : Session} (hs : s.kept = s) {now : Instant} (hnow : now.Whole) :
    Session.kept { s with lastUsedAt := some now } = { s with lastUsedAt := some now } := by
  obtain ⟨id, user, thumbprint, createdAt, lastUsedAt, revokedAt⟩ := s
  simp only [Session.kept, Session.mk.injEq, true_and] at hs ⊢
  obtain ⟨hcreated, -, hrevoked⟩ := hs
  exact ⟨hcreated, congrArg some hnow, hrevoked⟩

theorem Token.kept_consume {t : Token} (ht : t.kept = t) {now : Instant} (hnow : now.Whole)
    (next : Uuid) : (t.consume now next).kept = t.consume now next := by
  obtain ⟨id, session, hash, issuedAt, expiresAt, usedAt, revokedAt, replacedBy⟩ := t
  simp only [Token.kept, Token.consume, Token.mk.injEq, true_and, and_true] at ht ⊢
  obtain ⟨hissued, hexpires, -, hrevoked⟩ := ht
  exact ⟨hissued, hexpires, congrArg some hnow, hrevoked⟩

theorem Token.kept_fresh {id session : Uuid} {hash : Hash} {now : Instant} {lifetime : Span}
    {t : Token} (h : Token.fresh id session hash now lifetime = .ok t) (hnow : now.Whole)
    (hspan : lifetime.Whole) : t.kept = t := by
  obtain ⟨expiresAt, hadd, rfl⟩ := fresh_eq_ok h
  have hend : expiresAt.toMicros = expiresAt := hnow.add? hspan hadd
  have hstart : now.toMicros = now := hnow
  simp [Token.kept, hend, hstart]

/-- All instants in a store are in whole microseconds. -/
structure Memory.Whole (m : Memory) : Prop where
  sessions : ∀ s ∈ m.sessions, s.kept = s
  tokens : ∀ t ∈ m.tokens, t.kept = t

/-! ## Replacements -/

/-- Every token that another names as its replacement is stored. -/
def Memory.HasReplacements (m : Memory) : Prop :=
  ∀ t ∈ m.tokens, ∀ next, t.replacedBy = some next → ∃ u ∈ m.tokens, u.id = next

theorem Memory.Sound.hasReplacements {m : Memory} (hm : m.Sound) : m.HasReplacements := by
  intro t ht next hnext
  obtain ⟨u, hu, hid, -⟩ := hm.chained.linked.target ht hnext
  exact ⟨u, hu, hid⟩

theorem Memory.HasReplacements.modifyToken {m : Memory} (h : m.HasReplacements) {id : Uuid}
    {f : Token → Token} (hid : ∀ t, (f t).id = t.id)
    (hnext : ∀ t, (f t).replacedBy = t.replacedBy) :
    (m.modifyToken id f).HasReplacements := by
  have hsame : ∀ t : Token, (if t.id = id then f t else t).id = t.id ∧
      (if t.id = id then f t else t).replacedBy = t.replacedBy := by
    intro t
    split
    · exact ⟨hid t, hnext t⟩
    · exact ⟨rfl, rfl⟩
  intro u hu next hlink
  obtain ⟨t, ht, rfl⟩ := Memory.mem_modifyToken.mp hu
  rw [(hsame t).2] at hlink
  obtain ⟨v, hv, rfl⟩ := h t ht next hlink
  exact ⟨_, Memory.mem_modifyToken.mpr ⟨v, hv, rfl⟩, (hsame v).1⟩

theorem Memory.HasReplacements.enter {m : Memory} (h : m.HasReplacements) {t : Token}
    (hnew : ∀ u ∈ m.tokens, u.id ≠ t.id) (hnext : t.replacedBy = none) :
    (m.enter t).HasReplacements := by
  rw [Memory.HasReplacements, Memory.enter_tokens_of_new hnew]
  intro u hu next hlink
  rcases List.mem_append.mp hu with hu | hu
  · obtain ⟨v, hv, hid⟩ := h u hu next hlink
    exact ⟨v, List.mem_append_left _ hv, hid⟩
  · rw [List.mem_singleton.mp hu, hnext] at hlink
    cases hlink

namespace Database

/-! ## Rows -/

/-- A session as a row. -/
def sessionRow (s : Session) : Row :=
  [("id", .uuid s.id), ("user_id", .uuid s.user), ("dpop_jkt", .ofOption .text s.thumbprint),
    ("created_at", .ofInstant s.createdAt), ("last_used_at", .ofOption .ofInstant s.lastUsedAt),
    ("revoked_at", .ofOption .ofInstant s.revokedAt)]

/-- A token as a row. -/
def tokenRow (t : Token) : Row :=
  [("id", .uuid t.id), ("session_id", .uuid t.session), ("token_hash", .bytes t.hash),
    ("issued_at", .ofInstant t.issuedAt), ("expires_at", .ofInstant t.expiresAt),
    ("used_at", .ofOption .ofInstant t.usedAt), ("revoked_at", .ofOption .ofInstant t.revokedAt),
    ("replaced_by", .ofOption .uuid t.replacedBy)]

theorem read_sessionRow (s : Session) : Sessions.read (sessionRow s) = .ok s.kept := by
  obtain ⟨id, user, thumbprint, createdAt, lastUsedAt, revokedAt⟩ := s
  cases thumbprint <;> cases lastUsedAt <;> cases revokedAt <;> rfl

theorem read_tokenRow (t : Token) : Tokens.read (tokenRow t) = .ok t.kept := by
  obtain ⟨id, session, hash, issuedAt, expiresAt, usedAt, revokedAt, replacedBy⟩ := t
  cases usedAt <;> cases revokedAt <;> cases replacedBy <;> rfl

/-- The tables of a store. -/
def Tables.of (m : Memory) : Tables := ⟨m.sessions.map sessionRow, m.tokens.map tokenRow⟩

section

variable {α : Type} {d : Tables} {table : Table} {as : List α} {row : α → Row}
  {parameters : List Value} {conditions : List Condition} {changes : List (String × Source)}
  {p : α → Bool} {f : α → α}

theorem filter_rows (hrows : d.rows table = as.map row)
    (hp : ∀ a, meets parameters conditions (row a) = p a) :
    (d.rows table).filter (meets parameters conditions) = (as.filter p).map row := by
  rw [hrows, List.filter_map]
  exact congrArg (List.map row) (List.filter_congr fun a _ => hp a)

theorem exec_select (hrows : d.rows table = as.map row)
    (hp : ∀ a, meets parameters conditions (row a) = p a) (column : Option String) :
    d.exec parameters (.select column table conditions) =
      .ok (⟨(as.filter p).map fun a => project (row a) column, (as.filter p).length⟩, d) := by
  simp only [Tables.exec, filter_rows hrows hp, List.map_map, List.length_map]
  rfl

theorem exec_update (hrows : d.rows table = as.map row)
    (hp : ∀ a, meets parameters conditions (row a) = p a)
    (hf : ∀ a, p a = true → change parameters changes (row a) = row (f a)) (returning : Bool) :
    d.exec parameters (.update table changes conditions returning) =
      .ok (⟨if returning then (as.filter p).map fun a => row (f a) else [], (as.filter p).length⟩,
        d.modify (fun _ => (as.map fun a => if p a then f a else a).map row) table) := by
  have hreply : ((as.filter p).map row).map (change parameters changes) =
      (as.filter p).map fun a => row (f a) := by
    rw [List.map_map]
    exact List.map_congr_left fun a ha => hf a (List.mem_filter.mp ha).2
  have hchanged : (as.map row).map (fun r =>
      if meets parameters conditions r then change parameters changes r else r) =
      (as.map fun a => if p a then f a else a).map row := by
    rw [List.map_map, List.map_map]
    refine List.map_congr_left fun a _ => ?_
    simp only [Function.comp_apply, hp]
    split
    · exact hf a ‹_›
    · rfl
  -- `hrows` is about one table, and `modify` looks at no other
  have hmodify : ∀ g : List Row → List Row,
      d.modify g table = d.modify (fun _ => g (as.map row)) table := by
    intro g
    rw [← hrows]
    cases table <;> rfl
  simp only [Tables.exec, filter_rows hrows hp, hreply, List.length_map]
  rw [hmodify, hchanged]

end

variable {m : Memory}

/-! ## What is found -/

theorem filter_eq_singleton {α : Type} [DecidableEq α] {rows : List α} (hn : rows.Nodup) {a : α}
    (ha : a ∈ rows) {p : α → Bool} (hp : ∀ x ∈ rows, p x = true ↔ x = a) :
    rows.filter p = [a] := by
  have heq : rows.filter p = rows.filter (· == a) :=
    List.filter_congr fun x hx => by rw [Bool.eq_iff_iff, hp x hx, beq_iff_eq]
  rw [heq, List.filter_beq, List.count_eq_one_of_mem hn ha, List.replicate_one]

theorem filter_session (ho : m.Orderly) (id : Uuid) :
    (m.sessions.filter fun s => s.id == id) = (m.session? id).toList := by
  cases hs : m.session? id with
  | none =>
    refine List.filter_eq_nil_iff.mpr fun s hmem he => ?_
    rw [ho.session?_eq_some.mpr ⟨hmem, by simpa using he⟩] at hs
    cases hs
  | some s =>
    obtain ⟨hmem, hid⟩ := ho.session?_eq_some.mp hs
    refine filter_eq_singleton ho.sessionIds.of_map hmem fun x hx => ?_
    rw [beq_iff_eq]
    constructor
    · intro he
      exact eq_of_key_eq ho.sessionIds hx hmem (he.trans hid.symm)
    · rintro rfl
      exact hid

theorem filter_token (ho : m.Orderly) {t : Token} (ht : t ∈ m.tokens) :
    (m.tokens.filter fun u => u.id == t.id) = [t] := by
  refine filter_eq_singleton ho.tokenIds.of_map ht fun u hu => ?_
  rw [beq_iff_eq]
  constructor
  · exact ho.token_eq hu ht
  · rintro rfl
    rfl

theorem filter_hash (hm : m.Sound) (hash : Hash) :
    (m.tokens.filter fun t => t.hash == hash) = (m.tokenByHash? hash).toList := by
  have hfound : ∀ {t : Token}, m.tokenByHash? hash = some t ↔ t ∈ m.tokens ∧ t.hash = hash :=
    hm.indexed.tokenByHash?_eq_some hm.orderly
  cases ht : m.tokenByHash? hash with
  | none =>
    refine List.filter_eq_nil_iff.mpr fun t hmem he => ?_
    rw [hfound.mpr ⟨hmem, by simpa using he⟩] at ht
    cases ht
  | some t =>
    obtain ⟨hmem, hhash⟩ := hfound.mp ht
    refine filter_eq_singleton hm.orderly.tokenIds.of_map hmem fun u hu => ?_
    rw [beq_iff_eq]
    constructor
    · intro he
      exact Option.some.inj ((hfound.mpr ⟨hu, he⟩).symm.trans ht)
    · rintro rfl
      exact hhash

theorem filter_current (ho : m.Orderly) (session : Uuid) :
    (m.tokens.filter fun t => t.session == session && t.isCurrent) =
      (m.currentOf? session).toList := by
  cases hc : m.currentOf? session with
  | none =>
    refine List.filter_eq_nil_iff.mpr fun t ht he => ?_
    simp only [Bool.and_eq_true, beq_iff_eq] at he
    rw [Memory.currentOf?_eq_none.mp hc t ht he.1] at he
    cases he.2
  | some c =>
    obtain ⟨hcm, hcs, hcc⟩ := Memory.mem_of_currentOf? hc
    refine filter_eq_singleton ho.tokenIds.of_map hcm fun t ht => ?_
    simp only [Bool.and_eq_true, beq_iff_eq]
    constructor
    · rintro ⟨hts, htc⟩
      exact ho.token_eq ht hcm (ho.oneCurrent t ht c hcm htc hcc (hts.trans hcs.symm))
    · rintro rfl
      exact ⟨hcs, hcc⟩

/-! ## Statements -/

theorem meets_hash (hash : Hash) (t : Token) :
    meets [.bytes hash] [.equals "token_hash" 1] (tokenRow t) = (t.hash == hash) := by
  rw [Bool.eq_iff_iff]
  simp [meets, Condition.holds, parameter, tokenRow, List.lookup_cons]

theorem meets_session (id : Uuid) (parameters : List Value) (s : Session) :
    meets (.uuid id :: parameters) [.equals "id" 1] (sessionRow s) = (s.id == id) := by
  rw [Bool.eq_iff_iff]
  simp [meets, Condition.holds, parameter, sessionRow, List.lookup_cons]

theorem meets_token (id : Uuid) (parameters : List Value) (t : Token) :
    meets (.uuid id :: parameters) [.equals "id" 1] (tokenRow t) = (t.id == id) := by
  rw [Bool.eq_iff_iff]
  simp [meets, Condition.holds, parameter, tokenRow, List.lookup_cons]

theorem meets_current (t : Token) :
    meets [] [.isNull "revoked_at", .isNull "replaced_by"] (tokenRow t) = t.isCurrent := by
  rw [Bool.eq_iff_iff]
  cases hr : t.revokedAt <;> cases hb : t.replacedBy <;>
    simp [meets, Condition.holds, tokenRow, List.lookup_cons, Value.ofOption, Value.ofInstant,
      Token.isCurrent, hr, hb]

theorem run_sessionOf (hm : m.Sound) (hash : Hash) :
    (Tables.of m).run (.sessionOf hash) =
      .ok (⟨(m.tokenByHash? hash).toList.map fun t => [("session_id", .uuid t.session)],
        (m.tokenByHash? hash).toList.length⟩, .of m) := by
  rw [← filter_hash hm]
  exact (Tables.run_eq (Statement.command?_sessionOf hash)).trans
    (exec_select rfl (meets_hash hash) (some "session_id"))

theorem run_lockToken (hm : m.Sound) (hash : Hash) :
    (Tables.of m).run (.lockToken hash) =
      .ok (⟨(m.tokenByHash? hash).toList.map tokenRow,
        (m.tokenByHash? hash).toList.length⟩, .of m) := by
  rw [← filter_hash hm]
  exact (Tables.run_eq (Statement.command?_lockToken hash)).trans
    (exec_select rfl (meets_hash hash) none)

theorem run_lockSession (ho : m.Orderly) (id : Uuid) :
    (Tables.of m).run (.lockSession id) =
      .ok (⟨(m.session? id).toList.map sessionRow, (m.session? id).toList.length⟩, .of m) := by
  rw [← filter_session ho]
  exact (Tables.run_eq (Statement.command?_lockSession id)).trans
    (exec_select rfl (meets_session id []) none)

theorem run_lockCurrent (ho : m.Orderly) (session : Uuid) :
    (Tables.of m).run (.lockCurrent session) =
      .ok (⟨(m.currentOf? session).toList.map fun t => [("id", .uuid t.id)],
        (m.currentOf? session).toList.length⟩, .of m) := by
  have hp : ∀ t : Token, meets [.uuid session]
      [.equals "session_id" 1, .isNull "revoked_at", .isNull "replaced_by"] (tokenRow t) =
      (t.session == session && t.isCurrent) := by
    intro t
    rw [Bool.eq_iff_iff]
    cases hr : t.revokedAt <;> cases hb : t.replacedBy <;>
      simp [meets, Condition.holds, parameter, tokenRow, List.lookup_cons, Value.ofOption,
        Value.ofInstant, Token.isCurrent, hr, hb]
  rw [← filter_current ho]
  exact (Tables.run_eq (Statement.command?_lockCurrent session)).trans
    (exec_select rfl hp (some "id"))

theorem run_supersede (ho : m.Orderly) {t : Token} (ht : t ∈ m.tokens) (now : Instant) :
    (Tables.of m).run (.supersede t.id now) =
      .ok (⟨[], 1⟩, .of (m.modifyToken t.id fun c => { c with revokedAt := some now })) := by
  have hf : ∀ u : Token, (u.id == t.id) = true →
      change [.uuid t.id, .ofInstant now] [("revoked_at", .parameter 2)] (tokenRow u) =
        tokenRow { u with revokedAt := some now } := by
    intro u _
    simp [change, tokenRow, List.lookup_cons, Source.value, parameter, Value.ofOption]
  have hrun : (Tables.of m).run (.supersede t.id now) =
      .ok (⟨[], (m.tokens.filter fun u => u.id == t.id).length⟩,
        .of (m.modifyToken t.id fun c => { c with revokedAt := some now })) :=
    (Tables.run_eq (Statement.command?_supersede t.id now)).trans
      (exec_update rfl (meets_token t.id _) hf false)
  rw [hrun, filter_token ho ht]
  rfl

theorem run_touchSession (ho : m.Orderly) (id : Uuid) (now : Instant) :
    (Tables.of m).run (.touchSession id now) =
      .ok (⟨(m.session? id).toList.map fun s => sessionRow { s with lastUsedAt := some now },
        (m.session? id).toList.length⟩,
        .of (m.modifySession id fun s => { s with lastUsedAt := some now })) := by
  have hf : ∀ s : Session, (s.id == id) = true →
      change [.uuid id, .ofInstant now] [("last_used_at", .parameter 2)] (sessionRow s) =
        sessionRow { s with lastUsedAt := some now } := by
    intro s _
    simp [change, sessionRow, List.lookup_cons, Source.value, parameter, Value.ofOption]
  rw [← filter_session ho]
  exact (Tables.run_eq (Statement.command?_touchSession id now)).trans
    (exec_update rfl (meets_session id _) hf true)

theorem run_revokeSession (ho : m.Orderly) (id : Uuid) (now : Instant) :
    (Tables.of m).run (.revokeSession id now) =
      .ok (⟨[], (m.session? id).toList.length⟩, .of (m.modifySession id (·.revoke now))) := by
  have hf : ∀ s : Session, (s.id == id) = true →
      change [.uuid id, .ofInstant now] [("revoked_at", .coalesce 2)] (sessionRow s) =
        sessionRow (s.revoke now) := by
    intro s _
    cases hr : s.revokedAt <;>
      simp [change, sessionRow, List.lookup_cons, Source.value, parameter, Value.ofOption,
        Session.revoke, hr, Value.ofInstant]
  rw [← filter_session ho]
  exact (Tables.run_eq (Statement.command?_revokeSession id now)).trans
    (exec_update rfl (meets_session id _) hf false)

theorem run_revokeTokens (session : Uuid) (now : Instant) :
    ∃ n, (Tables.of m).run (.revokeTokens session now) =
      .ok (⟨[], n⟩, .of { m with tokens := m.tokens.map fun t =>
        if t.session == session then t.revoke now else t }) := by
  have hp : ∀ t : Token, meets [.uuid session, .ofInstant now]
      [.equals "session_id" 1, .isNull "revoked_at"] (tokenRow t) =
      (t.session == session && t.revokedAt.isNone) := by
    intro t
    rw [Bool.eq_iff_iff]
    cases hr : t.revokedAt <;>
      simp [meets, Condition.holds, parameter, tokenRow, List.lookup_cons, Value.ofOption, hr,
        Value.ofInstant]
  have hf : ∀ t : Token, (t.session == session && t.revokedAt.isNone) = true →
      change [.uuid session, .ofInstant now] [("revoked_at", .parameter 2)] (tokenRow t) =
        tokenRow { t with revokedAt := some now } := by
    intro t _
    simp [change, tokenRow, List.lookup_cons, Source.value, parameter, Value.ofOption]
  -- revoking a revoked token changes nothing, so it does not matter that it is left out
  have hrows : (m.tokens.map fun t => if t.session == session then t.revoke now else t) =
      m.tokens.map fun t => if t.session == session && t.revokedAt.isNone then
        { t with revokedAt := some now } else t := by
    refine List.map_congr_left fun t _ => ?_
    by_cases hs : t.session = session
    · simp [hs, Token.revoke_eq]
    · simp [hs]
  rw [hrows]
  exact ⟨_, (Tables.run_eq (Statement.command?_revokeTokens session now)).trans
    (exec_update rfl hp hf false)⟩

theorem run_consume (ho : m.Orderly) {t : Token} (ht : t ∈ m.tokens) (next : Uuid) (now : Instant) :
    (Tables.of m).run (.consume t.id next now) =
      .ok (⟨[tokenRow (t.consume now next)], 1⟩,
        .of (m.modifyToken t.id (·.consume now next))) := by
  have hf : ∀ u : Token, (u.id == t.id) = true →
      change [.uuid t.id, .ofInstant now, .uuid next]
        [("used_at", .parameter 2), ("replaced_by", .parameter 3)] (tokenRow u) =
        tokenRow (u.consume now next) := by
    intro u _
    simp [change, tokenRow, List.lookup_cons, Source.value, parameter, Value.ofOption,
      Token.consume]
  have hrun : (Tables.of m).run (.consume t.id next now) =
      .ok (⟨(m.tokens.filter fun u => u.id == t.id).map fun u => tokenRow (u.consume now next),
        (m.tokens.filter fun u => u.id == t.id).length⟩,
        .of (m.modifyToken t.id (·.consume now next))) :=
    (Tables.run_eq (Statement.command?_consume t.id now next)).trans
      (exec_update rfl (meets_token t.id _) hf true)
  rw [hrun, filter_token ho ht]
  rfl

/-! ## Entering a token -/

theorem hasHash_eq_any (h : m.Indexed) (hash : Hash) :
    m.hasHash hash = m.tokens.any fun t => t.hash == hash := by
  rw [Bool.eq_iff_iff, Memory.hasHash, Option.isSome_iff_exists]
  simp only [h.idOfHash?_eq_some, List.any_eq_true, beq_iff_eq]
  constructor
  · rintro ⟨id, t, ht, hhash, -⟩
    exact ⟨t, ht, hhash⟩
  · rintro ⟨t, ht, hhash⟩
    exact ⟨t.id, t, ht, hhash, rfl⟩

/-- A token that its table admits, unless its hash is stored. -/
structure Admissible (m : Memory) (t : Token) : Prop where
  new : ∀ u ∈ m.tokens, u.id ≠ t.id
  length : t.hash.length = 32
  lives : t.issuedAt.toMicros < t.expiresAt.toMicros
  unreplaced : t.replacedBy = none
  alone : m.currentOf? t.session = none
  session : ∃ s ∈ m.sessions, s.id = t.session

/-- The rule that no two tokens have one hash. -/
def hashRule : Rule := .unique Failure.hashIsUnique ["token_hash"] []

theorem observed_hashRule (h : m.Indexed) (t : Token) :
    hashRule.observed (.of m) (tokenRow t) = !m.hasHash t.hash := by
  rw [hasHash_eq_any h]
  simp only [hashRule, Rule.observed, Tables.of, meets, tokenRow, List.any_map, List.all_cons,
    List.all_nil, Bool.true_and, Bool.and_true]
  refine congrArg (!List.any m.tokens ·) (funext fun u => ?_)
  rw [Bool.eq_iff_iff]
  simp [tokenRow, List.lookup_cons]

theorem Admissible.broken? {t : Token} (h : Admissible m t) (hi : m.Indexed) :
    (Tables.of m).broken? (tokenRow t) = if m.hasHash t.hash then some hashRule else none := by
  -- every rule but that of the hashes is observed
  have hother : replacesAnother (tokenRow t) = true := by
    simp [replacesAnother, tokenRow, List.lookup_cons, h.unreplaced, Value.ofOption]
  have hlives : expiresAfterIssue (tokenRow t) = true := by
    simp [expiresAfterIssue, tokenRow, List.lookup_cons, Value.ofInstant, h.lives]
  have hlength : hashHasLength (tokenRow t) = true := by
    simp [hashHasLength, tokenRow, List.lookup_cons, h.length]
  have hid : (Rule.unique "refresh_tokens_pkey" ["id"] []).observed (.of m) (tokenRow t) =
      true := by
    simpa [Rule.observed, Tables.of, meets, tokenRow, List.lookup_cons] using h.new
  have hcurrent : (Rule.unique Failure.oneCurrentPerSession ["session_id"]
      [.isNull "revoked_at", .isNull "replaced_by"]).observed (.of m) (tokenRow t) = true := by
    have halone := Memory.currentOf?_eq_none.mp h.alone
    have hlookup : ∀ u : Token, (tokenRow u).lookup "session_id" = some (.uuid u.session) :=
      fun _ => rfl
    have hclash : ∀ u ∈ m.tokens, u.isCurrent = true → u.session ≠ t.session := by
      intro u hu hc hs
      rw [halone u hu hs] at hc
      cases hc
    simpa [Rule.observed, Tables.of, meets_current, hlookup] using .inr hclash
  have hsession : (Rule.reference "refresh_tokens_session_id_fkey" "session_id" .sessions).observed
      (.of m) (tokenRow t) = true := by
    simpa [Rule.observed, Tables.of, Tables.rows, tokenRow, sessionRow, List.lookup_cons]
      using h.session
  have hchecks : ∀ name holds, (Rule.check name holds).observed (.of m) (tokenRow t) =
      holds (tokenRow t) := fun _ _ => rfl
  have hhash := observed_hashRule hi t
  unfold hashRule at hhash
  simp only [Tables.broken?, tokenRules, List.find?_cons, hchecks, hother, hlives, hlength, hid,
    hcurrent, hsession, hhash]
  cases m.hasHash t.hash <;> rfl

/-- A row is put behind the others. -/
theorem of_enter {t : Token} (h : ∀ u ∈ m.tokens, u.id ≠ t.id) :
    Tables.of (m.enter t) =
      { Tables.of m with tokens := (Tables.of m).tokens ++ [tokenRow t] } := by
  simp [Tables.of, Memory.enter_tokens_of_new h]

theorem run_insertToken {t : Token} (h : Admissible m t) (hi : m.Indexed) :
    (Tables.of m).run (.insertToken t) =
      if m.hasHash t.hash then .error hashRule.failure
      else .ok (⟨[tokenRow t], 1⟩, .of (m.enter t)) := by
  have hrow : (Schema.tokens.map Prod.fst).zip (Statement.insertToken t).parameters = tokenRow t :=
    rfl
  rw [Tables.run_eq (Statement.command?_insertToken t)]
  simp only [Tables.exec, hrow, h.broken? hi, of_enter h.new]
  cases m.hasHash t.hash <;> rfl

end Database
end SessionKeeper
