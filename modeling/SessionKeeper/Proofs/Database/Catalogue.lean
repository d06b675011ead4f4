import Mathlib.Data.List.Nodup
import SessionKeeper.Database.Posts
import SessionKeeper.Database.Schema
import SessionKeeper.Database.Store
import SessionKeeper.Database.Users

/-!
# What is asked of a database, and what is expected of the answer

The statements of the client (`Query`), each with the step that an error of it speaks of and with
the rows that are expected. A row that has the columns of its table, and in them what they are to
hold, can be read, so reading fails only where a database gives rows that are not expected.
-/

namespace SessionKeeper.Database

/-! ## Rows -/

/-- A value is of a kind. Nothing is of no kind. -/
def Value.HasKind : Value → Kind → Prop
  | .uuid _, .uuid | .text _, .text | .int _, .int | .bool _, .bool | .instant _, .instant
  | .bytes _, .bytes => True
  | _, _ => False

/-- The columns that may hold nothing. -/
def optionalColumns : List String :=
  ["dpop_jkt", "last_used_at", "revoked_at", "used_at", "replaced_by", "imageUrl"]

/-- The row has a value of its kind in the column, or nothing where that is allowed. -/
def Row.Holds (row : Row) (c : Column) : Prop :=
  ∃ v, row.lookup c.1 = some v ∧ (v.HasKind c.2 ∨ v = .null ∧ c.1 ∈ optionalColumns)

/-- What rows consist of: columns with their names, or one value. -/
inductive Shape where
  | columns (columns : List Column)
  | scalar (kind : Kind)

/-- The row has all columns of a shape, or starts with its one value. -/
def Shape.Fits (row : Row) : Shape → Prop
  | columns cs => ∀ c ∈ cs, row.Holds c
  | scalar kind => ∃ name v rest, row = (name, v) :: rest ∧ v.HasKind kind

/-- The rows of a shape can be read. -/
def Shape.ReadBy {α : Type} (shape : Shape) (reader : Reader α) : Prop :=
  ∀ row, shape.Fits row → ∃ a, reader row = .ok a

/-- The values of a kind can be read. -/
def Kind.ReadBy {α : Type} (kind : Kind) (of? : Value → Option α) : Prop :=
  ∀ v : Value, v.HasKind kind → ∃ a, of? v = some a

namespace Kind

theorem uuid_readBy : uuid.ReadBy Value.toUuid?
  | .uuid u, _ => ⟨u, rfl⟩

theorem text_readBy : text.ReadBy Value.toText?
  | .text s, _ => ⟨s, rfl⟩

theorem int_readBy : int.ReadBy Value.toInt?
  | .int n, _ => ⟨n, rfl⟩

theorem bool_readBy : bool.ReadBy Value.toBool?
  | .bool b, _ => ⟨b, rfl⟩

theorem instant_readBy : instant.ReadBy Value.toInstant?
  | .instant t, _ => ⟨t, rfl⟩

theorem bytes_readBy : bytes.ReadBy Value.toBytes?
  | .bytes b, _ => ⟨b, rfl⟩

end Kind

section

variable {α : Type} {row : Row} {column : String} {kind : Kind} {of? : Value → Option α}

theorem Row.Holds.read (h : row.Holds (column, kind)) (hof : kind.ReadBy of?)
    (hrequired : column ∉ optionalColumns) : ∃ a, row.read of? column = .ok a := by
  obtain ⟨v, hv, hkind | ⟨-, hoptional⟩⟩ := h
  · obtain ⟨a, ha⟩ := hof v hkind
    refine ⟨a, ?_⟩
    simp [Row.read, Row.value, hv, ha, bind, Except.bind]
  · exact absurd hoptional hrequired

theorem Row.Holds.read? (h : row.Holds (column, kind)) (hof : kind.ReadBy of?) :
    ∃ a, row.read? of? column = .ok a := by
  obtain ⟨v, hv, hkind | ⟨rfl, -⟩⟩ := h
  · obtain ⟨a, ha⟩ := hof v hkind
    refine ⟨some a, ?_⟩
    cases v with
    | null => cases kind <;> cases hkind
    | _ => simp [Row.read?, Row.value, hv, ha, bind, Except.bind]
  · refine ⟨none, ?_⟩
    simp only [Row.read?, Row.value, hv]
    rfl

theorem scalar_readBy (hof : kind.ReadBy of?) : (Shape.scalar kind).ReadBy (Row.readFirst of?) := by
  rintro row ⟨name, v, rest, rfl, hkind⟩
  obtain ⟨a, ha⟩ := hof v hkind
  refine ⟨a, ?_⟩
  simp only [Row.readFirst, ha]

end

theorem sessions_readBy : (Shape.columns Schema.sessions).ReadBy Sessions.read := by
  intro row h
  simp only [Shape.Fits, Schema.sessions, List.forall_mem_cons] at h
  obtain ⟨h₁, h₂, h₃, h₄, h₅, h₆, -⟩ := h
  obtain ⟨id, hid⟩ := h₁.read Kind.uuid_readBy (by simp [optionalColumns])
  obtain ⟨user, huser⟩ := h₂.read Kind.uuid_readBy (by simp [optionalColumns])
  obtain ⟨thumbprint, hthumbprint⟩ := h₃.read? Kind.text_readBy
  obtain ⟨createdAt, hcreated⟩ := h₄.read Kind.instant_readBy (by simp [optionalColumns])
  obtain ⟨lastUsedAt, hused⟩ := h₅.read? Kind.instant_readBy
  obtain ⟨revokedAt, hrevoked⟩ := h₆.read? Kind.instant_readBy
  refine ⟨⟨id, user, thumbprint, createdAt, lastUsedAt, revokedAt⟩, ?_⟩
  unfold Sessions.read
  rw [hid, huser, hthumbprint, hcreated, hused, hrevoked]
  rfl

theorem tokens_readBy : (Shape.columns Schema.tokens).ReadBy Tokens.read := by
  intro row h
  simp only [Shape.Fits, Schema.tokens, List.forall_mem_cons] at h
  obtain ⟨h₁, h₂, h₃, h₄, h₅, h₆, h₇, h₈, -⟩ := h
  obtain ⟨id, hid⟩ := h₁.read Kind.uuid_readBy (by simp [optionalColumns])
  obtain ⟨session, hsession⟩ := h₂.read Kind.uuid_readBy (by simp [optionalColumns])
  obtain ⟨hash, hhash⟩ := h₃.read Kind.bytes_readBy (by simp [optionalColumns])
  obtain ⟨issuedAt, hissued⟩ := h₄.read Kind.instant_readBy (by simp [optionalColumns])
  obtain ⟨expiresAt, hexpires⟩ := h₅.read Kind.instant_readBy (by simp [optionalColumns])
  obtain ⟨usedAt, hused⟩ := h₆.read? Kind.instant_readBy
  obtain ⟨revokedAt, hrevoked⟩ := h₇.read? Kind.instant_readBy
  obtain ⟨replacedBy, hreplaced⟩ := h₈.read? Kind.uuid_readBy
  refine ⟨⟨id, session, hash, issuedAt, expiresAt, usedAt, revokedAt, replacedBy⟩, ?_⟩
  unfold Tokens.read
  rw [hid, hsession, hhash, hissued, hexpires, hused, hrevoked, hreplaced]
  rfl

theorem users_readBy : (Shape.columns Schema.users).ReadBy Users.read := by
  intro row h
  simp only [Shape.Fits, Schema.users, List.forall_mem_cons] at h
  obtain ⟨h₁, h₂, h₃, h₄, h₅, -⟩ := h
  obtain ⟨id, hid⟩ := h₁.read Kind.uuid_readBy (by simp [optionalColumns])
  obtain ⟨name, hname⟩ := h₂.read Kind.text_readBy (by simp [optionalColumns])
  obtain ⟨image, himage⟩ := h₃.read? Kind.text_readBy
  obtain ⟨createdAt, hcreated⟩ := h₄.read Kind.instant_readBy (by simp [optionalColumns])
  obtain ⟨updatedAt, hupdated⟩ := h₅.read Kind.instant_readBy (by simp [optionalColumns])
  refine ⟨⟨id, name, image, createdAt, updatedAt⟩, ?_⟩
  unfold Users.read
  rw [hid, hname, himage, hcreated, hupdated]
  rfl

theorem posts_readBy : (Shape.columns Schema.posts).ReadBy Posts.read := by
  intro row h
  simp only [Shape.Fits, Schema.posts, List.forall_mem_cons] at h
  obtain ⟨h₁, h₂, h₃, h₄, h₅, h₆, -⟩ := h
  obtain ⟨id, hid⟩ := h₁.read Kind.int_readBy (by simp [optionalColumns])
  obtain ⟨title, htitle⟩ := h₂.read Kind.text_readBy (by simp [optionalColumns])
  obtain ⟨content, hcontent⟩ := h₃.read Kind.text_readBy (by simp [optionalColumns])
  obtain ⟨author, hauthor⟩ := h₄.read Kind.uuid_readBy (by simp [optionalColumns])
  obtain ⟨createdAt, hcreated⟩ := h₅.read Kind.instant_readBy (by simp [optionalColumns])
  obtain ⟨updatedAt, hupdated⟩ := h₆.read Kind.instant_readBy (by simp [optionalColumns])
  refine ⟨⟨id, title, content, author, createdAt, updatedAt⟩, ?_⟩
  unfold Posts.read
  rw [hid, htitle, hcontent, hauthor, hcreated, hupdated]
  rfl

theorem bookmarks_readBy : (Shape.columns Schema.bookmarks).ReadBy Bookmarks.read := by
  intro row h
  simp only [Shape.Fits, Schema.bookmarks, List.forall_mem_cons] at h
  obtain ⟨h₁, h₂, h₃, h₄, -⟩ := h
  obtain ⟨id, hid⟩ := h₁.read Kind.int_readBy (by simp [optionalColumns])
  obtain ⟨user, huser⟩ := h₂.read Kind.uuid_readBy (by simp [optionalColumns])
  obtain ⟨post, hpost⟩ := h₃.read Kind.int_readBy (by simp [optionalColumns])
  obtain ⟨createdAt, hcreated⟩ := h₄.read Kind.instant_readBy (by simp [optionalColumns])
  refine ⟨⟨id, user, post, createdAt⟩, ?_⟩
  unfold Bookmarks.read
  rw [hid, huser, hpost, hcreated]
  rfl

/-! ## Statements -/

/-- The statements of the client. -/
inductive Query where
  | createSession | findSession | listSessions | lockSession | bindThumbprint | touchActive
  | revokeSession | revokeUserSessions
  | insertToken | lockCurrent | supersede | revokeFamily | revokeFamilyTokens | sessionOf
  | lockToken | consume | touchSession | revokeToken | findToken | checkToken | listTokens | purge
  | createUser | findUser | findUserByName | listUsers | updateUser | deleteUser
  | listPosts | createPost | findPost | updatePost | deletePost
  | addBookmark | removeBookmark | listBookmarks
deriving DecidableEq

/-- What is known about a statement. -/
structure CatalogueEntry where
  text : String
  /-- The step that an error of the statement speaks of. -/
  step : String
  shape : Shape
  /-- Whether there has to be a row. -/
  one : Bool := false

namespace Query

/-- What is known about each statement. -/
def entry : Query → CatalogueEntry
  | createSession =>
    ⟨"INSERT INTO auth_sessions (id, user_id, dpop_jkt, created_at, last_used_at, revoked_at) " ++
        "VALUES ($1, $2, $3, $4, $5, $6) RETURNING *",
      "Failed to create session", .columns Schema.sessions, true⟩
  | findSession =>
    ⟨"SELECT * FROM auth_sessions WHERE id = $1", "Failed to find session",
      .columns Schema.sessions, false⟩
  | listSessions =>
    ⟨"SELECT * FROM auth_sessions WHERE user_id = $1 AND ($2 OR revoked_at IS NULL) " ++
        "ORDER BY created_at DESC, id",
      "Failed to list sessions", .columns Schema.sessions, false⟩
  | lockSession =>
    ⟨"SELECT * FROM auth_sessions WHERE id = $1 FOR UPDATE", "Failed to lock session",
      .columns Schema.sessions, false⟩
  | bindThumbprint =>
    ⟨"UPDATE auth_sessions SET dpop_jkt = $2 WHERE id = $1 RETURNING *",
      "Failed to bind thumbprint", .columns Schema.sessions, true⟩
  | touchActive =>
    ⟨"UPDATE auth_sessions SET last_used_at = $2 WHERE id = $1 AND revoked_at IS NULL",
      "Failed to touch session", .columns [], false⟩
  | revokeSession =>
    ⟨"UPDATE auth_sessions SET revoked_at = COALESCE(revoked_at, $2) WHERE id = $1 RETURNING *",
      "Failed to revoke session", .columns Schema.sessions, false⟩
  | revokeUserSessions =>
    ⟨"UPDATE auth_sessions SET revoked_at = $2 WHERE user_id = $1 AND revoked_at IS NULL",
      "Failed to revoke user sessions", .columns [], false⟩
  | insertToken =>
    ⟨"INSERT INTO refresh_tokens (id, session_id, token_hash, issued_at, expires_at, used_at, " ++
        "revoked_at, replaced_by) VALUES ($1, $2, $3, $4, $5, $6, $7, $8) RETURNING *",
      "Failed to insert refresh token", .columns Schema.tokens, true⟩
  | lockCurrent =>
    ⟨"SELECT id FROM refresh_tokens WHERE session_id = $1 AND revoked_at IS NULL AND " ++
        "replaced_by IS NULL FOR UPDATE",
      "Failed to look up current token", .scalar .uuid, false⟩
  | supersede =>
    ⟨"UPDATE refresh_tokens SET revoked_at = $2 WHERE id = $1",
      "Failed to supersede current token", .columns [], false⟩
  | revokeFamily =>
    ⟨"UPDATE auth_sessions SET revoked_at = COALESCE(revoked_at, $2) WHERE id = $1",
      "Failed to revoke session", .columns [], false⟩
  | revokeFamilyTokens =>
    ⟨"UPDATE refresh_tokens SET revoked_at = $2 WHERE session_id = $1 AND revoked_at IS NULL",
      "Failed to revoke session tokens", .columns [], false⟩
  | sessionOf =>
    ⟨"SELECT session_id FROM refresh_tokens WHERE token_hash = $1",
      "Failed to find refresh token", .scalar .uuid, false⟩
  | lockToken =>
    ⟨"SELECT * FROM refresh_tokens WHERE token_hash = $1 FOR UPDATE",
      "Failed to lock refresh token", .columns Schema.tokens, false⟩
  | consume =>
    ⟨"UPDATE refresh_tokens SET used_at = $2, replaced_by = $3 WHERE id = $1 RETURNING *",
      "Failed to consume refresh token", .columns Schema.tokens, true⟩
  | touchSession =>
    ⟨"UPDATE auth_sessions SET last_used_at = $2 WHERE id = $1 RETURNING *",
      "Failed to touch session", .columns Schema.sessions, true⟩
  | revokeToken =>
    ⟨"UPDATE refresh_tokens SET revoked_at = COALESCE(revoked_at, $2) WHERE token_hash = $1 " ++
        "RETURNING *",
      "Failed to revoke refresh token", .columns Schema.tokens, false⟩
  | findToken =>
    ⟨"SELECT * FROM refresh_tokens WHERE token_hash = $1", "Failed to find refresh token",
      .columns Schema.tokens, false⟩
  | checkToken =>
    ⟨"SELECT EXISTS ( SELECT 1 FROM refresh_tokens t JOIN auth_sessions s ON s.id = " ++
        "t.session_id WHERE t.token_hash = $1 AND t.used_at IS NULL AND t.revoked_at IS NULL AND " ++
        "t.replaced_by IS NULL AND t.expires_at > $2 AND s.revoked_at IS NULL)",
      "Failed to check refresh token", .scalar .bool, true⟩
  | listTokens =>
    ⟨"SELECT * FROM refresh_tokens WHERE session_id = $1 ORDER BY issued_at, id",
      "Failed to list session tokens", .columns Schema.tokens, false⟩
  | purge =>
    ⟨"DELETE FROM refresh_tokens WHERE id IN ( SELECT t.id FROM refresh_tokens t WHERE " ++
        "t.expires_at < $1 AND (t.revoked_at IS NOT NULL OR t.replaced_by IS NOT NULL) AND NOT " ++
        "EXISTS (SELECT 1 FROM refresh_tokens r WHERE r.replaced_by = t.id) ORDER BY t.expires_at " ++
        "LIMIT $2 FOR UPDATE OF t SKIP LOCKED)",
      "Failed to purge expired refresh tokens", .columns [], false⟩
  | createUser =>
    ⟨"INSERT INTO users (\"userName\", \"imageUrl\") VALUES ($1, $2) RETURNING \"userId\", " ++
        "\"userName\", \"imageUrl\", \"createdAt\", \"updatedAt\"",
      "Failed to create user", .columns Schema.users, true⟩
  | findUser =>
    ⟨"SELECT \"userId\", \"userName\", \"imageUrl\", \"createdAt\", \"updatedAt\" FROM users " ++
        "WHERE \"userId\" = $1",
      "Failed to find user by id", .columns Schema.users, false⟩
  | findUserByName =>
    ⟨"SELECT \"userId\", \"userName\", \"imageUrl\", \"createdAt\", \"updatedAt\" FROM users " ++
        "WHERE \"userName\" = $1",
      "Failed to find user by name", .columns Schema.users, false⟩
  | listUsers =>
    ⟨"SELECT \"userId\", \"userName\", \"imageUrl\", \"createdAt\", \"updatedAt\" FROM users " ++
        "ORDER BY \"createdAt\", \"userId\" LIMIT $1 OFFSET $2",
      "Failed to list users", .columns Schema.users, false⟩
  | updateUser =>
    ⟨"UPDATE users SET \"userName\" = COALESCE($2, \"userName\"), \"imageUrl\" = CASE WHEN $3 " ++
        "THEN $4 ELSE \"imageUrl\" END WHERE \"userId\" = $1 RETURNING \"userId\", \"userName\", " ++
        "\"imageUrl\", \"createdAt\", \"updatedAt\"",
      "Failed to update user", .columns Schema.users, false⟩
  | deleteUser =>
    ⟨"DELETE FROM users WHERE \"userId\" = $1", "Failed to delete user", .columns [], false⟩
  | listPosts =>
    ⟨"SELECT \"postId\", title, content, \"authorId\", \"createdAt\", \"updatedAt\" FROM posts " ++
        "ORDER BY \"postId\" DESC LIMIT $1 OFFSET $2",
      "Failed to list posts", .columns Schema.posts, false⟩
  | createPost =>
    ⟨"INSERT INTO posts (title, content, \"authorId\") VALUES ($1, $2, $3) RETURNING " ++
        "\"postId\", title, content, \"authorId\", \"createdAt\", \"updatedAt\"",
      "Failed to create post", .columns Schema.posts, true⟩
  | findPost =>
    ⟨"SELECT \"postId\", title, content, \"authorId\", \"createdAt\", \"updatedAt\" FROM posts " ++
        "WHERE \"postId\" = $1",
      "Failed to find post", .columns Schema.posts, false⟩
  | updatePost =>
    ⟨"UPDATE posts SET title = COALESCE($2, title), content = COALESCE($3, content) WHERE " ++
        "\"postId\" = $1 RETURNING \"postId\", title, content, \"authorId\", \"createdAt\", " ++
        "\"updatedAt\"",
      "Failed to update post", .columns Schema.posts, false⟩
  | deletePost =>
    ⟨"DELETE FROM posts WHERE \"postId\" = $1", "Failed to delete post", .columns [], false⟩
  | addBookmark =>
    ⟨"INSERT INTO bookmarks (\"userId\", \"postId\") VALUES ($1, $2) RETURNING \"bookmarkId\", " ++
        "\"userId\", \"postId\", \"createdAt\"",
      "Failed to add bookmark", .columns Schema.bookmarks, true⟩
  | removeBookmark =>
    ⟨"DELETE FROM bookmarks WHERE \"userId\" = $1 AND \"postId\" = $2",
      "Failed to remove bookmark", .columns [], false⟩
  | listBookmarks =>
    ⟨"SELECT \"bookmarkId\", \"userId\", \"postId\", \"createdAt\" FROM bookmarks WHERE " ++
        "\"userId\" = $1 ORDER BY \"createdAt\" DESC, \"bookmarkId\" DESC",
      "Failed to list bookmarks", .columns Schema.bookmarks, false⟩

/-- All of them. -/
def all : List Query :=
  [createSession, findSession, listSessions, lockSession, bindThumbprint, touchActive,
    revokeSession, revokeUserSessions, insertToken, lockCurrent, supersede, revokeFamily,
    revokeFamilyTokens, sessionOf, lockToken, consume, touchSession, revokeToken, findToken,
    checkToken, listTokens, purge, createUser, findUser, findUserByName, listUsers, updateUser,
    deleteUser, listPosts, createPost, findPost, updatePost, deletePost, addBookmark,
    removeBookmark, listBookmarks]

theorem mem_all (q : Query) : q ∈ all := by
  cases q <;> decide

theorem texts_nodup : (all.map fun q => q.entry.text).Nodup := by decide +kernel

/-- A statement is told by its text. -/
theorem eq_of_text {q q' : Query} (h : q.entry.text = q'.entry.text) : q = q' :=
  List.inj_on_of_nodup_map texts_nodup (mem_all q) (mem_all q') h

end Query

/-- A statement is answered as expected: with rows that fit, and with one if there has to be one. -/
def Expected (s : Statement) (reply : Reply) : Prop :=
  ∀ q : Query, s.text = q.entry.text →
    (∀ row ∈ reply.rows, q.entry.shape.Fits row) ∧ (q.entry.one = true → reply.rows ≠ [])

theorem expected_of_text {q : Query} {s : Statement} {reply : Reply} (hs : s.text = q.entry.text)
    (hrows : ∀ row ∈ reply.rows, q.entry.shape.Fits row)
    (hone : q.entry.one = true → reply.rows ≠ []) : Expected s reply := by
  intro q' hs'
  obtain rfl := Query.eq_of_text (hs.symm.trans hs')
  exact ⟨hrows, hone⟩

end SessionKeeper.Database
