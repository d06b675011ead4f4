import SessionKeeper.Database.Client
import SessionKeeper.Json.Decode

/-!
The columns of the tables, in the order in which rows give them, and the values of columns as JSON.
-/

namespace SessionKeeper.Database

/-- The kinds of value that columns hold. -/
inductive Kind where
  /-- Identifiers. -/
  | uuid
  /-- Texts. -/
  | text
  /-- Numbers. -/
  | int
  /-- Truth values. -/
  | bool
  /-- Instants. -/
  | instant
  /-- Bytes. -/
  | bytes
deriving DecidableEq, Repr

/-- A column: its name and what it holds. -/
abbrev Column := String × Kind

namespace Schema

/-- The columns of sessions. -/
def sessions : List Column :=
  [("id", .uuid), ("user_id", .uuid), ("dpop_jkt", .text), ("created_at", .instant),
    ("last_used_at", .instant), ("revoked_at", .instant)]

/-- The columns of tokens. -/
def tokens : List Column :=
  [("id", .uuid), ("session_id", .uuid), ("token_hash", .bytes), ("issued_at", .instant),
    ("expires_at", .instant), ("used_at", .instant), ("revoked_at", .instant),
    ("replaced_by", .uuid)]

/-- The columns of users. -/
def users : List Column :=
  [("userId", .uuid), ("userName", .text), ("imageUrl", .text), ("createdAt", .instant),
    ("updatedAt", .instant)]

/-- The columns of posts. -/
def posts : List Column :=
  [("postId", .int), ("title", .text), ("content", .text), ("authorId", .uuid),
    ("createdAt", .instant), ("updatedAt", .instant)]

/-- The columns of bookmarks. -/
def bookmarks : List Column :=
  [("bookmarkId", .int), ("userId", .uuid), ("postId", .int), ("createdAt", .instant)]

/-- The tables, by name. -/
def tables : List (String × List Column) :=
  [("sessions", sessions), ("tokens", tokens), ("users", users), ("posts", posts),
    ("bookmarks", bookmarks)]

end Schema

namespace Value

/-- Read a value of a kind. Bytes are given in hexadecimal. -/
def ofJson? (kind : Kind) (v : Json) : Option Value :=
  match v, kind with
  | .null, _ => some null
  | v, .uuid => v.toUuid?.map uuid
  | v, .text => v.toString?.map text
  | v, .int => v.toInt?.map int
  | v, .bool => v.toBool?.map bool
  | v, .instant => v.toInstant?.map instant
  | v, .bytes => (v.toString?.bind Text.bytesOfHex?).map bytes

/-- A value as JSON. -/
def toJson : Value → Json
  | null => .null
  | uuid u => .ofUuid u
  | text s => .str s
  | int n => .int n
  | bool b => .bool b
  | instant t => .ofInstant t
  | bytes b => .str (Text.hexOfBytes b)

end Value

end SessionKeeper.Database
