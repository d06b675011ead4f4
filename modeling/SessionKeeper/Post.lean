import SessionKeeper.Json.Decode
import SessionKeeper.Validation

/-!
Posts, which users write, and bookmarks, by which users keep posts.
-/

namespace SessionKeeper

/-- A post. -/
structure Post where
  /-- Its number. -/
  id : Int
  /-- The title. -/
  title : String
  /-- The text. -/
  content : String
  /-- The user who wrote it. -/
  author : Uuid
  /-- When the post was entered. -/
  createdAt : Instant
  /-- When the post was last changed. -/
  updatedAt : Instant
deriving DecidableEq, Repr

namespace Post

/-- A post as JSON. -/
def toJson (p : Post) : Json :=
  .obj [("post_id", .int p.id), ("title", .str p.title), ("content", .str p.content),
    ("author_id", .ofUuid p.author), ("created_at", .ofInstant p.createdAt),
    ("updated_at", .ofInstant p.updatedAt)]

/-- Read a post from JSON. -/
def ofJson? (v : Json) : Option Post := do
  let slots ← v.slots? ["post_id", "title", "content", "author_id", "created_at", "updated_at"]
  let id ← (slots "post_id").required Json.toInt64?
  let title ← (slots "title").required Json.toString?
  let content ← (slots "content").required Json.toString?
  let author ← (slots "author_id").required Json.toUuid?
  let createdAt ← (slots "created_at").required Json.toInstant?
  let updatedAt ← (slots "updated_at").required Json.toInstant?
  some ⟨id, title, content, author, createdAt, updatedAt⟩

/-- The title of a new post has 1 to 200 characters. -/
def titleRule : LengthRule := ⟨some 1, some 200⟩

/-- A changed title has at most 200 characters. -/
def changedTitleRule : LengthRule := ⟨none, some 200⟩

/-- The text of a new post has a character at least. -/
def contentRule : LengthRule := ⟨some 1, none⟩

end Post

/-- A post to be entered. -/
structure NewPost where
  /-- The title. -/
  title : String
  /-- The text. -/
  content : String
  /-- The user who wrote it. -/
  author : Uuid
deriving DecidableEq, Repr

namespace NewPost

/-- A new post as JSON. -/
def toJson (p : NewPost) : Json :=
  .obj [("title", .str p.title), ("content", .str p.content), ("author_id", .ofUuid p.author)]

/-- Read a new post from JSON. -/
def ofJson? (v : Json) : Option NewPost := do
  let slots ← v.slots? ["title", "content", "author_id"]
  let title ← (slots "title").required Json.toString?
  let content ← (slots "content").required Json.toString?
  let author ← (slots "author_id").required Json.toUuid?
  some ⟨title, content, author⟩

/-- The broken rules. -/
def violations (p : NewPost) : Violations :=
  .ofField "title" (Post.titleRule.check p.title ++ checkNotBlank p.title) ++
    .ofField "content" (Post.contentRule.check p.content ++ checkNotBlank p.content)

end NewPost

/-- A change to a post. -/
structure PostChange where
  /-- The new title, if it changes. -/
  title : Option String
  /-- The new text, if it changes. -/
  content : Option String
deriving DecidableEq, Repr

namespace PostChange

/-- A change as JSON. -/
def toJson (p : PostChange) : Json :=
  .obj [("title", .ofOption .str p.title), ("content", .ofOption .str p.content)]

/-- Read a change from JSON. -/
def ofJson? (v : Json) : Option PostChange := do
  let slots ← v.slots? ["title", "content"]
  let title ← (slots "title").optional Json.toString?
  let content ← (slots "content").optional Json.toString?
  some ⟨title, content⟩

/-- The rule on the whole change: what it sets is not blank. -/
def formViolation (p : PostChange) : Option Violation :=
  if p.title.any Text.allBlank || p.content.any Text.allBlank then
    some ⟨"blank", some "Fields cannot be blank", []⟩
  else none

/-- The broken rules. -/
def violations (p : PostChange) : Violations :=
  Violations.orElseForm (.ofField "title" (Post.changedTitleRule.check? p.title)) p.formViolation

end PostChange

/-- A user's bookmark on a post. -/
structure Bookmark where
  /-- Its number. -/
  id : Int
  /-- The user who keeps the post. -/
  user : Uuid
  /-- The post. -/
  post : Int
  /-- When the bookmark was set. -/
  createdAt : Instant
deriving DecidableEq, Repr

namespace Bookmark

/-- A bookmark as JSON. -/
def toJson (b : Bookmark) : Json :=
  .obj [("bookmark_id", .int b.id), ("user_id", .ofUuid b.user), ("post_id", .int b.post),
    ("created_at", .ofInstant b.createdAt)]

/-- Read a bookmark from JSON. -/
def ofJson? (v : Json) : Option Bookmark := do
  let slots ← v.slots? ["bookmark_id", "user_id", "post_id", "created_at"]
  let id ← (slots "bookmark_id").required Json.toInt64?
  let user ← (slots "user_id").required Json.toUuid?
  let post ← (slots "post_id").required Json.toInt64?
  let createdAt ← (slots "created_at").required Json.toInstant?
  some ⟨id, user, post, createdAt⟩

end Bookmark

end SessionKeeper
