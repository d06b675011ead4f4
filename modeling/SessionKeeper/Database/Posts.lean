import SessionKeeper.Database.Client
import SessionKeeper.Page
import SessionKeeper.Post

/-!
Posts and bookmarks in the database. What is submitted is looked at before anything is sent.
-/

namespace SessionKeeper.Database

namespace Posts

/-- Read a post. -/
def read : Reader Post := fun row => do
  let id ← row.read Value.toInt? "postId"
  let title ← row.read Value.toText? "title"
  let content ← row.read Value.toText? "content"
  let author ← row.read Value.toUuid? "authorId"
  let createdAt ← row.read Value.toInstant? "createdAt"
  let updatedAt ← row.read Value.toInstant? "updatedAt"
  return ⟨id, title, content, author, createdAt, updatedAt⟩

/-- A page of the posts, the newest first. -/
def list (page : Page) : Action (List Post) :=
  fetchAll "Failed to list posts" read
    ⟨"SELECT \"postId\", title, content, \"authorId\", \"createdAt\", \"updatedAt\" FROM posts " ++
      "ORDER BY \"postId\" DESC LIMIT $1 OFFSET $2",
      [.int page.limit, .int page.offset]⟩

/-- Enter a post. -/
def create (p : NewPost) : Action Post := do
  liftExcept p.violations.check
  fetchOne "Failed to create post" read
    ⟨"INSERT INTO posts (title, content, \"authorId\") VALUES ($1, $2, $3) RETURNING " ++
      "\"postId\", title, content, \"authorId\", \"createdAt\", \"updatedAt\"",
      [.text p.title, .text p.content, .uuid p.author]⟩

/-- The post with the given number. -/
def find (id : Int) : Action (Option Post) :=
  fetchOptional "Failed to find post" read
    ⟨"SELECT \"postId\", title, content, \"authorId\", \"createdAt\", \"updatedAt\" FROM posts " ++
      "WHERE \"postId\" = $1",
      [.int id]⟩

/-- Change a post. -/
def update (id : Int) (p : PostChange) : Action (Option Post) := do
  liftExcept p.violations.check
  fetchOptional "Failed to update post" read
    ⟨"UPDATE posts SET title = COALESCE($2, title), content = COALESCE($3, content) WHERE " ++
      "\"postId\" = $1 RETURNING \"postId\", title, content, \"authorId\", \"createdAt\", " ++
      "\"updatedAt\"",
      [.int id, .ofOption .text p.title, .ofOption .text p.content]⟩

/-- Delete a post. Tells whether there was one. -/
def delete (id : Int) : Action Bool := do
  let count ← execute "Failed to delete post"
    ⟨"DELETE FROM posts WHERE \"postId\" = $1", [.int id]⟩
  return decide (0 < count)

end Posts

namespace Bookmarks

/-- Read a bookmark. -/
def read : Reader Bookmark := fun row => do
  let id ← row.read Value.toInt? "bookmarkId"
  let user ← row.read Value.toUuid? "userId"
  let post ← row.read Value.toInt? "postId"
  let createdAt ← row.read Value.toInstant? "createdAt"
  return ⟨id, user, post, createdAt⟩

/-- Set a bookmark. -/
def add (user : Uuid) (post : Int) : Action Bookmark :=
  fetchOne "Failed to add bookmark" read
    ⟨"INSERT INTO bookmarks (\"userId\", \"postId\") VALUES ($1, $2) RETURNING \"bookmarkId\", " ++
      "\"userId\", \"postId\", \"createdAt\"",
      [.uuid user, .int post]⟩

/-- Remove a bookmark. Tells whether there was one. -/
def remove (user : Uuid) (post : Int) : Action Bool := do
  let count ← execute "Failed to remove bookmark"
    ⟨"DELETE FROM bookmarks WHERE \"userId\" = $1 AND \"postId\" = $2", [.uuid user, .int post]⟩
  return decide (0 < count)

/-- The bookmarks of a user, the newest first. -/
def list (user : Uuid) : Action (List Bookmark) :=
  fetchAll "Failed to list bookmarks" read
    ⟨"SELECT \"bookmarkId\", \"userId\", \"postId\", \"createdAt\" FROM bookmarks WHERE " ++
      "\"userId\" = $1 ORDER BY \"createdAt\" DESC, \"bookmarkId\" DESC",
      [.uuid user]⟩

end Bookmarks

end SessionKeeper.Database
