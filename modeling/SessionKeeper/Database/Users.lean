import SessionKeeper.Database.Client
import SessionKeeper.Page
import SessionKeeper.User

/-!
Users in the database. What is submitted is looked at before anything is sent, and names are kept
without the blanks around them.
-/

namespace SessionKeeper.Database.Users

/-- Read a user. -/
def read : Reader User := fun row => do
  let id ← row.read Value.toUuid? "userId"
  let name ← row.read Value.toText? "userName"
  let image ← row.read? Value.toText? "imageUrl"
  let createdAt ← row.read Value.toInstant? "createdAt"
  let updatedAt ← row.read Value.toInstant? "updatedAt"
  return ⟨id, name, image, createdAt, updatedAt⟩

/-- Enter a user. -/
def create (u : NewUser) : Action User := do
  liftExcept u.violations.check
  fetchOne "Failed to create user" read
    ⟨"INSERT INTO users (\"userName\", \"imageUrl\") VALUES ($1, $2) RETURNING \"userId\", " ++
      "\"userName\", \"imageUrl\", \"createdAt\", \"updatedAt\"",
      [.text (Text.trim u.name), .ofOption .text u.image]⟩

/-- The user with the given identifier. -/
def find (id : Uuid) : Action (Option User) :=
  fetchOptional "Failed to find user by id" read
    ⟨"SELECT \"userId\", \"userName\", \"imageUrl\", \"createdAt\", \"updatedAt\" FROM users " ++
      "WHERE \"userId\" = $1",
      [.uuid id]⟩

/-- The user with the given name. -/
def findByName (name : String) : Action (Option User) :=
  fetchOptional "Failed to find user by name" read
    ⟨"SELECT \"userId\", \"userName\", \"imageUrl\", \"createdAt\", \"updatedAt\" FROM users " ++
      "WHERE \"userName\" = $1",
      [.text name]⟩

/-- A page of the users, in the order in which they were entered. -/
def list (page : Page) : Action (List User) :=
  fetchAll "Failed to list users" read
    ⟨"SELECT \"userId\", \"userName\", \"imageUrl\", \"createdAt\", \"updatedAt\" FROM users " ++
      "ORDER BY \"createdAt\", \"userId\" LIMIT $1 OFFSET $2",
      [.int page.limit, .int page.offset]⟩

/-- Change a user. The third parameter tells whether the picture is touched. -/
def update (id : Uuid) (u : UserChange) : Action (Option User) := do
  liftExcept u.violations.check
  fetchOptional "Failed to update user" read
    ⟨"UPDATE users SET \"userName\" = COALESCE($2, \"userName\"), \"imageUrl\" = CASE WHEN $3 " ++
      "THEN $4 ELSE \"imageUrl\" END WHERE \"userId\" = $1 RETURNING \"userId\", \"userName\", " ++
      "\"imageUrl\", \"createdAt\", \"updatedAt\"",
      [.uuid id, .ofOption (fun s => .text (Text.trim s)) u.name, .bool u.image.isTouched,
        .ofOption .text u.image.value?]⟩

/-- Delete a user. Tells whether there was one. -/
def delete (id : Uuid) : Action Bool := do
  let count ← execute "Failed to delete user"
    ⟨"DELETE FROM users WHERE \"userId\" = $1", [.uuid id]⟩
  return decide (0 < count)

end SessionKeeper.Database.Users
