import SessionKeeper.Json.Decode
import SessionKeeper.Validation

/-!
Users and what may be submitted about them. A change leaves each field alone, or gives it a value;
the picture can also be taken away, so it has three cases.
-/

namespace SessionKeeper

/-- A user. -/
structure User where
  /-- Its identifier. -/
  id : Uuid
  /-- The name, which no other user has. -/
  name : String
  /-- The address of a picture. -/
  image : Option String
  /-- When the user was entered. -/
  createdAt : Instant
  /-- When the user was last changed. -/
  updatedAt : Instant
deriving DecidableEq, Repr

namespace User

/-- A user as JSON. -/
def toJson (u : User) : Json :=
  .obj [("user_id", .ofUuid u.id), ("user_name", .str u.name),
    ("image_url", .ofOption .str u.image), ("created_at", .ofInstant u.createdAt),
    ("updated_at", .ofInstant u.updatedAt)]

/-- Read a user from JSON. -/
def ofJson? (v : Json) : Option User := do
  let slots ← v.slots? ["user_id", "user_name", "image_url", "created_at", "updated_at"]
  let id ← (slots "user_id").required Json.toUuid?
  let name ← (slots "user_name").required Json.toString?
  let image ← (slots "image_url").optional Json.toString?
  let createdAt ← (slots "created_at").required Json.toInstant?
  let updatedAt ← (slots "updated_at").required Json.toInstant?
  some ⟨id, name, image, createdAt, updatedAt⟩

/-- A name has 1 to 64 characters. -/
def nameRule : LengthRule := ⟨some 1, some 64⟩

/-- The address of a picture has at most 256 characters. -/
def imageRule : LengthRule := ⟨none, some 256⟩

end User

/-- A change to a field that can be empty. -/
inductive Change (α : Type) where
  /-- Leave the field alone. -/
  | keep
  /-- Empty the field. -/
  | clear
  /-- Give the field a value. -/
  | set (a : α)
deriving DecidableEq, Repr

namespace Change

variable {α : Type}

/-- Whether the field is touched at all. -/
def isTouched : Change α → Bool
  | keep => false
  | _ => true

/-- The value that the field is given. -/
def value? : Change α → Option α
  | set a => some a
  | _ => none

/-- The field after the change. -/
def apply (old : Option α) : Change α → Option α
  | keep => old
  | clear => none
  | set a => some a

end Change

/-- A user to be entered. -/
structure NewUser where
  /-- The name. -/
  name : String
  /-- The address of a picture. -/
  image : Option String
deriving DecidableEq, Repr

namespace NewUser

/-- A new user as JSON. -/
def toJson (u : NewUser) : Json :=
  .obj [("user_name", .str u.name), ("image_url", .ofOption .str u.image)]

/-- Read a new user from JSON. -/
def ofJson? (v : Json) : Option NewUser := do
  let slots ← v.slots? ["user_name", "image_url"]
  let name ← (slots "user_name").required Json.toString?
  let image ← (slots "image_url").optional Json.toString?
  some ⟨name, image⟩

/-- The broken rules. -/
def violations (u : NewUser) : Violations :=
  .ofField "user_name" (User.nameRule.check u.name ++ checkNotBlank u.name) ++
    .ofField "image_url" (User.imageRule.check? u.image)

end NewUser

/-- A change to a user. -/
structure UserChange where
  /-- The new name, if it changes. -/
  name : Option String
  /-- The change of the picture. -/
  image : Change String
deriving DecidableEq, Repr

namespace UserChange

/-- Whether nothing changes. -/
def isEmpty (u : UserChange) : Bool := u.name.isNone && !u.image.isTouched

/-- A change as JSON. The key of the picture is left out when the picture is left alone. -/
def toJson (u : UserChange) : Json :=
  let name := ("user_name", Json.ofOption .str u.name)
  match u.image with
  | .keep => .obj [name]
  | .clear => .obj [name, ("image_url", .null)]
  | .set s => .obj [name, ("image_url", .str s)]

/-- Read the change of the picture from the value of its key. -/
def imageOfJson? : Json → Option (Change String)
  | .null => some .clear
  | v => v.toString?.map .set

/-- Read a change from JSON. -/
def ofJson? (v : Json) : Option UserChange := do
  let slots ← v.slots? ["user_name", "image_url"]
  let name ← (slots "user_name").optional Json.toString?
  let image ← (slots "image_url").withDefault .keep imageOfJson?
  some ⟨name, image⟩

/-- The rule on the whole change: a name is not blank, and a picture's address not too long. -/
def formViolation (u : UserChange) : Option Violation :=
  if u.name.any Text.allBlank then some ⟨"blank", some "Value cannot be blank", []⟩
  else if u.image.value?.any fun s => !User.imageRule.admits s then
    some ⟨"length", some "imageUrl must be at most 256 characters", []⟩
  else none

/-- The broken rules. -/
def violations (u : UserChange) : Violations :=
  Violations.orElseForm (.ofField "user_name" (User.nameRule.check? u.name)) u.formViolation

end UserChange

end SessionKeeper
