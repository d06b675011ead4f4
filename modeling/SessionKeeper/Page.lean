import SessionKeeper.Json.Decode

/-!
Pages of long lists: how many rows to give and how many to pass over.
-/

namespace SessionKeeper

/-- A page of a list. -/
structure Page where
  /-- The greatest number of rows. -/
  limit : Int
  /-- The number of rows to pass over. -/
  offset : Int
deriving DecidableEq, Repr

namespace Page

/-- The number of rows where none is asked for. -/
def defaultLimit : Int := 50

/-- The greatest number of rows that can be asked for. -/
def maxLimit : Int := 500

/-- The page that comes closest to a request: 1 to 500 rows, passing over none or more. -/
def clamp (limit offset : Int) : Page := ⟨min (max limit 1) maxLimit, max offset 0⟩

/-- The first page. -/
def first : Page := ⟨defaultLimit, 0⟩

/-- A page as JSON. -/
def toJson (p : Page) : Json := .obj [("limit", .int p.limit), ("offset", .int p.offset)]

/-- Read a page from JSON, as it is given. -/
def ofJson? (v : Json) : Option Page := do
  let slots ← v.slots? ["limit", "offset"]
  let limit ← (slots "limit").withDefault defaultLimit Json.toInt64?
  let offset ← (slots "offset").withDefault 0 Json.toInt64?
  some ⟨limit, offset⟩

end Page

end SessionKeeper
