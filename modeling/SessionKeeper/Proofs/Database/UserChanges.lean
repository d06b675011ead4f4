import SessionKeeper.Proofs.Database.Content
import SessionKeeper.Proofs.Json.RoundTrip

/-!
# A change of a user from JSON to the row

In JSON a change of a user leaves the key of the picture out, gives it as `null`, or gives it a
string. The three stay apart in the change that is read, in the parameters of the one statement that
is sent for it, and in what the expressions of that statement come to on a stored row
(`change_survives`). The expressions are given here as trees (`Expr`), whose written form is the
text of the statement.
-/

namespace SessionKeeper

/-! ## Keys of an object -/

namespace Json

variable {key : String} {members : List (Option String × Json)} {v : Json}

theorem mem_valuesOf : v ∈ valuesOf key members ↔ (some key, v) ∈ members := by
  simp only [valuesOf, List.mem_filterMap, Prod.exists]
  constructor
  · rintro ⟨k, w, hmem, hv⟩
    split at hv
    · rename_i hk
      cases hv
      exact hk ▸ hmem
    · cases hv
  · exact fun h => ⟨some key, v, h, by simp⟩

/-- The string under a key, if there is one. -/
def stringAt? (key : String) (members : List (Option String × Json)) : Option String :=
  (valuesOf key members).head?.bind toString?

theorem valuesOf_eq_nil : valuesOf key members = [] ↔ some key ∉ members.map Prod.fst := by
  simp [List.eq_nil_iff_forall_not_mem, mem_valuesOf]

/-- What an object gives for the fields of a record: each of its keys stands there once at most. -/
theorem slots?_object {names : List String} {slots : Slots Json}
    (h : slots? names (object members) = some slots) {key : String} (hkey : key ∈ names) :
    (valuesOf key members = [] ∧ slots key = .missing) ∨
      ∃ v, valuesOf key members = [v] ∧ slots key = .given v := by
  simp only [slots?, slotsOfObject?, Option.ite_none_right_eq_some] at h
  obtain ⟨⟨-, honce⟩, hslots⟩ := h
  have hlength : (valuesOf key members).length ≤ 1 := by
    simpa using List.all_eq_true.mp honce key hkey
  cases Option.some.inj hslots
  dsimp only
  match hvalues : valuesOf key members, hlength with
  | [], _ => exact .inl ⟨rfl, rfl⟩
  | [v], _ => exact .inr ⟨v, rfl, rfl⟩

end Json

theorem Slot.optional_toString {v : Json} {s : Option String}
    (h : (Slot.given v).optional Json.toString? = some s) :
    (v = .null ∨ ∃ t, v = .str t) ∧ v.toString? = s := by
  match v, h with
  | .null, h => exact ⟨.inl rfl, Option.some.inj h⟩
  | .string (some t), h => exact ⟨.inr ⟨t, rfl⟩, Option.some.inj h⟩

namespace UserChange

open Json (stringAt?)

theorem imageOfJson?_eq_some {v : Json} {image : Change String}
    (h : imageOfJson? v = some image) :
    (v = .null ∨ ∃ s, v = .str s) ∧ image = .to v.toString? := by
  match v, h with
  | .null, h => exact ⟨.inl rfl, (Option.some.inj h).symm⟩
  | .string (some s), h => exact ⟨.inr ⟨s, rfl⟩, (Option.some.inj h).symm⟩

/-- What is read from an object: each key stands there once at most, with `null` or a string. -/
structure ReadFrom (members : List (Option String × Json)) (u : UserChange) : Prop where
  name : (Json.valuesOf "user_name" members = [] ∧ u.name = none) ∨
    ∃ v, Json.valuesOf "user_name" members = [v] ∧ (v = .null ∨ ∃ s, v = .str s) ∧
      u.name = v.toString?
  image : (Json.valuesOf "image_url" members = [] ∧ u.image = .keep) ∨
    ∃ v, Json.valuesOf "image_url" members = [v] ∧ (v = .null ∨ ∃ s, v = .str s) ∧
      u.image = .to v.toString?

theorem readFrom_of_ofJson? {members : List (Option String × Json)} {u : UserChange}
    (h : ofJson? (.object members) = some u) : ReadFrom members u := by
  simp only [ofJson?, bind, Option.bind_eq_some_iff] at h
  obtain ⟨slots, hslots, name, hname, image, himage, hu⟩ := h
  cases hu
  constructor
  · have hkey : "user_name" ∈ ["user_name", "image_url"] := by decide
    rcases Json.slots?_object hslots hkey with ⟨hvalues, hslot⟩ | ⟨v, hvalues, hslot⟩
    · rw [hslot] at hname
      exact .inl ⟨hvalues, (Option.some.inj hname).symm⟩
    · rw [hslot] at hname
      obtain ⟨hv, hs⟩ := Slot.optional_toString hname
      exact .inr ⟨v, hvalues, hv, hs.symm⟩
  · have hkey : "image_url" ∈ ["user_name", "image_url"] := by decide
    rcases Json.slots?_object hslots hkey with ⟨hvalues, hslot⟩ | ⟨v, hvalues, hslot⟩
    · rw [hslot] at himage
      exact .inl ⟨hvalues, (Option.some.inj himage).symm⟩
    · rw [hslot] at himage
      exact .inr ⟨v, hvalues, imageOfJson?_eq_some himage⟩

theorem ofJson?_toJson (u : UserChange) : ofJson? u.toJson = some u := by
  obtain ⟨name, image⟩ := u
  cases name <;> cases image <;> rfl

theorem tidy_toJson (u : UserChange) : u.toJson.Tidy := by
  obtain ⟨name, image⟩ := u
  cases name <;> cases image <;> exact Json.tidy_obj (by simp [Json.ofOption])

/-- A change that is written as a text is read from it, in either written form. -/
theorem read_written (u : UserChange) :
    (Json.ofText? u.toJson.compact).bind ofJson? = some u ∧
      (Json.ofText? u.toJson.pretty).bind ofJson? = some u := by
  rw [Json.ofText?_compact u.tidy_toJson, Json.ofText?_pretty u.tidy_toJson]
  exact ⟨u.ofJson?_toJson, u.ofJson?_toJson⟩

section

variable {members : List (Option String × Json)} {u : UserChange}

theorem ReadFrom.name_eq (h : ReadFrom members u) : u.name = stringAt? "user_name" members := by
  rcases h.name with ⟨hvalues, hname⟩ | ⟨v, hvalues, -, hname⟩ <;>
    simp [stringAt?, hvalues, hname]

theorem ReadFrom.value_eq (h : ReadFrom members u) :
    u.image.value? = stringAt? "image_url" members := by
  rcases h.image with ⟨hvalues, himage⟩ | ⟨v, hvalues, -, himage⟩
  · simp [stringAt?, hvalues, himage, Change.value?]
  · simp [stringAt?, hvalues, himage, Change.value?_to]

theorem ReadFrom.image_of_absent (h : ReadFrom members u)
    (hkey : some "image_url" ∉ members.map Prod.fst) : u.image = .keep := by
  rcases h.image with ⟨-, himage⟩ | ⟨v, hvalues, -⟩
  · exact himage
  · rw [Json.valuesOf_eq_nil.mpr hkey] at hvalues
    cases hvalues

theorem ReadFrom.image_of_mem (h : ReadFrom members u) {v : Json}
    (hv : (some "image_url", v) ∈ members) : u.image = .to v.toString? := by
  rw [← Json.mem_valuesOf] at hv
  rcases h.image with ⟨hvalues, -⟩ | ⟨w, hvalues, -, himage⟩ <;> rw [hvalues] at hv
  · cases hv
  · rw [List.mem_singleton.mp hv, himage]

theorem ReadFrom.touched_eq (h : ReadFrom members u) :
    u.image.isTouched = decide (some "image_url" ∈ members.map Prod.fst) := by
  by_cases hkey : some "image_url" ∈ members.map Prod.fst
  · obtain ⟨⟨_, v⟩, hv, rfl⟩ := List.mem_map.mp hkey
    rw [h.image_of_mem hv, decide_eq_true hkey]
    cases v.toString? <;> rfl
  · rw [h.image_of_absent hkey, decide_eq_false hkey]
    rfl

theorem ReadFrom.name_of_mem (h : ReadFrom members u) {s : String}
    (hs : (some "user_name", .str s) ∈ members) : u.name = some s := by
  rw [← Json.mem_valuesOf] at hs
  rcases h.name with ⟨hvalues, -⟩ | ⟨v, hvalues, -, hname⟩ <;> rw [hvalues] at hs
  · cases hs
  · rw [hname, ← List.mem_singleton.mp hs]
    rfl

theorem ReadFrom.name_of_absent (h : ReadFrom members u)
    (hs : ∀ s, (some "user_name", .str s) ∉ members) : u.name = none := by
  rcases h.name with ⟨-, hname⟩ | ⟨v, hvalues, rfl | ⟨s, rfl⟩, hname⟩
  · exact hname
  · exact hname
  · exact absurd (Json.mem_valuesOf.mp (by simp [hvalues])) (hs s)

end

end UserChange

namespace Database

/-! ## Expressions -/

/-- An expression over the columns of a row and the parameters of a statement. -/
inductive Expr where
  | column (name : String)
  | parameter (n : Nat)
  /-- The first of two values that is not null. -/
  | coalesce (a b : Expr)
  /-- The one value where the condition is true, and the other elsewhere. -/
  | caseWhen (condition a b : Expr)

namespace Expr

/-- The written form. -/
def text : Expr → String
  | column name => "\"" ++ name ++ "\""
  | parameter n => "$" ++ toString n
  | coalesce a b => "COALESCE(" ++ a.text ++ ", " ++ b.text ++ ")"
  | caseWhen condition a b =>
    "CASE WHEN " ++ condition.text ++ " THEN " ++ a.text ++ " ELSE " ++ b.text ++ " END"

/-- What an expression comes to on a row. -/
def value (parameters : List Value) (row : Row) : Expr → Value
  | column name => (row.lookup name).getD .null
  | parameter n => parameters.getD (n - 1) .null
  | coalesce a b =>
    if a.value parameters row = .null then b.value parameters row else a.value parameters row
  | caseWhen condition a b =>
    if condition.value parameters row = .bool true then a.value parameters row
    else b.value parameters row

end Expr

/-- What columns are set to. -/
abbrev Assignments := List (String × Expr)

namespace Assignments

/-- The written form. -/
def text (as : Assignments) : String :=
  ", ".intercalate (as.map fun (column, e) => "\"" ++ column ++ "\" = " ++ e.text)

/-- The row that a row is changed to. All expressions are about the row as it was. -/
def apply (as : Assignments) (parameters : List Value) (row : Row) : Row :=
  row.map fun (column, v) => (column, ((as.lookup column).map (·.value parameters row)).getD v)

theorem lookup_apply (as : Assignments) (parameters : List Value) (row : Row) (column : String) :
    (as.apply parameters row).lookup column = (row.lookup column).map fun v =>
      ((as.lookup column).map (·.value parameters row)).getD v := by
  have hlookup (f : String → Value → Value) (cells : Row) :
      (cells.map fun (c, v) => (c, f c v)).lookup column =
        (cells.lookup column).map (f column) := by
    induction cells with
    | nil => rfl
    | cons cell cells ih =>
      obtain ⟨c, v⟩ := cell
      simp only [List.map_cons, List.lookup_cons]
      cases hc : column == c with
      | true => simp [eq_of_beq hc]
      | false => exact ih
  exact hlookup (fun c v => ((as.lookup c).map (·.value parameters row)).getD v) row

end Assignments

/-- What a change of a user sets. -/
def userAssignments : Assignments :=
  [("userName", .coalesce (.parameter 2) (.column "userName")),
    ("imageUrl", .caseWhen (.parameter 3) (.parameter 4) (.column "imageUrl"))]

/-- The text of the statement that changes a user is the written form of what it sets. -/
theorem updateUser_text (id : Uuid) (u : UserChange) : (Statement.updateUser id u).text =
    "UPDATE users SET " ++ userAssignments.text ++ " WHERE \"userId\" = $1 " ++
      "RETURNING \"userId\", \"userName\", \"imageUrl\", \"createdAt\", \"updatedAt\"" := by
  show Query.updateUser.entry.text = _
  decide +kernel

/-! ## What is sent, and what it comes to -/

/-- What the members of an object make of a stored row. -/
structure Amends (members : List (Option String × Json)) (before after : Row) : Prop where
  imageKept : some "image_url" ∉ members.map Prod.fst →
    after.lookup "imageUrl" = before.lookup "imageUrl"
  imageCleared : (some "image_url", .null) ∈ members → after.lookup "imageUrl" = some .null
  imageReplaced : ∀ s, (some "image_url", .str s) ∈ members →
    after.lookup "imageUrl" = some (.text s)
  nameChanged : ∀ s, (some "user_name", .str s) ∈ members →
    after.lookup "userName" = some (.text (Text.trim s))
  nameKept : (∀ s, (some "user_name", .str s) ∉ members) →
    after.lookup "userName" = before.lookup "userName"
  othersKept : ∀ column, column ≠ "userName" → column ≠ "imageUrl" →
    after.lookup column = before.lookup column

section

variable (id : Uuid) (u : UserChange) {row : Row} {v : Value}

theorem lookup_imageUrl (h : row.lookup "imageUrl" = some v) :
    (userAssignments.apply (Statement.updateUser id u).parameters row).lookup "imageUrl" =
      some (if u.image.isTouched then .ofOption .text u.image.value? else v) := by
  rw [Assignments.lookup_apply, h]
  cases htouched : u.image.isTouched <;>
    simp [userAssignments, List.lookup_cons, Expr.value, Statement.updateUser, htouched, h]

theorem lookup_userName (h : row.lookup "userName" = some v) :
    (userAssignments.apply (Statement.updateUser id u).parameters row).lookup "userName" =
      some ((u.name.map fun s => .text (Text.trim s)).getD v) := by
  rw [Assignments.lookup_apply, h]
  cases hname : u.name <;>
    simp [userAssignments, Expr.value, Statement.updateUser, hname, h, Value.ofOption]

theorem lookup_other {column : String} (hname : column ≠ "userName")
    (himage : column ≠ "imageUrl") :
    (userAssignments.apply (Statement.updateUser id u).parameters row).lookup column =
      row.lookup column := by
  have hnot : userAssignments.lookup column = none := by
    simp [userAssignments, List.lookup_cons, beq_false_of_ne hname, beq_false_of_ne himage]
  rw [Assignments.lookup_apply, hnot]
  simp

end

theorem amends {members : List (Option String × Json)} {u : UserChange} {row : Row}
    (h : u.ReadFrom members) (hrow : Shape.Fits row (.columns Schema.users)) (id : Uuid) :
    Amends members row (userAssignments.apply (Statement.updateUser id u).parameters row) := by
  obtain ⟨name, hname, -⟩ : row.Holds ("userName", .text) := hrow _ (by simp [Schema.users])
  obtain ⟨image, himage, -⟩ : row.Holds ("imageUrl", .text) := hrow _ (by simp [Schema.users])
  have hnameAfter := lookup_userName id u hname
  have himageAfter := lookup_imageUrl id u himage
  constructor
  · intro hkey
    rw [himageAfter, himage, h.image_of_absent hkey]
    rfl
  · intro hnull
    rw [himageAfter, h.image_of_mem hnull]
    rfl
  · intro s hs
    rw [himageAfter, h.image_of_mem hs]
    rfl
  · intro s hs
    rw [hnameAfter, h.name_of_mem hs]
    rfl
  · intro hs
    rw [hnameAfter, hname, h.name_of_absent hs]
    rfl
  · exact fun column => lookup_other id u

/-- A change of a user is read back from the JSON that it is written as, as a value and as a text.
For every JSON object that is accepted as a change and breaks no rule one statement is sent. Its
parameters tell the trimmed name or null, whether there is a key of the picture, and the string
under that key or null. On a row of the table the expressions of the statement keep the picture
where there is no such key, clear it where it is `null` and replace it where it is a string, change
the name where it is a string and nowhere else, and leave the other columns as they are. -/
theorem change_survives :
    (∀ u : UserChange, UserChange.ofJson? u.toJson = some u ∧
      (Json.ofText? u.toJson.compact).bind UserChange.ofJson? = some u ∧
      (Json.ofText? u.toJson.pretty).bind UserChange.ofJson? = some u) ∧
    ∀ members u, UserChange.ofJson? (.object members) = some u → u.violations = [] → ∀ id,
      ∃ s, AsksOnce (Users.update id u) s ∧
        s.text = "UPDATE users SET " ++ userAssignments.text ++ " WHERE \"userId\" = $1 " ++
          "RETURNING \"userId\", \"userName\", \"imageUrl\", \"createdAt\", \"updatedAt\"" ∧
        s.parameters = [.uuid id,
          .ofOption (fun s => .text (Text.trim s)) (Json.stringAt? "user_name" members),
          .bool (decide (some "image_url" ∈ members.map Prod.fst)),
          .ofOption .text (Json.stringAt? "image_url" members)] ∧
        ∀ row, Shape.Fits row (.columns Schema.users) →
          Amends members row (userAssignments.apply s.parameters row) := by
  refine ⟨fun u => ⟨u.ofJson?_toJson, u.read_written⟩, fun members u hread hvalid id => ?_⟩
  have hfrom := UserChange.readFrom_of_ofJson? hread
  refine ⟨.updateUser id u, ?_, updateUser_text id u, ?_, fun row hrow => amends hfrom hrow id⟩
  · have hupdate : Users.update id u =
        fetchOptional "Failed to update user" Users.read (.updateUser id u) := check_bind hvalid
    rw [hupdate]
    exact asksOnce_fetchOptional _ _ _
  · rw [← hfrom.name_eq, ← hfrom.touched_eq, ← hfrom.value_eq]
    rfl

/-- The row of a user with a picture. -/
def pictured : Row :=
  [("userId", .uuid ⟨1⟩), ("userName", .text "alice"), ("imageUrl", .text "a.png"),
    ("createdAt", .instant default), ("updatedAt", .instant default)]

/-- A name with blanks around it, a picture that is taken away, and a key that nobody knows. -/
theorem change_survives_clearing :
    ∃ s, AsksOnce (Users.update ⟨1⟩ ⟨some " bob ", .clear⟩) s ∧
      s.parameters = [.uuid ⟨1⟩, .text "bob", .bool true, .null] ∧
      Amends [(some "user_name", .str " bob "), (some "image_url", .null), (some "age", .int 7)]
        pictured (userAssignments.apply s.parameters pictured) := by
  obtain ⟨s, hasks, -, hparameters, hrows⟩ := change_survives.2
    [(some "user_name", .str " bob "), (some "image_url", .null), (some "age", .int 7)]
    ⟨some " bob ", .clear⟩ rfl (by decide) ⟨1⟩
  refine ⟨s, hasks, ?_, hrows pictured ?_⟩
  · rw [hparameters]
    decide
  · simp only [Shape.Fits, Schema.users, List.forall_mem_cons]
    exact ⟨⟨_, rfl, .inl trivial⟩, ⟨_, rfl, .inl trivial⟩, ⟨_, rfl, .inl trivial⟩,
      ⟨_, rfl, .inl trivial⟩, ⟨_, rfl, .inl trivial⟩, by simp⟩

end Database

end SessionKeeper
