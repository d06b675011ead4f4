import SessionKeeper.Proofs.Json.Scalars

/-!
# What is written is read back

The two written forms of a value differ in the blanks between its parts only, so both are instances
of one form with a layout (`write`). The reader skips blanks wherever a layout may set them. By
induction on its fuel it reads back every value that is written, whatever follows, and so it finds
the one value that a written text is (`ofText?_pretty`, `ofText?_compact`).
-/

namespace SessionKeeper.Json

/-! ## Layouts -/

/-- The blanks between the parts of a list or an object. -/
structure Layout where
  /-- What sets a part apart that stands at a nesting depth. -/
  apart : Nat → List Char
  /-- What stands behind the colon of a member. -/
  gap : List Char
  apart_blank : ∀ depth, ∀ c ∈ apart depth, isSpace c = true
  gap_blank : ∀ c ∈ gap, isSpace c = true

namespace Layout

/-- Parts stand on lines of their own. -/
def lines : Layout where
  apart depth := '\n' :: List.replicate (2 * depth) ' '
  gap := [' ']
  apart_blank depth c hc := by
    rcases List.mem_cons.mp hc with rfl | hc
    · rfl
    · rw [List.eq_of_mem_replicate hc]
      rfl
  gap_blank := by simp [isSpace]

/-- Nothing stands between the parts. -/
def dense : Layout where
  apart _ := []
  gap := []
  apart_blank _ _ hc := nomatch hc
  gap_blank _ hc := nomatch hc

end Layout

section

variable (l : Layout)

/-- A key, up to the value that it belongs to. -/
def writeKey (key : Option String) : List Char := (quoteOrSurrogate key).toList ++ ':' :: l.gap

mutual

/-- The written form of a value that stands at a nesting depth. -/
def write (depth : Nat) : Json → List Char
  | null => ['n', 'u', 'l', 'l']
  | bool true => ['t', 'r', 'u', 'e']
  | bool false => ['f', 'a', 'l', 's', 'e']
  | number n => n.toText.toList
  | string s => (quoteOrSurrogate s).toList
  | array [] => ['[', ']']
  | array (item :: items) =>
    '[' :: (l.apart (depth + 1) ++ write (depth + 1) item ++ writeItems (depth + 1) items ++
      l.apart depth ++ [']'])
  | object [] => ['\x7b', '\x7d']
  | object ((key, value) :: members) =>
    '\x7b' :: (l.apart (depth + 1) ++ writeKey l key ++ write (depth + 1) value ++
      writeMembers (depth + 1) members ++ l.apart depth ++ ['\x7d'])

/-- Further values of a list. -/
def writeItems (depth : Nat) : List Json → List Char
  | [] => []
  | item :: items => ',' :: (l.apart depth ++ write depth item ++ writeItems depth items)

/-- Further members of an object. -/
def writeMembers (depth : Nat) : List (Option String × Json) → List Char
  | [] => []
  | (key, value) :: members =>
    ',' :: (l.apart depth ++ writeKey l key ++ write depth value ++ writeMembers depth members)

end

end

theorem toList_lineBreak (depth : Nat) : (lineBreak depth).toList = Layout.lines.apart depth := by
  simp [lineBreak, Layout.lines]

mutual

theorem toList_prettyAt (depth : Nat) :
    (v : Json) → (prettyAt depth v).toList = write .lines depth v
  | null => by simp [prettyAt, write]
  | bool true => by simp [prettyAt, write]
  | bool false => by simp [prettyAt, write]
  | number n => by simp [prettyAt, write]
  | string s => by simp [prettyAt, write]
  | array [] => by simp [prettyAt, write]
  | array (item :: items) => by
    simp [prettyAt, write, toList_lineBreak, toList_prettyAt (depth + 1) item,
      toList_prettyItems (depth + 1) items]
  | object [] => by simp [prettyAt, write]
  | object ((key, value) :: members) => by
    simp [prettyAt, write, writeKey, toList_lineBreak, toList_prettyAt (depth + 1) value,
      toList_prettyMembers (depth + 1) members, Layout.lines]

theorem toList_prettyItems (depth : Nat) :
    (items : List Json) → (prettyItems depth items).toList = writeItems .lines depth items
  | [] => by simp [prettyItems, writeItems]
  | item :: items => by
    simp [prettyItems, writeItems, toList_lineBreak, toList_prettyAt depth item,
      toList_prettyItems depth items]

theorem toList_prettyMembers (depth : Nat) : (members : List (Option String × Json)) →
    (prettyMembers depth members).toList = writeMembers .lines depth members
  | [] => by simp [prettyMembers, writeMembers]
  | (key, value) :: members => by
    simp [prettyMembers, writeMembers, writeKey, toList_lineBreak, toList_prettyAt depth value,
      toList_prettyMembers depth members, Layout.lines]

end

mutual

theorem toList_compact (depth : Nat) : (v : Json) → (compact v).toList = write .dense depth v
  | null => by simp [compact, write]
  | bool true => by simp [compact, write]
  | bool false => by simp [compact, write]
  | number n => by simp [compact, write]
  | string s => by simp [compact, write]
  | array [] => by simp [compact, write]
  | array (item :: items) => by
    simp [compact, write, Layout.dense, toList_compact (depth + 1) item,
      toList_compactItems (depth + 1) items]
  | object [] => by simp [compact, write]
  | object ((key, value) :: members) => by
    simp [compact, write, writeKey, Layout.dense, toList_compact (depth + 1) value,
      toList_compactMembers (depth + 1) members]

theorem toList_compactItems (depth : Nat) :
    (items : List Json) → (compactItems items).toList = writeItems .dense depth items
  | [] => by simp [compactItems, writeItems]
  | item :: items => by
    simp [compactItems, writeItems, Layout.dense, toList_compact depth item,
      toList_compactItems depth items]

theorem toList_compactMembers (depth : Nat) : (members : List (Option String × Json)) →
    (compactMembers members).toList = writeMembers .dense depth members
  | [] => by simp [compactMembers, writeMembers]
  | (key, value) :: members => by
    simp [compactMembers, writeMembers, writeKey, Layout.dense, toList_compact depth value,
      toList_compactMembers depth members]

end

/-! ## Blanks -/

section

variable {l : Layout} {depth : Nat} {c : Char} {cs rest : List Char}

theorem skipSpace_append (h : ∀ c ∈ cs, isSpace c = true) (rest : List Char) :
    skipSpace (cs ++ rest) = skipSpace rest :=
  List.dropWhile_append_of_pos h

theorem skipSpace_cons (h : isSpace c = false) (rest : List Char) :
    skipSpace (c :: rest) = c :: rest :=
  List.dropWhile_cons_of_neg (by simp [h])

theorem skipSpace_apart (l : Layout) (depth : Nat) (h : isSpace c = false) (rest : List Char) :
    skipSpace (l.apart depth ++ c :: rest) = c :: rest := by
  rw [skipSpace_append (l.apart_blank depth), skipSpace_cons h]

theorem ends_nil : Ends [] := by
  simp [Ends]

theorem ends_cons (h : isDigit c = false ∧ c ≠ '.' ∧ c ≠ 'e' ∧ c ≠ 'E') : Ends (c :: rest) := by
  intro x hx
  obtain rfl := Option.some.inj hx
  exact h

/-- A blank ends a number. -/
theorem ends_of_isSpace (h : isSpace c = true) (rest : List Char) : Ends (c :: rest) := by
  have hspace : ((c = ' ' ∨ c = '\n') ∨ c = '\t') ∨ c = '\r' := by simpa [isSpace] using h
  rcases hspace with ((rfl | rfl) | rfl) | rfl <;> exact ends_cons (by decide)

theorem ends_apart (h : Ends (c :: rest)) : Ends (l.apart depth ++ c :: rest) := by
  cases hapart : l.apart depth with
  | nil => exact h
  | cons x xs => exact ends_of_isSpace (l.apart_blank depth x (by simp [hapart])) _

theorem not_isSpace_of_isDigit (h : isDigit c = true) : isSpace c = false := by
  cases hspace : isSpace c with
  | false => rfl
  | true =>
    have hdigit := (ends_of_isSpace hspace [] c rfl).1
    rw [h] at hdigit
    cases hdigit

/-- What begins a value is neither blank nor a closing bracket. -/
theorem exists_write (l : Layout) (depth : Nat) (v : Json) :
    ∃ c cs, write l depth v = c :: cs ∧ isSpace c = false ∧ c ≠ ']' := by
  cases v with
  | null => exact ⟨_, _, rfl, by decide, by decide⟩
  | bool b => cases b <;> exact ⟨_, _, rfl, by decide, by decide⟩
  | number n =>
    obtain ⟨c, cs, htext, rfl | hc⟩ := exists_toText n
    · exact ⟨_, cs, htext, by decide, by decide⟩
    · exact ⟨c, cs, htext, not_isSpace_of_isDigit hc, ne_of_isDigit hc (by decide)⟩
  | string s =>
    obtain ⟨cs, htext, -⟩ := readString_quoteOrSurrogate s
    exact ⟨_, cs, htext, by decide, by decide⟩
  | array items => cases items <;> exact ⟨_, _, rfl, by decide, by decide⟩
  | object members => cases members <;> exact ⟨_, _, rfl, by decide, by decide⟩

theorem skipSpace_write (v : Json) :
    skipSpace (write l depth v ++ rest) = write l depth v ++ rest := by
  obtain ⟨c, cs, hwrite, hc, -⟩ := exists_write l depth v
  rw [hwrite, List.cons_append, skipSpace_cons hc]

end

/-! ## Reading -/

/-- Every number in a value counts by one if it has neither fraction nor exponent. -/
inductive Tidy : Json → Prop where
  | null : Tidy null
  | bool (b : Bool) : Tidy (bool b)
  | number {n : Numeral} (h : n.Tidy) : Tidy (number n)
  | string (s : Option String) : Tidy (string s)
  | array {items : List Json} (h : ∀ v ∈ items, Tidy v) : Tidy (array items)
  | object {members : List (Option String × Json)} (h : ∀ m ∈ members, Tidy m.2) :
      Tidy (object members)

@[simp] theorem tidy_null : Tidy null := .null

@[simp] theorem tidy_bool (b : Bool) : Tidy (bool b) := .bool b

@[simp] theorem tidy_str (s : String) : Tidy (str s) := .string (some s)

@[simp] theorem tidy_int (n : Int) : Tidy (int n) := .number fun _ => rfl

theorem tidy_obj {members : List (String × Json)} (h : ∀ m ∈ members, Tidy m.2) :
    Tidy (obj members) := by
  refine .object fun m hm => ?_
  obtain ⟨⟨key, v⟩, hmem, rfl⟩ := List.mem_map.mp hm
  exact h (key, v) hmem

section

variable (l : Layout)

/-- What stands between the brackets of a list, with the closing one. -/
def writeBody (depth : Nat) (item : Json) (items : List Json) : List Char :=
  write l (depth + 1) item ++ writeItems l (depth + 1) items ++ l.apart depth ++ [']']

/-- What stands between the braces of an object, with the closing one. -/
def writeFields (depth : Nat) (member : Option String × Json)
    (members : List (Option String × Json)) : List Char :=
  writeKey l member.1 ++ write l (depth + 1) member.2 ++ writeMembers l (depth + 1) members ++
    l.apart depth ++ ['\x7d']

/-- With so much fuel the readers read back what is not longer. -/
structure ReadsBack (fuel : Nat) : Prop where
  value : ∀ {depth v cs rest}, Tidy v → skipSpace cs = write l depth v ++ rest →
    (write l depth v).length ≤ fuel → Ends rest → readValue fuel cs = some (v, rest)
  items : ∀ {depth item items cs rest}, (∀ v ∈ item :: items, Tidy v) →
    skipSpace cs = writeBody l depth item items ++ rest →
    (writeBody l depth item items).length ≤ fuel → readItems fuel cs = some (item :: items, rest)
  members : ∀ {depth member members cs rest}, (∀ m ∈ member :: members, Tidy m.2) →
    skipSpace cs = writeFields l depth member members ++ rest →
    (writeFields l depth member members).length ≤ fuel →
    readMembers fuel cs = some (member :: members, rest)

end

section

variable {l : Layout} {fuel depth : Nat} {cs rest : List Char}

theorem readWord_append {word : String} (h : word.toList = cs) (v : Json) (rest : List Char) :
    readWord word v (cs ++ rest) = some (v, rest) := by
  have hprefix : word.toList.isPrefixOf (cs ++ rest) = true := by
    rw [h, List.isPrefixOf_iff_prefix]
    exact List.prefix_append cs rest
  rw [readWord, if_pos hprefix, ← String.length_toList, h, List.drop_left]

theorem readValue_number {n : Numeral} (hn : n.Tidy) (hcs : skipSpace cs = n.toText.toList ++ rest)
    (hrest : Ends rest) : readValue (fuel + 1) cs = some (number n, rest) := by
  have hread := readNumber_toText hn hrest
  obtain ⟨c, text, htext, hc⟩ := exists_toText n
  have hstart : ∀ d, d ≠ '-' → isDigit d = false → c ≠ d := by
    rintro d hminus hdigit rfl
    rcases hc with rfl | hc
    · exact hminus rfl
    · rw [hc] at hdigit
      cases hdigit
  have hbrace := hstart '\x7b' (by decide) (by decide)
  have hbracket := hstart '[' (by decide) (by decide)
  have hquote := hstart '"' (by decide) (by decide)
  have hnull := hstart 'n' (by decide) (by decide)
  have htrue := hstart 't' (by decide) (by decide)
  have hfalse := hstart 'f' (by decide) (by decide)
  rw [htext, List.cons_append] at hcs hread
  simp [readValue, hcs, hbrace, hbracket, hquote, hnull, htrue, hfalse, hread]

theorem readValue_string {s : Option String}
    (hcs : skipSpace cs = (quoteOrSurrogate s).toList ++ rest) :
    readValue (fuel + 1) cs = some (string s, rest) := by
  obtain ⟨text, htext, hread⟩ := readString_quoteOrSurrogate s
  rw [htext, List.cons_append] at hcs
  simp [readValue, hcs, hread]

/-- What stands behind a value of a list, or of an object, is not a part of a number. -/
theorem ends_items (items : List Json) :
    Ends (writeItems l (depth + 1) items ++ (l.apart depth ++ ']' :: rest)) := by
  cases items with
  | nil => exact ends_apart (ends_cons (by decide))
  | cons item items => exact ends_cons (by decide)

theorem ends_members (members : List (Option String × Json)) :
    Ends (writeMembers l (depth + 1) members ++ (l.apart depth ++ '\x7d' :: rest)) := by
  cases members with
  | nil => exact ends_apart (ends_cons (by decide))
  | cons member members => exact ends_cons (by decide)

section

variable (l : Layout) (depth : Nat) (item : Json) (items : List Json) (rest : List Char)

/-- What begins a list does not close it. -/
theorem exists_writeBody :
    ∃ c text, writeBody l depth item items ++ rest = c :: text ∧ isSpace c = false ∧ c ≠ ']' := by
  obtain ⟨c, text, htext, hc⟩ := exists_write l (depth + 1) item
  exact ⟨c, _, by rw [writeBody, htext]; rfl, hc⟩

theorem skipSpace_writeBody :
    skipSpace (writeBody l depth item items ++ rest) = writeBody l depth item items ++ rest := by
  obtain ⟨c, text, htext, hc, -⟩ := exists_writeBody l depth item items rest
  rw [htext, skipSpace_cons hc]

theorem skipSpace_apart_writeBody :
    skipSpace (l.apart (depth + 1) ++ (writeBody l depth item items ++ rest)) =
      writeBody l depth item items ++ rest := by
  rw [skipSpace_append (l.apart_blank (depth + 1)), skipSpace_writeBody]

end

section

variable {item : Json} {items : List Json}

theorem readValue_array (h : ReadsBack l fuel) (hitems : ∀ v ∈ item :: items, Tidy v)
    (hcs : skipSpace cs = write l depth (array (item :: items)) ++ rest)
    (hfuel : (write l depth (array (item :: items))).length ≤ fuel + 1) :
    readValue (fuel + 1) cs = some (array (item :: items), rest) := by
  have hwrite : write l depth (array (item :: items)) =
      '[' :: (l.apart (depth + 1) ++ writeBody l depth item items) := by
    simp [write, writeBody]
  rw [hwrite] at hcs hfuel
  rw [List.cons_append, List.append_assoc] at hcs
  rw [List.length_cons, List.length_append] at hfuel
  have hread := h.items hitems (skipSpace_writeBody l depth item items rest) (by omega)
  have hskip := skipSpace_apart_writeBody l depth item items rest
  obtain ⟨c, text, htext, -, hc⟩ := exists_writeBody l depth item items rest
  rw [htext] at hskip hread hcs
  simp [readValue, hcs, hskip, hc, hread]

theorem readItems_succ (h : ReadsBack l fuel) (hitems : ∀ v ∈ item :: items, Tidy v)
    (hcs : skipSpace cs = writeBody l depth item items ++ rest)
    (hfuel : (writeBody l depth item items).length ≤ fuel + 1) :
    readItems (fuel + 1) cs = some (item :: items, rest) := by
  simp only [writeBody, List.append_assoc, List.singleton_append] at hcs
  simp only [writeBody, List.length_append, List.length_singleton] at hfuel
  have hvalue := h.value (hitems item (by simp)) hcs (by omega) (ends_items items)
  cases items with
  | nil =>
    have hskip := skipSpace_apart l depth (show isSpace ']' = false from rfl) rest
    rw [writeItems, List.nil_append] at hvalue
    simp [readItems, hvalue, hskip]
  | cons next items =>
    have hmore : writeItems l (depth + 1) (next :: items) ++ (l.apart depth ++ ']' :: rest) =
        ',' :: (l.apart (depth + 1) ++ (writeBody l depth next items ++ rest)) := by
      simp [writeItems, writeBody]
    have hlength := congrArg List.length hmore
    simp only [List.length_append, List.length_cons] at hlength
    have hwrite : 0 < (write l (depth + 1) item).length := by
      obtain ⟨c, text, htext, -⟩ := exists_write l (depth + 1) item
      simp [htext]
    have hread := h.items (fun v hv => hitems v (by simp [hv]))
      (skipSpace_apart_writeBody l depth next items rest) (by omega)
    rw [hmore] at hvalue
    simp [readItems, hvalue, skipSpace_cons (show isSpace ',' = false by rfl), hread]

end

section

variable (l : Layout) (depth : Nat) (member : Option String × Json)
  (members : List (Option String × Json)) (rest : List Char)

/-- An object begins with the quote of its first key. -/
theorem exists_writeFields :
    ∃ text, writeFields l depth member members ++ rest = '"' :: text := by
  obtain ⟨text, htext, -⟩ := readString_quoteOrSurrogate member.1
  exact ⟨_, by rw [writeFields, writeKey, htext]; rfl⟩

theorem skipSpace_writeFields :
    skipSpace (writeFields l depth member members ++ rest) =
      writeFields l depth member members ++ rest := by
  obtain ⟨text, htext⟩ := exists_writeFields l depth member members rest
  rw [htext, skipSpace_cons rfl]

theorem skipSpace_apart_writeFields :
    skipSpace (l.apart (depth + 1) ++ (writeFields l depth member members ++ rest)) =
      writeFields l depth member members ++ rest := by
  rw [skipSpace_append (l.apart_blank (depth + 1)), skipSpace_writeFields]

end

section

variable {member : Option String × Json} {members : List (Option String × Json)}

theorem readValue_object (h : ReadsBack l fuel) (hmembers : ∀ m ∈ member :: members, Tidy m.2)
    (hcs : skipSpace cs = write l depth (object (member :: members)) ++ rest)
    (hfuel : (write l depth (object (member :: members))).length ≤ fuel + 1) :
    readValue (fuel + 1) cs = some (object (member :: members), rest) := by
  have hwrite : write l depth (object (member :: members)) =
      '\x7b' :: (l.apart (depth + 1) ++ writeFields l depth member members) := by
    simp [write, writeFields]
  rw [hwrite] at hcs hfuel
  rw [List.cons_append, List.append_assoc] at hcs
  rw [List.length_cons, List.length_append] at hfuel
  have hread := h.members hmembers (skipSpace_writeFields l depth member members rest) (by omega)
  have hskip := skipSpace_apart_writeFields l depth member members rest
  obtain ⟨text, htext⟩ := exists_writeFields l depth member members rest
  rw [htext] at hskip hread hcs
  simp [readValue, hcs, hskip, hread]

theorem readMembers_succ (h : ReadsBack l fuel) (hmembers : ∀ m ∈ member :: members, Tidy m.2)
    (hcs : skipSpace cs = writeFields l depth member members ++ rest)
    (hfuel : (writeFields l depth member members).length ≤ fuel + 1) :
    readMembers (fuel + 1) cs = some (member :: members, rest) := by
  obtain ⟨key, value⟩ := member
  obtain ⟨text, htext, hkey⟩ := readString_quoteOrSurrogate key
  simp only [writeFields, writeKey, htext, List.append_assoc, List.cons_append,
    List.nil_append] at hcs
  simp only [writeFields, writeKey, List.length_append, List.length_cons, List.length_nil] at hfuel
  have hgap := skipSpace_append l.gap_blank (write l (depth + 1) value ++
    (writeMembers l (depth + 1) members ++ (l.apart depth ++ '\x7d' :: rest)))
  rw [skipSpace_write] at hgap
  have htidy : Tidy value := hmembers (key, value) (by simp)
  have hvalue := h.value htidy hgap (by omega) (ends_members members)
  have hcolon := skipSpace_cons (show isSpace ':' = false from rfl)
  cases members with
  | nil =>
    have hskip := skipSpace_apart l depth (show isSpace '\x7d' = false from rfl) rest
    rw [writeMembers, List.nil_append] at hcs hvalue
    simp [readMembers, hcs, hkey, hcolon, hvalue, hskip]
  | cons next members =>
    have hmore : writeMembers l (depth + 1) (next :: members) ++ (l.apart depth ++ '\x7d' :: rest) =
        ',' :: (l.apart (depth + 1) ++ (writeFields l depth next members ++ rest)) := by
      simp [writeMembers, writeFields]
    have hlength := congrArg List.length hmore
    simp only [List.length_append, List.length_cons] at hlength
    have hread := h.members (fun m hm => hmembers m (by simp [hm]))
      (skipSpace_apart_writeFields l depth next members rest) (by omega)
    rw [hmore] at hcs hvalue
    simp [readMembers, hcs, hkey, hcolon, hvalue, skipSpace_cons (show isSpace ',' = false by rfl),
      hread]

end

theorem ReadsBack.succ (h : ReadsBack l fuel) : ReadsBack l (fuel + 1) where
  items := readItems_succ h
  members := readMembers_succ h
  value {depth v cs rest} hv hcs hfuel hrest := by
    cases hv with
    | null =>
      have hread := readWord_append (show "null".toList = ['n', 'u', 'l', 'l'] by decide) null rest
      simp only [write, List.cons_append, List.nil_append] at hcs hread
      simp [readValue, hcs, hread]
    | bool b =>
      cases b with
      | true =>
        have hread := readWord_append (show "true".toList = ['t', 'r', 'u', 'e'] by decide)
          (bool true) rest
        simp only [write, List.cons_append, List.nil_append] at hcs hread
        simp [readValue, hcs, hread]
      | false =>
        have hread := readWord_append (show "false".toList = ['f', 'a', 'l', 's', 'e'] by decide)
          (bool false) rest
        simp only [write, List.cons_append, List.nil_append] at hcs hread
        simp [readValue, hcs, hread]
    | number hn => exact readValue_number hn hcs hrest
    | string s => exact readValue_string hcs
    | @array items hitems =>
      cases items with
      | nil => simp [readValue, hcs, write, skipSpace_cons (show isSpace ']' = false by rfl)]
      | cons item items => exact readValue_array h hitems hcs hfuel
    | @object members hmembers =>
      cases members with
      | nil => simp [readValue, hcs, write, skipSpace_cons (show isSpace '\x7d' = false by rfl)]
      | cons member members => exact readValue_object h hmembers hcs hfuel

theorem readsBack (l : Layout) : ∀ fuel, ReadsBack l fuel
  | 0 => by
    constructor
    · intro depth v cs rest hv hcs hfuel
      obtain ⟨c, text, htext, -⟩ := exists_write l depth v
      simp [htext] at hfuel
    · intro depth item items cs rest hitems hcs hfuel
      simp [writeBody] at hfuel
    · intro depth member members cs rest hmembers hcs hfuel
      simp [writeFields] at hfuel
  | fuel + 1 => (readsBack l fuel).succ

/-! ## Texts -/

/-- A text that begins with a written value is that value if nothing but blanks follows. -/
theorem ofText?_of_write (l : Layout) (depth : Nat) {s : String} {v : Json} (hv : Tidy v)
    (hrest : Ends rest) (hs : s.toList = write l depth v ++ rest) :
    ofText? s = if (skipSpace rest).isEmpty then some v else none := by
  have hread : readValue (2 * s.length + 2) s.toList = some (v, rest) := by
    refine (readsBack l _).value hv (by rw [hs, skipSpace_write]) ?_ hrest
    have hlength := congrArg List.length hs
    rw [List.length_append, String.length_toList] at hlength
    omega
  rw [ofText?, hread]

theorem ofText?_pretty {v : Json} (hv : Tidy v) : ofText? v.pretty = some v := by
  have hs : v.pretty.toList = write .lines 0 v ++ [] := by
    rw [pretty, toList_prettyAt, List.append_nil]
  exact ofText?_of_write .lines 0 hv ends_nil hs

theorem ofText?_compact {v : Json} (hv : Tidy v) : ofText? v.compact = some v := by
  have hs : v.compact.toList = write .dense 0 v ++ [] := by
    rw [toList_compact 0, List.append_nil]
  exact ofText?_of_write .dense 0 hv ends_nil hs

end

end SessionKeeper.Json
