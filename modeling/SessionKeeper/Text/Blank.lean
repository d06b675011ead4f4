/-!
White space and trimming. The class is Unicode's `White_Space` property, so a no-break space or an
ideographic space counts and a zero-width space does not. A text is blank when it has no other
character, and `trim` removes blanks from both ends only.
-/

namespace SessionKeeper.Text

/-- The code points of the property `White_Space`. -/
def isBlankCode (n : Nat) : Bool :=
  (9 ≤ n && n ≤ 13) || n == 0x20 || n == 0x85 || n == 0xA0 || n == 0x1680 ||
    (0x2000 ≤ n && n ≤ 0x200A) || n == 0x2028 || n == 0x2029 || n == 0x202F || n == 0x205F ||
    n == 0x3000

/-- A white-space character. -/
def isBlank (c : Char) : Bool := isBlankCode c.toNat

/-- Every character that core calls white space is one here. -/
theorem isBlank_of_isWhitespace {c : Char} (h : c.isWhitespace = true) : isBlank c = true := by
  simp only [Char.isWhitespace, Bool.or_eq_true, decide_eq_true_eq] at h
  rcases h with ((rfl | rfl) | rfl) | rfl <;> decide

/-- The text without the blanks it starts with. -/
def trimStart (cs : List Char) : List Char := cs.dropWhile isBlank

/-- The text without the blanks it ends with. -/
def trimEnd (cs : List Char) : List Char := (cs.reverse.dropWhile isBlank).reverse

/-- The text without the blanks at its two ends. -/
def trim (s : String) : String := String.ofList (trimEnd (trimStart s.toList))

/-- Whether a text holds nothing but blanks; the empty text does. -/
def allBlank (s : String) : Bool := s.toList.all isBlank

/-- A lower-case copy, of the letters `A` to `Z` alone. -/
def lowerAscii (s : String) : String := String.ofList (s.toList.map Char.toLower)

/-- An upper-case copy, of the letters `a` to `z` alone. -/
def upperAscii (s : String) : String := String.ofList (s.toList.map Char.toUpper)

/-- The parts of a text between the places where `sep` stands; there is always at least one. -/
def splitOnChar (sep : Char) : List Char → List (List Char)
  | [] => [[]]
  | c :: cs =>
    if c = sep then [] :: splitOnChar sep cs
    else
      match splitOnChar sep cs with
      | [] => [[c]]
      | part :: parts => (c :: part) :: parts

/-- The words of a text: its longest runs without blanks. -/
def words (cs : List Char) : List (List Char) :=
  let step (c : Char) : List Char × List (List Char) → List Char × List (List Char)
    | (word, done) =>
      if isBlank c then ([], if word.isEmpty then done else word :: done) else (c :: word, done)
  let (word, done) := cs.foldr step ([], [])
  if word.isEmpty then done else word :: done

end SessionKeeper.Text
