import Mathlib.Tactic.SplitIfs
import SessionKeeper.Json.Reader

/-!
# Numbers and strings are read back

A number that is written in decimal is read back where no character stands behind it that could
belong to it (`Ends`). A string is read back whatever characters it consists of: every character is
written as itself or as an escape that spells it.
-/

namespace SessionKeeper

/-- A number with neither fraction nor exponent counts by one. -/
def Numeral.Tidy (n : Numeral) : Prop := n.integral = true → n.scale = 0

namespace Json

/-! ## Digits -/

theorem isDigit_iff {c : Char} : isDigit c = true ↔ '0' ≤ c ∧ c ≤ '9' := by
  simp [isDigit]

theorem isDigit_of_mem_toDigits {n : Nat} {c : Char} (h : c ∈ Nat.toDigits 10 n) :
    isDigit c = true := by
  have hdigit := Nat.isDigit_of_mem_toDigits (by decide) (by decide) h
  rw [isDigit_iff]
  simpa [Char.isDigit, Char.le_def] using hdigit

theorem digitsFrom_eq {ds : List Char} (h : ∀ c ∈ ds, isDigit c = true) (acc : Nat) :
    Text.digitsFrom acc ds = some (Nat.ofDigitChars 10 ds acc) := by
  induction ds generalizing acc with
  | nil => rw [Text.digitsFrom, Nat.ofDigitChars_nil]
  | cons c ds ih =>
    have hdigit : Text.digit? c = some (c.toNat - '0'.toNat) :=
      if_pos (isDigit_iff.mp (h c (by simp)))
    rw [Text.digitsFrom, hdigit, Nat.ofDigitChars_cons, Nat.mul_comm 10 acc]
    exact ih (fun x hx => h x (by simp [hx])) _

theorem digitsValue_toDigits (n : Nat) : digitsValue (Nat.toDigits 10 n) = n := by
  rw [digitsValue, digitsFrom_eq fun c hc => isDigit_of_mem_toDigits hc, Option.getD_some,
    Nat.ofDigitChars_toDigits (by decide) (by decide)]

/-- Only zero is written with a leading zero. -/
theorem exists_toDigits (n : Nat) :
    ∃ c cs, Nat.toDigits 10 n = c :: cs ∧ isDigit c = true ∧ (c = '0' → n = 0) := by
  induction n using Nat.strongRecOn with
  | ind n ih =>
    by_cases hn : n < 10
    · refine ⟨n.digitChar, [], Nat.toDigits_of_lt_base hn, ?_, Nat.digitChar_eq_zero.mp⟩
      exact isDigit_of_mem_toDigits (n := n) (by simp [Nat.toDigits_of_lt_base hn])
    · obtain ⟨c, cs, hdigits, hc, hzero⟩ := ih (n / 10) (by omega)
      refine ⟨c, cs ++ [(n % 10).digitChar], ?_, hc, fun h => ?_⟩
      · rw [Nat.toDigits_of_base_le (by decide) (by omega), hdigits, List.cons_append]
      · have htenth := hzero h
        omega

theorem ne_of_isDigit {c d : Char} (hc : isDigit c = true) (hd : isDigit d = false) : c ≠ d := by
  rintro rfl
  rw [hc] at hd
  cases hd

/-! ## Numbers -/

/-- What stands behind a number is not a part of it. -/
def Ends (rest : List Char) : Prop :=
  ∀ c ∈ rest.head?, isDigit c = false ∧ c ≠ '.' ∧ c ≠ 'e' ∧ c ≠ 'E'

theorem spanDigits_append {ds rest : List Char} (h : ∀ c ∈ ds, isDigit c = true)
    (hrest : ∀ c ∈ rest.head?, isDigit c = false) : spanDigits (ds ++ rest) = (ds, rest) := by
  have htake : rest.takeWhile isDigit = [] := by
    cases rest with
    | nil => rfl
    | cons c rest => rw [List.takeWhile_cons_of_neg (by simp [hrest c rfl])]
  have hdrop : rest.dropWhile isDigit = rest := by
    cases rest with
    | nil => rfl
    | cons c rest => rw [List.dropWhile_cons_of_neg (by simp [hrest c rfl])]
  rw [spanDigits, List.takeWhile_append_of_pos h, List.dropWhile_append_of_pos h, htake, hdrop,
    List.append_nil]

section

variable {rest : List Char}

theorem spanDigits_toDigits (n : Nat) (h : ∀ c ∈ rest.head?, isDigit c = false) :
    spanDigits (Nat.toDigits 10 n ++ rest) = (Nat.toDigits 10 n, rest) :=
  spanDigits_append (fun _ hc => isDigit_of_mem_toDigits hc) h

theorem readWhole_toDigits (n : Nat) (h : ∀ c ∈ rest.head?, isDigit c = false) :
    readWhole (Nat.toDigits 10 n ++ rest) = some (Nat.toDigits 10 n, rest) := by
  have hspan := spanDigits_toDigits n h
  unfold readWhole
  split
  · rename_i he
    obtain ⟨c, cs, hdigits, -, hzero⟩ := exists_toDigits n
    rw [hdigits] at he
    obtain rfl := hzero (List.cons.inj he).1
    rw [Nat.toDigits_zero] at hdigits ⊢
    cases hdigits
    cases he
    rfl
  · simp [hspan, Nat.toDigits_ne_nil]

theorem readFraction_none (h : ∀ c ∈ rest.head?, c ≠ '.') :
    readFraction rest = some (none, rest) := by
  unfold readFraction
  split
  · exact absurd rfl (h '.' rfl)
  · rfl

theorem readExponent_none (h : Ends rest) : readExponent rest = some (none, rest) := by
  cases rest with
  | nil => rfl
  | cons c rest =>
    obtain ⟨-, -, he, hE⟩ := h c rfl
    simp only [readExponent, he, hE, or_self, if_false]

/-- An integer in decimal. -/
theorem toList_toString_int (z : Int) :
    (toString z).toList = if z < 0 then '-' :: Nat.toDigits 10 z.natAbs
      else Nat.toDigits 10 z.natAbs := by
  cases z with
  | ofNat n =>
    have hn : ¬ (Int.ofNat n < 0) := by simp
    rw [if_neg hn]
    exact Nat.toList_repr
  | negSucc n => simp [toString, Int.repr]

theorem readExponent_toString (z : Int) (h : Ends rest) :
    readExponent ('e' :: (toString z).toList ++ rest) = some (some z, rest) := by
  have hspan := spanDigits_toDigits z.natAbs fun c hc => (h c hc).1
  rw [toList_toString_int]
  split
  · have hvalue : -(digitsValue (Nat.toDigits 10 z.natAbs) : Int) = z := by
      rw [digitsValue_toDigits]
      omega
    simp [readExponent, hspan, hvalue, Nat.toDigits_ne_nil]
  · have hz : (z.natAbs : Int) = z := by omega
    obtain ⟨c, cs, hdigits, hc, -⟩ := exists_toDigits z.natAbs
    have hvalue := digitsValue_toDigits z.natAbs
    have hminus : c ≠ '-' := ne_of_isDigit hc (by decide)
    have hplus : c ≠ '+' := ne_of_isDigit hc (by decide)
    rw [hdigits] at hspan hvalue ⊢
    rw [List.cons_append] at hspan
    simp [readExponent, hminus, hplus, hspan, hvalue, hz]

/-- What stands behind the sign of a number. -/
def unsignedText (n : Numeral) : List Char :=
  Nat.toDigits 10 n.digits ++ if n.integral then [] else 'e' :: (toString n.scale).toList

theorem toList_toText (n : Numeral) :
    n.toText.toList = if n.negative then '-' :: unsignedText n else unsignedText n := by
  obtain ⟨negative, digits, scale, integral⟩ := n
  cases negative <;> cases integral <;> simp [Numeral.toText, unsignedText]

theorem exists_unsignedText (n : Numeral) :
    ∃ c cs, unsignedText n = c :: cs ∧ isDigit c = true := by
  obtain ⟨c, cs, hdigits, hc, -⟩ := exists_toDigits n.digits
  refine ⟨c, cs ++ if n.integral then [] else 'e' :: (toString n.scale).toList, ?_, hc⟩
  rw [unsignedText, hdigits, List.cons_append]

/-- A number starts with a minus sign or a digit. -/
theorem exists_toText (n : Numeral) :
    ∃ c cs, n.toText.toList = c :: cs ∧ (c = '-' ∨ isDigit c = true) := by
  rw [toList_toText]
  split
  · exact ⟨'-', _, rfl, .inl rfl⟩
  · obtain ⟨c, cs, htext, hc⟩ := exists_unsignedText n
    exact ⟨c, cs, htext, .inr hc⟩

/-- The reader of what stands behind the sign of a number. -/
def readUnsigned (negative : Bool) (cs : List Char) : Option (Numeral × List Char) := do
  let (whole, cs) ← readWhole cs
  let (fraction, cs) ← readFraction cs
  let (exponent, cs) ← readExponent cs
  let behind := fraction.getD []
  let numeral : Numeral :=
    { negative
      digits := digitsValue (whole ++ behind)
      scale := exponent.getD 0 - behind.length
      integral := fraction.isNone && exponent.isNone }
  some (numeral, cs)

theorem readNumber_minus (cs : List Char) : readNumber ('-' :: cs) = readUnsigned true cs := rfl

theorem readNumber_digit {c : Char} {cs : List Char} (h : isDigit c = true) :
    readNumber (c :: cs) = readUnsigned false (c :: cs) := by
  have hminus : c ≠ '-' := ne_of_isDigit h (by decide)
  simp [readNumber, readUnsigned, hminus]

theorem readUnsigned_unsignedText {n : Numeral} (hn : n.Tidy) (h : Ends rest) :
    readUnsigned n.negative (unsignedText n ++ rest) = some (n, rest) := by
  obtain ⟨negative, digits, scale, integral⟩ := n
  cases integral with
  | true =>
    obtain rfl : scale = 0 := hn rfl
    have hwhole := readWhole_toDigits digits fun c hc => (h c hc).1
    have hfraction := readFraction_none fun c hc => (h c hc).2.1
    simp [readUnsigned, unsignedText, hwhole, hfraction, readExponent_none h, digitsValue_toDigits]
  | false =>
    have hexponent := readExponent_toString scale h
    rw [unsignedText]
    generalize (toString scale).toList = exponent at hexponent ⊢
    have hwhole : readWhole (Nat.toDigits 10 digits ++ 'e' :: (exponent ++ rest)) = _ :=
      readWhole_toDigits digits (by simp [isDigit])
    have hfraction : readFraction ('e' :: (exponent ++ rest)) = _ := readFraction_none (by simp)
    rw [List.cons_append] at hexponent
    simp [readUnsigned, hwhole, hfraction, hexponent, digitsValue_toDigits]

theorem readNumber_toText {n : Numeral} (hn : n.Tidy) (h : Ends rest) :
    readNumber (n.toText.toList ++ rest) = some (n, rest) := by
  have hread := readUnsigned_unsignedText hn h
  rw [toList_toText]
  cases hsign : n.negative with
  | true =>
    rw [hsign] at hread
    rw [if_pos rfl, List.cons_append, readNumber_minus]
    exact hread
  | false =>
    obtain ⟨c, cs, htext, hc⟩ := exists_unsignedText n
    rw [hsign, htext] at hread
    rw [if_neg (by decide), htext, List.cons_append, readNumber_digit hc]
    exact hread

end

/-! ## Strings -/

theorem hexValue?_hexDigit {n : Nat} (h : n < 16) : Text.hexValue? (Text.hexDigit n) = some n := by
  decide +revert

/-- A character is no half of a surrogate pair. -/
theorem not_isSurrogate (c : Char) :
    isHighSurrogate c.toNat = false ∧ isLowSurrogate c.toNat = false := by
  have hvalid : c.toNat < 0xD800 ∨ 0xDFFF < c.toNat ∧ c.toNat < 0x110000 := c.valid
  simp only [isHighSurrogate, isLowSurrogate, Bool.and_eq_false_iff, decide_eq_false_iff_not]
  omega

section

variable {rest : List Char}

/-- A character is escaped by a letter, escaped by its number, or stands for itself. -/
inductive Escaped (c : Char) : List Char → Prop where
  | letter (e : Char) (h : escaped? e = some c) : Escaped c ['\\', e]
  | number (h : c.toNat < 0x20) :
      Escaped c ['\\', 'u', '0', '0', Text.hexDigit (c.toNat / 16), Text.hexDigit (c.toNat % 16)]
  | itself (hquote : c ≠ '"') (hbackslash : c ≠ '\\') (h : 0x20 ≤ c.toNat) : Escaped c [c]

theorem escaped_escape (c : Char) : Escaped c (escape c) := by
  unfold escape
  split_ifs with hquote hbackslash hn hr ht hb hf hcontrol
  · exact .letter '"' (by rw [hquote]; rfl)
  · exact .letter '\\' (by rw [hbackslash]; rfl)
  · exact .letter 'n' (by rw [hn]; rfl)
  · exact .letter 'r' (by rw [hr]; rfl)
  · exact .letter 't' (by rw [ht]; rfl)
  · exact .letter 'b' (by rw [hb]; rfl)
  · exact .letter 'f' (by rw [hf]; rfl)
  · exact .number hcontrol
  · exact .itself hquote hbackslash (by omega)

theorem readUnits_escape (c : Char) (cs : List Char) :
    readUnits (escape c ++ cs) =
      (readUnits cs).map fun (units, rest) => (c.toNat :: units, rest) := by
  have hescaped := escaped_escape c
  generalize escape c = text at hescaped ⊢
  cases hescaped with
  | letter e h =>
    have hu : e ≠ 'u' := by
      rintro rfl
      cases h
    have hread := readUnits.eq_3 e cs fun _ _ _ _ _ he => absurd he hu
    rw [List.cons_append, List.singleton_append, hread, h]
    cases readUnits cs <;> rfl
  | number h =>
    have hvalue : hexQuad? '0' '0' (Text.hexDigit (c.toNat / 16)) (Text.hexDigit (c.toNat % 16)) =
        some c.toNat := by
      have hzero : Text.hexValue? '0' = some 0 := by decide
      have hhigh := hexValue?_hexDigit (n := c.toNat / 16) (by omega)
      have hlow := hexValue?_hexDigit (n := c.toNat % 16) (by omega)
      simp only [hexQuad?, Text.hexFrom, hzero, hhigh, hlow]
      congr 1
      omega
    simp only [List.cons_append, List.nil_append, readUnits.eq_2, hvalue]
    cases readUnits cs <;> rfl
  | itself hquote hbackslash h =>
    rw [List.singleton_append, readUnits.eq_4 _ _ hquote (fun _ _ _ _ _ he => absurd he hbackslash)
      (fun _ _ he => absurd he hbackslash), if_neg (by omega)]

theorem readUnits_escapes (cs : List Char) :
    readUnits (cs.flatMap escape ++ '"' :: rest) = some (cs.map Char.toNat, rest) := by
  induction cs with
  | nil => rfl
  | cons c cs ih =>
    rw [List.flatMap_cons, List.append_assoc, readUnits_escape, ih]
    rfl

theorem charsOfUnits?_map (cs : List Char) : charsOfUnits? (cs.map Char.toNat) = some cs := by
  induction cs with
  | nil => rfl
  | cons c cs ih =>
    obtain ⟨hhigh, hlow⟩ := not_isSurrogate c
    rw [List.map_cons, charsOfUnits?.eq_def]
    simp [hhigh, hlow, ih]

theorem toList_quote (s : String) :
    (quote s).toList = '"' :: s.toList.flatMap escape ++ ['"'] :=
  String.toList_ofList

theorem readString_quote (s : String) :
    readString (s.toList.flatMap escape ++ '"' :: rest) = some (some s, rest) := by
  rw [readString, readUnits_escapes]
  simp [charsOfUnits?_map]

/-- A string or key in quotes, also one that is ill-formed. -/
theorem readString_quoteOrSurrogate (s : Option String) :
    ∃ cs, (quoteOrSurrogate s).toList = '"' :: cs ∧
      ∀ rest, readString (cs ++ rest) = some (s, rest) := by
  cases s with
  | none => exact ⟨['\\', 'u', 'd', '8', '0', '0', '"'], by decide, fun rest => rfl⟩
  | some s =>
    refine ⟨s.toList.flatMap escape ++ ['"'], toList_quote s, fun rest => ?_⟩
    rw [List.append_assoc]
    exact readString_quote s

end

end Json

end SessionKeeper
