import Mathlib.Data.List.DropRight
import Mathlib.Data.List.TakeWhile
import SessionKeeper.Text.Blank

/-!
# What trimming leaves

Trimming removes blanks from the two ends of a text and nothing else: what is left neither starts
nor ends with a blank, is not longer than the text, and is empty only if the text holds nothing but
blanks.
-/

namespace SessionKeeper.Text

/-- A text that neither starts nor ends with a blank. -/
structure Trimmed (s : String) : Prop where
  start : ∀ c ∈ s.toList.head?, isBlank c = false
  stop : ∀ c ∈ s.toList.getLast?, isBlank c = false

/-- Of a text with nothing but blanks, and of no other, trimming leaves nothing. -/
theorem trim_eq_empty_iff {s : String} : trim s = "" ↔ allBlank s = true := by
  have hrest : trim s = "" ↔ ∀ c ∈ trimStart s.toList, isBlank c = true := by
    simp [trim, trimEnd, List.dropWhile_eq_nil_iff]
  rw [hrest, allBlank, List.all_eq_true]
  constructor
  · intro h c hc
    rw [← List.takeWhile_append_dropWhile (p := isBlank) (l := s.toList)] at hc
    rcases List.mem_append.mp hc with hc | hc
    · exact List.mem_takeWhile_imp hc
    · exact h c hc
  · intro h c hc
    exact h c ((List.dropWhile_sublist _).subset hc)

theorem toList_trim (s : String) : (trim s).toList = trimEnd (trimStart s.toList) :=
  String.toList_ofList

theorem length_trim_le (s : String) : (trim s).length ≤ s.length := by
  have hstart : (trimStart s.toList).length ≤ s.toList.length := List.length_dropWhile_le _ _
  have hstop : (trimEnd (trimStart s.toList)).length ≤ (trimStart s.toList).length :=
    (List.rdropWhile_prefix isBlank _).length_le
  rw [← String.length_toList, ← String.length_toList, toList_trim]
  omega

theorem isBlank_head_dropWhile {cs : List Char} {c : Char}
    (h : c ∈ (cs.dropWhile isBlank).head?) : isBlank c = false := by
  have hhead := List.head?_dropWhile_not isBlank cs
  rw [Option.mem_def.mp h] at hhead
  simpa using hhead

theorem trimmed_trim (s : String) : Trimmed (trim s) := by
  constructor
  · intro c hc
    rw [toList_trim] at hc
    -- what the second cut leaves starts as what the first one has left
    obtain ⟨rest, hrest⟩ : trimEnd (trimStart s.toList) <+: trimStart s.toList :=
      List.rdropWhile_prefix isBlank _
    have hhead : c ∈ (trimStart s.toList).head? := by
      rw [← hrest, List.head?_append, Option.mem_def.mp hc]
      rfl
    exact isBlank_head_dropWhile hhead
  · intro c hc
    rw [toList_trim, trimEnd, List.getLast?_reverse] at hc
    exact isBlank_head_dropWhile hc

end SessionKeeper.Text
