import Kaomoji.Position
import Mathlib.Data.List.DropRight
import Mathlib.Tactic.Common

/-!
# Places of a text

A position is moved along character by character, so what it says about the text is spread over
all the steps that led to it.  This module says it at once: `Position.behind before` is the place
behind the text `before`, with its three numbers read off that text.  `behind_append` is the bridge
to the stepwise account; everything that is later said of lines and columns rests on it.

The column needs the part of a text that its last newline leaves open, `Text.openLine`.  It is also
the part of a source line that a snippet shows left of a place, which is why it is a notion of its
own here and not a number.
-/

namespace Kaomoji

namespace Text

/-! ## The line that a text leaves open -/

/-- The characters of a text behind its last newline, and all of them where it has none. -/
def openLine (before : List Char) : List Char := before.rtakeWhile (· ≠ '\n')

/-- The index just behind the last newline of a text, and zero where it has none. -/
def lineStart (before : List Char) : Nat := before.length - (openLine before).length

@[simp] lemma openLine_nil : openLine [] = [] := rfl

lemma openLine_concat_newline (before : List Char) : openLine (before ++ ['\n']) = [] :=
  List.rtakeWhile_concat_neg _ _ _ (by simp)

lemma openLine_concat (before : List Char) {c : Char} (hc : c ≠ '\n') :
    openLine (before ++ [c]) = openLine before ++ [c] :=
  List.rtakeWhile_concat_pos _ _ _ (by simpa using hc)

lemma openLine_append (before : List Char) {more : List Char} (hmore : '\n' ∉ more) :
    openLine (before ++ more) = openLine before ++ more := by
  induction more using List.reverseRecOn with
  | nil => simp
  | append_singleton more c ih =>
    have hc : c ≠ '\n' := by rintro rfl; simp at hmore
    have hrest : '\n' ∉ more := fun h => hmore (by simp [h])
    rw [← List.append_assoc, openLine_concat _ hc, ih hrest, List.append_assoc]

/-- What stands before a newline is not on the open line. -/
lemma openLine_append_newline (before more : List Char) :
    openLine (before ++ '\n' :: more) = openLine more := by
  induction more using List.reverseRecOn with
  | nil => exact openLine_concat_newline before
  | append_singleton more c ih =>
    rw [← List.cons_append, ← List.append_assoc]
    by_cases hc : c = '\n'
    · subst hc
      rw [openLine_concat_newline, openLine_concat_newline]
    · rw [openLine_concat _ hc, openLine_concat _ hc, ih]

lemma openLine_length_le (before : List Char) : (openLine before).length ≤ before.length :=
  (List.rtakeWhile_suffix _ _).length_le

end Text

attribute [ext] Position

namespace Position

/-! ## The place behind a text -/

/-- **The place behind a text**: its newlines counted, its characters counted, and its characters
counted from its last newline on. -/
def behind (before : List Char) : Position where
  line := before.count '\n'
  column := before.length - Text.lineStart before
  index := before.length

@[simp] lemma behind_index (before : List Char) : (behind before).index = before.length := rfl

@[simp] lemma behind_line (before : List Char) : (behind before).line = before.count '\n' := rfl

lemma behind_column (before : List Char) :
    (behind before).column = (Text.openLine before).length := by
  have := Text.openLine_length_le before
  simp only [behind, Text.lineStart]
  omega

lemma behind_concat (before : List Char) (c : Char) :
    behind (before ++ [c]) = (behind before).after c := by
  have hcolumn := behind_column (before ++ [c])
  by_cases hc : c = '\n'
  · subst hc
    rw [Text.openLine_concat_newline, List.length_nil] at hcolumn
    ext
    · simp [after]
    · rw [hcolumn]
      simp [after]
    · simp
  · rw [Text.openLine_concat before hc, List.length_append, ← behind_column] at hcolumn
    ext
    · simp [after, hc, List.count_append]
    · rw [hcolumn]
      simp [after, hc]
    · simp

/-- The stepwise account and the account at once agree. -/
lemma behind_append (before more : List Char) :
    behind (before ++ more) = (behind before).afterText more := by
  induction more generalizing before with
  | nil => simp
  | cons c more ih =>
    rw [afterText_cons, ← behind_concat, ← ih, List.append_assoc, List.singleton_append]

end Position

end Kaomoji
