import Kaomoji.Diagnostic.Report
import Kaomoji.Proofs.Place

/-!
# What a reader is shown at a place

A position counts newlines and characters behind them, while a report cuts its snippet out of
`Text.lines`, which drops a carriage return before a newline and has no line behind a final newline.
The two accounts of a line meet in this module.

Let the text be `before ++ rest`, with the place between the two.  Left of the place the reader is
shown `Text.openLine before` and right of it `Text.shownRest rest`, provided that the place is
`Text.Visible`: there is a line at all, and the place is not between a carriage return and its
newline.  This is `lines_getElem?_count`.  What a label may underline is read off it, in
`Label.pointsInto_of_visible` for a single character and in `Label.pointsInto_of_isWord` for a word.
-/

namespace Kaomoji

namespace Text

/-! ## Lines and their ends -/

/-- A line without the carriage return that belongs to its newline. -/
def dropReturn (line : List Char) : List Char :=
  if line.getLast? = some '\r' then line.dropLast else line

lemma dropReturn_of_getLast?_ne {line : List Char} (h : line.getLast? ≠ some '\r') :
    dropReturn line = line := if_neg h

lemma dropReturn_append (left : List Char) {right : List Char}
    (h : right = [] → left.getLast? ≠ some '\r') :
    dropReturn (left ++ right) = left ++ dropReturn right := by
  by_cases hright : right = []
  · subst hright
    rw [List.append_nil, dropReturn_of_getLast?_ne (h rfl)]
    simp [dropReturn]
  · have hlast : (left ++ right).getLast? = right.getLast? :=
      List.getLast?_append_of_ne_nil left hright
    rw [dropReturn, dropReturn, hlast, List.dropLast_append_of_ne_nil hright]
    split <;> rfl

lemma dropReturn_prefix (line : List Char) : dropReturn line <+: line := by
  rw [dropReturn]
  split
  · exact List.dropLast_prefix line
  · exact List.prefix_rfl

/-- A character that neither ends a line nor belongs to a line end goes to the first line. -/
lemma lines_cons {c : Char} {rest line : List Char} {later : List (List Char)} (hc : c ≠ '\n')
    (hreturn : c = '\r' → rest.head? ≠ some '\n') (hrest : lines rest = line :: later) :
    lines (c :: rest) = (c :: line) :: later := by
  rw [lines]
  · rw [hrest]
  · rintro more rfl rfl
    exact hreturn rfl rfl
  · exact hc

/-- A line with its newline is shown without its line end, before the lines that follow. -/
lemma lines_append_newline {line : List Char} (hline : '\n' ∉ line) (more : List Char) :
    lines (line ++ '\n' :: more) = dropReturn line :: lines more := by
  induction line with
  | nil => exact lines_newline more
  | cons c line ih =>
    rw [List.mem_cons, not_or] at hline
    obtain ⟨hc, hline⟩ := hline
    by_cases hend : c = '\r' ∧ line = []
    · obtain ⟨rfl, rfl⟩ := hend
      exact lines_return_newline more
    · have hdrop : dropReturn (c :: line) = c :: dropReturn line :=
        dropReturn_append [c] fun hnil => by simpa using fun hreturn => hend ⟨hreturn, hnil⟩
      rw [hdrop, List.cons_append]
      refine lines_cons (Ne.symm hc) ?_ (ih hline)
      rintro rfl hhead
      rcases line with _ | ⟨d, line⟩
      · exact hend ⟨rfl, rfl⟩
      · simp_all

lemma lines_of_newline_notMem {line : List Char} (hline : '\n' ∉ line) (hne : line ≠ []) :
    lines line = [line] := by
  induction line with
  | nil => exact absurd rfl hne
  | cons c line ih =>
    rw [List.mem_cons, not_or] at hline
    obtain ⟨hc, hline⟩ := hline
    by_cases hnil : line = []
    · subst hnil
      rw [lines]
      · rw [lines_nil]
      · simp
      · exact Ne.symm hc
    · refine lines_cons (Ne.symm hc) ?_ (ih hline hnil)
      intro _ hhead
      exact hline (List.mem_of_mem_head? hhead)

/-! ## The line that holds a place -/

/-- What is shown of a line from a place on, where `rest` is the text behind the place. -/
def shownRest (rest : List Char) : List Char :=
  if '\n' ∈ rest then dropReturn (rest.takeWhile (· ≠ '\n')) else rest

/-- The place between `before` and `rest` is within what is shown or at its end: the text does not
end in a newline right before the place, and the place does not cut a line end in two. -/
structure Visible (before rest : List Char) : Prop where
  line : rest = [] → openLine before ≠ []
  lineEnd : rest.head? = some '\n' → before.getLast? ≠ some '\r'

lemma visible_cons (before : List Char) {c : Char} (hc : c ≠ '\n') (rest : List Char) :
    Visible before (c :: rest) :=
  ⟨by simp, fun hhead => absurd (Option.some.inj hhead) hc⟩

lemma shownRest_prefix (rest : List Char) : shownRest rest <+: rest := by
  rw [shownRest]
  split
  · have hdrop := dropReturn_prefix (rest.takeWhile (· ≠ '\n'))
    exact hdrop.trans (List.takeWhile_prefix _)
  · exact List.prefix_rfl

/-- Some characters that no line end breaks. -/
structure IsWord (word : List Char) : Prop where
  ne_nil : word ≠ []
  unbroken : ∀ c ∈ word, c ≠ '\n' ∧ c ≠ '\r'

lemma IsWord.newline_notMem {word : List Char} (hword : IsWord word) : '\n' ∉ word :=
  fun h => (hword.unbroken _ h).1 rfl

lemma IsWord.visible {word : List Char} (hword : IsWord word) (before rest : List Char) :
    Visible before (word ++ rest) := by
  obtain ⟨c, more, rfl⟩ := List.exists_cons_of_ne_nil hword.ne_nil
  exact visible_cons before (hword.unbroken c List.mem_cons_self).1 (more ++ rest)

lemma IsWord.shownRest_append {word : List Char} (hword : IsWord word) (rest : List Char) :
    shownRest (word ++ rest) = word ++ shownRest rest := by
  have hnewline := hword.newline_notMem
  have hlast : word.getLast? ≠ some '\r' :=
    fun h => (hword.unbroken _ (List.mem_of_getLast? h)).2 rfl
  have htake : (word ++ rest).takeWhile (· ≠ '\n') = word ++ rest.takeWhile (· ≠ '\n') :=
    List.takeWhile_append_of_pos fun c hc => by simpa using (hword.unbroken c hc).1
  by_cases hrest : '\n' ∈ rest
  · rw [shownRest, if_pos (by simp [hrest]), shownRest, if_pos hrest, htake,
      dropReturn_append word fun _ => hlast]
  · rw [shownRest, if_neg (by simp [hrest, hnewline]), shownRest, if_neg hrest]

lemma lines_getElem?_zero {before rest : List Char} (hbefore : '\n' ∉ before)
    (h : Visible before rest) :
    (lines (before ++ rest))[0]? = some (before ++ shownRest rest) := by
  by_cases hrest : '\n' ∈ rest
  · obtain ⟨line, more, rfl, hline⟩ := List.eq_append_cons_of_mem hrest
    have htake : (line ++ '\n' :: more).takeWhile (· ≠ '\n') = line := by
      rw [List.takeWhile_append_of_pos]
      · simp
      · intro c hc
        exact decide_eq_true fun hnewline => hline (hnewline ▸ hc)
    have hreturn : line = [] → before.getLast? ≠ some '\r' := by
      rintro rfl
      exact h.lineEnd rfl
    have hboth : '\n' ∉ before ++ line := by simp [hbefore, hline]
    rw [shownRest, if_pos hrest, htake, ← dropReturn_append before hreturn, ← List.append_assoc,
      lines_append_newline hboth]
    rfl
  · have hne : before ++ rest ≠ [] := by
      intro hnil
      obtain ⟨rfl, rfl⟩ := List.append_eq_nil_iff.1 hnil
      exact h.line rfl rfl
    rw [shownRest, if_neg hrest, lines_of_newline_notMem (by simp [hbefore, hrest]) hne]
    rfl

/-- **The line that holds a visible place** is what stands open before the place and what is shown
of the text behind it. -/
lemma lines_getElem?_count {before rest : List Char} (h : Visible before rest) :
    (lines (before ++ rest))[before.count '\n']? = some (openLine before ++ shownRest rest) := by
  induction hn : before.length using Nat.strong_induction_on generalizing before with
  | _ n ih =>
    by_cases hbefore : '\n' ∈ before
    · -- the first line of the text is passed over
      obtain ⟨line, later, rfl, hline⟩ := List.eq_append_cons_of_mem hbefore
      have hlater : Visible later rest := by
        refine ⟨fun hrest => ?_, fun hhead hlast => ?_⟩
        · simpa only [openLine_append_newline] using h.line hrest
        · have hne : later ≠ [] := by
            rintro rfl
            simp at hlast
          apply h.lineEnd hhead
          rw [List.append_cons, List.getLast?_append_of_ne_nil _ hne, hlast]
      have hlt : later.length < n := by
        rw [← hn, List.length_append, List.length_cons]
        omega
      have hcount : (line ++ '\n' :: later).count '\n' = later.count '\n' + 1 := by
        simp [List.count_append, List.count_eq_zero_of_not_mem hline]
      rw [openLine_append_newline, hcount, List.append_assoc, List.cons_append,
        lines_append_newline hline, List.getElem?_cons_succ]
      exact ih _ hlt hlater rfl
    · have hopen : openLine before = before := by
        simpa using openLine_append [] hbefore
      rw [hopen, List.count_eq_zero_of_not_mem hbefore]
      exact lines_getElem?_zero hbefore h

end Text

/-! ## What a label underlines -/

/-- The characters of a line that a label stands below. -/
def Label.underlined (label : Label) (line : List Char) : List Char :=
  (line.drop label.position.column).take label.length

/-- The label points into the row `row` of the text `source`: that row is shown as the label's
line, the label does not reach further than one character behind it, and what is shown at the
label's column is what stands at its index. -/
structure Label.PointsInto (label : Label) (source row : List Char) : Prop where
  shown : (Text.lines source)[label.position.line]? = some row
  fits : label.position.column + max label.length 1 ≤ row.length + 1
  sameChar : label.position.column < row.length →
    row[label.position.column]? = source[label.position.index]?

namespace Label

variable {label : Label} {before rest : List Char}

/-- What is shown at a place is the character behind the place, if anything is shown there. -/
lemma getElem?_shown (before : List Char) {rest : List Char}
    (hlt : (Text.openLine before).length < (Text.openLine before ++ Text.shownRest rest).length) :
    (Text.openLine before ++ Text.shownRest rest)[(Text.openLine before).length]? =
      (before ++ rest)[before.length]? := by
  rw [List.length_append] at hlt
  have hpos : 0 < (Text.shownRest rest).length := by omega
  obtain ⟨hidden, hrest⟩ := Text.shownRest_prefix rest
  have hhead : (Text.shownRest rest)[0]? = rest[0]? := by
    nth_rewrite 2 [← hrest]
    rw [List.getElem?_append_left hpos]
  rw [List.getElem?_append_right le_rfl, List.getElem?_append_right le_rfl, Nat.sub_self,
    Nat.sub_self, hhead]

/-- A label of at most one character may stand at any visible place. -/
lemma pointsInto_of_visible (h : Text.Visible before rest) (hplace : label.position = .behind before)
    (hlength : label.length ≤ 1) :
    label.PointsInto (before ++ rest) (Text.openLine before ++ Text.shownRest rest) where
  shown := by
    rw [hplace]
    exact Text.lines_getElem?_count h
  fits := by
    rw [hplace, Position.behind_column, List.length_append]
    omega
  sameChar := by
    rw [hplace, Position.behind_column, Position.behind_index]
    exact getElem?_shown before

/-- A label may stand below a word, or below a part of it. -/
lemma pointsInto_of_isWord {word : List Char} (hword : Text.IsWord word)
    (hplace : label.position = .behind before) (hlength : label.length ≤ word.length) :
    label.PointsInto (before ++ (word ++ rest))
      (Text.openLine before ++ (word ++ Text.shownRest rest)) where
  shown := by
    rw [hplace, ← hword.shownRest_append]
    exact Text.lines_getElem?_count (hword.visible before rest)
  fits := by
    have hpos := List.length_pos_of_ne_nil hword.ne_nil
    rw [hplace, Position.behind_column, List.length_append, List.length_append]
    omega
  sameChar := by
    rw [hplace, Position.behind_column, Position.behind_index, ← hword.shownRest_append]
    exact getElem?_shown before

lemma underlined_eq_word {word shown : List Char} (hplace : label.position = .behind before)
    (hlength : label.length = word.length) :
    label.underlined (Text.openLine before ++ (word ++ shown)) = word := by
  rw [underlined, hplace, Position.behind_column, hlength, List.drop_left, List.take_left]

end Label

end Kaomoji
