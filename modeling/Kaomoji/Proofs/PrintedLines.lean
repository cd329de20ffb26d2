import Kaomoji.Proofs.ErrorKinds
import Kaomoji.Proofs.Numerals
import Kaomoji.Proofs.Seams

/-!
# Printed lines are read back

A line is shown as its leaves with single blanks between them.  If its names come from a source and
its numbers are finite, what is shown is itself a line of a source, and reading it gives the same
leaves at other places (`exists_treeOf_printed`).  The shown text is a normal form: it may differ
from the text that was read, but showing what it is read as gives it again.

The proof follows the text from left to right.  A shown leaf is one lexeme, whatever stands behind
the separator that follows it (`Leaf.longestLexeme_text`), and the token of that lexeme stands for
the leaf (`Leaf.shows_of_token?`).  So a shown line is cut into the tokens of its leaves
(`TokenStream.exists_ofText_leaves`), and a shown tree is read line by line
(`TokenStream.exists_reading_printed`).
-/

namespace Kaomoji

/-! ## Leaves -/

/-- The numeral of a fraction is one number, up to a separator behind it. -/
lemma Decimal.numberBefore_positional (d : Decimal) {back : List Char}
    (hback : ∀ c ∈ back.head?, Text.isSeparator c) : NumberBefore back d.positional := by
  have hdigits : Text.Stops isDigitOrSeparator back :=
    .of_separators (fun _ => isDigitOrSeparator_of_isSeparator) hback
  have hwhole : ∀ c ∈ d.wholeDigits, c.isDigit := fun c => isDigit_of_mem_wholeDigits
  obtain ⟨c, row, hrow⟩ : ∃ c row, d.wholeDigits = c :: row :=
    List.exists_cons_of_ne_nil Nat.toDigits_ne_nil
  rw [hrow, List.forall_mem_cons] at hwhole
  rw [positional, hrow]
  split
  · apply NumberBefore.whole hwhole.1 (fun e he => isDigitOrSeparator_of_isDigit (hwhole.2 e he))
      hdigits
    apply Text.Stops.of_separators _ hback
    intro c hc
    rcases Text.isSeparator_cases hc with rfl | rfl | rfl <;> decide
  · rename_i hplaces
    obtain ⟨e, fraction, hfraction⟩ : ∃ e fraction, d.fractionDigits = e :: fraction := by
      apply List.exists_cons_of_ne_nil
      intro hnil
      have hlength := length_fractionDigits d
      rw [hnil] at hlength
      exact hplaces hlength.symm
    rw [hfraction]
    apply NumberBefore.point hwhole.1 (fun e he => isDigitOrSeparator_of_isDigit (hwhole.2 e he))
      _ hdigits
    rw [← hfraction]
    intro e he
    exact isDigitOrSeparator_of_isDigit (isDigit_of_mem_fractionDigits he)

/-- A numeral has no separators among its digits. -/
lemma Decimal.withoutSeparators_positional (d : Decimal) :
    withoutSeparators d.positional = d.positional := by
  apply List.filter_eq_self.2
  intro c hc
  rw [decide_eq_true_eq]
  rintro rfl
  obtain h | h := isDigit_or_of_mem_positional hc
  · exact absurd h (by decide)
  · exact absurd h (by decide)

namespace Leaf

/-- The lexeme that a shown leaf is. -/
def lexeme : Leaf → Lexeme
  | .identifier id => .name id.name.toList
  | .number n => .number n.text.toList

lemma extent_lexeme (leaf : Leaf) : leaf.lexeme.extent = leaf.text.toList := by
  cases leaf <;> rfl

lemma isPassed_lexeme (leaf : Leaf) : leaf.lexeme.isPassed := by
  cases leaf <;> rfl

lemma endsLine_lexeme (leaf : Leaf) (afterLineEnd : Bool) :
    leaf.lexeme.endsLine afterLineEnd = false := by
  cases leaf <;> rfl

/-- **A shown leaf is read as one lexeme.** -/
lemma longestLexeme_text {leaf : Leaf} (h : leaf.IsPlain) {back : List Char}
    (hback : ∀ c ∈ back.head?, Text.isSeparator c) :
    longestLexeme (leaf.lexeme.extent ++ back) = leaf.lexeme := by
  cases leaf with
  | identifier id =>
    apply longestLexeme_eq_name_iff.2 ⟨h, _⟩
    exact .of_separators (fun _ => isNameContinue_of_isSeparator) hback
  | number n =>
    have hnumber : NumberBefore back n.text.toList := by
      rw [NumberLiteral.text, Binary64.toList_text h.1 h.2]
      exact Decimal.numberBefore_positional _ hback
    exact longestLexeme_eq_number_iff.2 hnumber

end Leaf

/-- The token stands for the leaf, wherever that was. -/
def Token.Shows (token : Token) (leaf : Leaf) : Prop :=
  token.leaf?.map (Leaf.relocate fun _ => .start) = some (leaf.relocate fun _ => .start)

/-- **The lexeme of a leaf makes a token that stands for the leaf.** -/
lemma Leaf.shows_of_token? {leaf : Leaf} (h : leaf.IsPlain) (origin : Origin) (afterLineEnd : Bool)
    (before : List Char) :
    ∃ token, leaf.lexeme.token? origin afterLineEnd before = some token ∧ token.Shows leaf := by
  cases leaf with
  | identifier id =>
    refine ⟨_, rfl, ?_⟩
    simp [Token.Shows, Token.leaf?, Leaf.relocate, Identifier.relocate]
  | number n =>
    refine ⟨_, rfl, ?_⟩
    have hvalue : numeralValue (withoutSeparators n.text.toList) = n.value := by
      rw [NumberLiteral.text, Binary64.toList_text h.1 h.2, Decimal.withoutSeparators_positional,
        ← Binary64.toList_text h.1 h.2, Binary64.numeralValue_text h.1 h.2]
    simp [Token.Shows, Token.leaf?, Leaf.relocate, NumberLiteral.relocate, hvalue]

/-! ## Lines -/

namespace Token.Shows

variable {token : Token} {leaf : Leaf}

lemma tag_ne_newLine (h : token.Shows leaf) : token.tag ≠ .newLine := by
  intro htag
  rw [Token.Shows, Token.leaf?, Token.tag_eq_newLine.1 htag] at h
  cases h

lemma tag_eq_name {id : Identifier} (h : token.Shows (.identifier id)) : token.tag = .name := by
  rw [Token.Shows, Token.leaf?] at h
  rw [Token.tag]
  split at h
  · rename_i text hkind
    rw [hkind]
    rfl
  · cases h
  all_goals cases h

lemma tags_ne_newLine {words : List Token} {leaves : List Leaf}
    (h : List.Forall₂ Token.Shows words leaves) : ∀ token ∈ words, token.tag ≠ .newLine := by
  induction h with
  | nil => simp
  | cons hshows _ ih => exact List.forall_mem_cons.2 ⟨hshows.tag_ne_newLine, ih⟩

/-- Tokens that stand for leaves are read as these leaves. -/
lemma filterMap_leaf? {words : List Token} {leaves : List Leaf}
    (h : List.Forall₂ Token.Shows words leaves) :
    (words.filterMap Token.leaf?).map (Leaf.relocate fun _ => .start) =
      leaves.map (Leaf.relocate fun _ => .start) := by
  induction h with
  | nil => rfl
  | cons hshows _ ih =>
    obtain ⟨leaf', hleaf', hsame⟩ := Option.map_eq_some_iff.1 hshows
    rw [List.filterMap_cons_some hleaf', List.map_cons, List.map_cons, ih, hsame]

end Token.Shows

lemma Line.toList_text (line : Line) :
    line.text.toList = " ".toList.intercalate (line.leaves.map (·.text.toList)) := by
  simp [Line.text, String.toList_intercalate, Function.comp_def]

namespace TokenStream

/-- **Shown leaves are cut into their tokens**, with a separator behind the last. -/
lemma exists_ofText_leaves {leaves : List Leaf} (hne : leaves ≠ [])
    (hplain : ∀ leaf ∈ leaves, leaf.IsPlain) {back : List Char}
    (hback : ∀ c ∈ back.head?, Text.isSeparator c) (origin : Origin) (afterLineEnd : Bool)
    (before : List Char) :
    ∃ words, List.Forall₂ Token.Shows words leaves ∧
      ofText origin afterLineEnd before
          (" ".toList.intercalate (leaves.map (·.text.toList)) ++ back) =
        (ofText origin false (before ++ " ".toList.intercalate (leaves.map (·.text.toList)))
          back).prepend words := by
  induction leaves generalizing afterLineEnd before with
  | nil => exact absurd rfl hne
  | cons leaf rest ih =>
    obtain ⟨hleaf, hrest⟩ := List.forall_mem_cons.1 hplain
    obtain ⟨token, htoken, hshows⟩ := Leaf.shows_of_token? hleaf origin afterLineEnd before
    -- the first leaf is passed, whatever follows the separator behind it
    have hpass {later : List Char} (hlater : ∀ c ∈ later.head?, Text.isSeparator c) :
        ofText origin afterLineEnd before (leaf.text.toList ++ later) =
          (ofText origin false (before ++ leaf.text.toList) later).prepend [token] := by
      have hstep := ofText_extent_append (Leaf.longestLexeme_text hleaf hlater)
        leaf.isPassed_lexeme origin afterLineEnd before
      rwa [htoken, leaf.extent_lexeme, leaf.endsLine_lexeme] at hstep
    rcases rest with _ | ⟨next, rest⟩
    · refine ⟨[token], .cons hshows .nil, ?_⟩
      simpa using hpass hback
    · obtain ⟨words, hwords, hstream⟩ := ih (List.cons_ne_nil _ _) hrest false
        (before ++ leaf.text.toList ++ [' '])
      refine ⟨token :: words, .cons hshows hwords, ?_⟩
      have hsplit : " ".toList.intercalate ((leaf :: next :: rest).map (·.text.toList)) =
          leaf.text.toList ++
            ' ' :: " ".toList.intercalate ((next :: rest).map (·.text.toList)) := by
        simp
      rw [hsplit, List.append_assoc, List.cons_append, hpass (by simp; decide),
        ofText_blank (by decide), hstream, prepend_prepend]
      simp

/-- The tokens of a shown line are read as the line. -/
lemma reading_shown {words : List Token} {leaves args : List Leaf} {head : Identifier}
    (hwords : List.Forall₂ Token.Shows words leaves) (hleaves : leaves = .identifier head :: args)
    {newLine : Token} (hnewLine : newLine.tag = .newLine) (stream : TokenStream) :
    ((stream.prepend [newLine]).prepend words).reading =
      (⟨words.filterMap Token.leaf?⟩ :: ·) <$> stream.reading := by
  subst hleaves
  cases hwords with
  | cons hhead hargs =>
    exact reading_line stream.tokens stream.ending hhead.tag_eq_name
      (Token.Shows.tags_ne_newLine hargs) hnewLine

/-- **A shown tree is read as the tree**, if its lines begin with names. -/
lemma exists_reading_printed {tree : Tree}
    (hplain : ∀ line ∈ tree, ∀ leaf ∈ line.leaves, leaf.IsPlain)
    (hheads : ∀ line ∈ tree, ∃ head args, line.leaves = .identifier head :: args) (origin : Origin)
    (afterLineEnd : Bool) (before : List Char) :
    ∃ again,
      (ofText origin afterLineEnd before (unlines (tree.map Line.text)).toList).reading = .ok again ∧
      Tree.relocate (fun _ => .start) again = Tree.relocate (fun _ => .start) tree := by
  induction tree generalizing afterLineEnd before with
  | nil =>
    refine ⟨[], ?_, rfl⟩
    simp only [List.map_nil, unlines_nil, String.toList_empty, ofText_nil]
    rfl
  | cons line rest ih =>
    obtain ⟨hline, hrest⟩ := List.forall_mem_cons.1 hplain
    obtain ⟨⟨head, args, hleaves⟩, hheads⟩ := List.forall_mem_cons.1 hheads
    have hne : line.leaves ≠ [] := by simp [hleaves]
    have hnewline : ∀ c ∈ ('\n' :: (unlines (rest.map Line.text)).toList).head?,
        Text.isSeparator c := by
      rintro c ⟨⟩
      decide
    obtain ⟨words, hwords, hstream⟩ := exists_ofText_leaves hne hline hnewline origin afterLineEnd
      before
    obtain ⟨again, hagain, hsame⟩ := ih hrest hheads true (before ++ line.text.toList ++ ['\n'])
    have htext : (unlines ((line :: rest).map Line.text)).toList =
        line.text.toList ++ '\n' :: (unlines (rest.map Line.text)).toList := by
      simp
    refine ⟨⟨words.filterMap Token.leaf?⟩ :: again, ?_, ?_⟩
    · rw [← line.toList_text, ofText_newline] at hstream
      rw [htext, hstream, if_neg Bool.false_ne_true, reading_shown hwords hleaves rfl, hagain]
      rfl
    · simp only [Tree.relocate, List.map_cons, List.cons.injEq]
      refine ⟨?_, hsame⟩
      rw [Line.relocate, Line.relocate, Token.Shows.filterMap_leaf? hwords]

end TokenStream

/-! ## Sources -/

/-- What is shown of a leaf does not depend on its place. -/
lemma Leaf.text_relocate {f : Position → Position} (leaf : Leaf) :
    (leaf.relocate f).text = leaf.text := by
  cases leaf <;> rfl

lemma Line.text_relocate {f : Position → Position} (line : Line) :
    (line.relocate f).text = line.text := by
  simp [Line.text, Line.relocate, Function.comp_def, Leaf.text_relocate]

lemma Tree.map_text_eq_of_relocate_eq {f : Position → Position} {tree again : Tree}
    (h : Tree.relocate f again = Tree.relocate f tree) :
    again.map Line.text = tree.map Line.text := by
  have htext (tree : Tree) : (Tree.relocate f tree).map Line.text = tree.map Line.text := by
    simp [Tree.relocate, Function.comp_def, Line.text_relocate]
  rw [← htext again, h, htext]

/-- **Shown lines are read back.**  The text of the lines of a source with finite numbers is read as
the same lines, positions aside, and showing these gives the text again. -/
theorem exists_treeOf_printed {source : String} {settings : Settings} {tree : Tree}
    (h : treeOf source settings = .ok tree) (hfinite : Tree.IsFinite tree) (settings' : Settings) :
    ∃ again, treeOf (unlines (tree.map Line.text)) settings' = .ok again ∧
      Tree.relocate (fun _ => .start) again = Tree.relocate (fun _ => .start) tree ∧
      unlines (again.map Line.text) = unlines (tree.map Line.text) := by
  have hreading := treeOf_eq_ok_iff.1 h
  have hplain : ∀ line ∈ tree, ∀ leaf ∈ line.leaves, leaf.IsPlain :=
    fun line hline leaf hleaf => Leaf.isPlain_of_mem_tree h hfinite hline hleaf
  have hheads : ∀ line ∈ tree, ∃ head args, line.leaves = .identifier head :: args := by
    intro line hline
    rw [TokenStream.eq_tree_of_reading hreading] at hline
    apply exists_identifier_of_mem_tree _ hline
    rw [TokenStream.reading] at hreading
    split at hreading
    · cases hreading
    · assumption
  obtain ⟨again, hagain, hsame⟩ := TokenStream.exists_reading_printed hplain hheads
    settings'.origin false []
  refine ⟨again, ?_, hsame, ?_⟩
  · rw [treeOf_eq_ok_iff, streamOf_eq_ofText]
    exact hagain
  · rw [Tree.map_text_eq_of_relocate_eq hsame]

/-- Blanks, blank lines and spellings of numbers are lost, and nothing else. -/
theorem exists_treeOf_printed_spellings :
    ∃ again, treeOf "UwU x.@ 2.5 1000\nO.O y\n" .inMemory = .ok again ∧
      Tree.relocate (fun _ => .start) again =
        [⟨[.identifier ⟨"UwU", .start⟩, .identifier ⟨"x.@", .start⟩,
            .number ⟨⟨0x4004000000000000⟩, .start⟩, .number ⟨⟨0x408f400000000000⟩, .start⟩]⟩,
          ⟨[.identifier ⟨"O.O", .start⟩, .identifier ⟨"y", .start⟩]⟩] ∧
      unlines (again.map Line.text) = "UwU x.@ 2.5 1000\nO.O y\n" := by
  have htree : treeOf "\nUwU  x.@ 2.50 1_000\n \nO.O y \n" .inMemory =
      .ok [⟨[.identifier ⟨"UwU", ⟨1, 0, 1⟩⟩, .identifier ⟨"x.@", ⟨1, 5, 6⟩⟩,
            .number ⟨⟨0x4004000000000000⟩, ⟨1, 9, 10⟩⟩,
            .number ⟨⟨0x408f400000000000⟩, ⟨1, 14, 15⟩⟩]⟩,
          ⟨[.identifier ⟨"O.O", ⟨3, 0, 23⟩⟩, .identifier ⟨"y", ⟨3, 4, 27⟩⟩]⟩] := by
    decide +kernel
  have hprinted : unlines [Line.text ⟨[.identifier ⟨"UwU", ⟨1, 0, 1⟩⟩,
        .identifier ⟨"x.@", ⟨1, 5, 6⟩⟩, .number ⟨⟨0x4004000000000000⟩, ⟨1, 9, 10⟩⟩,
        .number ⟨⟨0x408f400000000000⟩, ⟨1, 14, 15⟩⟩]⟩,
      Line.text ⟨[.identifier ⟨"O.O", ⟨3, 0, 23⟩⟩, .identifier ⟨"y", ⟨3, 4, 27⟩⟩]⟩] =
      "UwU x.@ 2.5 1000\nO.O y\n" := by
    decide +kernel
  obtain ⟨again, hagain, hsame, htext⟩ := exists_treeOf_printed htree (by decide +kernel) .inMemory
  simp only [List.map_cons, List.map_nil, hprinted] at hagain htext
  exact ⟨again, hagain, hsame, htext⟩

end Kaomoji
