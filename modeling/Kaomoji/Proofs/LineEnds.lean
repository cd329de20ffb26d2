import Kaomoji.Proofs.ScannerRun
import Kaomoji.Proofs.Seams
import Mathlib.Data.List.Chain

/-!
# Line ends

Whether a newline makes a token is decided by the token before it, which may lie any number of
blanks and newlines back.  The tokens that come out can be said without that memory: between two
words there is one line-end token if the text between them has a newline, it stands at the first
one, and otherwise there is none; and so before the first word and behind the last
(`SeparatesLines`).

Two arguments lead there.  Along a text, `TokenStream.exists_gap` follows the lexemes from the end
of one word to the next, with the memory of the scanner as a parameter; that the words before are
of no concern is `TokenStream.exists_cut_at_token`.  Along the calls of a scanner, errors included,
the memory is the token that was made last (`Scanner.last_afterCalls`), and so no two line ends
follow each other.
-/

namespace Kaomoji

/-! ## What separates two words -/

/-- Whether a token is a name or a number. -/
def Token.isWord (token : Token) : Bool := token.tag = .name || token.tag = .number

/-- The index behind the lexeme of a token. -/
def Token.stop (token : Token) : Nat := token.position.index + token.span

/-- The part of a text from one index to another. -/
def Text.between (source : List Char) (start stop : Nat) : List Char :=
  (source.take stop).drop start

lemma Text.between_append (front middle back : List Char) :
    between (front ++ (middle ++ back)) front.length (front ++ middle).length = middle := by
  rw [between, ← List.append_assoc, List.take_left, List.drop_left]

/-- **The line ends of a gap** behind the text `before`: one at the first newline of the gap, or
none if it has no newline. -/
def lineEnds (origin : Origin) (before gap : List Char) : List Token :=
  if '\n' ∈ gap then [⟨.newLine, .behind (before ++ gap.takeWhile (· ≠ '\n')), 1, origin⟩] else []

@[simp] lemma lineEnds_nil (origin : Origin) (before : List Char) :
    lineEnds origin before [] = [] := rfl

@[simp] lemma lineEnds_newline (origin : Origin) (before gap : List Char) :
    lineEnds origin before ('\n' :: gap) = [⟨.newLine, .behind before, 1, origin⟩] := by
  simp [lineEnds]

lemma lineEnds_cons {c : Char} (hc : c ≠ '\n') (origin : Origin) (before gap : List Char) :
    lineEnds origin before (c :: gap) = lineEnds origin (before ++ [c]) gap := by
  simp [lineEnds, hc, hc.symm]

/-- **Line ends separate the words of a text**, as the text itself does. -/
structure SeparatesLines (origin : Origin) (source : List Char) (tokens : List Token) : Prop where
  /-- Between two successive words. -/
  between : ∀ front word gap word' back, tokens = front ++ word :: (gap ++ word' :: back) →
    word.isWord → word'.isWord → (∀ token ∈ gap, token.isWord = false) →
    gap = lineEnds origin (source.take word.stop)
      (Text.between source word.stop word'.position.index)
  /-- Before the first word. -/
  first : ∀ gap word back, tokens = gap ++ word :: back → word.isWord →
    (∀ token ∈ gap, token.isWord = false) →
    gap = lineEnds origin [] (source.take word.position.index)
  /-- Behind the last word, where the end of the text comes next. -/
  last : ∀ front word gap, tokens = front ++ word :: gap → word.isWord →
    (∀ token ∈ gap, token.isWord = false) →
    gap = lineEnds origin (source.take word.stop) (source.drop word.stop) ++
      [⟨.endOfFile, .behind source, 0, origin⟩]
  /-- In a text without words. -/
  wordless : (∀ token ∈ tokens, token.isWord = false) →
    tokens = lineEnds origin [] source ++ [⟨.endOfFile, .behind source, 0, origin⟩]

/-! ## Along a text -/

/-- A lexeme makes a word or a line end. -/
lemma Lexeme.tag_of_token? {lexeme : Lexeme} {origin : Origin} {afterLineEnd : Bool}
    {before : List Char} {token : Token}
    (h : lexeme.token? origin afterLineEnd before = some token) :
    (token.isWord ∧ ∀ flag, lexeme.endsLine flag = false) ∨ token.tag = .newLine := by
  cases lexeme with
  | textEnd | blank _ | faulty _ _ => cases h
  | lineEnd =>
    rw [token?] at h
    split_ifs at h
    cases h
    exact Or.inr rfl
  | name _ | number _ =>
    cases h
    exact Or.inl ⟨rfl, fun _ => rfl⟩

namespace TokenStream

variable {origin : Origin} {afterLineEnd : Bool} {before rest : List Char}

lemma tag_eq_newLine_of_mem {token : Token}
    (h : token ∈ (ofText origin afterLineEnd before rest).tokens) (hword : token.isWord = false) :
    token.tag = .newLine := by
  obtain ⟨earlier, later, hsplit⟩ := List.append_of_mem h
  obtain ⟨_, _, _, _, -, -, -, htoken, -, -⟩ := exists_cut_at_token hsplit
  rcases Lexeme.tag_of_token? htoken with ⟨hisWord, -⟩ | htag
  · rw [hword] at hisWord
    cases hisWord
  · exact htag

/-- Where a list begins with something else than a line end, no line ends come before. -/
lemma eq_nil_of_cons_eq {first next : Token} {more gap back : List Token}
    (h : first :: more = gap ++ next :: back) (hfirst : first.tag ≠ .newLine)
    (hgap : ∀ token ∈ gap, token.tag = .newLine) : gap = [] ∧ next = first := by
  rcases gap with _ | ⟨head, gap⟩
  · exact ⟨rfl, (List.cons.inj h).1.symm⟩
  · obtain ⟨rfl, -⟩ := List.cons.inj h
    exact absurd (hgap _ List.mem_cons_self) hfirst

/-- **From the end of one word to the next.**  The tokens up to the next word, or the end of the
text, are the line ends of what is passed over; behind a line end there are none. -/
lemma exists_gap {last next : Token} {gap back : List Token}
    (hending : (ofText origin afterLineEnd before rest).ending = .ok last)
    (hsplit : (ofText origin afterLineEnd before rest).tokens ++ [last] = gap ++ next :: back)
    (hgap : ∀ token ∈ gap, token.tag = .newLine) (hnext : next.tag ≠ .newLine) :
    ∃ skipped later, rest = skipped ++ later ∧ next.position = .behind (before ++ skipped) ∧
      gap = if afterLineEnd then [] else lineEnds origin before skipped := by
  induction rest using lexeme_induction generalizing afterLineEnd before gap with
  | atEnd =>
    obtain rfl := eq_endOfFile_of_ending hending
    rw [ofText_nil] at hsplit
    obtain ⟨rfl, rfl⟩ := eq_nil_of_cons_eq hsplit (by simp [Token.tag, TokenKind.tag]) hgap
    exact ⟨[], [], rfl, rfl, by simp⟩
  | atFault rest read fault hfault => simp [ofText_faulty hfault] at hending
  | pass lexeme more hlexeme hpassed ih =>
    rw [ofText_extent_append hlexeme hpassed] at hending hsplit
    cases lexeme with
    | textEnd | faulty _ _ => cases hpassed
    | blank c =>
      obtain ⟨skipped, later, rfl, hposition, hlines⟩ := ih hending hsplit hgap
      have hblank := longestLexeme_eq_blank_iff.1 hlexeme
      have hc : c ≠ '\n' := by
        rintro rfl
        exact absurd hblank (by decide)
      refine ⟨c :: skipped, later, rfl, ?_, ?_⟩
      · rw [hposition, List.append_assoc]
        rfl
      · rw [hlines, lineEnds_cons hc]
        rfl
    | lineEnd =>
      cases afterLineEnd with
      | true =>
        obtain ⟨skipped, later, rfl, hposition, hlines⟩ := ih hending hsplit hgap
        refine ⟨'\n' :: skipped, later, rfl, ?_, hlines⟩
        rw [hposition, List.append_assoc]
        rfl
      | false =>
        -- the line end is remembered, so that the newlines behind it make no tokens
        rcases gap with _ | ⟨head, gap⟩
        · obtain ⟨rfl, -⟩ := List.cons.inj hsplit
          exact absurd rfl hnext
        · obtain ⟨rfl, hmore⟩ := List.cons.inj hsplit
          obtain ⟨skipped, later, rfl, hposition, rfl⟩ :=
            ih hending hmore fun token htoken => hgap token (List.mem_cons_of_mem _ htoken)
          refine ⟨'\n' :: skipped, later, rfl, ?_, by simp [Lexeme.endsLine]⟩
          rw [hposition, List.append_assoc]
          rfl
    | name text | number text =>
      obtain ⟨rfl, rfl⟩ := eq_nil_of_cons_eq hsplit (by simp [Token.tag, TokenKind.tag]) hgap
      exact ⟨[], _, rfl, by simp, by simp⟩

section

variable {source : List Char} {last word next : Token} {front gap back : List Token}

/-- **The line ends behind a word** are those of the text up to the next word, or to the end. -/
lemma gap_behind_word (hending : (ofText origin false [] source).ending = .ok last)
    (hsplit : (ofText origin false [] source).tokens ++ [last] =
      front ++ word :: (gap ++ next :: back)) (hword : word.isWord)
    (hgap : ∀ token ∈ gap, token.tag = .newLine) (hnext : next.tag ≠ .newLine) :
    gap = lineEnds origin (source.take word.stop)
      (Text.between source word.stop next.position.index) := by
  rw [List.append_cons front] at hsplit
  obtain ⟨later, htokens, hlater⟩ := exists_tokens_eq hsplit (by simp)
  rw [List.append_assoc, List.singleton_append] at htokens
  obtain ⟨start, lexeme, behind, atLineEnd, rfl, hlexeme, hpassed, hmade, rfl, hback⟩ :=
    exists_cut_at_token htokens
  -- behind a word no line end is remembered
  have hflag : lexeme.endsLine atLineEnd = false := by
    rcases Lexeme.tag_of_token? hmade with ⟨-, hflag⟩ | hnewLine
    · exact hflag atLineEnd
    · rw [Token.isWord, hnewLine] at hword
      cases hword
  rw [hback _ rfl, ofText_extent_append hlexeme hpassed, hflag] at hending
  rw [hflag] at hlater
  obtain ⟨skipped, rest, rfl, hposition, hlines⟩ := exists_gap hending hlater.symm hgap hnext
  obtain ⟨hstart, hspan⟩ := Lexeme.spans_of_token? hmade
  rw [List.nil_append] at hlines hposition hstart
  have hstop : word.stop = (start ++ lexeme.extent).length := by
    rw [Token.stop, hstart, hspan, Position.behind_index, List.length_append]
  rw [hlines, hstop, hposition, Position.behind_index, ← List.append_assoc start, List.take_left,
    Text.between_append]
  rfl

/-- The line ends before the first word, or before the end, are those of the text before it. -/
lemma gap_before_word (hending : (ofText origin false [] source).ending = .ok last)
    (hsplit : (ofText origin false [] source).tokens ++ [last] = gap ++ next :: back)
    (hgap : ∀ token ∈ gap, token.tag = .newLine) (hnext : next.tag ≠ .newLine) :
    gap = lineEnds origin [] (source.take next.position.index) := by
  obtain ⟨skipped, rest, rfl, hposition, hlines⟩ := exists_gap hending hsplit hgap hnext
  rw [hlines, hposition, Position.behind_index, List.nil_append, List.take_left]
  rfl

lemma tag_ne_newLine_of_isWord (h : word.isWord) : word.tag ≠ .newLine := by
  intro htag
  rw [Token.isWord, htag] at h
  cases h

/-- What is no word before some further token is a line end. -/
lemma tag_eq_newLine_of_mem_gap
    (hsplit : (ofText origin false [] source).tokens ++ [last] = front ++ (gap ++ next :: back))
    (hgap : ∀ token ∈ gap, token.isWord = false) : ∀ token ∈ gap, token.tag = .newLine := by
  intro token htoken
  rw [← List.append_assoc] at hsplit
  obtain ⟨later, htokens, -⟩ := exists_tokens_eq hsplit (by simp)
  have hmem : token ∈ (ofText origin false [] source).tokens := by
    rw [htokens]
    exact List.mem_append_left _ (List.mem_append_right _ htoken)
  exact tag_eq_newLine_of_mem hmem (hgap token htoken)

end

/-- **The tokens of a text separate its lines as the text does.** -/
lemma separatesLines {source : List Char}
    (hending : (ofText origin false [] source).ending =
      .ok ⟨.endOfFile, .behind source, 0, origin⟩) :
    SeparatesLines origin source ((ofText origin false [] source).tokens ++
      [⟨.endOfFile, .behind source, 0, origin⟩]) where
  between front word gap word' back hsplit hword hword' hgap := by
    refine gap_behind_word hending hsplit hword ?_ (tag_ne_newLine_of_isWord hword')
    rw [List.append_cons front] at hsplit
    exact tag_eq_newLine_of_mem_gap hsplit hgap
  first gap word back hsplit hword hgap := by
    refine gap_before_word hending hsplit ?_ (tag_ne_newLine_of_isWord hword)
    rw [← List.nil_append (gap ++ word :: back)] at hsplit
    exact tag_eq_newLine_of_mem_gap hsplit hgap
  last front word gap hsplit hword hgap := by
    -- the end of the text is no word, so it comes behind the last one
    have hne : gap ≠ [] := by
      rintro rfl
      obtain ⟨-, hlast⟩ := List.append_inj' hsplit rfl
      obtain ⟨rfl, -⟩ := List.cons.inj hlast
      cases hword
    have hbehind := hsplit
    rw [List.append_cons front] at hbehind
    obtain ⟨lines, -, rfl⟩ := exists_tokens_eq hbehind hne
    have hlines := tag_eq_newLine_of_mem_gap hbehind fun token htoken =>
      hgap token (List.mem_append_left _ htoken)
    have hgap := gap_behind_word hending hsplit hword hlines (by simp [Token.tag, TokenKind.tag])
    rw [Position.behind_index, Text.between, List.take_length] at hgap
    rw [← hgap]
  wordless h := by
    have hlines : ∀ token ∈ (ofText origin false [] source).tokens, token.tag = .newLine :=
      fun token htoken => tag_eq_newLine_of_mem htoken (h token (List.mem_append_left _ htoken))
    have hgap := gap_before_word hending rfl hlines (by simp [Token.tag, TokenKind.tag])
    rw [Position.behind_index, List.take_length] at hgap
    rw [← hgap]

end TokenStream

/-! ## Along the calls of a scanner -/

namespace Scanner

/-- The tokens that a number of calls produce; errors produce none. -/
def produced (s : Scanner) : Nat → List Token
  | 0 => []
  | n + 1 => s.produced n ++ (s.afterCalls n).nextToken.1.toOption.toList

lemma last_drawRun (accepts : Char → Bool) (s : Scanner) :
    (s.drawRun accepts).rest.last = s.last := by
  fun_induction drawRun accepts s with
  | case1 s h => rfl
  | case2 s found s' h hacc _ run ih => exact ih.trans (draw_frame h).2.1
  | case3 s found s' h hacc => exact (draw_frame h).2.1

/-- What begins with a digit makes a number or a fault, and a fault leaves the memory alone. -/
lemma number_cases (s : Scanner) (first : Char) (start : Position) :
    (∃ (t : Scanner) (value : Binary64) (span : Nat),
      s.number first start = t.make (.number value) start span) ∨
    ∃ (t : Scanner) (fault : LexicalFault) (place : Position),
      s.number first start = t.fail fault place ∧ t.last = s.last := by
  have hrun := last_drawRun isDigitOrSeparator s
  unfold number
  dsimp only
  split
  · split
    · exact Or.inr ⟨_, _, _, rfl, hrun⟩
    · rename_i c place s' hdraw
      split
      · exact Or.inl ⟨_, _, _, rfl⟩
      · exact Or.inr ⟨_, _, _, rfl, (draw_frame hdraw).2.1.trans hrun⟩
  · exact Or.inl ⟨_, _, _, rfl⟩

/-- **A scanner remembers the token that it made last**; an error leaves the memory as it was. -/
lemma last_nextToken (s : Scanner) :
    s.nextToken.2.last = s.nextToken.1.toOption.or s.last := by
  fun_induction nextToken s with
  | case1 s hdraw => rfl
  | case2 s place s' hlast hdraw _ ih => rw [ih, (draw_frame hdraw).2.1]
  | case3 => rfl
  | case4 s c place s' hdraw _ hc hblank ih => rw [ih, (draw_frame hdraw).2.1]
  | case5 => rfl
  | case6 s c place s' hdraw =>
    rcases number_cases s' c place with
      ⟨t, value, span, hnumber⟩ | ⟨t, fault, faultPlace, hnumber, hlast⟩
    · rw [hnumber]
      rfl
    · rw [hnumber]
      exact hlast.trans (draw_frame hdraw).2.1
  | case7 s c place s' hdraw => exact (draw_frame hdraw).2.1

lemma lastIs_of_draw {s s' : Scanner} {found : Char × Position} (h : s.draw = some (found, s'))
    (tag : TokenTag) : s'.lastIs tag = s.lastIs tag := by
  rw [lastIs, lastIs, (draw_frame h).2.1]

/-- A call does not make a line end behind the one that is remembered. -/
lemma lastIs_of_nextToken {s : Scanner} {token : Token} (h : s.nextToken.1 = .ok token)
    (htag : token.tag = .newLine) : s.lastIs .newLine = false := by
  fun_induction nextToken s with
  | case1 s hdraw =>
    cases h
    cases htag
  | case2 s place s' hlast hdraw _ ih => rw [← lastIs_of_draw hdraw, ih h]
  | case3 s place s' hlast hdraw =>
    rw [← lastIs_of_draw hdraw]
    simpa using hlast
  | case4 s c place s' hdraw _ hc hblank ih => rw [← lastIs_of_draw hdraw, ih h]
  | case5 s c place s' hdraw =>
    cases h
    cases htag
  | case6 s c place s' hdraw =>
    rcases number_cases s' c place with
      ⟨t, value, span, hnumber⟩ | ⟨t, fault, faultPlace, hnumber, -⟩
    · rw [hnumber] at h
      cases h
      cases htag
    · rw [hnumber] at h
      cases h
  | case7 => cases h

/-- Over any number of calls, what is remembered is the last token produced. -/
lemma last_afterCalls (s : Scanner) (n : Nat) :
    (s.afterCalls n).last = (s.produced n).getLast?.or s.last := by
  induction n with
  | zero => rfl
  | succ n ih =>
    rw [afterCalls, last_nextToken, ih, produced, List.getLast?_append, Option.or_assoc]
    rcases (s.afterCalls n).nextToken.1.toOption with _ | token <;> rfl

/-- **No two line ends follow each other**, whatever calls are made and whatever they return. -/
lemma isChain_produced {s : Scanner} (hs : s.last = none) (n : Nat) :
    (s.produced n).IsChain fun token next => ¬ (token.tag = .newLine ∧ next.tag = .newLine) := by
  induction n with
  | zero => exact List.IsChain.nil
  | succ n ih =>
    rw [produced, List.isChain_append]
    refine ⟨ih, ?_, ?_⟩
    · rcases (s.afterCalls n).nextToken.1.toOption with _ | token
      · exact List.IsChain.nil
      · exact List.IsChain.singleton token
    · rintro token htoken next hnext ⟨htag, hnextTag⟩
      have hlast : (s.afterCalls n).last = some token := by
        rw [last_afterCalls, hs, Option.or_none]
        exact htoken
      have hmade : (s.afterCalls n).nextToken.1 = .ok next := by
        rcases hresult : (s.afterCalls n).nextToken.1 with e | made
        · rw [hresult] at hnext
          cases hnext
        · rw [hresult] at hnext
          cases hnext
          rfl
      have hnot := lastIs_of_nextToken hmade hnextTag
      rw [lastIs, hlast, Option.any_some, htag] at hnot
      cases hnot

end Scanner

/-- **Line ends separate words.**  Where a text has no lexical error, two successive words have one
line end between them if the text between them has a newline, at the first one, and else none; so it
is before the first word, behind the last, and in a text without words.  And whatever is asked of a
scanner, errors included, it never makes two line ends in a row. -/
theorem lineEnds_between_words (source : String) (origin : Origin) :
    (∀ tokens, tokenize source origin = .ok tokens →
      SeparatesLines origin source.toList tokens) ∧
    ∀ n, ((Scanner.ofText source.toList origin).produced n).IsChain
      fun token next => ¬ (token.tag = .newLine ∧ next.tag = .newLine) := by
  constructor
  · intro tokens h
    obtain ⟨hending, rfl⟩ := tokenize_eq_ok_iff.1 h
    exact TokenStream.separatesLines hending
  · intro n
    exact Scanner.isChain_produced rfl n

/-- Newlines with blanks between them make one line end; and so do two newlines with a fault between
them, of which the second is passed over. -/
theorem lineEnds_between_words_blank_lines :
    (tokenize "x \n\t\n 1\n" .inMemory =
        .ok [⟨.name "x", ⟨0, 0, 0⟩, 1, .inMemory⟩, ⟨.newLine, ⟨0, 2, 2⟩, 1, .inMemory⟩,
          ⟨.number (numeralValue ['1']), ⟨2, 1, 6⟩, 1, .inMemory⟩,
          ⟨.newLine, ⟨2, 2, 7⟩, 1, .inMemory⟩, ⟨.endOfFile, ⟨3, 0, 8⟩, 0, .inMemory⟩] ∧
      [⟨.newLine, ⟨0, 2, 2⟩, 1, .inMemory⟩] =
        lineEnds .inMemory ['x'] (Text.between "x \n\t\n 1\n".toList 1 6)) ∧
    ((Scanner.ofText "x\n?\ny".toList .inMemory).produced 4 =
        [⟨.name "x", ⟨0, 0, 0⟩, 1, .inMemory⟩, ⟨.newLine, ⟨0, 1, 1⟩, 1, .inMemory⟩,
          ⟨.name "y", ⟨2, 0, 4⟩, 1, .inMemory⟩] ∧
      ((Scanner.ofText "x\n?\ny".toList .inMemory).produced 4).IsChain
        fun token next => ¬ (token.tag = .newLine ∧ next.tag = .newLine)) := by
  have htokens : tokenize "x \n\t\n 1\n" .inMemory =
      .ok [⟨.name "x", ⟨0, 0, 0⟩, 1, .inMemory⟩, ⟨.newLine, ⟨0, 2, 2⟩, 1, .inMemory⟩,
        ⟨.number (numeralValue ['1']), ⟨2, 1, 6⟩, 1, .inMemory⟩,
        ⟨.newLine, ⟨2, 2, 7⟩, 1, .inMemory⟩, ⟨.endOfFile, ⟨3, 0, 8⟩, 0, .inMemory⟩] := by
    decide +kernel
  refine ⟨⟨htokens, ?_⟩, by decide +kernel, (lineEnds_between_words "x\n?\ny" .inMemory).2 4⟩
  exact ((lineEnds_between_words _ _).1 _ htokens).between [] _ [_] _ [_, _] rfl rfl rfl
    (by simp [Token.isWord, Token.tag, TokenKind.tag])

end Kaomoji
