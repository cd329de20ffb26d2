import Kaomoji.Proofs.Seams

/-!
# Digit separators

A number may have underscores between its digits and behind them, around its point too.  They are
dropped before its value is computed, and that is all that happens to them: an underscore put into a
text anywhere within a number, or directly behind one, leaves every token what it is
(`tokenize_insertSeparator`).  Its number is longer by one, and what follows stands one further.

Two things have to be seen.  The lexeme takes the underscore in: whatever stopped it still stops it,
and a point that was followed by a digit is followed by a digit or an underscore
(`NumberBefore.insertSeparator`).  And everything behind it, up to the end of the text, is pushed
one to the right on the number's own line and only counted further on the lines below
(`Position.behind_insert`).
-/

namespace Kaomoji

/-- The text with a digit separator put in behind its first `k` characters. -/
def insertSeparator (source : String) (k : Nat) : String :=
  String.ofList (source.toList.take k ++ digitSeparator :: source.toList.drop k)

/-! ## Places behind a new character -/

namespace Position

/-- The place that corresponds to a place if one more character stands before it, on the line with
the number `line`. -/
def pushed (line : Nat) (p : Position) : Position :=
  { p with column := if p.line = line then p.column + 1 else p.column, index := p.index + 1 }

lemma line_le_after (p : Position) (c : Char) : p.line ≤ (p.after c).line := by
  unfold after
  split <;> simp

lemma pushed_after {line : Nat} {p : Position} (h : line ≤ p.line) (c : Char) :
    (p.pushed line).after c = (p.after c).pushed line := by
  by_cases hc : c = '\n'
  · have hline : p.line + 1 ≠ line := by omega
    simp [after, pushed, hc, hline]
  · by_cases hline : p.line = line <;> simp [after, pushed, hc, hline]

lemma pushed_afterText {line : Nat} {p : Position} (h : line ≤ p.line) (text : List Char) :
    (p.pushed line).afterText text = (p.afterText text).pushed line := by
  induction text generalizing p with
  | nil => rfl
  | cons c text ih =>
    rw [afterText_cons, afterText_cons, pushed_after h, ih (h.trans (line_le_after p c))]

/-- **A character put into a text** pushes the places behind it. -/
lemma behind_insert {c : Char} (hc : c ≠ '\n') (front rest : List Char) :
    behind (front ++ c :: rest) = (behind (front ++ rest)).pushed (behind front).line := by
  have hafter : (behind front).after c = (behind front).pushed (behind front).line := by
    simp [after, pushed, hc]
  rw [List.append_cons, behind_append, behind_concat, hafter, pushed_afterText le_rfl,
    behind_append]

end Position

/-! ## The lexeme -/

/-- A place within a word, or at its end, divides the word. -/
lemma Text.exists_split {start word : List Char} {k : Nat} (hafter : start.length < k)
    (hupTo : k ≤ start.length + word.length) :
    ∃ front rest, word = front ++ rest ∧ k = (start ++ front).length ∧ front ≠ [] := by
  refine ⟨word.take (k - start.length), word.drop (k - start.length),
    (List.take_append_drop _ _).symm, ?_, ?_⟩
  · rw [List.length_append, List.length_take]
    omega
  · apply List.ne_nil_of_length_pos
    rw [List.length_take]
    omega

lemma withoutSeparators_insert (front rest : List Char) :
    withoutSeparators (front ++ digitSeparator :: rest) = withoutSeparators (front ++ rest) := by
  simp [withoutSeparators]

/-- A row of digits and separators stays one. -/
lemma isDigitOrSeparator_of_mem_insert {front rest : List Char}
    (h : ∀ c ∈ front ++ rest, isDigitOrSeparator c) :
    ∀ c ∈ front ++ digitSeparator :: rest, isDigitOrSeparator c := by
  intro c hc
  rcases List.mem_append.1 hc with hc | hc
  · exact h c (List.mem_append_left rest hc)
  · rcases List.mem_cons.1 hc with rfl | hc
    · decide
    · exact h c (List.mem_append_right front hc)

namespace NumberBefore

variable {back front rest : List Char}

lemma point_of_ne_nil {c : Char} {row fraction : List Char} (hc : c.isDigit)
    (hrow : ∀ d ∈ row, isDigitOrSeparator d) (hne : fraction ≠ [])
    (hfraction : ∀ d ∈ fraction, isDigitOrSeparator d)
    (hback : Text.Stops isDigitOrSeparator back) :
    NumberBefore back (c :: (row ++ '.' :: fraction)) := by
  obtain ⟨d, fraction, rfl⟩ := List.exists_cons_of_ne_nil hne
  exact .point hc hrow hfraction hback

/-- **A number with a separator in it or behind it is a number**, stopped by what stopped it. -/
lemma insertSeparator (hne : front ≠ []) (h : NumberBefore back (front ++ rest)) :
    NumberBefore back (front ++ digitSeparator :: rest) := by
  obtain ⟨first, front, rfl⟩ := List.exists_cons_of_ne_nil hne
  generalize hword : first :: front ++ rest = word at h
  cases h with
  | whole hc hrow hback hpoint =>
    obtain ⟨rfl, rfl⟩ := List.cons.inj hword
    exact .whole hc (isDigitOrSeparator_of_mem_insert hrow) hback hpoint
  | @point c d row fraction hc hrow hfraction hback =>
    rw [List.cons_append, List.cons_append, List.cons.injEq] at hword
    obtain ⟨rfl, hword⟩ := hword
    obtain ⟨row', rfl, rfl⟩ | ⟨beyond, rfl, hbeyond⟩ := List.append_eq_append_iff.1 hword
    · have hrow' := isDigitOrSeparator_of_mem_insert hrow
      have hnumber := point_of_ne_nil hc hrow' (List.cons_ne_nil d fraction) hfraction hback
      rwa [List.append_assoc] at hnumber
    · rcases beyond with _ | ⟨point, beyond⟩
      · -- directly before the point the separator belongs to the digits before it
        obtain rfl : '.' :: d :: fraction = rest := hbeyond
        rw [← List.append_nil row] at hrow
        have hrow' := isDigitOrSeparator_of_mem_insert hrow
        have hnumber := point_of_ne_nil hc hrow' (List.cons_ne_nil d fraction) hfraction hback
        simpa using hnumber
      · obtain ⟨rfl, hfraction'⟩ := List.cons.inj hbeyond
        rw [hfraction'] at hfraction
        have hnumber := point_of_ne_nil hc hrow (by simp)
          (isDigitOrSeparator_of_mem_insert hfraction) hback
        simpa using hnumber

end NumberBefore

/-! ## The tokens -/

namespace TokenStream

lemma ofText_number {word back : List Char} (h : longestLexeme (word ++ back) = .number word)
    (origin : Origin) (afterLineEnd : Bool) (before : List Char) :
    ofText origin afterLineEnd before (word ++ back) =
      (ofText origin false (before ++ word) back).prepend [⟨.number (numeralValue
        (withoutSeparators word)), .behind before, word.length, origin⟩] := by
  have hlexeme : longestLexeme ((Lexeme.number word).extent ++ back) = .number word := h
  exact ofText_extent_append hlexeme rfl origin afterLineEnd before

/-- Behind a separator that was put into a number, the places are pushed. -/
lemma ofText_behind_separator {front rest back : List Char}
    (h : longestLexeme (front ++ rest ++ back) = .number (front ++ rest)) (origin : Origin)
    (start : List Char) :
    ofText origin false (start ++ (front ++ digitSeparator :: rest)) back =
      (ofText origin false (start ++ (front ++ rest)) back).relocate
        (.pushed (Position.behind start).line) := by
  have hnewline : '\n' ∉ front := fun hmem =>
    absurd (not_isSeparator_of_mem (Or.inr h) _ (List.mem_append_left _ hmem)) (by decide)
  have hline : (Position.behind (start ++ front)).line = (Position.behind start).line := by
    simp [List.count_append, List.count_eq_zero.2 hnewline]
  have hplaces (more : List Char) :
      id (.behind (start ++ (front ++ digitSeparator :: rest) ++ more)) =
        Position.pushed (Position.behind start).line
          (.behind (start ++ (front ++ rest) ++ more)) := by
    have hinsert := Position.behind_insert (c := digitSeparator) (by decide) (start ++ front)
      (rest ++ more)
    rw [hline] at hinsert
    simpa using hinsert
  rw [← relocate_ofText hplaces, relocate_id]

/-- **A separator in a number changes one token and pushes what stands behind it.** -/
lemma exists_ofText_insertSeparator {origin : Origin} {source : List Char}
    {earlier later : List Token} {token : Token} {k : Nat}
    (h : (ofText origin false [] source).tokens = earlier ++ token :: later)
    (htag : token.tag = .number) (hafter : token.position.index < k)
    (hupTo : k ≤ token.position.index + token.span) :
    ∃ behind : TokenStream, ofText origin false [] source = behind.prepend (earlier ++ [token]) ∧
      ofText origin false [] (source.take k ++ digitSeparator :: source.drop k) =
        (behind.relocate (.pushed token.position.line)).prepend
          (earlier ++ [{ token with span := token.span + 1 }]) := by
  obtain ⟨start, lexeme, back, atLineEnd, rfl, hlexeme, -, hmade, -, hback⟩ :=
    exists_cut_at_token h
  obtain ⟨word, rfl, rfl⟩ := Lexeme.eq_number_of_token? hmade htag
  simp only [List.nil_append, Lexeme.extent, Position.behind_index] at hlexeme hafter hupTo hback ⊢
  -- the separator comes behind `front`, which is some of the number and perhaps all of it
  obtain ⟨front, rest, rfl, rfl, hne⟩ := Text.exists_split hafter hupTo
  have hnumber : longestLexeme (front ++ digitSeparator :: rest ++ back) =
      .number (front ++ digitSeparator :: rest) :=
    longestLexeme_eq_number_iff.2 ((longestLexeme_eq_number_iff.1 hlexeme).insertSeparator hne)
  have hhead : (front ++ digitSeparator :: rest ++ back).head? = (front ++ rest ++ back).head? := by
    rw [List.append_assoc, List.append_assoc, List.head?_append_of_ne_nil _ hne,
      List.head?_append_of_ne_nil _ hne]
  refine ⟨ofText origin false (start ++ (front ++ rest)) back, ?_, ?_⟩
  · rw [hback _ rfl, ofText_number hlexeme, prepend_prepend]
  · have hsource : start ++ (front ++ rest ++ back) = start ++ front ++ (rest ++ back) := by simp
    have hinserted : start ++ front ++ digitSeparator :: (rest ++ back) =
        start ++ (front ++ digitSeparator :: rest ++ back) := by simp
    rw [hsource, List.take_left, List.drop_left, hinserted, hback _ hhead, ofText_number hnumber,
      prepend_prepend, withoutSeparators_insert, ofText_behind_separator hlexeme]
    simp [Nat.add_assoc]

end TokenStream

/-- **Digit separators are inert.**  Where a text has no lexical error, put an underscore into it
behind any character of a number.  The text still has no lexical error, and its tokens are the same
in kind and value: the number spans one character more, what comes before it stays in place, and
what comes behind it stands one character further, on the number's line one column further too. -/
theorem tokenize_insertSeparator {source : String} {origin : Origin} {earlier later : List Token}
    {token : Token} {k : Nat} (h : tokenize source origin = .ok (earlier ++ token :: later))
    (htag : token.tag = .number) (hafter : token.position.index < k)
    (hupTo : k ≤ token.position.index + token.span) :
    tokenize (insertSeparator source k) origin =
      .ok (earlier ++ { token with span := token.span + 1 } ::
        later.map (Token.relocate (.pushed token.position.line))) := by
  rw [tokenize_eq_listing, Scanner.stream_ofText, TokenStream.listing_eq_ok_iff] at h ⊢
  obtain ⟨last, hending, htokens⟩ := h
  -- the number is not the token that ends the list
  have hne : later ≠ [] := by
    rintro rfl
    obtain ⟨-, hlast⟩ := List.append_inj' htokens rfl
    obtain ⟨rfl, -⟩ := List.cons.inj hlast
    rw [TokenStream.eq_endOfFile_of_ending hending] at htag
    cases htag
  rw [List.append_cons earlier] at htokens
  obtain ⟨between, hstream, rfl⟩ := TokenStream.exists_tokens_eq htokens.symm hne
  rw [List.append_assoc, List.singleton_append] at hstream
  obtain ⟨behind, hbehind, hinserted⟩ :=
    TokenStream.exists_ofText_insertSeparator hstream htag hafter hupTo
  have hbetween : behind.tokens = between := by simpa [hbehind] using hstream
  rw [hbehind, TokenStream.prepend_ending] at hending
  rw [insertSeparator, String.toList_ofList, hinserted]
  refine ⟨last.relocate (.pushed token.position.line), ?_, ?_⟩
  · rw [TokenStream.prepend_ending, TokenStream.relocate, hending]
    rfl
  · rw [TokenStream.prepend_tokens, TokenStream.relocate, hbetween]
    simp

/-- At the end of a number, where a name follows that begins with a second point, the underscore is
taken by the number; what follows on the next line keeps its column. -/
theorem tokenize_insertSeparator_before_point :
    tokenize "x 1.5.y\n\t2" .inMemory =
        .ok [⟨.name "x", ⟨0, 0, 0⟩, 1, .inMemory⟩,
          ⟨.number (numeralValue ['1', '.', '5']), ⟨0, 2, 2⟩, 3, .inMemory⟩,
          ⟨.name ".y", ⟨0, 5, 5⟩, 2, .inMemory⟩, ⟨.newLine, ⟨0, 7, 7⟩, 1, .inMemory⟩,
          ⟨.number (numeralValue ['2']), ⟨1, 1, 9⟩, 1, .inMemory⟩,
          ⟨.endOfFile, ⟨1, 2, 10⟩, 0, .inMemory⟩] ∧
      insertSeparator "x 1.5.y\n\t2" 5 = "x 1.5_.y\n\t2" ∧
      tokenize (insertSeparator "x 1.5.y\n\t2" 5) .inMemory =
        .ok [⟨.name "x", ⟨0, 0, 0⟩, 1, .inMemory⟩,
          ⟨.number (numeralValue ['1', '.', '5']), ⟨0, 2, 2⟩, 4, .inMemory⟩,
          ⟨.name ".y", ⟨0, 6, 6⟩, 2, .inMemory⟩, ⟨.newLine, ⟨0, 8, 8⟩, 1, .inMemory⟩,
          ⟨.number (numeralValue ['2']), ⟨1, 1, 10⟩, 1, .inMemory⟩,
          ⟨.endOfFile, ⟨1, 2, 11⟩, 0, .inMemory⟩] := by
  have htokens : tokenize "x 1.5.y\n\t2" .inMemory =
      .ok [⟨.name "x", ⟨0, 0, 0⟩, 1, .inMemory⟩,
        ⟨.number (numeralValue ['1', '.', '5']), ⟨0, 2, 2⟩, 3, .inMemory⟩,
        ⟨.name ".y", ⟨0, 5, 5⟩, 2, .inMemory⟩, ⟨.newLine, ⟨0, 7, 7⟩, 1, .inMemory⟩,
        ⟨.number (numeralValue ['2']), ⟨1, 1, 9⟩, 1, .inMemory⟩,
        ⟨.endOfFile, ⟨1, 2, 10⟩, 0, .inMemory⟩] := by
    decide +kernel
  refine ⟨htokens, by decide +kernel, ?_⟩
  rw [← List.singleton_append] at htokens
  exact tokenize_insertSeparator htokens rfl (by decide) (by decide)

end Kaomoji
