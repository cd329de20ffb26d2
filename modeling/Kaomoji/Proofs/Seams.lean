import Kaomoji.Proofs.Relocation
import Kaomoji.Proofs.TargetWords

/-!
# Cutting a text in two

A lexeme ends where the next character cannot continue it, so how a text is cut up before some place
may depend on what stands behind it.  It does not at a *seam*: a place across which no token runs.
There the tokens before are the same whatever follows, as long as what follows is kept apart from
them by a blank or a newline (`TokenStream.exists_cut`); and of all that was read before, only
whether it ended in a line end has a bearing on the tokens behind.  Reading lines does not even
notice that (`TokenStream.reading_ofText_congr`).

The ground for this is a closer look at lexemes: which words are names and numbers
(`longestLexeme_eq_name_iff`, `longestLexeme_eq_number_iff`), said of the word and of the character
that stops it.  What is said of streams goes by induction along lexemes (`lexeme_induction`), and so
does the last thing that is needed of a text behind a seam: its tokens do not depend on where it
stands, only their places do (`TokenStream.relocate_ofText`).
-/

namespace Kaomoji

/-! ## Words and what stops them -/

namespace Text

/-- The text does not begin with a character of the kind. -/
def Stops (p : Char → Bool) (back : List Char) : Prop := ∀ c ∈ back.head?, p c = false

lemma takeWhile_append_eq_left_iff {p : Char → Bool} {word back : List Char} :
    (word ++ back).takeWhile p = word ↔ (∀ c ∈ word, p c) ∧ Stops p back := by
  induction word with
  | nil =>
    rcases back with _ | ⟨c, rest⟩
    · simp [Stops]
    · simp [Stops, List.takeWhile_cons]
  | cons c word ih =>
    by_cases hc : p c
    · simp [hc, ih]
    · simp [hc]

lemma dropWhile_append_eq_right {p : Char → Bool} {word back : List Char} (hword : ∀ c ∈ word, p c)
    (hback : Stops p back) : (word ++ back).dropWhile p = back := by
  rw [List.dropWhile_append_of_pos hword]
  rcases back with _ | ⟨c, rest⟩
  · rfl
  · exact List.dropWhile_cons_of_neg (by simpa using hback c rfl)

/-- The characters that stand between words. -/
def isSeparator (c : Char) : Bool := isBlank c || c = '\n'

/-- **Two texts that are kept apart**: the first ends with a separator, or the second begins with
one, or one of them is empty. -/
def Apart (front back : List Char) : Prop :=
  (∀ c ∈ front.getLast?, isSeparator c) ∨ ∀ c ∈ back.head?, isSeparator c

/-- **A text behind which a line begins**: it is empty or ends in a newline. -/
def EndsLine (text : List Char) : Prop := text = [] ∨ ∃ front, text = front ++ ['\n']

lemma isSeparator_cases {c : Char} (h : isSeparator c) : c = ' ' ∨ c = '\t' ∨ c = '\n' := by
  simpa [isSeparator, isBlank, or_assoc] using h

/-- A kind of characters without separators is stopped by any of them. -/
lemma Stops.of_separators {p : Char → Bool} (hp : ∀ c, isSeparator c → p c = false)
    {back : List Char} (h : ∀ c ∈ back.head?, isSeparator c) : Stops p back :=
  fun c hc => hp c (h c hc)

end Text

/-! ## Which words are lexemes -/

/-- What begins with a digit is a number or a fault. -/
lemma numberLexeme_cases (whole back : List Char) :
    (∃ word, numberLexeme whole back = .number word) ∨
      ∃ read fault, numberLexeme whole back = .faulty read fault := by
  unfold numberLexeme
  split
  · exact Or.inr ⟨_, _, rfl⟩
  · split
    · exact Or.inl ⟨_, rfl⟩
    · exact Or.inr ⟨_, _, rfl⟩
  · exact Or.inl ⟨_, rfl⟩

lemma isNameStart_of_isSeparator {c : Char} (h : Text.isSeparator c) : isNameStart c = false := by
  rcases Text.isSeparator_cases h with rfl | rfl | rfl <;> decide

lemma isNameContinue_of_isSeparator {c : Char} (h : Text.isSeparator c) :
    isNameContinue c = false := by
  rcases Text.isSeparator_cases h with rfl | rfl | rfl <;> decide

lemma isDigitOrSeparator_of_isSeparator {c : Char} (h : Text.isSeparator c) :
    isDigitOrSeparator c = false := by
  rcases Text.isSeparator_cases h with rfl | rfl | rfl <;> decide

/-- A digit begins a number and nothing else. -/
lemma longestLexeme_digit {c : Char} (hc : c.isDigit) (rest : List Char) :
    longestLexeme (c :: rest) =
      numberLexeme (c :: rest.takeWhile isDigitOrSeparator)
        (rest.dropWhile isDigitOrSeparator) := by
  have hseparator : Text.isSeparator c = false := by
    by_contra h
    rcases Text.isSeparator_cases (by simpa using h) with rfl | rfl | rfl <;>
      exact absurd hc (by decide)
  have hname : isNameStart c = false := by
    have hstart := isIdentifierStart_of_isDigit hc
    have hmarks : nameMarks.all fun mark => !mark.isDigit := by decide
    rw [isIdentifierStart, Bool.or_eq_false_iff] at hstart
    rw [isNameStart, hstart.1, Bool.false_or, List.contains_eq_mem, decide_eq_false_iff_not]
    intro hmark
    have hdigit := List.all_eq_true.1 hmarks c hmark
    rw [hc] at hdigit
    cases hdigit
  rw [Text.isSeparator, Bool.or_eq_false_iff, decide_eq_false_iff_not] at hseparator
  rw [longestLexeme, if_neg hseparator.2, if_neg (by simp [hseparator.1]), if_neg (by simp [hname]),
    if_pos hc]

/-- A name is read up to a character that cannot continue it. -/
lemma longestLexeme_eq_name_iff {word back : List Char} :
    longestLexeme (word ++ back) = .name word ↔ isName word ∧ Text.Stops isNameContinue back := by
  rcases word with _ | ⟨c, more⟩
  · constructor
    · intro h
      have hname := isName_of_longestLexeme h
      cases hname
    · rintro ⟨⟨⟩, -⟩
  · rw [List.cons_append, isName, Text.isFormed, Bool.and_eq_true, List.all_eq_true, and_assoc,
      ← Text.takeWhile_append_eq_left_iff]
    constructor
    · intro h
      rw [longestLexeme] at h
      split_ifs at h with hnewline hblank hname hdigit
      · simp only [Lexeme.name.injEq, List.cons.injEq, true_and] at h
        exact ⟨hname, h⟩
      · rcases numberLexeme_cases _ _ with ⟨_, hnumber⟩ | ⟨_, _, hfaulty⟩
        · cases hnumber.symm.trans h
        · cases hfaulty.symm.trans h
    · rintro ⟨hname, hmore⟩
      have hseparator : Text.isSeparator c = false := by
        by_contra h
        rw [isNameStart_of_isSeparator (by simpa using h)] at hname
        cases hname
      rw [Text.isSeparator, Bool.or_eq_false_iff, decide_eq_false_iff_not] at hseparator
      rw [longestLexeme, if_neg hseparator.2, if_neg (by simp [hseparator.1]), if_pos hname, hmore]

lemma longestLexeme_eq_blank_iff {c : Char} {back : List Char} :
    longestLexeme (c :: back) = .blank c ↔ isBlank c := by
  constructor
  · intro h
    rw [longestLexeme] at h
    split_ifs at h with hnewline hblank hname hdigit
    · exact hblank
    · rcases numberLexeme_cases _ _ with ⟨_, hnumber⟩ | ⟨_, _, hfaulty⟩
      · cases hnumber.symm.trans h
      · cases hfaulty.symm.trans h
  · intro hblank
    have hnewline : c ≠ '\n' := by
      rintro rfl
      exact absurd hblank (by decide)
    rw [longestLexeme, if_neg hnewline, if_pos hblank]

/-- The word is a number, and what stands behind does not go on with it. -/
inductive NumberBefore (back : List Char) : List Char → Prop
  /-- A number without a point is not followed by one. -/
  | whole {c : Char} {row : List Char} (hc : c.isDigit) (hrow : ∀ d ∈ row, isDigitOrSeparator d)
    (hback : Text.Stops isDigitOrSeparator back) (hpoint : Text.Stops (· = '.') back) :
    NumberBefore back (c :: row)
  | point {c d : Char} {row fraction : List Char} (hc : c.isDigit)
    (hrow : ∀ e ∈ row, isDigitOrSeparator e) (hfraction : ∀ e ∈ d :: fraction, isDigitOrSeparator e)
    (hback : Text.Stops isDigitOrSeparator back) :
    NumberBefore back (c :: row ++ '.' :: d :: fraction)

lemma stops_point (back : List Char) : Text.Stops isDigitOrSeparator ('.' :: back) := by
  rintro c ⟨⟩
  decide

lemma numberLexeme_of_stops {whole back : List Char} (h : Text.Stops (· = '.') back) :
    numberLexeme whole back = .number whole := by
  unfold numberLexeme
  split
  · exact absurd (h '.' rfl) (by simp)
  · exact absurd (h '.' rfl) (by simp)
  · rfl

/-- What is read as a number ends before the text behind its digits, or behind a point with further
digits. -/
lemma numberLexeme_eq_number_cases {whole rest word : List Char}
    (h : numberLexeme whole rest = .number word) :
    (word = whole ∧ Text.Stops (· = '.') rest) ∨
      ∃ d more, rest = '.' :: d :: more ∧ isDigitOrSeparator d ∧
        word = whole ++ '.' :: (d :: more).takeWhile isDigitOrSeparator := by
  by_cases hpoint : Text.Stops (· = '.') rest
  · rw [numberLexeme_of_stops hpoint, Lexeme.number.injEq] at h
    exact Or.inl ⟨h.symm, hpoint⟩
  · obtain ⟨more, rfl⟩ : ∃ more, rest = '.' :: more := by
      rcases rest with _ | ⟨c, more⟩
      · exact absurd (by simp [Text.Stops]) hpoint
      · have hc : c = '.' := by simpa [Text.Stops] using hpoint
        exact ⟨more, by rw [hc]⟩
    rcases more with _ | ⟨d, more⟩
    · cases h
    · rw [numberLexeme] at h
      split_ifs at h with hd
      rw [Lexeme.number.injEq] at h
      exact Or.inr ⟨d, more, rfl, hd, h.symm⟩

lemma numberLexeme_point {whole fraction back : List Char} {d : Char}
    (hfraction : ∀ e ∈ d :: fraction, isDigitOrSeparator e)
    (hback : Text.Stops isDigitOrSeparator back) :
    numberLexeme whole ('.' :: (d :: fraction ++ back)) =
      .number (whole ++ '.' :: d :: fraction) := by
  have hrow := Text.takeWhile_append_eq_left_iff.2 ⟨hfraction, hback⟩
  rw [List.cons_append] at hrow ⊢
  rw [numberLexeme, if_pos (hfraction d List.mem_cons_self), hrow]

/-- A number is read up to a character that cannot continue it. -/
lemma longestLexeme_eq_number_iff {word back : List Char} :
    longestLexeme (word ++ back) = .number word ↔ NumberBefore back word := by
  constructor
  · intro h
    rcases word with _ | ⟨c, more⟩
    · have hne := h ▸ unbroken_longestLexeme back
      exact absurd rfl hne.ne_nil
    · rw [List.cons_append, longestLexeme] at h
      split_ifs at h with hnewline hblank hname hdigit
      obtain ⟨hword, hpoint⟩ | ⟨d, rest, hdrop, hd, hword⟩ := numberLexeme_eq_number_cases h
      · obtain ⟨hrow, hback⟩ :=
          Text.takeWhile_append_eq_left_iff.1 (List.cons.inj hword).2.symm
        rw [Text.dropWhile_append_eq_right hrow hback] at hpoint
        exact .whole hdigit hrow hback hpoint
      · have hrow : ∀ e ∈ (more ++ back).takeWhile isDigitOrSeparator, isDigitOrSeparator e :=
          fun e => List.mem_takeWhile_imp
        have hsplit := List.takeWhile_append_dropWhile (p := isDigitOrSeparator) (l := more ++ back)
        have hmore := (List.cons.inj hword).2
        -- behind the point stand the fraction and then `back`
        have hrest : (d :: rest).takeWhile isDigitOrSeparator ++ back = d :: rest := by
          rw [hdrop] at hsplit
          nth_rewrite 2 [hmore] at hsplit
          simpa using hsplit.symm
        have hlongest : ((d :: rest).takeWhile isDigitOrSeparator ++ back).takeWhile
            isDigitOrSeparator = (d :: rest).takeWhile isDigitOrSeparator := by rw [hrest]
        obtain ⟨hfraction, hback⟩ := Text.takeWhile_append_eq_left_iff.1 hlongest
        rw [hword]
        rw [List.takeWhile_cons_of_pos hd] at hfraction ⊢
        exact .point hdigit hrow hfraction hback
  · intro h
    cases h with
    | @whole c row hc hrow hback hpoint =>
      rw [List.cons_append, longestLexeme_digit hc,
        Text.takeWhile_append_eq_left_iff.2 ⟨hrow, hback⟩,
        Text.dropWhile_append_eq_right hrow hback, numberLexeme_of_stops hpoint]
    | @point c d row fraction hc hrow hfraction hback =>
      have hassoc : c :: row ++ '.' :: d :: fraction ++ back =
          c :: (row ++ '.' :: (d :: fraction ++ back)) := by simp
      have hstops := stops_point (d :: fraction ++ back)
      rw [hassoc, longestLexeme_digit hc, Text.takeWhile_append_eq_left_iff.2 ⟨hrow, hstops⟩,
        Text.dropWhile_append_eq_right hrow hstops, numberLexeme_point hfraction hback]

/-! ## Passing a lexeme -/

namespace Lexeme

/-- Whether reading goes on behind the lexeme. -/
def isPassed : Lexeme → Bool
  | blank _ | lineEnd | name _ | number _ => true
  | textEnd | faulty _ _ => false

/-- The token that a lexeme behind `before` makes, if it makes one. -/
def token? (origin : Origin) (afterLineEnd : Bool) (before : List Char) : Lexeme → Option Token
  | lineEnd => if afterLineEnd then none else some ⟨.newLine, .behind before, 1, origin⟩
  | name text => some ⟨.name (String.ofList text), .behind before, text.length, origin⟩
  | number text =>
    some ⟨.number (numeralValue (withoutSeparators text)), .behind before, text.length, origin⟩
  | textEnd | blank _ | faulty _ _ => none

/-- Whether the last token behind a lexeme is a line end. -/
def endsLine (afterLineEnd : Bool) : Lexeme → Bool
  | blank _ => afterLineEnd
  | lineEnd => true
  | textEnd | name _ | number _ | faulty _ _ => false

lemma extent_ne_nil {rest : List Char} {lexeme : Lexeme} (h : longestLexeme rest = lexeme)
    (hpassed : lexeme.isPassed) : lexeme.extent ≠ [] := by
  subst h
  apply longestLexeme_extent_ne_nil
  rintro rfl
  cases hpassed

/-- The token that a lexeme makes begins where the lexeme does and spans all of it. -/
lemma spans_of_token? {lexeme : Lexeme} {origin : Origin} {afterLineEnd : Bool}
    {before : List Char} {token : Token}
    (h : lexeme.token? origin afterLineEnd before = some token) :
    token.position = .behind before ∧ token.span = lexeme.extent.length := by
  cases lexeme with
  | textEnd | blank _ | faulty _ _ => cases h
  | lineEnd =>
    rw [token?] at h
    split_ifs at h
    cases h
    exact ⟨rfl, rfl⟩
  | name _ | number _ =>
    cases h
    exact ⟨rfl, rfl⟩

/-- What makes a number is a number, and this is the token that it makes. -/
lemma eq_number_of_token? {lexeme : Lexeme} {origin : Origin} {afterLineEnd : Bool}
    {before : List Char} {token : Token}
    (h : lexeme.token? origin afterLineEnd before = some token) (htag : token.tag = .number) :
    ∃ word, lexeme = .number word ∧ token =
      ⟨.number (numeralValue (withoutSeparators word)), .behind before, word.length, origin⟩ := by
  cases lexeme with
  | textEnd | blank _ | faulty _ _ => cases h
  | lineEnd =>
    rw [token?] at h
    split_ifs at h
    cases h
    cases htag
  | name word =>
    cases h
    cases htag
  | number word => exact ⟨word, rfl, (Option.some.inj h).symm⟩

/-- A lexeme of more than one character makes a token. -/
lemma exists_token?_eq {lexeme : Lexeme} (hpassed : lexeme.isPassed)
    (hlength : 1 < lexeme.extent.length) (origin : Origin) (afterLineEnd : Bool)
    (before : List Char) : ∃ token, lexeme.token? origin afterLineEnd before = some token := by
  cases lexeme with
  | textEnd | faulty _ _ => cases hpassed
  | blank _ | lineEnd => simp [extent] at hlength
  | name text => exact ⟨_, rfl⟩
  | number text => exact ⟨_, rfl⟩

/-- A lexeme that holds a newline is a line end. -/
lemma eq_lineEnd {rest : List Char} {lexeme : Lexeme} (h : longestLexeme rest = lexeme)
    (hpassed : lexeme.isPassed) (hmem : '\n' ∈ lexeme.extent) : lexeme = .lineEnd := by
  have hunbroken := unbroken_of_eq h
  cases lexeme with
  | textEnd | faulty _ _ => cases hpassed
  | lineEnd => rfl
  | blank _ | name _ | number _ => exact absurd hmem hunbroken.newline_notMem

end Lexeme

/-- A name or a number holds no separator. -/
lemma not_isSeparator_of_mem {word back : List Char}
    (h : longestLexeme (word ++ back) = .name word ∨ longestLexeme (word ++ back) = .number word) :
    ∀ c ∈ word, Text.isSeparator c = false := by
  intro c hc
  by_contra hseparator
  rw [Bool.not_eq_false] at hseparator
  obtain h | h := h
  · have hname := (longestLexeme_eq_name_iff.1 h).1
    rcases word with _ | ⟨first, more⟩
    · cases hc
    · rw [isName, Text.isFormed, Bool.and_eq_true, List.all_eq_true] at hname
      rcases List.mem_cons.1 hc with rfl | hc
      · rw [isNameStart_of_isSeparator hseparator] at hname
        cases hname.1
      · have hcontinue := hname.2 c hc
        rw [isNameContinue_of_isSeparator hseparator] at hcontinue
        cases hcontinue
  · have hdigits : isDigitOrSeparator c ∨ c = '.' := by
      cases longestLexeme_eq_number_iff.1 h with
      | whole hdigit hrow _ _ => exact Or.inl (isDigitOrSeparator_of_mem_cons hdigit hrow c hc)
      | point hdigit hrow hfraction _ =>
        rcases List.mem_append.1 hc with hc | hc
        · exact Or.inl (isDigitOrSeparator_of_mem_cons hdigit hrow c hc)
        · rcases List.mem_cons.1 hc with hc | hc
          · exact Or.inr hc
          · exact Or.inl (hfraction c hc)
    obtain hdigit | rfl := hdigits
    · rw [isDigitOrSeparator_of_isSeparator hseparator] at hdigit
      cases hdigit
    · exact absurd hseparator (by decide)

/-- **A lexeme does not depend on what stands behind it**, beyond the first character there; and
where a separator keeps the two apart it does not depend on that either. -/
lemma longestLexeme_swap {lexeme : Lexeme} (hpassed : lexeme.isPassed) {back back' : List Char}
    (h : longestLexeme (lexeme.extent ++ back) = lexeme)
    (hback : back'.head? = back.head? ∨ Text.Apart lexeme.extent back') :
    longestLexeme (lexeme.extent ++ back') = lexeme := by
  -- what stops a word still stops it, unless the word itself ended with a separator
  have hstops {p : Char → Bool} (hp : ∀ c, Text.isSeparator c → p c = false)
      (hword : ∀ c ∈ lexeme.extent, Text.isSeparator c = false) (hstop : Text.Stops p back) :
      Text.Stops p back' := by
    rcases hback with hhead | hfront | hseparated
    · rwa [Text.Stops, hhead]
    · have hne := Lexeme.extent_ne_nil h hpassed
      have hlast := hfront _ (List.getLast?_eq_some_getLast hne)
      rw [hword _ (List.getLast_mem hne)] at hlast
      cases hlast
    · exact .of_separators hp hseparated
  cases lexeme with
  | textEnd | faulty _ _ => cases hpassed
  | blank c => exact longestLexeme_eq_blank_iff.2 (longestLexeme_eq_blank_iff.1 h)
  | lineEnd => rfl
  | name word =>
    obtain ⟨hname, hstop⟩ := longestLexeme_eq_name_iff.1 h
    exact longestLexeme_eq_name_iff.2 ⟨hname, hstops (fun _ => isNameContinue_of_isSeparator)
      (not_isSeparator_of_mem (Or.inl h)) hstop⟩
  | number word =>
    have hword := not_isSeparator_of_mem (Or.inr h)
    refine longestLexeme_eq_number_iff.2 ?_
    cases longestLexeme_eq_number_iff.1 h with
    | whole hdigit hrow hstop hpoint =>
      refine .whole hdigit hrow (hstops (fun _ => isDigitOrSeparator_of_isSeparator) hword hstop)
        (hstops (fun c hc => ?_) hword hpoint)
      rcases Text.isSeparator_cases hc with rfl | rfl | rfl <;> decide
    | point hdigit hrow hfraction hstop =>
      exact .point hdigit hrow hfraction
        (hstops (fun _ => isDigitOrSeparator_of_isSeparator) hword hstop)

/-- **Induction along the lexemes of a text**, up to its end or to a fault. -/
@[elab_as_elim] lemma lexeme_induction {motive : List Char → Prop} (atEnd : motive [])
    (atFault : ∀ rest read fault, longestLexeme rest = .faulty read fault → motive rest)
    (pass : ∀ lexeme later, longestLexeme (lexeme.extent ++ later) = lexeme → lexeme.isPassed →
      motive later → motive (lexeme.extent ++ later))
    (rest : List Char) : motive rest := by
  induction hn : rest.length using Nat.strong_induction_on generalizing rest with
  | _ n ih =>
    obtain ⟨later, hlater⟩ := longestLexeme_extent_prefix rest
    have hpass (hpassed : (longestLexeme rest).isPassed) : motive rest := by
      have hpos := List.length_pos_of_ne_nil (Lexeme.extent_ne_nil rfl hpassed)
      have hlength := congrArg List.length hlater
      rw [List.length_append] at hlength
      rw [← hlater]
      exact pass _ later (by rw [hlater]) hpassed (ih _ (by omega) later rfl)
    cases hlexeme : longestLexeme rest with
    | textEnd =>
      rw [eq_nil_of_textEnd hlexeme]
      exact atEnd
    | faulty read fault => exact atFault rest read fault hlexeme
    | blank _ | lineEnd | name _ | number _ => exact hpass (by rw [hlexeme]; rfl)

/-! ## Cutting a stream -/

namespace TokenStream

/-- The stream with more tokens in front. -/
def prepend (tokens : List Token) (stream : TokenStream) : TokenStream :=
  { stream with tokens := tokens ++ stream.tokens }

@[simp] lemma prepend_tokens (tokens : List Token) (stream : TokenStream) :
    (stream.prepend tokens).tokens = tokens ++ stream.tokens := rfl

@[simp] lemma prepend_ending (tokens : List Token) (stream : TokenStream) :
    (stream.prepend tokens).ending = stream.ending := rfl

lemma prepend_prepend (first second : List Token) (stream : TokenStream) :
    (stream.prepend second).prepend first = stream.prepend (first ++ second) := by
  simp [prepend]

/-- **One step along a text.** -/
lemma ofText_extent_append {lexeme : Lexeme} {rest : List Char}
    (h : longestLexeme (lexeme.extent ++ rest) = lexeme) (hpassed : lexeme.isPassed)
    (origin : Origin) (afterLineEnd : Bool) (before : List Char) :
    ofText origin afterLineEnd before (lexeme.extent ++ rest) =
      (ofText origin (lexeme.endsLine afterLineEnd) (before ++ lexeme.extent) rest).prepend
        (lexeme.token? origin afterLineEnd before).toList := by
  have hrest : rest = (lexeme.extent ++ rest).drop lexeme.extent.length := List.drop_left.symm
  nth_rewrite 2 [hrest]
  rw [ofText]
  split <;> rename_i hlexeme <;> obtain rfl := hlexeme.symm.trans h
  · cases hpassed
  · rfl
  · cases afterLineEnd <;> rfl
  · rfl
  · rfl
  · cases hpassed

lemma ofText_blank {c : Char} (hc : isBlank c) (origin : Origin) (afterLineEnd : Bool)
    (before rest : List Char) :
    ofText origin afterLineEnd before (c :: rest) =
      ofText origin afterLineEnd (before ++ [c]) rest := by
  have hlexeme : longestLexeme ((Lexeme.blank c).extent ++ rest) = .blank c :=
    longestLexeme_eq_blank_iff.2 hc
  exact ofText_extent_append hlexeme rfl origin afterLineEnd before

lemma ofText_newline (origin : Origin) (afterLineEnd : Bool) (before rest : List Char) :
    ofText origin afterLineEnd before ('\n' :: rest) =
      (ofText origin true (before ++ ['\n']) rest).prepend
        (if afterLineEnd then [] else [⟨.newLine, .behind before, 1, origin⟩]) := by
  have hlexeme : longestLexeme (Lexeme.lineEnd.extent ++ rest) = .lineEnd := rfl
  have hstep := ofText_extent_append hlexeme rfl origin afterLineEnd before
  cases afterLineEnd <;> exact hstep

lemma ofText_nil (origin : Origin) (afterLineEnd : Bool) (before : List Char) :
    ofText origin afterLineEnd before [] = ⟨[], .ok ⟨.endOfFile, .behind before, 0, origin⟩⟩ := by
  rw [ofText]
  rfl

lemma ofText_faulty {rest read : List Char} {fault : LexicalFault}
    (h : longestLexeme rest = .faulty read fault) (origin : Origin) (afterLineEnd : Bool)
    (before : List Char) :
    ofText origin afterLineEnd before rest =
      ⟨[], .error ⟨fault, .behind (before ++ read), origin⟩⟩ := by
  rw [ofText]
  split <;> simp_all

/-- A stream that ends without error ends at the end of its text. -/
lemma eq_endOfFile_of_ending {origin : Origin} {afterLineEnd : Bool} {before rest : List Char}
    {last : Token} (h : (ofText origin afterLineEnd before rest).ending = .ok last) :
    last = ⟨.endOfFile, .behind (before ++ rest), 0, origin⟩ := by
  induction rest using lexeme_induction generalizing afterLineEnd before with
  | atEnd =>
    rw [ofText_nil] at h
    rw [List.append_nil]
    exact (Except.ok.inj h).symm
  | atFault rest read fault hfault => simp [ofText_faulty hfault] at h
  | pass lexeme later hlexeme hpassed ih =>
    rw [ofText_extent_append hlexeme hpassed, prepend_ending] at h
    rw [ih h, List.append_assoc]

/-- No token runs across the place with the index. -/
def CutAt (stream : TokenStream) (index : Nat) : Prop :=
  ∀ token ∈ stream.tokens, index ≤ token.position.index ∨ token.position.index + token.span ≤ index

lemma CutAt.of_prepend {tokens : List Token} {stream : TokenStream} {index : Nat}
    (h : (stream.prepend tokens).CutAt index) : stream.CutAt index :=
  fun token htoken => h token (List.mem_append_right tokens htoken)

/-- The first lexeme of a text ends at a seam or before it. -/
lemma exists_eq_extent_append {origin : Origin} {afterLineEnd : Bool}
    {before front back later : List Char} {lexeme : Lexeme}
    (hlexeme : longestLexeme (lexeme.extent ++ later) = lexeme) (hpassed : lexeme.isPassed)
    (hsplit : front ++ back = lexeme.extent ++ later) (hne : front ≠ [])
    (hcut : (ofText origin afterLineEnd before (lexeme.extent ++ later)).CutAt
      (before.length + front.length)) :
    ∃ rest, front = lexeme.extent ++ rest ∧ later = rest ++ back := by
  obtain ⟨beyond, hextent, hback⟩ | ⟨rest, hfront, hlater⟩ := List.append_eq_append_iff.1 hsplit
  · have hpos := List.length_pos_of_ne_nil hne
    have hlength := congrArg List.length hextent
    rw [List.length_append] at hlength
    rcases beyond with _ | ⟨c, beyond⟩
    · exact ⟨[], by rw [hextent]; simp, by rw [hback]; rfl⟩
    · -- a lexeme beyond the seam has two characters at least, so it makes a token across the seam
      exfalso
      rw [List.length_cons] at hlength
      obtain ⟨token, htoken⟩ :=
        Lexeme.exists_token?_eq hpassed (by omega) origin afterLineEnd before
      obtain ⟨hposition, hspan⟩ := Lexeme.spans_of_token? htoken
      rw [ofText_extent_append hlexeme hpassed, htoken] at hcut
      have hacross := hcut token List.mem_cons_self
      rw [hposition, hspan, Position.behind_index] at hacross
      omega
  · exact ⟨rest, hfront, hlater⟩

/-- The step along a text where what stands behind a seam may be replaced. -/
lemma ofText_swap {lexeme : Lexeme} (hpassed : lexeme.isPassed) {rest back back' : List Char}
    (h : longestLexeme (lexeme.extent ++ (rest ++ back)) = lexeme)
    (hback : back'.head? = back.head? ∨ Text.Apart (lexeme.extent ++ rest) back')
    (origin : Origin) (afterLineEnd : Bool) (before : List Char) :
    ofText origin afterLineEnd before (lexeme.extent ++ rest ++ back') =
      (ofText origin (lexeme.endsLine afterLineEnd) (before ++ lexeme.extent)
        (rest ++ back')).prepend (lexeme.token? origin afterLineEnd before).toList := by
  rw [List.append_assoc]
  refine ofText_extent_append (longestLexeme_swap hpassed h ?_) hpassed _ _ _
  rcases rest with _ | ⟨c, rest⟩
  · rwa [List.append_nil] at hback
  · exact Or.inl rfl

/-- **Cutting at a seam.**  The tokens before it stay the same if what stands behind it is replaced
by something that begins alike or that is kept apart from them. -/
theorem exists_cut {origin : Origin} {afterLineEnd : Bool} {before front back : List Char}
    (hending : ∃ last, (ofText origin afterLineEnd before (front ++ back)).ending = .ok last)
    (hcut : (ofText origin afterLineEnd before (front ++ back)).CutAt
      (before.length + front.length)) :
    ∃ tokens atLineEnd,
      (∀ back', back'.head? = back.head? ∨ Text.Apart front back' →
        ofText origin afterLineEnd before (front ++ back') =
          (ofText origin atLineEnd (before ++ front) back').prepend tokens) ∧
      (front.getLast? = some '\n' ∨ front = [] ∧ afterLineEnd = true → atLineEnd = true) := by
  generalize htext : front ++ back = text at hending hcut
  induction text using lexeme_induction generalizing afterLineEnd before front with
  | atEnd =>
    obtain ⟨rfl, -⟩ := List.append_eq_nil_iff.1 htext
    exact ⟨[], afterLineEnd, by simp [prepend], by simp⟩
  | atFault rest read fault hfault => simp [ofText_faulty hfault] at hending
  | pass lexeme later hlexeme hpassed ih =>
    by_cases hfront : front = []
    · subst hfront
      exact ⟨[], afterLineEnd, by simp [prepend], by simp⟩
    obtain ⟨rest, rfl, rfl⟩ := exists_eq_extent_append hlexeme hpassed htext hfront hcut
    rw [ofText_extent_append hlexeme hpassed] at hending hcut
    obtain ⟨tokens, atLineEnd, hlater, hflag⟩ := ih rfl hending
      (by simpa [Nat.add_assoc] using hcut.of_prepend)
    refine ⟨(lexeme.token? origin afterLineEnd before).toList ++ tokens, atLineEnd,
      fun back' hback => ?_, fun hlast => hflag ?_⟩
    · have hback' : back'.head? = back.head? ∨ Text.Apart rest back' := by
        refine hback.imp_right fun happart => happart.imp_left fun h c hc => h c ?_
        rw [Option.mem_def] at hc
        simp [List.getLast?_append, hc]
      rw [ofText_swap hpassed hlexeme hback, hlater back' hback', prepend_prepend,
        List.append_assoc]
    · rcases List.eq_nil_or_concat' rest with rfl | ⟨more, c, rfl⟩
      · have hextent := Lexeme.extent_ne_nil hlexeme hpassed
        have hnewline : lexeme.extent.getLast? = some '\n' := by simpa [hextent] using hlast
        rw [Lexeme.eq_lineEnd hlexeme hpassed (List.mem_of_getLast? hnewline)]
        exact Or.inr ⟨rfl, rfl⟩
      · left
        simpa [List.getLast?_append] using hlast

/-! ## Where a text can be cut -/

/-- **Cutting at a token.**  A token is made by a lexeme, the tokens behind it by the text behind
that lexeme, and the tokens before it by the text before.  The latter stay the same if what stands
there is replaced by something that begins alike. -/
lemma exists_cut_at_token {origin : Origin} {afterLineEnd : Bool} {before rest : List Char}
    {earlier later : List Token} {token : Token}
    (h : (ofText origin afterLineEnd before rest).tokens = earlier ++ token :: later) :
    ∃ start lexeme behind atLineEnd,
      rest = start ++ (lexeme.extent ++ behind) ∧
      longestLexeme (lexeme.extent ++ behind) = lexeme ∧ lexeme.isPassed ∧
      lexeme.token? origin atLineEnd (before ++ start) = some token ∧
      (ofText origin (lexeme.endsLine atLineEnd) (before ++ start ++ lexeme.extent) behind).tokens =
        later ∧
      ∀ back, back.head? = (lexeme.extent ++ behind).head? →
        ofText origin afterLineEnd before (start ++ back) =
          (ofText origin atLineEnd (before ++ start) back).prepend earlier := by
  induction rest using lexeme_induction generalizing afterLineEnd before earlier with
  | atEnd => simp [ofText_nil] at h
  | atFault rest read fault hfault => simp [ofText_faulty hfault] at h
  | pass first more hfirst hpassed ih =>
    rw [ofText_extent_append hfirst hpassed, prepend_tokens] at h
    -- the token is made by the first lexeme, or behind it
    have hcases :
        (first.token? origin afterLineEnd before = some token ∧ earlier = [] ∧
          (ofText origin (first.endsLine afterLineEnd) (before ++ first.extent) more).tokens =
            later) ∨
        ∃ between, earlier = (first.token? origin afterLineEnd before).toList ++ between ∧
          (ofText origin (first.endsLine afterLineEnd) (before ++ first.extent) more).tokens =
            between ++ token :: later := by
      rcases hown : first.token? origin afterLineEnd before with _ | own
      · rw [hown] at h
        exact Or.inr ⟨earlier, rfl, h⟩
      · rw [hown] at h
        rcases earlier with _ | ⟨head, between⟩
        · obtain ⟨rfl, hmore⟩ := List.cons.inj h
          exact Or.inl ⟨rfl, rfl, hmore⟩
        · obtain ⟨rfl, hmore⟩ := List.cons.inj h
          exact Or.inr ⟨between, rfl, hmore⟩
    obtain ⟨htoken, rfl, hlater⟩ | ⟨between, rfl, hmore⟩ := hcases
    · rw [← List.append_nil before] at htoken hlater
      exact ⟨[], first, more, afterLineEnd, rfl, hfirst, hpassed, htoken, hlater,
        by simp [prepend]⟩
    · obtain ⟨start, lexeme, behind, atLineEnd, rfl, hlexeme, hlexemePassed, htoken, hlater,
        hback⟩ := ih hmore
      rw [List.append_assoc before] at htoken hlater
      refine ⟨first.extent ++ start, lexeme, behind, atLineEnd, (List.append_assoc _ _ _).symm,
        hlexeme, hlexemePassed, htoken, hlater, fun back hhead => ?_⟩
      rw [ofText_swap hpassed hfirst (Or.inl hhead), hback back hhead, prepend_prepend,
        List.append_assoc]

/-- Each token of a text spans one of its lexemes. -/
lemma exists_lexeme_of_mem {origin : Origin} {afterLineEnd : Bool} {before rest : List Char}
    {token : Token} (htoken : token ∈ (ofText origin afterLineEnd before rest).tokens) :
    ∃ start lexeme later, before ++ rest = start ++ (lexeme.extent ++ later) ∧
      longestLexeme (lexeme.extent ++ later) = lexeme ∧ lexeme.isPassed ∧
      token.position = .behind start ∧ token.span = lexeme.extent.length := by
  obtain ⟨earlier, later, hsplit⟩ := List.append_of_mem htoken
  obtain ⟨start, lexeme, behind, atLineEnd, rfl, hlexeme, hpassed, hmade, -, -⟩ :=
    exists_cut_at_token hsplit
  exact ⟨before ++ start, lexeme, behind, (List.append_assoc _ _ _).symm, hlexeme, hpassed,
    Lexeme.spans_of_token? hmade⟩

/-- No token runs across the end of its text. -/
lemma cutAt_end (origin : Origin) (afterLineEnd : Bool) (before rest : List Char) :
    (ofText origin afterLineEnd before rest).CutAt (before.length + rest.length) := by
  intro token htoken
  obtain ⟨start, lexeme, later, hsplit, -, -, hposition, hspan⟩ := exists_lexeme_of_mem htoken
  have hlength := congrArg List.length hsplit
  simp only [List.length_append] at hlength
  rw [hposition, hspan, Position.behind_index]
  omega

/-- No token runs across the end of a line. -/
lemma cutAt_newline (origin : Origin) (afterLineEnd : Bool) (before front back : List Char) :
    (ofText origin afterLineEnd before (front ++ '\n' :: back)).CutAt
      (before.length + front.length + 1) := by
  intro token htoken
  obtain ⟨start, lexeme, later, hsplit, hlexeme, hpassed, hposition, hspan⟩ :=
    exists_lexeme_of_mem htoken
  rw [hposition, hspan, Position.behind_index]
  by_contra hacross
  -- the newline is a character of the lexeme, so the lexeme has no other
  have hnewline : (before ++ (front ++ '\n' :: back))[before.length + front.length]? =
      some '\n' := by
    simp [← List.append_assoc]
  rw [hsplit, List.getElem?_append_right (by omega), List.getElem?_append_left (by omega)]
    at hnewline
  rw [Lexeme.eq_lineEnd hlexeme hpassed (List.mem_of_getElem? hnewline)] at hacross
  simp only [Lexeme.extent, List.length_singleton] at hacross
  omega

lemma isClosed_of_prepend {tokens : List Token} {stream : TokenStream}
    (h : (stream.prepend tokens).isClosed) : stream.isClosed := by
  rcases List.eq_nil_or_concat' stream.tokens with hnil | ⟨front, last, hlast⟩
  · simp [isClosed, hnil]
  · simpa [isClosed, hlast, List.getLast?_append] using h

/-- A text whose last line is closed ends with a separator. -/
lemma isSeparator_of_isClosed {origin : Origin} {afterLineEnd : Bool} {before rest : List Char}
    (hending : ∃ last, (ofText origin afterLineEnd before rest).ending = .ok last)
    (hclosed : (ofText origin afterLineEnd before rest).isClosed) :
    ∀ c ∈ rest.getLast?, Text.isSeparator c := by
  induction rest using lexeme_induction generalizing afterLineEnd before with
  | atEnd => simp
  | atFault rest read fault hfault => simp [ofText_faulty hfault] at hending
  | pass lexeme later hlexeme hpassed ih =>
    rw [ofText_extent_append hlexeme hpassed] at hending hclosed
    rcases List.eq_nil_or_concat' later with rfl | ⟨more, last, rfl⟩
    · rw [ofText_nil] at hclosed
      cases lexeme with
      | textEnd | faulty _ _ => cases hpassed
      | blank c =>
        have hblank := longestLexeme_eq_blank_iff.1 hlexeme
        simp [Lexeme.extent, Text.isSeparator, hblank]
      | lineEnd => simp [Lexeme.extent, Text.isSeparator]
      | name _ | number _ => cases hclosed
    · simpa [List.getLast?_append] using ih hending (isClosed_of_prepend hclosed)

/-! ## Reading across a seam -/

lemma reading_prepend_newLine {newLine : Token} (h : newLine.tag = .newLine)
    (stream : TokenStream) :
    (stream.prepend [newLine]).reading = stream.reading :=
  reading_blank stream.tokens stream.ending h

/-- Whether a line end came before has no bearing on the lines. -/
lemma reading_ofText_congr (origin : Origin) (afterLineEnd : Bool) (before rest : List Char) :
    (ofText origin afterLineEnd before rest).reading =
      (ofText origin false before rest).reading := by
  induction rest using lexeme_induction generalizing before with
  | atEnd => rw [ofText_nil, ofText_nil]
  | atFault rest read fault hfault => rw [ofText_faulty hfault, ofText_faulty hfault]
  | pass lexeme later hlexeme hpassed ih =>
    rw [ofText_extent_append hlexeme hpassed, ofText_extent_append hlexeme hpassed]
    cases lexeme with
    | textEnd | faulty _ _ => cases hpassed
    | blank c => exact ih _
    | lineEnd =>
      cases afterLineEnd with
      | true => exact (reading_prepend_newLine rfl _).symm
      | false => rfl
    | name _ | number _ => rfl

lemma of_reading_eq_ok {stream : TokenStream} {tree : Tree} (h : stream.reading = .ok tree) :
    stream.misplaced? = none ∧ (∃ last, stream.ending = .ok last) ∧ stream.isClosed := by
  rw [reading, offence?] at h
  split at h
  · cases h
  · rename_i hoffence
    split at hoffence
    · cases hoffence
    · rename_i hmisplaced
      split at hoffence
      · cases hoffence
      · rename_i last hending
        split_ifs at hoffence with hclosed
        exact ⟨hmisplaced, ⟨last, hending⟩, hclosed⟩

/-- The lines behind a closed line are read by themselves. -/
lemma lines_prepend {tokens : List Token} {ending : Except LexicalError Token}
    (hclosed : isClosed ⟨tokens, ending⟩) (stream : TokenStream) :
    (stream.prepend tokens).lines = lines ⟨tokens, ending⟩ ++ stream.lines := by
  rcases List.eq_nil_or_concat' tokens with rfl | ⟨front, newLine, rfl⟩
  · rfl
  · have hnewLine : decide (newLine.tag = .newLine) = true := by simpa [isClosed] using hclosed
    have hsplit (rest : List Token) := List.splitOnP_append_cons
      (p := fun token : Token => decide (token.tag = .newLine)) front rest hnewLine
    simp [lines, hsplit]

lemma isClosed_prepend {tokens : List Token} {stream : TokenStream}
    {ending : Except LexicalError Token} (hclosed : isClosed ⟨tokens, ending⟩) :
    (stream.prepend tokens).isClosed = stream.isClosed := by
  rcases List.eq_nil_or_concat' tokens with rfl | ⟨front, newLine, rfl⟩
  · rfl
  · have hnewLine : newLine.tag = .newLine := by simpa [isClosed] using hclosed
    rw [prepend, List.append_assoc]
    exact isClosed_append_newLine front stream.tokens stream.ending hnewLine

/-- **Lines behind what was read without offence are read as if they stood alone.** -/
lemma reading_prepend {tokens : List Token} {ending : Except LexicalError Token} {tree : Tree}
    (h : reading ⟨tokens, ending⟩ = .ok tree) (stream : TokenStream) :
    (stream.prepend tokens).reading = (tree ++ ·) <$> stream.reading := by
  obtain ⟨hmisplaced, -, hclosed⟩ := of_reading_eq_ok h
  have hlines := lines_prepend hclosed stream
  have hmisplaced' : (stream.prepend tokens).misplaced? = stream.misplaced? := by
    rw [misplaced?] at hmisplaced
    rw [misplaced?, misplaced?, hlines, List.filterMap_append, List.find?_append, hmisplaced,
      Option.none_or]
  have hoffence : (stream.prepend tokens).offence? = stream.offence? := by
    rw [offence?, offence?, hmisplaced', isClosed_prepend hclosed, prepend_ending]
  have htree : (stream.prepend tokens).tree = tree ++ stream.tree := by
    rw [eq_tree_of_reading h, TokenStream.tree, hlines, List.map_append]
    rfl
  rw [reading, reading, hoffence, htree]
  cases stream.offence? with
  | none => rfl
  | some e => rfl

/-! ## The same text at another place -/

lemma relocate_id (stream : TokenStream) : stream.relocate id = stream := by
  have hid : Token.relocate id = id := rfl
  obtain ⟨tokens, ending⟩ := stream
  simp only [relocate, hid, List.map_id]
  rcases ending with e | last <;> rfl

section

variable {f : Position → Position}

lemma relocate_prepend (tokens : List Token) (stream : TokenStream) :
    (stream.prepend tokens).relocate f =
      (stream.relocate f).prepend (tokens.map (Token.relocate f)) := by
  simp [relocate, prepend]

lemma relocate_token? {g : Position → Position} {before before' : List Char}
    (h : g (.behind before') = f (.behind before)) (lexeme : Lexeme) (origin : Origin)
    (afterLineEnd : Bool) :
    (lexeme.token? origin afterLineEnd before').map (Token.relocate g) =
      (lexeme.token? origin afterLineEnd before).map (Token.relocate f) := by
  cases lexeme with
  | textEnd | blank _ | faulty _ _ => rfl
  | lineEnd => cases afterLineEnd <;> simp [Lexeme.token?, Token.relocate, h]
  | name _ | number _ => simp [Lexeme.token?, Token.relocate, h]

/-- **The tokens of a text behind one text are those behind another**, at places that correspond. -/
lemma relocate_ofText {g : Position → Position} {before before' : List Char}
    (h : ∀ more, g (.behind (before' ++ more)) = f (.behind (before ++ more)))
    (origin : Origin) (afterLineEnd : Bool) (rest : List Char) :
    (ofText origin afterLineEnd before' rest).relocate g =
      (ofText origin afterLineEnd before rest).relocate f := by
  have hplace : g (.behind before') = f (.behind before) := by simpa using h []
  induction rest using lexeme_induction generalizing afterLineEnd before before' with
  | atEnd =>
    rw [ofText_nil, ofText_nil]
    simp [relocate, Token.relocate, Except.map, Except.mapError, hplace]
  | atFault rest read fault hfault =>
    rw [ofText_faulty hfault, ofText_faulty hfault]
    simp [relocate, LexicalError.relocate, Except.map, Except.mapError, h]
  | pass lexeme later hlexeme hpassed ih =>
    have hmoved (more : List Char) : g (.behind (before' ++ lexeme.extent ++ more)) =
        f (.behind (before ++ lexeme.extent ++ more)) := by
      rw [List.append_assoc, List.append_assoc, h]
    have hlater := ih hmoved (lexeme.endsLine afterLineEnd) (h _)
    rw [ofText_extent_append hlexeme hpassed, ofText_extent_append hlexeme hpassed,
      relocate_prepend, relocate_prepend, hlater, ← Option.toList_map, ← Option.toList_map,
      relocate_token? hplace]

/-- Without their places, the tokens of a text are the same behind any text. -/
lemma forget_ofText (before before' : List Char) (origin : Origin) (afterLineEnd : Bool)
    (rest : List Char) :
    (ofText origin afterLineEnd before' rest).relocate (fun _ => .start) =
      (ofText origin afterLineEnd before rest).relocate (fun _ => .start) :=
  relocate_ofText (f := fun _ => .start) (g := fun _ => .start) (fun _ => rfl) origin afterLineEnd
    rest

end

/-! ## The list of all tokens -/

lemma listing_eq_ok_iff {stream : TokenStream} {tokens : List Token} :
    stream.listing = .ok tokens ↔
      ∃ last, stream.ending = .ok last ∧ tokens = stream.tokens ++ [last] := by
  rw [listing]
  rcases stream.ending with e | last
  · simp
  · simp [eq_comm]

/-- What ends the list of all tokens ends each of its ends. -/
lemma exists_tokens_eq {tokens front back : List Token} {last : Token}
    (h : tokens ++ [last] = front ++ back) (hne : back ≠ []) :
    ∃ later, tokens = front ++ later ∧ back = later ++ [last] := by
  rcases List.eq_nil_or_concat' back with rfl | ⟨later, final, rfl⟩
  · exact absurd rfl hne
  · rw [← List.append_assoc] at h
    obtain ⟨htokens, hlast⟩ := List.append_inj' h rfl
    rw [hlast]
    exact ⟨later, htokens, rfl⟩

end TokenStream

/-- The tokens of a text are those of its stream and the end-of-file token behind them. -/
lemma tokenize_eq_ok_iff {source : String} {origin : Origin} {tokens : List Token} :
    tokenize source origin = .ok tokens ↔
      (TokenStream.ofText origin false [] source.toList).ending =
          .ok ⟨.endOfFile, .behind source.toList, 0, origin⟩ ∧
        tokens = (TokenStream.ofText origin false [] source.toList).tokens ++
          [⟨.endOfFile, .behind source.toList, 0, origin⟩] := by
  rw [tokenize_eq_listing, Scanner.stream_ofText, TokenStream.listing_eq_ok_iff]
  constructor
  · rintro ⟨last, hending, htokens⟩
    obtain rfl := TokenStream.eq_endOfFile_of_ending hending
    exact ⟨hending, htokens⟩
  · rintro ⟨hending, htokens⟩
    exact ⟨_, hending, htokens⟩

end Kaomoji
