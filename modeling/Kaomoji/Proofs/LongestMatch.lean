import Kaomoji.Proofs.Place
import Kaomoji.Token.Scanner

/-!
# The scanner reads the longest match

The scanner finds out where a lexeme ends by drawing one character too many and holding it back, so
its state after a lexeme depends on what follows.  This module separates the two.  `longestLexeme`
says what stands at the head of a text, looking at nothing but the text, and
`Scanner.nextToken_eq` says that asking the scanner for a token is acting on it.

Two operations make the state after a lexeme sayable at once.  `Scanner.past` reads some characters
and holds nothing; `Scanner.peeked` draws the next character, if there is one, and holds it back.
Behind a name or a number the scanner is *exactly* `(s.past lexeme).peeked`, and behind a blank, a
line end or a fault it is `s.past` of what was read.  No equality up to a held character is needed.

The one thing that the state has to promise is `Scanner.Coherent`: a held character is the one just
before the cursor.
-/

namespace Kaomoji

/-! ## What stands at the head of a text -/

/-- What stands at the head of a text. -/
inductive Lexeme where
  /-- The text is at its end. -/
  | textEnd
  /-- A character that separates words. -/
  | blank (c : Char)
  /-- A newline. -/
  | lineEnd
  /-- A name, with its characters. -/
  | name (text : List Char)
  /-- A number, with its characters; separators are among them. -/
  | number (text : List Char)
  /-- A fault, with what was read before it could be seen. -/
  | faulty (read : List Char) (fault : LexicalFault)
deriving DecidableEq

/-- The character that a fault is about, if it is not the missing one at the end of the text. -/
def LexicalFault.found? : LexicalFault → Option Char
  | unknownCharacter c => some c
  | missingDecimalDigit found => found

/-- The characters that are read with a lexeme; a faulty character is read too. -/
def Lexeme.extent : Lexeme → List Char
  | textEnd => []
  | blank c => [c]
  | lineEnd => ['\n']
  | name text => text
  | number text => text
  | faulty read fault => read ++ fault.found?.toList

/-- Whether a lexeme makes neither token nor error: blanks do not, nor line ends behind a line-end
token. -/
def Lexeme.isSkipped (afterLineEnd : Bool) : Lexeme → Bool
  | blank _ => true
  | lineEnd => afterLineEnd
  | textEnd | name _ | number _ | faulty _ _ => false

/-- The number that begins with the digits and separators `whole` and goes on with `rest`. -/
def numberLexeme (whole : List Char) : List Char → Lexeme
  | ['.'] => .faulty (whole ++ ['.']) (.missingDecimalDigit none)
  | '.' :: d :: rest =>
    if isDigitOrSeparator d then .number (whole ++ '.' :: (d :: rest).takeWhile isDigitOrSeparator)
    else .faulty (whole ++ ['.']) (.missingDecimalDigit (some d))
  | _ => .number whole

/-- **The longest match at the head of a text.** -/
def longestLexeme : List Char → Lexeme
  | [] => .textEnd
  | c :: rest =>
    if c = '\n' then .lineEnd
    else if isBlank c then .blank c
    else if isNameStart c then .name (c :: rest.takeWhile isNameContinue)
    else if c.isDigit then
      numberLexeme (c :: rest.takeWhile isDigitOrSeparator) (rest.dropWhile isDigitOrSeparator)
    else .faulty [] (.unknownCharacter c)

/-- The value of a numeral by the digits on both sides of its point. -/
def numeralValue (numeral : List Char) : Binary64 :=
  .ofDecimal (.ofDigits (numeral.takeWhile (· ≠ '.')) (numeral.dropWhile (· ≠ '.')).tail)

/-! ### Digits and separators -/

lemma isDigitOrSeparator_of_isDigit {c : Char} (h : c.isDigit) : isDigitOrSeparator c := by
  simp [isDigitOrSeparator, h]

lemma ne_point_of_isDigitOrSeparator {c : Char} (h : isDigitOrSeparator c) : c ≠ '.' := by
  rintro rfl
  exact absurd h (by decide)

lemma withoutSeparators_cons {c : Char} (hc : c.isDigit) (row : List Char) :
    withoutSeparators (c :: row) = c :: withoutSeparators row := by
  have hne : c ≠ digitSeparator := by
    rintro rfl
    exact absurd hc (by decide)
  simp [withoutSeparators, hne]

lemma isDigitOrSeparator_of_mem_cons {c : Char} (hc : c.isDigit) {row : List Char}
    (hrow : ∀ d ∈ row, isDigitOrSeparator d) : ∀ d ∈ c :: row, isDigitOrSeparator d := by
  intro d hd
  rcases List.mem_cons.1 hd with rfl | hd
  · exact isDigitOrSeparator_of_isDigit hc
  · exact hrow d hd

lemma ne_point_of_mem_withoutSeparators {row : List Char} (hrow : ∀ c ∈ row, isDigitOrSeparator c) :
    ∀ c ∈ withoutSeparators row, decide (c ≠ '.') = true := by
  intro c hc
  exact decide_eq_true (ne_point_of_isDigitOrSeparator (hrow c (List.mem_of_mem_filter hc)))

lemma numeralValue_whole {whole : List Char} (hwhole : ∀ c ∈ whole, isDigitOrSeparator c) :
    numeralValue (withoutSeparators whole) =
      .ofDecimal (.ofDigits (withoutSeparators whole) []) := by
  have hpoint := ne_point_of_mem_withoutSeparators hwhole
  rw [numeralValue, List.takeWhile_eq_self_iff.2 hpoint, List.dropWhile_eq_nil_iff.2 hpoint,
    List.tail_nil]

/-- The first point of a numeral divides whole part and fraction. -/
lemma numeralValue_point {whole : List Char} (hwhole : ∀ c ∈ whole, isDigitOrSeparator c)
    (fraction : List Char) :
    numeralValue (withoutSeparators (whole ++ '.' :: fraction)) =
      .ofDecimal (.ofDigits (withoutSeparators whole) (withoutSeparators fraction)) := by
  have hpoint := ne_point_of_mem_withoutSeparators hwhole
  have hsplit : withoutSeparators (whole ++ '.' :: fraction) =
      withoutSeparators whole ++ '.' :: withoutSeparators fraction := by
    simp [withoutSeparators, digitSeparator]
  rw [numeralValue, hsplit, List.takeWhile_append_of_pos hpoint,
    List.dropWhile_append_of_pos hpoint]
  simp

/-! ### What a lexeme reads -/

/-- What is read of a number, faulty or not, stands at the head of its text. -/
lemma numberLexeme_extent_prefix (whole rest : List Char) :
    (numberLexeme whole rest).extent <+: whole ++ rest := by
  unfold numberLexeme
  split
  · simp [Lexeme.extent, LexicalFault.found?]
  · rename_i d more
    split
    · rw [Lexeme.extent, List.prefix_append_right_inj, List.cons_prefix_cons]
      exact ⟨rfl, List.takeWhile_prefix _⟩
    · simp [Lexeme.extent, LexicalFault.found?]
  · simp [Lexeme.extent]

lemma longestLexeme_extent_prefix (text : List Char) : (longestLexeme text).extent <+: text := by
  rcases text with _ | ⟨c, rest⟩
  · exact List.prefix_rfl
  · rw [longestLexeme]
    split_ifs with hnewline hblank hname hdigit
    · simp [Lexeme.extent, hnewline]
    · simp [Lexeme.extent]
    · rw [Lexeme.extent, List.cons_prefix_cons]
      exact ⟨rfl, List.takeWhile_prefix _⟩
    · have h := numberLexeme_extent_prefix (c :: rest.takeWhile isDigitOrSeparator)
        (rest.dropWhile isDigitOrSeparator)
      rwa [List.cons_append, List.takeWhile_append_dropWhile] at h
    · simp [Lexeme.extent, LexicalFault.found?]

/-- Before the end of the text every lexeme reads something. -/
lemma longestLexeme_extent_ne_nil {text : List Char} (h : text ≠ []) :
    (longestLexeme text).extent ≠ [] := by
  obtain ⟨c, rest, rfl⟩ := List.exists_cons_of_ne_nil h
  rw [longestLexeme]
  split_ifs with hnewline hblank hname hdigit
  · simp [Lexeme.extent]
  · simp [Lexeme.extent]
  · simp [Lexeme.extent]
  · unfold numberLexeme
    split
    · simp [Lexeme.extent]
    · split <;> simp [Lexeme.extent]
    · simp [Lexeme.extent]
  · simp [Lexeme.extent, LexicalFault.found?]

lemma eq_nil_of_textEnd {text : List Char} (h : longestLexeme text = .textEnd) : text = [] := by
  by_contra hne
  exact longestLexeme_extent_ne_nil hne (by rw [h]; rfl)

namespace Scanner

/-! ## Reading characters and peeking -/

/-- A held character is the one just before the cursor. -/
def Coherent (s : Scanner) : Prop :=
  ∀ found, s.held = some found → s.cursor = found.2.after found.1

/-- The scanner that has read the characters `taken` and holds none. -/
def past (s : Scanner) (taken : List Char) : Scanner :=
  { s with
    unread := s.remaining.drop taken.length
    cursor := s.position.afterText taken
    held := none }

/-- The scanner that holds the next character, if there is one. -/
def peeked (s : Scanner) : Scanner :=
  match s.draw with
  | none => s
  | some (found, s') => s'.hold found

lemma coherent_ofText (text : List Char) (origin : Origin) : (ofText text origin).Coherent := by
  intro found h
  simp [ofText] at h

lemma coherent_past (s : Scanner) (taken : List Char) : (s.past taken).Coherent := by
  intro found h
  simp [past] at h

@[simp] lemma past_held (s : Scanner) (taken : List Char) : (s.past taken).held = none := rfl

@[simp] lemma past_position (s : Scanner) (taken : List Char) :
    (s.past taken).position = s.position.afterText taken := rfl

lemma past_remaining {s : Scanner} {taken rest : List Char} (h : s.remaining = taken ++ rest) :
    (s.past taken).remaining = rest := by
  have hunread : (s.past taken).remaining = s.remaining.drop taken.length := by
    simp [past, remaining]
  rw [hunread, h, List.drop_left]

lemma past_past (s : Scanner) (first second : List Char) :
    (s.past first).past second = s.past (first ++ second) := by
  have hplace : s.position.afterText (first ++ second) =
      (s.position.afterText first).afterText second := by
    simp [Position.afterText, List.foldl_append]
  have hunread : (s.past first).remaining.drop second.length =
      s.remaining.drop (first ++ second).length := by
    simp [past, remaining]
  rw [past, past_position, hunread, ← hplace]
  rfl

lemma held_eq_none {s : Scanner} (h : s.remaining = []) : s.held = none := by
  rw [remaining, List.append_eq_nil_iff] at h
  simpa using h.1

lemma past_nil {s : Scanner} (h : s.remaining = []) : s.past [] = s := by
  have hheld := held_eq_none h
  have hunread : s.unread = [] := by simpa [remaining, hheld] using h
  cases s
  simp_all [past, remaining, position]

/-! ## Drawing -/

lemma draw_nil {s : Scanner} (h : s.remaining = []) : s.draw = none := by
  have hheld := held_eq_none h
  have hunread : s.unread = [] := by simpa [remaining, hheld] using h
  simp [draw, hheld, hunread]

/-- Whether the next character is held or not, drawing reads it at the scanner's position. -/
lemma draw_cons {s : Scanner} (hs : s.Coherent) {c : Char} {rest : List Char}
    (h : s.remaining = c :: rest) : s.draw = some ((c, s.position), s.past [c]) := by
  rcases hheld : s.held with _ | ⟨d, place⟩
  · have hunread : s.unread = c :: rest := by simpa [remaining, hheld] using h
    simp [draw, past, position, remaining, hheld, hunread]
  · have hcursor : s.cursor = place.after d := hs (d, place) hheld
    have hd : d = c ∧ s.unread = rest := by simpa [remaining, hheld] using h
    simp [draw, past, position, remaining, hheld, hd, hcursor]

lemma drawRun_of_draw_none (accepts : Char → Bool) {s : Scanner} (h : s.draw = none) :
    s.drawRun accepts = ⟨[], none, s⟩ := by
  rw [drawRun]
  split
  · rfl
  · simp_all

lemma drawRun_of_draw_some (accepts : Char → Bool) {s s' : Scanner} {found : Char × Position}
    (h : s.draw = some (found, s')) :
    s.drawRun accepts =
      if accepts found.1 then
        { s'.drawRun accepts with accepted := found.1 :: (s'.drawRun accepts).accepted }
      else ⟨[], some found, s'⟩ := by
  rw [drawRun]
  split
  · simp_all
  · simp_all

/-- The characters that a run accepts are the longest accepted head of what remains; what stops it
is read as well. -/
lemma drawRun_eq (accepts : Char → Bool) {s : Scanner} (hs : s.Coherent) :
    s.drawRun accepts =
      { accepted := s.remaining.takeWhile accepts
        stop := (s.remaining.dropWhile accepts).head?.map
          (·, s.position.afterText (s.remaining.takeWhile accepts))
        rest := s.past
          (s.remaining.takeWhile accepts ++ (s.remaining.dropWhile accepts).head?.toList) } := by
  generalize hrem : s.remaining = text
  induction text generalizing s with
  | nil =>
    rw [drawRun_of_draw_none accepts (draw_nil hrem)]
    simp [past_nil hrem]
  | cons c rest ih =>
    rw [drawRun_of_draw_some accepts (draw_cons hs hrem)]
    by_cases hc : accepts c
    · have hrest : (s.past [c]).remaining = rest := past_remaining hrem
      simp [hc, ih (coherent_past s [c]) hrest, past_past]
    · simp [hc]

/-! ## Peeking -/

lemma peeked_nil {s : Scanner} (h : s.remaining = []) : s.peeked = s := by
  rw [peeked, draw_nil h]

lemma peeked_cons {s : Scanner} (hs : s.Coherent) {c : Char} {rest : List Char}
    (h : s.remaining = c :: rest) : s.peeked = (s.past [c]).hold (c, s.position) := by
  rw [peeked, draw_cons hs h]

/-- Peeking moves nothing: the same characters remain, from the same place on. -/
lemma peeked_view {s : Scanner} (hs : s.Coherent) :
    s.peeked.remaining = s.remaining ∧ s.peeked.position = s.position ∧ s.peeked.Coherent := by
  rcases h : s.remaining with _ | ⟨c, rest⟩
  · rw [peeked_nil h]
    exact ⟨h, rfl, hs⟩
  · rw [peeked_cons hs h]
    have hrest : (s.past [c]).remaining = rest := past_remaining h
    refine ⟨?_, rfl, ?_⟩
    · simpa [hold, remaining] using hrest
    · intro found hfound
      simp only [hold, Option.some.injEq] at hfound
      subst hfound
      rfl

/-- Drawing changes neither the unit nor what is remembered of the run. -/
lemma draw_frame {s s' : Scanner} {found : Char × Position} (h : s.draw = some (found, s')) :
    s'.origin = s.origin ∧ s'.last = s.last ∧ s'.finished = s.finished := by
  unfold draw at h
  split at h
  · cases h
    exact ⟨rfl, rfl, rfl⟩
  · split at h
    · cases h
    · cases h
      exact ⟨rfl, rfl, rfl⟩

lemma peeked_frame (s : Scanner) :
    s.peeked.origin = s.origin ∧ s.peeked.last = s.last ∧ s.peeked.finished = s.finished := by
  unfold peeked
  split
  · exact ⟨rfl, rfl, rfl⟩
  · rename_i found s' h
    have hframe := draw_frame h
    simpa [hold] using hframe

/-- A run whose stopping character is held back has read its accepted characters and peeked. -/
lemma holdAny_drawRun (accepts : Char → Bool) {s : Scanner} (hs : s.Coherent) :
    (s.drawRun accepts).rest.holdAny (s.drawRun accepts).stop =
      (s.past (s.remaining.takeWhile accepts)).peeked := by
  have hsplit : s.remaining =
      s.remaining.takeWhile accepts ++ s.remaining.dropWhile accepts :=
    List.takeWhile_append_dropWhile.symm
  have hrest := past_remaining hsplit
  rw [drawRun_eq accepts hs]
  rcases hdrop : s.remaining.dropWhile accepts with _ | ⟨c, rest⟩
  · rw [hdrop] at hrest
    simp [holdAny, peeked_nil hrest]
  · rw [hdrop] at hrest
    rw [peeked_cons (coherent_past s _) hrest, past_past]
    simp [holdAny]

/-! ## Acting on a lexeme -/

/-- What the scanner answers to the lexeme at the head of its text. -/
def respond (s : Scanner) : Lexeme → Except LexicalError Token × Scanner
  | .textEnd => s.make .endOfFile s.position 0
  | .blank c => (s.past [c]).nextToken
  | .lineEnd =>
    if s.lastIs .newLine then (s.past ['\n']).nextToken
    else (s.past ['\n']).make .newLine s.position 1
  | .name text => (s.past text).peeked.make (.name (String.ofList text)) s.position text.length
  | .number text =>
    (s.past text).peeked.make (.number (numeralValue (withoutSeparators text))) s.position text.length
  | .faulty read fault =>
    (s.past (read ++ fault.found?.toList)).fail fault (s.position.afterText read)

lemma spanFrom_peeked_past (s : Scanner) (taken : List Char) :
    (s.past taken).peeked.spanFrom s.position = taken.length := by
  rw [spanFrom, (peeked_view (coherent_past s taken)).2.1, past_position, Position.afterText_index]
  omega

lemma name_eq {s : Scanner} {c : Char} {rest : List Char} (h : s.remaining = c :: rest) :
    (s.past [c]).name c s.position = s.respond (.name (c :: rest.takeWhile isNameContinue)) := by
  have hs := coherent_past s [c]
  have hrest : (s.past [c]).remaining = rest := past_remaining h
  have hend := holdAny_drawRun isNameContinue hs
  rw [hrest, past_past, List.singleton_append] at hend
  simp only [name, respond]
  rw [hend, spanFrom_peeked_past, drawRun_eq isNameContinue hs, hrest]

lemma makeNumber_whole {s : Scanner} {c : Char} (hc : c.isDigit) {row : List Char}
    (hrow : ∀ d ∈ row, isDigitOrSeparator d) :
    (s.past (c :: row)).peeked.makeNumber (c :: withoutSeparators row) [] s.position =
      s.respond (.number (c :: row)) := by
  have hall := isDigitOrSeparator_of_mem_cons hc hrow
  rw [makeNumber, spanFrom_peeked_past, respond, numeralValue_whole hall, withoutSeparators_cons hc]

lemma makeNumber_point {s : Scanner} {c : Char} (hc : c.isDigit) {row : List Char}
    (hrow : ∀ d ∈ row, isDigitOrSeparator d) (fraction : List Char) :
    (s.past (c :: row ++ '.' :: fraction)).peeked.makeNumber (c :: withoutSeparators row)
        (withoutSeparators fraction) s.position =
      s.respond (.number (c :: row ++ '.' :: fraction)) := by
  have hall := isDigitOrSeparator_of_mem_cons hc hrow
  rw [makeNumber, spanFrom_peeked_past, respond, numeralValue_point hall, withoutSeparators_cons hc]

/-- A digit or separator behind the point opens a fraction, which is a run of its own. -/
lemma fraction_eq {s : Scanner} {c : Char} (hc : c.isDigit) {row : List Char}
    (hrow : ∀ d ∈ row, isDigitOrSeparator d) {t : Scanner} {d : Char} {more : List Char}
    (ht : t = s.past (c :: row ++ ['.', d])) (hmore : t.remaining = more) :
    ((t.drawRun isDigitOrSeparator).rest.holdAny (t.drawRun isDigitOrSeparator).stop).makeNumber
        (c :: withoutSeparators row)
        (withoutSeparators (d :: (t.drawRun isDigitOrSeparator).accepted)) s.position =
      s.respond (.number (c :: row ++ '.' :: d :: more.takeWhile isDigitOrSeparator)) := by
  have hcoherent : t.Coherent := ht ▸ coherent_past s _
  have hlexeme : (c :: row ++ ['.', d]) ++ more.takeWhile isDigitOrSeparator =
      c :: row ++ '.' :: d :: more.takeWhile isDigitOrSeparator := by simp
  rw [holdAny_drawRun isDigitOrSeparator hcoherent, drawRun_eq isDigitOrSeparator hcoherent, hmore,
    ht, past_past, hlexeme]
  exact makeNumber_point hc hrow _

lemma number_eq {s : Scanner} {c : Char} (hc : c.isDigit) {rest : List Char}
    (h : s.remaining = c :: rest) :
    (s.past [c]).number c s.position =
      s.respond (numberLexeme (c :: rest.takeWhile isDigitOrSeparator)
        (rest.dropWhile isDigitOrSeparator)) := by
  have hs := coherent_past s [c]
  have hrest : (s.past [c]).remaining = rest := past_remaining h
  have hrun := drawRun_eq isDigitOrSeparator hs
  have hend := holdAny_drawRun isDigitOrSeparator hs
  rw [hrest, past_past, List.singleton_append] at hrun hend
  set row := rest.takeWhile isDigitOrSeparator with hrow
  have hdigits : ∀ d ∈ row, isDigitOrSeparator d := fun d hd => List.mem_takeWhile_imp hd
  have hsplit : s.remaining = (c :: row) ++ rest.dropWhile isDigitOrSeparator := by
    rw [h, hrow, List.cons_append, List.takeWhile_append_dropWhile]
  unfold number
  dsimp only
  rw [hend, hrun]
  rcases hdrop : rest.dropWhile isDigitOrSeparator with _ | ⟨point, behind⟩
  · simp only [List.head?_nil, Option.map_none, Option.any_none, Bool.false_eq_true, if_false]
    exact makeNumber_whole hc hdigits
  · by_cases hpoint : point = '.'
    · subst hpoint
      rw [hdrop, List.append_cons] at hsplit
      have hbehind : (s.past (c :: row ++ ['.'])).remaining = behind := past_remaining hsplit
      simp only [List.head?_cons, Option.map_some, Option.any_some, decide_true, if_true,
        Option.toList_some]
      rcases behind with _ | ⟨d, more⟩
      · rw [← List.cons_append, draw_nil hbehind]
        simp [numberLexeme, respond, LexicalFault.found?, past]
      · rw [← List.cons_append, draw_cons (coherent_past s _) hbehind]
        have hmore : ((s.past (c :: row ++ ['.'])).past [d]).remaining = more :=
          past_remaining hbehind
        rw [past_past, List.append_assoc, List.singleton_append] at hmore ⊢
        by_cases hd : isDigitOrSeparator d
        · simp only [hd, if_true, numberLexeme, List.takeWhile_cons_of_pos]
          exact fraction_eq hc hdigits rfl hmore
        · simp [hd, numberLexeme, respond, LexicalFault.found?]
    · have hplain : numberLexeme (c :: row) (point :: behind) = .number (c :: row) := by
        unfold numberLexeme
        split <;> simp_all
      rw [hplain, ← makeNumber_whole hc hdigits]
      simp [hpoint]

/-! ## The next token -/

lemma nextToken_of_draw_none {s : Scanner} (h : s.draw = none) :
    s.nextToken = s.make .endOfFile s.cursor 0 := by
  rw [nextToken]
  split
  · rfl
  · simp_all

lemma nextToken_of_draw_some {s s' : Scanner} {c : Char} {place : Position}
    (h : s.draw = some ((c, place), s')) :
    s.nextToken =
      if c = '\n' then if s'.lastIs .newLine then s'.nextToken else s'.make .newLine place 1
      else if isBlank c then s'.nextToken
      else if isNameStart c then s'.name c place
      else if c.isDigit then s'.number c place
      else s'.fail (.unknownCharacter c) place := by
  rw [nextToken]
  split
  · simp_all
  · simp_all

/-- **Asking for a token is acting on the longest match** at the head of what remains. -/
theorem nextToken_eq {s : Scanner} (hs : s.Coherent) :
    s.nextToken = s.respond (longestLexeme s.remaining) := by
  rcases h : s.remaining with _ | ⟨c, rest⟩
  · have hposition : s.position = s.cursor := by simp [position, held_eq_none h]
    rw [nextToken_of_draw_none (draw_nil h), longestLexeme, respond, hposition]
  · rw [nextToken_of_draw_some (draw_cons hs h), longestLexeme]
    by_cases hnewline : c = '\n'
    · subst hnewline
      simp only [if_true, respond]
      rfl
    · simp only [hnewline, if_false]
      by_cases hblank : isBlank c
      · simp [hblank, respond]
      · by_cases hname : isNameStart c
        · simp [hblank, hname, name_eq h]
        · by_cases hdigit : c.isDigit
          · simp [hblank, hname, hdigit, number_eq hdigit h]
          · simp [hblank, hname, hdigit, respond, LexicalFault.found?]

/-! ## What a call reads -/

/-- The scanner `t` is the scanner `s` moved past the characters `taken`; which token is remembered
is left open. -/
structure Reads (s : Scanner) (taken : List Char) (t : Scanner) : Prop where
  coherent : t.Coherent
  remaining : s.remaining = taken ++ t.remaining
  position : t.position = s.position.afterText taken
  origin : t.origin = s.origin
  finished : t.finished = s.finished

lemma Reads.trans {s t u : Scanner} {first second : List Char} (hst : s.Reads first t)
    (htu : t.Reads second u) : s.Reads (first ++ second) u where
  coherent := htu.coherent
  remaining := by rw [hst.remaining, htu.remaining, List.append_assoc]
  position := by
    rw [htu.position, hst.position]
    simp [Position.afterText, List.foldl_append]
  origin := htu.origin.trans hst.origin
  finished := htu.finished.trans hst.finished

lemma reads_past {s : Scanner} {taken : List Char} (h : taken <+: s.remaining) :
    s.Reads taken (s.past taken) := by
  obtain ⟨rest, hrest⟩ := h
  exact
    { coherent := coherent_past s taken
      remaining := by rw [past_remaining hrest.symm, hrest]
      position := rfl
      origin := rfl
      finished := rfl }

lemma reads_peeked {s : Scanner} (hs : s.Coherent) : s.Reads [] s.peeked where
  coherent := (peeked_view hs).2.2
  remaining := (peeked_view hs).1.symm
  position := (peeked_view hs).2.1
  origin := (peeked_frame s).1
  finished := (peeked_frame s).2.2

lemma Reads.make {s t : Scanner} {taken : List Char} (h : s.Reads taken t) (kind : TokenKind)
    (start : Position) (span : Nat) : s.Reads taken (t.make kind start span).2 :=
  ⟨h.coherent, h.remaining, h.position, h.origin, h.finished⟩

lemma reads_past_peeked {s : Scanner} {taken : List Char} (h : taken <+: s.remaining) :
    s.Reads taken (s.past taken).peeked := by
  simpa using (reads_past h).trans (reads_peeked (coherent_past s taken))

/-- A call first skips blanks and collapsed line ends, and then acts on a lexeme that it does not
skip. -/
lemma exists_reads_gap {s : Scanner} (hs : s.Coherent) :
    ∃ gap t, s.Reads gap t ∧ (longestLexeme t.remaining).isSkipped (t.lastIs .newLine) = false ∧
      s.nextToken = t.respond (longestLexeme t.remaining) := by
  induction hn : s.remaining.length using Nat.strong_induction_on generalizing s with
  | _ n ih =>
    by_cases hskip : (longestLexeme s.remaining).isSkipped (s.lastIs .newLine)
    · -- the skipped lexeme is a single character, behind which the call goes on
      obtain ⟨c, hc, hnext⟩ : ∃ c, [c] <+: s.remaining ∧ s.nextToken = (s.past [c]).nextToken := by
        have hprefix := longestLexeme_extent_prefix s.remaining
        have hnext := nextToken_eq hs
        revert hskip hprefix hnext
        cases longestLexeme s.remaining with
        | blank c =>
          intro _ hprefix hnext
          exact ⟨c, hprefix, hnext⟩
        | lineEnd =>
          intro hskip hprefix hnext
          refine ⟨'\n', hprefix, hnext.trans ?_⟩
          rw [Lexeme.isSkipped] at hskip
          rw [respond, if_pos hskip]
        | textEnd | name _ | number _ | faulty _ _ => simp [Lexeme.isSkipped]
      have hpast := reads_past hc
      have hlt : (s.past [c]).remaining.length < n := by
        rw [← hn, hpast.remaining]
        simp
      obtain ⟨gap, t, ht, hstop, hact⟩ := ih _ hlt hpast.coherent rfl
      exact ⟨[c] ++ gap, t, hpast.trans ht, hstop, hnext.trans hact⟩
    · exact ⟨[], s, ⟨hs, rfl, rfl, rfl, rfl⟩, by simpa using hskip, nextToken_eq hs⟩

/-- **What a call can do.**  Behind what it skips it returns the end of the text and reads nothing,
or a token for the characters that it reads, or a fault, which it reads through the faulty
character. -/
lemma nextToken_cases {s : Scanner} (hs : s.Coherent) :
    ∃ gap t, s.Reads gap t ∧
      ((t.remaining = [] ∧ s.nextToken = t.make .endOfFile t.position 0) ∨
      (∃ kind taken u, t.Reads taken u ∧ kind.tag ∈ [TokenTag.newLine, .name, .number] ∧
        s.nextToken = u.make kind t.position taken.length) ∨
      ∃ read fault, read ++ fault.found?.toList <+: t.remaining ∧
        s.nextToken = (t.past (read ++ fault.found?.toList)).fail fault
          (t.position.afterText read)) := by
  obtain ⟨gap, t, ht, hskip, hnext⟩ := exists_reads_gap hs
  refine ⟨gap, t, ht, ?_⟩
  have hprefix := longestLexeme_extent_prefix t.remaining
  have hnil := @eq_nil_of_textEnd t.remaining
  revert hskip hnext hprefix hnil
  cases longestLexeme t.remaining with
  | textEnd =>
    intro _ hnext _ hnil
    exact Or.inl ⟨hnil rfl, hnext⟩
  | blank _ => simp [Lexeme.isSkipped]
  | lineEnd =>
    intro hskip hnext hprefix _
    rw [Lexeme.isSkipped] at hskip
    rw [respond, hskip] at hnext
    exact Or.inr (Or.inl ⟨_, _, _, reads_past hprefix, by decide, hnext⟩)
  | name text =>
    intro _ hnext hprefix _
    exact Or.inr (Or.inl ⟨_, _, _, reads_past_peeked hprefix, by simp [TokenKind.tag], hnext⟩)
  | number text =>
    intro _ hnext hprefix _
    exact Or.inr (Or.inl ⟨_, _, _, reads_past_peeked hprefix, by simp [TokenKind.tag], hnext⟩)
  | faulty read fault =>
    intro _ hnext hprefix _
    exact Or.inr (Or.inr ⟨read, fault, hprefix, hnext⟩)

lemma exists_reads_nextToken {s : Scanner} (hs : s.Coherent) :
    ∃ taken, s.Reads taken s.nextToken.2 := by
  obtain ⟨gap, t, ht, ⟨-, hnext⟩ | ⟨kind, taken, u, hu, -, hnext⟩ | ⟨read, fault, hread, hnext⟩⟩ :=
    nextToken_cases hs
  · rw [hnext]
    exact ⟨gap, ht.make _ _ _⟩
  · rw [hnext]
    exact ⟨gap ++ taken, (ht.trans hu).make _ _ _⟩
  · rw [hnext]
    exact ⟨_, ht.trans (reads_past hread)⟩

end Scanner

end Kaomoji
