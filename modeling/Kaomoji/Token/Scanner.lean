import Kaomoji.Token
import Kaomoji.Token.Alphabet
import Kaomoji.Token.LexicalError

/-!
# The scanner

The scanner turns a text into tokens on demand.  It draws each character from the text once, and
where a lexeme ends it has drawn one character too many; that character is held back and drawn
again by the next lexeme.  Beside this one place for a held character the scanner keeps

* the `cursor`, which is the place of the first character not yet drawn from the text,
* the `last` token, since a line end directly after a line-end token makes no further token,
* the flag `finished`, by which a run over the tokens ends at the end of the text or at an error.

An error does not end the scanner itself: the faulty character counts as read, and `nextToken` goes
on behind it.  At the end of the text `nextToken` yields the end-of-file token as often as it is
asked.

`Scanner.remaining` is the view in which the operations are described: the characters still to
be read, the held one first.
-/

namespace Kaomoji

/-- A scanner on its way through a text. -/
structure Scanner where
  /-- The characters not yet drawn from the text. -/
  unread : List Char
  /-- The place of the first of them. -/
  cursor : Position
  /-- A character that was drawn but belongs to the next lexeme, and its place. -/
  held : Option (Char × Position)
  /-- The unit that the text belongs to. -/
  origin : Origin
  /-- The token made most recently. -/
  last : Option Token
  /-- Whether a run over the tokens has ended. -/
  finished : Bool
deriving Inhabited

namespace Scanner

/-- A scanner before the first character of a text. -/
def ofText (text : List Char) (origin : Origin) : Scanner :=
  { unread := text, cursor := .start, held := none, origin, last := none, finished := false }

/-- The characters still to be read. -/
def remaining (s : Scanner) : List Char := s.held.toList.map Prod.fst ++ s.unread

/-- The place of the next character to be read. -/
def position (s : Scanner) : Position :=
  match s.held with
  | some (_, place) => place
  | none => s.cursor

/-- Whether the token made most recently has a tag; no token has been made at the start. -/
def lastIs (s : Scanner) (tag : TokenTag) : Bool := s.last.any fun token => token.tag = tag

/-! ## Drawing characters -/

/-- The next character with its place: the held one, or else the next one of the text. -/
def draw (s : Scanner) : Option ((Char × Position) × Scanner) :=
  match s.held with
  | some found => some (found, { s with held := none })
  | none =>
    match s.unread with
    | [] => none
    | c :: rest => some ((c, s.cursor), { s with unread := rest, cursor := s.cursor.after c })

/-- Holds a drawn character back, so that it is the next one drawn. -/
def hold (s : Scanner) (found : Char × Position) : Scanner := { s with held := some found }

/-- Holds a character back if there is one. -/
def holdAny (s : Scanner) : Option (Char × Position) → Scanner
  | some found => s.hold found
  | none => s

/-- A character that was drawn was the first one remaining. -/
theorem draw_remaining {s s' : Scanner} {found : Char × Position} (h : s.draw = some (found, s')) :
    s.remaining = found.1 :: s'.remaining := by
  unfold draw at h
  unfold remaining
  split at h
  · rename_i held hheld
    simp only [Option.some.injEq, Prod.mk.injEq] at h
    obtain ⟨rfl, rfl⟩ := h
    simp [hheld]
  · rename_i hheld
    split at h
    · simp at h
    · rename_i c rest hunread
      simp only [Option.some.injEq, Prod.mk.injEq] at h
      obtain ⟨rfl, rfl⟩ := h
      simp [hheld, hunread]

/-- Holding back adds at most the held character. -/
theorem holdAny_remaining_length (s : Scanner) (stop : Option (Char × Position)) :
    (s.holdAny stop).remaining.length ≤ stop.toList.length + s.remaining.length := by
  cases stop <;> simp [holdAny, hold, remaining]; omega

/-- What a drawn run consists of: the accepted characters, the first character that was not
accepted (drawn as well, and missing at the end of the text), and the scanner behind it. -/
structure Run where
  accepted : List Char
  stop : Option (Char × Position)
  rest : Scanner

/-- Draws characters as long as they are accepted. -/
def drawRun (accepts : Char → Bool) (s : Scanner) : Run :=
  match h : s.draw with
  | none => ⟨[], none, s⟩
  | some (found, s') =>
    if accepts found.1 then
      have : s'.remaining.length < s.remaining.length := by simp [draw_remaining h]
      let run := drawRun accepts s'
      { run with accepted := found.1 :: run.accepted }
    else ⟨[], some found, s'⟩
termination_by s.remaining.length

/-- Nothing is lost by drawing a run. -/
theorem drawRun_remaining (accepts : Char → Bool) (s : Scanner) :
    s.remaining =
      (s.drawRun accepts).accepted ++ (s.drawRun accepts).stop.toList.map Prod.fst ++
        (s.drawRun accepts).rest.remaining := by
  fun_induction drawRun accepts s with
  | case1 s h => simp
  | case2 s found s' h hacc _ run ih => rw [draw_remaining h, ih]; rfl
  | case3 s found s' h hacc => simp [draw_remaining h]

/-! ## Making tokens -/

/-- Makes a token and remembers it. -/
def make (s : Scanner) (kind : TokenKind) (start : Position) (span : Nat) :
    Except LexicalError Token × Scanner :=
  let token : Token := { kind, position := start, span, origin := s.origin }
  (.ok token, { s with last := some token })

/-- The number of characters from `start` to the next character to be read. -/
def spanFrom (s : Scanner) (start : Position) : Nat := s.position.index - start.index

/-- Refuses a character; what has been read stays read. -/
def fail (s : Scanner) (fault : LexicalFault) (place : Position) :
    Except LexicalError Token × Scanner :=
  (.error { fault, position := place, origin := s.origin }, s)

/-- The name that begins with the drawn character `first`. -/
def name (s : Scanner) (first : Char) (start : Position) : Except LexicalError Token × Scanner :=
  let run := s.drawRun isNameContinue
  let s := run.rest.holdAny run.stop
  s.make (.name (String.ofList (first :: run.accepted))) start (s.spanFrom start)

/-- The number with given digits before and after the point. -/
def makeNumber (s : Scanner) (whole fraction : List Char) (start : Position) :
    Except LexicalError Token × Scanner :=
  s.make (.number (.ofDecimal (.ofDigits whole fraction))) start (s.spanFrom start)

/-- The number that begins with the drawn digit `first`. -/
def number (s : Scanner) (first : Char) (start : Position) : Except LexicalError Token × Scanner :=
  let run := s.drawRun isDigitOrSeparator
  let whole := first :: withoutSeparators run.accepted
  if run.stop.any (·.1 = '.') then
    match run.rest.draw with
    | none => run.rest.fail (.missingDecimalDigit none) run.rest.cursor
    | some ((c, place), s) =>
      if isDigitOrSeparator c then
        let decimals := s.drawRun isDigitOrSeparator
        (decimals.rest.holdAny decimals.stop).makeNumber whole
          (withoutSeparators (c :: decimals.accepted)) start
      else s.fail (.missingDecimalDigit (some c)) place
  else (run.rest.holdAny run.stop).makeNumber whole [] start

/-- The next token, or the error that stands in its way, and the scanner behind it. -/
def nextToken (s : Scanner) : Except LexicalError Token × Scanner :=
  match h : s.draw with
  | none => s.make .endOfFile s.cursor 0
  | some ((c, place), s') =>
    have : s'.remaining.length < s.remaining.length := by simp [draw_remaining h]
    if c = '\n' then
      if s'.lastIs .newLine then s'.nextToken else s'.make .newLine place 1
    else if isBlank c then s'.nextToken
    else if isNameStart c then s'.name c place
    else if c.isDigit then s'.number c place
    else s'.fail (.unknownCharacter c) place
termination_by s.remaining.length

/-! ## Every token takes characters -/

@[simp] theorem make_remaining (s : Scanner) (kind : TokenKind) (start : Position) (span : Nat) :
    (s.make kind start span).2.remaining = s.remaining := rfl

@[simp] theorem fail_remaining (s : Scanner) (fault : LexicalFault) (place : Position) :
    (s.fail fault place).2.remaining = s.remaining := rfl

/-- Drawing a run and holding back what stopped it leaves no more than there was. -/
theorem drawRun_holdAny_remaining_length (accepts : Char → Bool) (s : Scanner) :
    ((s.drawRun accepts).rest.holdAny (s.drawRun accepts).stop).remaining.length ≤
      s.remaining.length := by
  have h := holdAny_remaining_length (s.drawRun accepts).rest (s.drawRun accepts).stop
  have e := congrArg List.length (drawRun_remaining accepts s)
  simp only [List.length_append, List.length_map] at e
  omega

/-- Drawing a run leaves no more than there was. -/
theorem drawRun_rest_remaining_length (accepts : Char → Bool) (s : Scanner) :
    (s.drawRun accepts).rest.remaining.length ≤ s.remaining.length := by
  have e := congrArg List.length (drawRun_remaining accepts s)
  simp only [List.length_append, List.length_map] at e
  omega

/-- Behind a name no more remains than behind its first character. -/
theorem name_remaining_length (s : Scanner) (first : Char) (start : Position) :
    (s.name first start).2.remaining.length ≤ s.remaining.length := by
  simpa [name] using drawRun_holdAny_remaining_length isNameContinue s

/-- Behind a number, or what was read of it before an error, no more remains than behind its
first digit. -/
theorem number_remaining_length (s : Scanner) (first : Char) (start : Position) :
    (s.number first start).2.remaining.length ≤ s.remaining.length := by
  have hrest := drawRun_rest_remaining_length isDigitOrSeparator s
  have hheld := drawRun_holdAny_remaining_length isDigitOrSeparator s
  unfold number
  dsimp only
  split
  · split
    · simpa using hrest
    · rename_i c place s' hdraw
      have hlt : s'.remaining.length < (s.drawRun isDigitOrSeparator).rest.remaining.length := by
        simp [draw_remaining hdraw]
      have hdecimals := drawRun_holdAny_remaining_length isDigitOrSeparator s'
      split
      · simp only [makeNumber, make_remaining]; omega
      · simp only [fail_remaining]; omega
  · simpa [makeNumber] using hheld

/-- Asking for a token takes at least one character, or the text is at its end and the token says
so. -/
theorem nextToken_progress (s : Scanner) :
    s.nextToken.2.remaining.length < s.remaining.length ∨
      (s.remaining = [] ∧ s.nextToken = s.make .endOfFile s.cursor 0) := by
  fun_induction nextToken s with
  | case1 s h =>
    right
    refine ⟨?_, rfl⟩
    unfold draw at h
    split at h
    · simp at h
    · rename_i hheld
      split at h
      · rename_i hunread; simp [remaining, hheld, hunread]
      · simp at h
  | case2 s place s' h _ hlast ih =>
    left
    rcases ih with ih | ⟨hnil, heq⟩
    · omega
    · rw [heq, make_remaining]; assumption
  | case3 => left; rw [make_remaining]; assumption
  | case4 s c place s' h hlt hc hblank ih =>
    left
    rcases ih with ih | ⟨hnil, heq⟩
    · omega
    · rw [heq, make_remaining]; assumption
  | case5 s c place s' h hlt hc hblank hname =>
    left; exact Nat.lt_of_le_of_lt (name_remaining_length s' c place) hlt
  | case6 s c place s' h hlt hc hblank hname hdigit =>
    left; exact Nat.lt_of_le_of_lt (number_remaining_length s' c place) hlt
  | case7 s c place s' h hlt => left; simpa using hlt

/-! ## Runs over the tokens -/

/-- One step of a run: the next token or error, and nothing once the run has yielded the end of
the text or an error. -/
def next? (s : Scanner) : Option (Except LexicalError Token) × Scanner :=
  if s.finished then (none, s)
  else
    let (result, s) := s.nextToken
    let finished :=
      match result with
      | .ok token => token.tag = .endOfFile
      | .error _ => true
    (some result, { s with finished })

/-- The number of steps that a run can still take, at most. -/
def stepBound (s : Scanner) : Nat :=
  if s.finished then 0 else s.remaining.length + 1

/-- A run takes at most one step per remaining character and one for the end of the text. -/
theorem stepBound_le (s : Scanner) : s.stepBound ≤ s.remaining.length + 1 := by
  unfold stepBound
  split
  · exact Nat.zero_le _
  · exact Nat.le_refl _

/-- Each step of a run uses up the bound. -/
theorem next?_stepBound {s s' : Scanner} {result : Except LexicalError Token}
    (h : s.next? = (some result, s')) : s'.stepBound < s.stepBound := by
  unfold next? at h
  split at h
  · simp at h
  · rename_i hfinished
    simp only [Prod.mk.injEq, Option.some.injEq] at h
    obtain ⟨hresult, rfl⟩ := h
    rcases nextToken_progress s with hlt | ⟨-, heq⟩
    · refine Nat.lt_of_le_of_lt (stepBound_le _) ?_
      simp only [stepBound, hfinished]
      exact Nat.succ_lt_succ hlt
    · simp [heq, make, stepBound, hfinished, Token.tag, TokenKind.tag]

/-- The tokens of the whole run, or its error. -/
def tokens (s : Scanner) : Except LexicalError (List Token) :=
  match h : s.next? with
  | (none, _) => .ok []
  | (some (.error e), _) => .error e
  | (some (.ok token), s') =>
    have := next?_stepBound h
    (token :: ·) <$> s'.tokens
termination_by s.stepBound

end Scanner

/-- All tokens of a text through the end-of-file token, or its first lexical error. -/
def tokenize (text : String) (origin : Origin) : Except LexicalError (List Token) :=
  (Scanner.ofText text.toList origin).tokens

end Kaomoji
