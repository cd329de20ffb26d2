import Kaomoji.Proofs.LongestMatch

/-!
# The whereabouts of a scanner

A scanner has three notions of where it is: the cursor, the place of a held character, and the
places it puts into tokens and errors.  They are updated apart from each other, and a held newline
has already moved the cursor to the next line.  `Scanner.StandsIn` is the invariant that keeps them
together: what remains is the text from the scanner's index on, and the scanner's position is the
place behind the text before.  A call of `nextToken` keeps it whatever the call returns, so any
number of calls does, also behind errors and behind the end of the text.

The scanner is written with natural numbers and with a `hold` that overwrites.  The machine it
describes has numbers of 32 bits, subtracts them, and asserts that its place for a held character
is empty.  The guarded scanner below gives up, with `none`, at the first step that would break one
of these conditions; `Scanner.StandsIn.nextToken?_eq` says that on texts that 32 bits can count it
never does.
-/

namespace Kaomoji

/-! ## Places of a text -/

/-- The three numbers of a position name one place of a text: `line` counts the newlines before it,
and `column` counts from the last of them. -/
structure Position.IsPlaceOf (p : Position) (text : List Char) : Prop where
  index_le : p.index ≤ text.length
  line_eq : p.line = (text.take p.index).count '\n'
  column_eq : p.column = p.index - Text.lineStart (text.take p.index)

lemma Position.isPlaceOf_behind {before rest text : List Char} (htext : text = before ++ rest) :
    (Position.behind before).IsPlaceOf text := by
  subst htext
  exact
    { index_le := by simp
      line_eq := by simp
      column_eq := by simp [behind] }

namespace Scanner

/-! ## The invariant -/

/-- The scanner stands in a text: it has read the text before its position and nothing else. -/
structure StandsIn (s : Scanner) (text : List Char) : Prop where
  coherent : s.Coherent
  index_le : s.position.index ≤ text.length
  remaining : s.remaining = text.drop s.position.index
  position : s.position = .behind (text.take s.position.index)

lemma standsIn_ofText (text : List Char) (origin : Origin) : (ofText text origin).StandsIn text where
  coherent := coherent_ofText text origin
  index_le := Nat.zero_le _
  remaining := rfl
  position := by
    rw [show (ofText text origin).position = .start from rfl]
    rfl

lemma StandsIn.exists_before {s : Scanner} {text : List Char} (hs : s.StandsIn text) :
    ∃ before, text = before ++ s.remaining ∧ s.position = .behind before :=
  ⟨_, by rw [hs.remaining, List.take_append_drop], hs.position⟩

lemma standsIn_of_before {s : Scanner} {text before : List Char} (hs : s.Coherent)
    (htext : text = before ++ s.remaining) (hplace : s.position = .behind before) :
    s.StandsIn text where
  coherent := hs
  index_le := by simp [hplace, htext]
  remaining := by simp [hplace, htext]
  position := by simp [hplace, htext]

lemma StandsIn.reads {s t : Scanner} {text taken : List Char} (hs : s.StandsIn text)
    (ht : s.Reads taken t) : t.StandsIn text := by
  obtain ⟨before, htext, hplace⟩ := hs.exists_before
  have htext' : text = (before ++ taken) ++ t.remaining := by
    rw [htext, ht.remaining, List.append_assoc]
  have hplace' : t.position = .behind (before ++ taken) := by
    rw [ht.position, hplace, Position.behind_append]
  exact standsIn_of_before ht.coherent htext' hplace'

lemma StandsIn.isPlaceOf {s : Scanner} {text : List Char} (hs : s.StandsIn text) :
    s.position.IsPlaceOf text := by
  obtain ⟨before, htext, hplace⟩ := hs.exists_before
  rw [hplace]
  exact Position.isPlaceOf_behind htext

/-- **A call keeps the scanner in its text**, whatever it returns. -/
theorem StandsIn.nextToken {s : Scanner} {text : List Char} (hs : s.StandsIn text) :
    s.nextToken.2.StandsIn text := by
  obtain ⟨taken, hreads⟩ := exists_reads_nextToken hs.coherent
  exact hs.reads hreads

/-- The scanner after a number of calls. -/
def afterCalls (s : Scanner) : Nat → Scanner
  | 0 => s
  | n + 1 => (s.afterCalls n).nextToken.2

lemma StandsIn.afterCalls {s : Scanner} {text : List Char} (hs : s.StandsIn text) (n : Nat) :
    (s.afterCalls n).StandsIn text := by
  induction n with
  | zero => exact hs
  | succ n ih => exact ih.nextToken

/-! ## What a call returns -/

/-- The place that a result names. -/
def resultPlace : Except LexicalError Token → Position
  | .ok token => token.position
  | .error e => e.position

lemma exists_reads_resultPlace {s : Scanner} (hs : s.Coherent) :
    ∃ taken t, s.Reads taken t ∧ resultPlace s.nextToken.1 = t.position := by
  obtain ⟨gap, t, ht, ⟨-, hnext⟩ | ⟨kind, taken, u, -, -, hnext⟩ | ⟨read, fault, hread, hnext⟩⟩ :=
    nextToken_cases hs
  · rw [hnext]
    exact ⟨gap, t, ht, rfl⟩
  · rw [hnext]
    exact ⟨gap, t, ht, rfl⟩
  · have hbefore : read <+: t.remaining := (List.prefix_append _ _).trans hread
    rw [hnext]
    exact ⟨gap ++ read, t.past read, ht.trans (reads_past hbefore), rfl⟩

/-- Behind an error about a character stands the character after it. -/
lemma position_behind_error {s : Scanner} (hs : s.Coherent) {e : LexicalError}
    (he : s.nextToken.1 = .error e) {c : Char} (hc : e.fault.found? = some c) :
    s.nextToken.2.position.index = e.position.index + 1 := by
  obtain ⟨gap, t, -, ⟨-, hnext⟩ | ⟨kind, taken, u, -, -, hnext⟩ | ⟨read, fault, -, hnext⟩⟩ :=
    nextToken_cases hs
  · rw [hnext] at he
    cases he
  · rw [hnext] at he
    cases he
  · rw [hnext] at he ⊢
    cases he
    have hfound : fault.found? = some c := hc
    simp only [fail, past_position, Position.afterText_index, hfound, Option.toList_some,
      List.length_append, List.length_singleton]
    omega

/-- A call moves the index, or the text is at its end and the call says so. -/
lemma StandsIn.nextToken_index {s : Scanner} {text : List Char} (hs : s.StandsIn text) :
    s.position.index < s.nextToken.2.position.index ∨
      ∃ token, s.nextToken.1 = .ok token ∧ token.tag = .endOfFile ∧
        token.position.index = text.length ∧ s.nextToken.2.position.index = text.length := by
  have hlength := congrArg List.length hs.remaining
  have hlength' := congrArg List.length hs.nextToken.remaining
  have hle := hs.index_le
  rw [List.length_drop] at hlength hlength'
  rcases s.nextToken_progress with hlt | ⟨hnil, hmake⟩
  · left
    omega
  · right
    have hend : s.position.index = text.length := by
      rw [hnil, List.length_nil] at hlength
      omega
    have hcursor : s.cursor = s.position := by simp [Scanner.position, held_eq_none hnil]
    rw [hmake]
    exact ⟨_, rfl, rfl, by rw [hcursor]; exact hend, hend⟩

/-! ## The guarded scanner -/

/-- Whether 32 bits hold the three numbers of a position. -/
def fits (p : Position) : Bool :=
  p.line < UInt32.size && p.column < UInt32.size && p.index < UInt32.size

/-- Draws a character, unless the cursor would leave 32 bits. -/
def draw? (s : Scanner) : Option (Option ((Char × Position) × Scanner)) :=
  match s.held, s.unread with
  | none, c :: _ => if fits (s.cursor.after c) then some s.draw else none
  | _, _ => some s.draw

/-- Holds a character back, unless one is held already. -/
def holdAny? (s : Scanner) : Option (Char × Position) → Option Scanner
  | some found => if s.held.isNone then some (s.hold found) else none
  | none => some s

/-- The span from a place, unless the place lies ahead. -/
def spanFrom? (s : Scanner) (start : Position) : Option Nat :=
  if start.index ≤ s.position.index then some (s.spanFrom start) else none

lemma draw?_eq_some {s : Scanner} {drawn : Option ((Char × Position) × Scanner)}
    (h : s.draw? = some drawn) : s.draw = drawn := by
  unfold draw? at h
  split at h
  · split at h
    · exact Option.some.inj h
    · cases h
  · exact Option.some.inj h

/-- Draws characters as long as they are accepted, each of them guarded. -/
def drawRun? (accepts : Char → Bool) (s : Scanner) : Option Run :=
  match h : s.draw? with
  | none => none
  | some none => some ⟨[], none, s⟩
  | some (some (found, s')) =>
    have : s'.remaining.length < s.remaining.length := by
      simp [draw_remaining (draw?_eq_some h)]
    if accepts found.1 then
      (drawRun? accepts s').map fun run => { run with accepted := found.1 :: run.accepted }
    else some ⟨[], some found, s'⟩
termination_by s.remaining.length

/-- The name that begins with the drawn character `first`, guarded. -/
def name? (s : Scanner) (first : Char) (start : Position) :
    Option (Except LexicalError Token × Scanner) := do
  let run ← s.drawRun? isNameContinue
  let s ← run.rest.holdAny? run.stop
  let span ← s.spanFrom? start
  return s.make (.name (String.ofList (first :: run.accepted))) start span

/-- The number with given digits before and after the point, guarded. -/
def makeNumber? (s : Scanner) (whole fraction : List Char) (start : Position) :
    Option (Except LexicalError Token × Scanner) := do
  let span ← s.spanFrom? start
  return s.make (.number (.ofDecimal (.ofDigits whole fraction))) start span

/-- The number that begins with the drawn digit `first`, guarded. -/
def number? (s : Scanner) (first : Char) (start : Position) :
    Option (Except LexicalError Token × Scanner) := do
  let run ← s.drawRun? isDigitOrSeparator
  let whole := first :: withoutSeparators run.accepted
  if run.stop.any (·.1 = '.') then
    match ← run.rest.draw? with
    | none => return run.rest.fail (.missingDecimalDigit none) run.rest.cursor
    | some ((c, place), s) =>
      if isDigitOrSeparator c then
        let decimals ← s.drawRun? isDigitOrSeparator
        let s ← decimals.rest.holdAny? decimals.stop
        s.makeNumber? whole (withoutSeparators (c :: decimals.accepted)) start
      else return s.fail (.missingDecimalDigit (some c)) place
  else
    let s ← run.rest.holdAny? run.stop
    s.makeNumber? whole [] start

/-- The next token or error, guarded: nothing is returned where a number would leave 32 bits, a
subtraction would go below zero, or a held character would be overwritten. -/
def nextToken? (s : Scanner) : Option (Except LexicalError Token × Scanner) :=
  match h : s.draw? with
  | none => none
  | some none => some (s.make .endOfFile s.cursor 0)
  | some (some ((c, place), s')) =>
    have : s'.remaining.length < s.remaining.length := by
      simp [draw_remaining (draw?_eq_some h)]
    if c = '\n' then
      if s'.lastIs .newLine then s'.nextToken? else some (s'.make .newLine place 1)
    else if isBlank c then s'.nextToken?
    else if isNameStart c then s'.name? c place
    else if c.isDigit then s'.number? c place
    else some (s'.fail (.unknownCharacter c) place)
termination_by s.remaining.length

/-! ### The guards hold -/

lemma fits_behind {before : List Char} (h : before.length < UInt32.size) : fits (.behind before) := by
  have hline : before.count '\n' ≤ before.length := List.count_le_length
  have hcolumn : (Position.behind before).column ≤ before.length := Nat.sub_le _ _
  simp only [fits, Bool.and_eq_true, decide_eq_true_eq]
  exact ⟨⟨hline.trans_lt h, hcolumn.trans_lt h⟩, h⟩

lemma reads_draw {s t : Scanner} (hs : s.Coherent) {found : Char × Position}
    (h : s.draw = some (found, t)) : s.Reads [found.1] t := by
  obtain ⟨c, place⟩ := found
  have hremaining := draw_remaining h
  rw [draw_cons hs hremaining] at h
  cases h
  exact reads_past ⟨_, hremaining.symm⟩

lemma reads_drawRun {s : Scanner} (hs : s.Coherent) (accepts : Char → Bool) :
    ∃ taken, s.Reads taken (s.drawRun accepts).rest := by
  refine ⟨s.remaining.takeWhile accepts ++ (s.remaining.dropWhile accepts).head?.toList, ?_⟩
  rw [drawRun_eq accepts hs]
  apply reads_past
  nth_rewrite 3 [← List.takeWhile_append_dropWhile (p := accepts) (l := s.remaining)]
  rw [List.prefix_append_right_inj]
  cases s.remaining.dropWhile accepts <;> simp

lemma Reads.index_le {s t : Scanner} {taken : List Char} (h : s.Reads taken t) :
    s.position.index ≤ t.position.index := by
  rw [h.position, Position.afterText_index]
  exact Nat.le_add_right _ _

lemma holdAny?_drawRun {s : Scanner} (hs : s.Coherent) (accepts : Char → Bool) :
    (s.drawRun accepts).rest.holdAny? (s.drawRun accepts).stop =
      some ((s.drawRun accepts).rest.holdAny (s.drawRun accepts).stop) := by
  rw [drawRun_eq accepts hs]
  cases (s.remaining.dropWhile accepts).head? <;> simp [holdAny?, holdAny]

lemma spanFrom?_drawRun {s : Scanner} (hs : s.Coherent) (accepts : Char → Bool) {start : Position}
    (hstart : start.index ≤ s.position.index) :
    ((s.drawRun accepts).rest.holdAny (s.drawRun accepts).stop).spanFrom? start =
      some (((s.drawRun accepts).rest.holdAny (s.drawRun accepts).stop).spanFrom start) := by
  rw [holdAny_drawRun accepts hs, spanFrom?, if_pos]
  rw [(peeked_view (coherent_past s _)).2.1, past_position, Position.afterText_index]
  omega

lemma StandsIn.draw?_eq {s : Scanner} {text : List Char} (hs : s.StandsIn text)
    (htext : text.length < UInt32.size) : s.draw? = some s.draw := by
  unfold draw?
  split
  · rename_i c rest hheld hunread
    have hremaining : s.remaining = c :: rest := by simp [Scanner.remaining, hheld, hunread]
    have hnext := hs.reads (reads_draw hs.coherent (draw_cons hs.coherent hremaining))
    have hcursor : s.cursor.after c = (s.past [c]).position := by
      simp [Scanner.position, past, hheld]
    have hlength : (text.take (s.past [c]).position.index).length < UInt32.size := by
      rw [List.length_take]
      omega
    rw [hcursor, hnext.position, if_pos (fits_behind hlength)]
  · rfl

lemma StandsIn.drawRun?_eq {s : Scanner} {text : List Char} (hs : s.StandsIn text)
    (htext : text.length < UInt32.size) (accepts : Char → Bool) :
    s.drawRun? accepts = some (s.drawRun accepts) := by
  induction hn : s.remaining generalizing s with
  | nil =>
    have hdraw := hs.draw?_eq htext
    rw [draw_nil hn] at hdraw
    rw [drawRun_of_draw_none accepts (draw_nil hn), drawRun?]
    split <;> simp_all
  | cons c rest ih =>
    have hdraw := hs.draw?_eq htext
    rw [draw_cons hs.coherent hn] at hdraw
    have hpast := reads_draw hs.coherent (draw_cons hs.coherent hn)
    have hlater := ih (hs.reads hpast) (past_remaining hn)
    rw [drawRun_of_draw_some accepts (draw_cons hs.coherent hn), drawRun?]
    split <;> simp_all
    split <;> rfl

lemma StandsIn.name?_eq {s : Scanner} {text : List Char} (hs : s.StandsIn text)
    (htext : text.length < UInt32.size) (first : Char) {start : Position}
    (hstart : start.index ≤ s.position.index) : s.name? first start = some (s.name first start) := by
  simp only [name?, hs.drawRun?_eq htext, holdAny?_drawRun hs.coherent,
    spanFrom?_drawRun hs.coherent _ hstart, Option.bind_eq_bind, Option.bind_some]
  rfl

lemma makeNumber?_drawRun {s : Scanner} (hs : s.Coherent) {start : Position}
    (hstart : start.index ≤ s.position.index) (whole fraction : List Char) :
    ((s.drawRun isDigitOrSeparator).rest.holdAny (s.drawRun isDigitOrSeparator).stop).makeNumber?
        whole fraction start =
      some (((s.drawRun isDigitOrSeparator).rest.holdAny
        (s.drawRun isDigitOrSeparator).stop).makeNumber whole fraction start) := by
  simp only [makeNumber?, spanFrom?_drawRun hs _ hstart, Option.bind_eq_bind, Option.bind_some]
  rfl

lemma StandsIn.number?_eq {s : Scanner} {text : List Char} (hs : s.StandsIn text)
    (htext : text.length < UInt32.size) (first : Char) {start : Position}
    (hstart : start.index ≤ s.position.index) :
    s.number? first start = some (s.number first start) := by
  obtain ⟨taken, hrun⟩ := reads_drawRun hs.coherent isDigitOrSeparator
  simp only [number?, number, hs.drawRun?_eq htext, holdAny?_drawRun hs.coherent,
    (hs.reads hrun).draw?_eq htext, makeNumber?_drawRun hs.coherent hstart, Option.bind_eq_bind,
    Option.bind_some]
  split
  · cases hdraw : (s.drawRun isDigitOrSeparator).rest.draw with
    | none => rfl
    | some drawn =>
      obtain ⟨⟨c, place⟩, t⟩ := drawn
      have ht := hrun.trans (reads_draw hrun.coherent hdraw)
      simp only [(hs.reads ht).drawRun?_eq htext, holdAny?_drawRun ht.coherent,
        makeNumber?_drawRun ht.coherent (hstart.trans ht.index_le), Option.bind_some]
      split <;> rfl
  · rfl

lemma nextToken?_of_draw?_some {s t : Scanner} {c : Char} {place : Position}
    (h : s.draw? = some (some ((c, place), t))) :
    s.nextToken? =
      if c = '\n' then if t.lastIs .newLine then t.nextToken? else some (t.make .newLine place 1)
      else if isBlank c then t.nextToken?
      else if isNameStart c then t.name? c place
      else if c.isDigit then t.number? c place
      else some (t.fail (.unknownCharacter c) place) := by
  rw [nextToken?]
  split <;> simp_all

/-- **No guard ever gives way** on a text that 32 bits can count. -/
theorem StandsIn.nextToken?_eq {s : Scanner} {text : List Char} (hs : s.StandsIn text)
    (htext : text.length < UInt32.size) : s.nextToken? = some s.nextToken := by
  induction hn : s.remaining generalizing s with
  | nil =>
    have hdraw := hs.draw?_eq htext
    rw [draw_nil hn] at hdraw
    rw [nextToken_of_draw_none (draw_nil hn), nextToken?]
    split <;> simp_all
  | cons c rest ih =>
    have hdraw := hs.draw?_eq htext
    have hread := reads_draw hs.coherent (draw_cons hs.coherent hn)
    have hlater := ih (hs.reads hread) (past_remaining hn)
    rw [draw_cons hs.coherent hn] at hdraw
    rw [nextToken?_of_draw?_some hdraw, nextToken_of_draw_some (draw_cons hs.coherent hn)]
    split_ifs with hnewline hlast hblank hname hdigit
    · exact hlater
    · rfl
    · exact hlater
    · exact (hs.reads hread).name?_eq htext c hread.index_le
    · exact (hs.reads hread).number?_eq htext c hread.index_le
    · rfl

/-! ## Any number of calls -/

/-- What is true of a scanner in a text and of the call that is made on it next. -/
structure InStep (s : Scanner) (text : List Char) : Prop where
  /-- The characters still to be read are the text from the scanner's index on. -/
  unread_eq : s.remaining = text.drop s.position.index
  /-- The scanner's own position is a place of the text. -/
  place : s.position.IsPlaceOf text
  /-- The token or error that the call returns is at a place of the text. -/
  result_place : (resultPlace s.nextToken.1).IsPlaceOf text
  /-- No held character is overwritten, no subtraction goes below zero and no number leaves
  32 bits during the call. -/
  guarded : s.nextToken? = some s.nextToken
  /-- The call moves on, or it returns the end of the text at the end of the text. -/
  progress : s.position.index < s.nextToken.2.position.index ∨
    ∃ token, s.nextToken.1 = .ok token ∧ token.tag = .endOfFile ∧
      token.position.index = text.length ∧ s.nextToken.2.position.index = text.length
  /-- An error about a character leaves the scanner just behind that character. -/
  behind_fault : ∀ e c, s.nextToken.1 = .error e → e.fault.found? = some c →
    s.nextToken.2.position.index = e.position.index + 1

/-- **A scanner never loses its place.**  Whatever was asked of it before, errors and the end of the
text included, the next call finds it in step with its text and leaves it so. -/
theorem afterCalls_inStep (text : String) (origin : Origin) (htext : text.length < UInt32.size)
    (n : Nat) : ((ofText text.toList origin).afterCalls n).InStep text.toList := by
  have hs := (standsIn_ofText text.toList origin).afterCalls n
  obtain ⟨taken, t, ht, hresult⟩ := exists_reads_resultPlace hs.coherent
  exact
    { unread_eq := hs.remaining
      place := hs.isPlaceOf
      result_place := hresult ▸ (hs.reads ht).isPlaceOf
      guarded := hs.nextToken?_eq htext
      progress := hs.nextToken_index
      behind_fault := fun _ _ he hc => position_behind_error hs.coherent he hc }

/-- The first call on this text ends in an error at the newline, and the scanner that is asked again
stands on the second line. -/
theorem afterCalls_inStep_behind_point :
    "1.\n x".length < UInt32.size ∧
      ((ofText "1.\n x".toList .inMemory).afterCalls 1).InStep "1.\n x".toList :=
  ⟨by decide, afterCalls_inStep "1.\n x" .inMemory (by decide) 1⟩

end Scanner

end Kaomoji
