import Kaomoji.Proofs.LineReading

/-!
# Parsing again

A parser can be asked for its tree again.  If the call before ended in a lexical error, it then
stands where no fresh parser does: the scanner has moved on behind the fault, while the token before
the fault is still current and may have been read as a leaf already.  Nevertheless calls come to
rest.  Behind an error in the order of tokens or behind the end of the text nothing changes any
more, and each lexical error uses up text (`parse_settles`).

Two facts are carried from call to call, `Parser.Follows`: the current token was made by the scanner
(`Parser.Sound`), which a lexical error does not affect, and the text that is left does not grow.
They are shown of a call along the functions it is made of, `advance_outcome`, `leaves_outcome`,
`line_outcome` and `parse_outcome`, and of all calls by induction.
-/

namespace Kaomoji.Parser

/-! ## One call -/

/-- How many characters are left to be read. -/
def left (p : Parser) : Nat := p.scanner.remaining.length

/-- **A parser that a parser can become**: its current token was made by its scanner, and it has no
more text left. -/
structure Follows (p q : Parser) : Prop where
  sound : q.Sound
  left_le : q.left ≤ p.left

lemma Follows.trans {p q r : Parser} (h : p.Follows q) (h' : q.Follows r) : p.Follows r :=
  ⟨h'.sound, le_trans h'.left_le h.left_le⟩

/-- Advancing succeeds, and stays at the end of the text once that is reached, or it fails and uses
up text. -/
lemma advance_outcome {p : Parser} (hp : p.Sound) :
    (∃ q, p.advance = (.ok (), q) ∧ p.Follows q ∧
      (p.current.kind = .endOfFile → q.current.kind = .endOfFile)) ∨
    ∃ e q, p.advance = (.error (.lexical e), q) ∧ p.Follows q ∧ q.left < p.left := by
  obtain ⟨taken, hreads⟩ := Scanner.exists_reads_nextToken hp.coherent
  have hprogress := p.scanner.nextToken_progress
  rcases hnext : p.scanner.nextToken with ⟨e | token, t⟩
  · right
    rw [hnext] at hreads hprogress
    obtain hlt | ⟨-, hmake⟩ := hprogress
    · refine ⟨e, { p with scanner := t }, by rw [advance, hnext], ⟨?_, le_of_lt hlt⟩, hlt⟩
      refine ⟨hreads.coherent, hp.kind, ?_⟩
      intro hend
      rw [hp.atEnd hend] at hlt
      exact absurd hlt (Nat.not_lt_zero _)
    · cases hmake
  · left
    obtain ⟨hsound, -⟩ := stream_of_nextToken hp.coherent hnext (some p.current)
    rw [hnext] at hprogress
    refine ⟨⟨t, token, some p.current⟩, by rw [advance, hnext], ⟨hsound, ?_⟩, ?_⟩
    · obtain hlt | ⟨hnil, hmake⟩ := hprogress
      · exact le_of_lt hlt
      · cases hmake
        exact le_refl _
    · intro hend
      obtain hlt | ⟨hnil, hmake⟩ := hprogress
      · rw [hp.atEnd hend] at hlt
        exact absurd hlt (Nat.not_lt_zero _)
      · cases hmake
        rfl

/-- Reading leaves stops behind them, or fails and uses up text. -/
lemma leaves_outcome {p : Parser} (hp : p.Sound) :
    (∃ words q, p.leaves = (.ok words, q) ∧ p.Follows q ∧
      (q.current.kind = .newLine ∨ q.current.kind = .endOfFile)) ∨
    ∃ e q, p.leaves = (.error (.lexical e), q) ∧ p.Follows q ∧ q.left < p.left := by
  induction hn : p.bound using Nat.strong_induction_on generalizing p with
  | _ n ih =>
    by_cases hstop : p.current.kind = .newLine ∨ p.current.kind = .endOfFile
    · left
      refine ⟨[], p, ?_, ⟨hp, le_refl _⟩, hstop⟩
      obtain h | h := hstop
      · exact leaves_of_newLine h
      · exact leaves_of_endOfFile h
    · rw [not_or] at hstop
      obtain ⟨leaf, hleaf⟩ := hp.exists_leaf hstop.1 hstop.2
      obtain ⟨q, hadvance, hq, -⟩ | ⟨e, q, hadvance, hq, hlt⟩ := advance_outcome hp
      · have hleaves := leaves_of_advance_ok hleaf hadvance
        have hbound := advance_bound_lt hadvance hstop.2
        obtain ⟨words, r, hr, hfollows, hend⟩ | ⟨e, r, hr, hfollows, hlt⟩ :=
          ih _ (hn ▸ hbound) hq.sound rfl
        · left
          refine ⟨leaf :: words, r, ?_, hq.trans hfollows, hend⟩
          rw [hleaves, hr]
          rfl
        · right
          refine ⟨e, r, ?_, hq.trans hfollows, lt_of_lt_of_le hlt hq.left_le⟩
          rw [hleaves, hr]
          rfl
      · right
        exact ⟨e, q, leaves_of_advance_error hleaf hadvance, hq, hlt⟩

/-- **What a call can come to**: from `p` it leads to `q`. -/
inductive Outcome (p q : Parser) : Except ParseError Tree → Prop
  /-- All lines are read. -/
  | done (tree : Tree) (hend : q.current.kind = .endOfFile) : Outcome p q (.ok tree)
  /-- The text ends within a line. -/
  | unfinished (hend : q.current.kind = .endOfFile) :
    Outcome p q (.error (.structural (.ofToken .missingNewLine q.current)))
  /-- A line begins with a number. -/
  | misplaced (value : Binary64) (hnumber : q.current.kind = .number value) :
    Outcome p q (.error (.structural (.ofToken (.unexpectedToken .name) q.current)))
  /-- There is a fault in the text. -/
  | lexical (e : LexicalError) (hlt : q.left < p.left) : Outcome p q (.error (.lexical e))

lemma Outcome.of_follows {p q r : Parser} {result : Except ParseError Tree} (hq : p.Follows q)
    (h : q.Outcome r result) : p.Outcome r result := by
  cases h with
  | done tree hend => exact .done tree hend
  | unfinished hend => exact .unfinished hend
  | misplaced value hnumber => exact .misplaced value hnumber
  | lexical e hlt => exact .lexical e (lt_of_lt_of_le hlt hq.left_le)

lemma Outcome.cons {p q : Parser} {result : Except ParseError Tree} (h : p.Outcome q result)
    (line : Line) : p.Outcome q ((line :: ·) <$> result) := by
  cases h with
  | done tree hend => exact .done (line :: tree) hend
  | unfinished hend => exact .unfinished hend
  | misplaced value hnumber => exact .misplaced value hnumber
  | lexical e hlt => exact .lexical e hlt

/-- A line is read, or the text ends within it, or there is a fault in it or behind it. -/
lemma line_outcome {p : Parser} (hp : p.Sound) :
    (∃ line q, p.line = (.ok line, q) ∧ p.Follows q) ∨
    ∃ e q, p.line = (.error e, q) ∧ p.Follows q ∧ p.Outcome q (.error e) := by
  obtain ⟨words, q, hleaves, hq, hstop⟩ | ⟨e, q, hleaves, hq, hlt⟩ := leaves_outcome hp
  · obtain hnewLine | hend := hstop
    · obtain ⟨r, hadvance, hr, -⟩ | ⟨e, r, hadvance, hr, hlt⟩ := advance_outcome hq.sound
      · left
        exact ⟨⟨words⟩, r, by simp [line, hleaves, hnewLine, hadvance], hq.trans hr⟩
      · right
        refine ⟨.lexical e, r, by simp [line, hleaves, hnewLine, hadvance], hq.trans hr, ?_⟩
        exact .lexical e (lt_of_lt_of_le hlt hq.left_le)
    · right
      exact ⟨_, q, by simp [line, hleaves, hend], hq, .unfinished hend⟩
  · right
    exact ⟨.lexical e, q, by rw [line, hleaves], hq, .lexical e hlt⟩

/-- **A call has one of the outcomes**, and leads to a parser that can be asked again. -/
lemma parse_outcome {p : Parser} (hp : p.Sound) :
    p.Follows p.parse.2 ∧ p.Outcome p.parse.2 p.parse.1 := by
  induction hn : p.bound using Nat.strong_induction_on generalizing p with
  | _ n ih =>
    cases hkind : p.current.kind with
    | newLine =>
      obtain ⟨q, hadvance, hq, -⟩ | ⟨e, q, hadvance, hq, hlt⟩ := advance_outcome hp
      · have hbound := advance_bound_lt hadvance (by simp [hkind])
        obtain ⟨hfollows, houtcome⟩ := ih _ (hn ▸ hbound) hq.sound rfl
        rw [parse_of_newLine_ok hkind hadvance]
        exact ⟨hq.trans hfollows, houtcome.of_follows hq⟩
      · rw [parse_of_newLine_error hkind hadvance]
        exact ⟨hq, .lexical e hlt⟩
    | name text =>
      obtain ⟨line, q, hline, hq⟩ | ⟨e, q, hline, hq, houtcome⟩ := line_outcome hp
      · obtain ⟨hfollows, houtcome⟩ := ih _ (hn ▸ line_bound_lt hline) hq.sound rfl
        rw [parse_of_line_ok hkind hline]
        exact ⟨hq.trans hfollows, (houtcome.of_follows hq).cons line⟩
      · rw [parse_of_line_error hkind hline]
        exact ⟨hq, houtcome⟩
    | number value =>
      rw [parse_of_number hkind]
      exact ⟨⟨hp, le_refl _⟩, .misplaced value hkind⟩
    | typeName text => exact absurd hkind (hp.kind text)
    | endOfFile =>
      obtain ⟨q, hadvance, hq, hend⟩ | ⟨e, q, hadvance, hq, hlt⟩ := advance_outcome hp
      · rw [parse_of_endOfFile hkind hadvance]
        exact ⟨hq, .done [] (hend hkind)⟩
      · rw [left, left, hp.atEnd hkind] at hlt
        exact absurd hlt (Nat.not_lt_zero _)

/-! ## All calls -/

/-- The parser after a number of calls. -/
def afterParses (p : Parser) : Nat → Parser
  | 0 => p
  | n + 1 => (p.afterParses n).parse.2

/-- What the call behind `n` others returns. -/
def parsed (p : Parser) (n : Nat) : Except ParseError Tree := (p.afterParses n).parse.1

/-- Whether a call ended in a lexical error. -/
def isLexical : Except ParseError Tree → Bool
  | .error (.lexical _) => true
  | .ok _ | .error (.structural _) => false

lemma afterParses_add (p : Parser) (n k : Nat) :
    p.afterParses (n + k) = (p.afterParses n).afterParses k := by
  induction k with
  | zero => rfl
  | succ k ih => rw [← Nat.add_assoc, afterParses, ih, afterParses]

lemma parsed_add (p : Parser) (n k : Nat) : p.parsed (n + k) = (p.afterParses n).parsed k := by
  rw [parsed, afterParses_add, parsed]

lemma follows_afterParses {p : Parser} (hp : p.Sound) (n : Nat) : p.Follows (p.afterParses n) := by
  induction n with
  | zero => exact ⟨hp, le_refl _⟩
  | succ n ih => exact ih.trans (parse_outcome ih.sound).1

lemma outcome_parsed {p : Parser} (hp : p.Sound) (n : Nat) :
    (p.afterParses n).Outcome (p.afterParses (n + 1)) (p.parsed n) :=
  (parse_outcome (follows_afterParses hp n).sound).2

/-- **At the end of the text there is nothing to read**, however often one asks. -/
lemma parsed_of_endOfFile {p : Parser} (hp : p.Sound) (hend : p.current.kind = .endOfFile)
    (n : Nat) : p.parsed n = .ok [] := by
  have hstep {q : Parser} (hq : q.Sound) (hend : q.current.kind = .endOfFile) :
      q.parse.1 = .ok [] ∧ q.parse.2.current.kind = .endOfFile := by
    obtain ⟨r, hadvance, -, hend'⟩ | ⟨e, r, -, -, hlt⟩ := advance_outcome hq
    · rw [parse_of_endOfFile hend hadvance]
      exact ⟨rfl, hend' hend⟩
    · rw [left, left, hq.atEnd hend] at hlt
      exact absurd hlt (Nat.not_lt_zero _)
  have hends : (p.afterParses n).current.kind = .endOfFile := by
    induction n with
    | zero => exact hend
    | succ n ih => exact (hstep (follows_afterParses hp n).sound ih).2
  exact (hstep (follows_afterParses hp n).sound hends).1

/-- **Before a misplaced number the parser stays**, however often one asks. -/
lemma afterParses_of_number {p : Parser} {value : Binary64} (h : p.current.kind = .number value)
    (n : Nat) : p.afterParses n = p := by
  induction n with
  | zero => rfl
  | succ n ih => rw [afterParses, ih, parse_of_number h]

/-- Lexical errors and the text that is left add up to no more than the text there was. -/
lemma countP_isLexical_add_left_le {p : Parser} (hp : p.Sound) (k : Nat) :
    (List.range k).countP (fun n => isLexical (p.parsed n)) + (p.afterParses k).left ≤ p.left := by
  induction k with
  | zero =>
    rw [List.range_zero, List.countP_nil, Nat.zero_add]
    exact le_refl _
  | succ k ih =>
    have hle : (p.afterParses (k + 1)).left ≤ (p.afterParses k).left :=
      (parse_outcome (follows_afterParses hp k).sound).1.left_le
    have hstep : (if isLexical (p.parsed k) then 1 else 0) + (p.afterParses (k + 1)).left ≤
        (p.afterParses k).left := by
      have houtcome := outcome_parsed hp k
      generalize p.parsed k = result at houtcome ⊢
      cases houtcome with
      | done | unfinished | misplaced => simpa [isLexical] using hle
      | lexical e hlt =>
        rw [isLexical, if_pos rfl]
        omega
    rw [List.range_succ, List.countP_append, List.countP_singleton]
    omega

/-- **What the call behind `n` others comes to**, for itself and for all later calls. -/
def SettlesAt (p : Parser) (n : Nat) : Prop :=
  match p.parsed n with
  | .ok _ => (p.afterParses (n + 1)).current.kind = .endOfFile ∧ ∀ m > n, p.parsed m = .ok []
  | .error (.structural e) =>
    match e.fault with
    | .missingNewLine _ => ∀ m > n, p.parsed m = .ok []
    | .unexpectedToken _ _ =>
      ∀ m > n, p.parsed m = p.parsed n ∧ p.afterParses (m + 1) = p.afterParses m
    | .notALeaf _ => False
  | .error (.lexical _) =>
    (p.afterParses (n + 1)).scanner.remaining.length < (p.afterParses n).scanner.remaining.length

lemma parsed_of_endOfFile_behind {p : Parser} (hp : p.Sound) {n : Nat}
    (hend : (p.afterParses (n + 1)).current.kind = .endOfFile) {m : Nat} (hm : m > n) :
    p.parsed m = .ok [] := by
  obtain ⟨k, rfl⟩ := Nat.exists_eq_add_of_le hm
  rw [parsed_add]
  exact parsed_of_endOfFile (follows_afterParses hp (n + 1)).sound hend k

lemma settlesAt {p : Parser} (hp : p.Sound) (n : Nat) : p.SettlesAt n := by
  have houtcome := outcome_parsed hp n
  unfold SettlesAt
  generalize hresult : p.parsed n = result at houtcome ⊢
  cases houtcome with
  | done tree hend => exact ⟨hend, fun m => parsed_of_endOfFile_behind hp hend⟩
  | unfinished hend => exact fun m => parsed_of_endOfFile_behind hp hend
  | misplaced value hnumber =>
    have hstays : ∀ m > n, p.afterParses m = p.afterParses (n + 1) := by
      intro m hm
      obtain ⟨k, rfl⟩ := Nat.exists_eq_add_of_le hm
      rw [afterParses_add]
      exact afterParses_of_number hnumber k
    intro m hm
    constructor
    · rw [parsed, hstays m hm, parse_of_number hnumber]
    · rw [hstays m hm, hstays (m + 1) (by omega)]
  | lexical e hlt => exact hlt

/-- From the first call on that does not end in a lexical error all further calls agree. -/
lemma parsed_eq_of_not_isLexical {p : Parser} (hp : p.Sound) {n : Nat}
    (h : isLexical (p.parsed n) = false) {m : Nat} (hm : m > n) :
    p.parsed m = p.parsed (n + 1) := by
  have hsettles := settlesAt hp n
  unfold SettlesAt at hsettles
  split at hsettles
  · rw [hsettles.2 m hm, hsettles.2 (n + 1) (Nat.lt_succ_self n)]
  · split at hsettles
    · rw [hsettles m hm, hsettles (n + 1) (Nat.lt_succ_self n)]
    · rw [(hsettles m hm).1, (hsettles (n + 1) (Nat.lt_succ_self n)).1]
    · cases hsettles
  · rename_i e hlexical
    rw [hlexical] at h
    cases h

lemma exists_not_isLexical {p : Parser} (hp : p.Sound) :
    ∃ n ≤ p.left, isLexical (p.parsed n) = false := by
  by_contra hall
  push Not at hall
  have hcount := countP_isLexical_add_left_le hp (p.left + 1)
  rw [List.countP_eq_length.2, List.length_range] at hcount
  · omega
  · intro n hn
    rw [List.mem_range] at hn
    simpa using hall n (by omega)

lemma sound_of_start {text : List Char} {origin : Origin} {p : Parser}
    (h : start (.ofText text origin) = .ok p) : p.Sound ∧ p.left ≤ text.length := by
  have hs := Scanner.coherent_ofText text origin
  have hprogress := (Scanner.ofText text origin).nextToken_progress
  rw [start] at h
  split at h
  · rename_i token t hnext
    cases h
    rw [hnext] at hprogress
    refine ⟨(stream_of_nextToken hs hnext none).1, ?_⟩
    obtain hlt | ⟨-, hmake⟩ := hprogress
    · exact le_of_lt hlt
    · cases hmake
      exact le_refl _
  · cases h

/-- **Parsing again comes to rest.**  Whatever the source, a call that succeeds leaves the end of
the text current, and all later calls return the empty tree; so do all calls behind a missing
newline.  Behind a misplaced token all calls return the same error and leave the parser as it is.  A
call that ends in a lexical error has used up text, so there are no more of them than characters;
and hence all calls but the first few return the same. -/
theorem parse_settles {source : String} {origin : Origin} {p : Parser}
    (h : start (.ofText source.toList origin) = .ok p) :
    (∀ n, p.SettlesAt n) ∧
    (∀ k, (List.range k).countP (fun n => isLexical (p.parsed n)) ≤ source.length) ∧
    ∃ n ≤ source.length + 1, ∀ m ≥ n, p.parsed m = p.parsed n := by
  obtain ⟨hp, hleft⟩ := sound_of_start h
  rw [String.length_toList] at hleft
  refine ⟨settlesAt hp, ?_, ?_⟩
  · intro k
    have hcount := countP_isLexical_add_left_le hp k
    omega
  · obtain ⟨n, hn, hlexical⟩ := exists_not_isLexical hp
    refine ⟨n + 1, by omega, ?_⟩
    intro m hm
    exact parsed_eq_of_not_isLexical hp hlexical (by omega)

/-- The word before the fault is read again and makes a line of its own; then the number behind it
stops all further calls. -/
theorem parse_settles_behind_fault :
    ∃ p, start (.ofText "UwU ?\n1 x\n".toList .inMemory) = .ok p ∧
      p.parsed 0 = .error (.lexical ⟨.unknownCharacter '?', ⟨0, 4, 4⟩, .inMemory⟩) ∧
      ∀ m > 1, p.parsed m =
        .error (.structural ⟨.unexpectedToken .name .number, ⟨1, 0, 6⟩, 1, .inMemory⟩) := by
  have hfirst : (start (.ofText "UwU ?\n1 x\n".toList .inMemory)).map (·.parsed 0) =
      .ok (.error (.lexical ⟨.unknownCharacter '?', ⟨0, 4, 4⟩, .inMemory⟩)) := by
    decide +kernel
  have hsecond : (start (.ofText "UwU ?\n1 x\n".toList .inMemory)).map (·.parsed 1) =
      .ok (.error (.structural ⟨.unexpectedToken .name .number, ⟨1, 0, 6⟩, 1, .inMemory⟩)) := by
    decide +kernel
  rcases h : start (.ofText "UwU ?\n1 x\n".toList .inMemory) with e | p
  · rw [h] at hfirst
    cases hfirst
  · rw [h, Except.map, Except.ok.injEq] at hfirst hsecond
    refine ⟨p, rfl, hfirst, ?_⟩
    have hsettles := (parse_settles h).1 1
    rw [SettlesAt, hsecond] at hsettles
    intro m hm
    exact (hsettles m hm).1

end Kaomoji.Parser
