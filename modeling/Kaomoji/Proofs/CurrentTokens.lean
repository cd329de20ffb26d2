import Kaomoji.Proofs.LineEnds
import Kaomoji.Proofs.RepeatedParsing
import Mathlib.Logic.Relation

/-!
# The tokens a parser knows

A parser knows two tokens, the current one and the one before it, and its scanner remembers one, the
token it made last.  They are updated apart from each other: an advance that meets a fault has moved
the scanner already and leaves the parser's tokens alone, and the same parser may be asked again any
number of times.

Nothing in parsing touches them but advancing.  Leaves, lines and whole calls of `parse` are
advances with reading in between (`advances_leaves`, `advances_line`, `advances_parse`), so what one
advance keeps is kept throughout.  One advance keeps this: the tokens that the scanner has produced
so far, errors producing none, end with the current token, and what the parser has before it is what
comes before it there (`KnowsLast.advance`).
-/

namespace Kaomoji.Parser

/-! ## Parsing is advancing -/

/-- **A parser that comes from another by advances**, some of which may have failed. -/
def Advances : Parser → Parser → Prop := Relation.ReflTransGen fun p q => q = p.advance.2

lemma Advances.refl (p : Parser) : p.Advances p := Relation.ReflTransGen.refl

lemma Advances.trans {p q r : Parser} (h : p.Advances q) (h' : q.Advances r) : p.Advances r :=
  Relation.ReflTransGen.trans h h'

lemma advances_of_advance {p q : Parser} {result : Except ParseError Unit}
    (h : p.advance = (result, q)) : p.Advances q :=
  Relation.ReflTransGen.single (by rw [h])

lemma advances_leaves (p : Parser) : p.Advances p.leaves.2 := by
  fun_induction leaves p with
  | case1 | case2 | case3 => exact .refl _
  | case4 p text hkind e q hadvance | case7 p value hkind e q hadvance =>
    exact advances_of_advance hadvance
  | case5 p text hkind q hadvance _ e r hleaves ih | case6 p text hkind q hadvance _ e r hleaves ih
  | case8 p value hkind q hadvance _ e r hleaves ih
  | case9 p value hkind q hadvance _ e r hleaves ih =>
    rw [hleaves] at ih
    exact (advances_of_advance hadvance).trans ih

lemma advances_line (p : Parser) : p.Advances p.line.2 := by
  have hadvances := p.advances_leaves
  fun_cases line p with
  | case1 e q hleaves => rwa [hleaves] at hadvances
  | case2 words q hleaves hkind e r hadvance | case3 words q hleaves hkind r hadvance =>
    rw [hleaves] at hadvances
    exact hadvances.trans (advances_of_advance hadvance)
  | case4 words q hleaves hkind => rwa [hleaves] at hadvances

lemma advances_parse (p : Parser) : p.Advances p.parse.2 := by
  fun_induction parse p with
  | case1 p hkind e q hadvance | case3 p hkind e q hadvance | case4 p hkind q hadvance =>
    exact advances_of_advance hadvance
  | case2 p hkind q hadvance _ ih => exact (advances_of_advance hadvance).trans ih
  | case5 p text hkind e q hline =>
    have hadvances := p.advances_line
    rwa [hline] at hadvances
  | case6 p text hkind line q hline _ e r hparse ih
  | case7 p text hkind line q hline _ e r hparse ih =>
    have hadvances := p.advances_line
    rw [hline] at hadvances
    rw [hparse] at ih
    exact hadvances.trans ih
  | case8 | case9 => exact .refl _

lemma advances_afterParses (p : Parser) (n : Nat) : p.Advances (p.afterParses n) := by
  induction n with
  | zero => exact .refl p
  | succ n ih => exact ih.trans (advances_parse _)

/-! ## What an advance keeps -/

/-- What an advance does: it goes on to the token that the scanner makes, or it meets a fault, and
then only the scanner has moved. -/
lemma advance_eq_or (p : Parser) :
    (∃ token t, p.scanner.nextToken = (.ok token, t) ∧
      p.advance = (.ok (), ⟨t, token, some p.current⟩)) ∨
    ∃ e t, p.scanner.nextToken = (.error e, t) ∧
      p.advance = (.error (.lexical e), ⟨t, p.current, p.last⟩) := by
  rw [advance]
  rcases hnext : p.scanner.nextToken with ⟨e | token, t⟩
  · exact Or.inr ⟨e, t, rfl, rfl⟩
  · exact Or.inl ⟨token, t, rfl, rfl⟩

/-- **The tokens produced so far end with the current one**: the scanner has come from `s` by some
number of calls, the last token these produced is the current one, and the one produced before it,
if there is one, is the one before. -/
def KnowsLast (p : Parser) (s : Scanner) : Prop :=
  ∃ calls earlier, p.scanner = s.afterCalls calls ∧
    s.produced calls = earlier ++ [p.current] ∧ p.last = earlier.getLast?

lemma KnowsLast.advance {p : Parser} {s : Scanner} (h : p.KnowsLast s) :
    p.advance.2.KnowsLast s := by
  obtain ⟨calls, earlier, hscanner, hproduced, hlast⟩ := h
  obtain ⟨token, t, hnext, hadvance⟩ | ⟨e, t, hnext, hadvance⟩ := p.advance_eq_or
  · rw [hscanner] at hnext
    rw [hadvance]
    refine ⟨calls + 1, earlier ++ [p.current], ?_, ?_, ?_⟩
    · rw [Scanner.afterCalls, hnext]
    · rw [Scanner.produced, hnext, hproduced]
      rfl
    · rw [List.getLast?_concat]
  · -- the call that fails counts as a call and produces nothing
    rw [hscanner] at hnext
    rw [hadvance]
    refine ⟨calls + 1, earlier, ?_, ?_, hlast⟩
    · rw [Scanner.afterCalls, hnext]
    · rw [Scanner.produced, hnext, hproduced]
      exact List.append_nil _

lemma KnowsLast.of_advances {p q : Parser} {s : Scanner} (h : p.KnowsLast s) (hq : p.Advances q) :
    q.KnowsLast s := by
  induction hq with
  | refl => exact h
  | tail _ hstep ih =>
    rw [hstep]
    exact ih.advance

lemma knowsLast_of_start {s : Scanner} {p : Parser} (h : start s = .ok p) : p.KnowsLast s := by
  rw [start] at h
  split at h
  · rename_i token t hnext
    cases h
    refine ⟨1, [], ?_, ?_, rfl⟩
    · rw [Scanner.afterCalls, Scanner.afterCalls, hnext]
    · rw [Scanner.produced, Scanner.produced, Scanner.afterCalls, hnext]
      rfl
  · cases h

/-- What the scanner remembers is the current token. -/
lemma KnowsLast.scanner_last {p : Parser} {s : Scanner} (h : p.KnowsLast s) :
    p.scanner.last = some p.current := by
  obtain ⟨calls, earlier, hscanner, hproduced, -⟩ := h
  rw [hscanner, Scanner.last_afterCalls, hproduced, List.getLast?_concat]
  rfl

/-! ## All calls -/

/-- What is true of the tokens that a parser knows, whose scanner began as `s`. -/
structure KeepsUpWith (p : Parser) (s : Scanner) : Prop where
  /-- The current token is the one that the scanner remembers. -/
  current : p.scanner.last = some p.current
  /-- The current token and the one before are the last two that the scanner has produced; there is
  none before if it has produced but one. -/
  produced : p.KnowsLast s
  /-- An advance that fails changes neither. -/
  failed : ∀ e q, p.advance = (.error e, q) → q.current = p.current ∧ q.last = p.last

lemma KnowsLast.keepsUpWith {p : Parser} {s : Scanner} (h : p.KnowsLast s) : p.KeepsUpWith s where
  current := h.scanner_last
  produced := h
  failed e q hq := by
    obtain ⟨token, t, -, hadvance⟩ | ⟨e', t, -, hadvance⟩ := p.advance_eq_or
    · cases hadvance.symm.trans hq
    · cases hadvance.symm.trans hq
      exact ⟨rfl, rfl⟩

/-- **A parser keeps up with its scanner.**  Behind any number of calls, successful or failed, and
at every advance within them, the current token is the one that the scanner made last and the token
before is the one it made before that, however many faults lie between the two. -/
theorem keepsUpWith_afterParses {source : String} {origin : Origin} {p : Parser}
    (h : start (.ofText source.toList origin) = .ok p) :
    (∀ n, (p.afterParses n).KeepsUpWith (.ofText source.toList origin)) ∧
    ∀ q, p.Advances q → q.KeepsUpWith (.ofText source.toList origin) := by
  have hall : ∀ q, p.Advances q → q.KeepsUpWith (.ofText source.toList origin) :=
    fun q hq => ((knowsLast_of_start h).of_advances hq).keepsUpWith
  exact ⟨fun n => hall _ (advances_afterParses p n), hall⟩

/-- Two calls end at one of two faults each and leave the first token current; the third goes on to
the end of the text, before which that token was the last one made. -/
theorem keepsUpWith_afterParses_across_faults :
    ∃ p, start (.ofText "x ??".toList .inMemory) = .ok p ∧
      ((p.afterParses 2).current = ⟨.name "x", ⟨0, 0, 0⟩, 1, .inMemory⟩ ∧
        (p.afterParses 2).last = none) ∧
      ((p.afterParses 3).current = ⟨.endOfFile, ⟨0, 4, 4⟩, 0, .inMemory⟩ ∧
        (p.afterParses 3).last = some ⟨.name "x", ⟨0, 0, 0⟩, 1, .inMemory⟩) ∧
      (p.afterParses 3).KeepsUpWith (.ofText "x ??".toList .inMemory) := by
  have htokens : (start (.ofText "x ??".toList .inMemory)).map (fun p =>
      (((p.afterParses 2).current, (p.afterParses 2).last),
        ((p.afterParses 3).current, (p.afterParses 3).last))) =
      .ok ((⟨.name "x", ⟨0, 0, 0⟩, 1, .inMemory⟩, none),
        (⟨.endOfFile, ⟨0, 4, 4⟩, 0, .inMemory⟩,
          some ⟨.name "x", ⟨0, 0, 0⟩, 1, .inMemory⟩)) := by
    decide +kernel
  rcases h : start (.ofText "x ??".toList .inMemory) with e | p
  · rw [h] at htokens
    cases htokens
  · rw [h, Except.map, Except.ok.injEq, Prod.mk.injEq, Prod.mk.injEq, Prod.mk.injEq] at htokens
    exact ⟨p, rfl, htokens.1, htokens.2, (keepsUpWith_afterParses h).1 3⟩

end Kaomoji.Parser
