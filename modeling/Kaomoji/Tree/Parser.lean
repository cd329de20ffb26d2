import Kaomoji.Token.Scanner
import Kaomoji.Tree
import Kaomoji.Tree.ParseError

/-!
# The parser

The parser reads lines from a scanner with one token of lookahead.  A unit is

```text
unit := line* END
line := NEWLINE | NAME leaf* NEWLINE
leaf := NAME | NUMBER
```

and the first offence ends the reading.  A parser stays usable after an error: a token that could
not be made leaves the current token and the one before it as they were, while the scanner has
moved on behind the faulty character.

Every function returns its result together with the parser that follows.  `Parser.bound` is the
quantity that ends the loops: advancing from any token but the end of the text makes it smaller.
-/

namespace Kaomoji

/-- A parser on its way through a unit. -/
structure Parser where
  scanner : Scanner
  /-- The token that is looked at. -/
  current : Token
  /-- The token that was looked at before it. -/
  last : Option Token
deriving Inhabited

namespace Parser

/-- A parser that looks at the first token. -/
def start (scanner : Scanner) : Except LexicalError Parser :=
  match scanner.nextToken with
  | (.ok token, scanner) => .ok { scanner, current := token, last := none }
  | (.error e, _) => .error e

/-- Goes on to the next token. -/
def advance (p : Parser) : Except ParseError Unit × Parser :=
  match p.scanner.nextToken with
  | (.ok token, scanner) => (.ok (), { scanner, current := token, last := some p.current })
  | (.error e, scanner) => (.error (.lexical e), { p with scanner })

/-! ## The bound on what is left -/

/-- How often the parser can still advance before the end of the text is current, at most. -/
def bound (p : Parser) : Nat :=
  p.scanner.remaining.length + if p.current.kind = .endOfFile then 0 else 1

/-- Advancing from any token but the end of the text uses up the bound. -/
theorem advance_bound_lt {p q : Parser} (h : p.advance = (.ok (), q))
    (hcurrent : p.current.kind ≠ .endOfFile) : q.bound < p.bound := by
  have hprogress := p.scanner.nextToken_progress
  unfold advance at h
  split at h
  · rename_i token scanner hnext
    simp only [Prod.mk.injEq, true_and] at h
    subst h
    rw [hnext] at hprogress
    dsimp only at hprogress
    simp only [bound, hcurrent, if_false]
    rcases hprogress with hlt | ⟨hnil, hmake⟩
    · split <;> omega
    · simp only [Scanner.make, Prod.mk.injEq, Except.ok.injEq] at hmake
      obtain ⟨rfl, rfl⟩ := hmake
      simp [Scanner.remaining] at hnil ⊢
  · simp at h

/-! ## Lines -/

/-- Reads the leaves from the current token on, up to the first token that is no word. -/
def leaves (p : Parser) : Except ParseError (List Leaf) × Parser :=
  match hkind : p.current.kind with
  | .newLine | .endOfFile => (.ok [], p)
  | .typeName _ => (.error (.structural (.ofToken .notALeaf p.current)), p)
  | .name text =>
    match hadvance : p.advance with
    | (.error e, q) => (.error e, q)
    | (.ok (), q) =>
      have := advance_bound_lt hadvance (by simp [hkind])
      match q.leaves with
      | (.error e, r) => (.error e, r)
      | (.ok rest, r) => (.ok (.identifier ⟨text, p.current.position⟩ :: rest), r)
  | .number value =>
    match hadvance : p.advance with
    | (.error e, q) => (.error e, q)
    | (.ok (), q) =>
      have := advance_bound_lt hadvance (by simp [hkind])
      match q.leaves with
      | (.error e, r) => (.error e, r)
      | (.ok rest, r) => (.ok (.number ⟨value, p.current.position⟩ :: rest), r)
termination_by p.bound

/-- Reading leaves does not raise the bound. -/
theorem leaves_bound_le (p : Parser) {words : List Leaf} {q : Parser}
    (h : p.leaves = (.ok words, q)) : q.bound ≤ p.bound := by
  fun_induction leaves p generalizing words q with
  | case1 | case2 => simp_all
  | case3 => simp at h
  | case4 | case5 | case7 | case8 => simp_all
  | case6 => simp_all; omega
  | case9 => simp_all; omega

/-- Reads a line whose first token is current, with its line end. -/
def line (p : Parser) : Except ParseError Line × Parser :=
  match p.leaves with
  | (.error e, q) => (.error e, q)
  | (.ok words, q) =>
    if q.current.kind = .newLine then
      match q.advance with
      | (.error e, r) => (.error e, r)
      | (.ok (), r) => (.ok ⟨words⟩, r)
    else (.error (.structural (.ofToken .missingNewLine q.current)), q)

/-- Reading a line uses up the bound, if only by its line end. -/
theorem line_bound_lt {p q : Parser} {l : Line} (h : p.line = (.ok l, q)) : q.bound < p.bound := by
  unfold line at h
  split at h
  · simp at h
  · rename_i words r hleaves
    split at h
    · rename_i hnewLine
      split at h
      · simp at h
      · rename_i r' hadvance
        simp only [Prod.mk.injEq] at h
        obtain ⟨-, rfl⟩ := h
        exact Nat.lt_of_lt_of_le (advance_bound_lt hadvance (by simp [hnewLine]))
          (leaves_bound_le p hleaves)
    · simp at h

/-- Reads all lines from the current token on.  A blank line adds nothing, and the end of the text
is itself advanced over. -/
def parse (p : Parser) : Except ParseError Tree × Parser :=
  match hkind : p.current.kind with
  | .newLine =>
    match hadvance : p.advance with
    | (.error e, q) => (.error e, q)
    | (.ok (), q) =>
      have := advance_bound_lt hadvance (by simp [hkind])
      q.parse
  | .endOfFile =>
    match p.advance with
    | (.error e, q) => (.error e, q)
    | (.ok (), q) => (.ok [], q)
  | .name _ =>
    match hline : p.line with
    | (.error e, q) => (.error e, q)
    | (.ok line, q) =>
      have := line_bound_lt hline
      match q.parse with
      | (.error e, r) => (.error e, r)
      | (.ok rest, r) => (.ok (line :: rest), r)
  | .number _ | .typeName _ =>
    (.error (.structural (.ofToken (.unexpectedToken .name) p.current)), p)
termination_by p.bound

end Parser

/-- The tree of a text, or the first error in it. -/
def parseText (text : String) (origin : Origin) : Except ParseError Tree :=
  match Parser.start (.ofText text.toList origin) with
  | .error e => .error (.lexical e)
  | .ok parser => parser.parse.1

end Kaomoji
