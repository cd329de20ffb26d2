import Kaomoji.Proofs.Collisions
import Kaomoji.Proofs.LineEnds

/-!
# The shape of what is written for a name

Which marks a name can hold is said in one place, by the alphabet of the lexer, and which of them
are replaced is said in another, by the table of mark words.  A mark that the first knew and the
second did not would stand in the output as it is.  There is none: whatever a scanner cuts out as a
name, also behind errors, is written as an identifier (`Scanner.isName_of_mem_produced`,
`WrittenAsIdentifier.of_isName`), and an identifier is written as itself.

The second half needs no lexer.  What replaces a mark holds no mark, so nothing that is written is
ever replaced again (`sanitize_sanitize`).
-/

namespace Kaomoji

/-! ## Writing again -/

/-- What stands for a character is written as it is. -/
lemma sanitizeChar_of_mem_sanitizeChar {c d : Char} (h : d ∈ sanitizeChar c) :
    sanitizeChar d = [d] := by
  rcases sanitizeChar_eq c with ⟨word, hword, hc⟩ | hc
  · have hall : ∀ entry ∈ markWords, entry.2.toList.all fun d => sanitizeChar d = [d] := by decide
    rw [hc] at h
    exact of_decide_eq_true (List.all_eq_true.1 (hall (c, word) hword) d h)
  · obtain rfl : d = c := List.mem_singleton.1 (hc ▸ h)
    exact hc

/-- **What is written is not looked at again**: writing it once more changes nothing. -/
lemma sanitize_sanitize (name : String) : sanitize (sanitize name) = sanitize name := by
  have hfixed : (name.toList.flatMap sanitizeChar).flatMap sanitizeChar =
      (name.toList.flatMap sanitizeChar).flatMap fun d => [d] := by
    refine List.flatMap_congr fun d hd => ?_
    obtain ⟨c, -, hd⟩ := List.mem_flatMap.1 hd
    exact sanitizeChar_of_mem_sanitizeChar hd
  rw [sanitize, sanitize, String.toList_ofList, hfixed, List.flatMap_singleton']

/-! ## Identifiers -/

/-- The marks that targets write around words: blanks and line ends, separators, quotes,
parentheses, operators, and those of format strings. -/
def targetMarks : List Char := [' ', '\n', ',', ';', '"', '\'', '(', ')', '=', '+', '%', '\\']

/-- **A name is written as an identifier**, and the identifier as itself. -/
structure WrittenAsIdentifier (name : String) : Prop where
  ne_empty : sanitize name ≠ ""
  first : ∀ c ∈ (sanitize name).toList.head?, Text.isAlphabetic c ∨ c = '_'
  every : ∀ c ∈ (sanitize name).toList, Text.isAlphabetic c ∨ Text.isNumeric c ∨ c = '_'
  no_mark : ∀ c ∈ targetMarks, c ∉ (sanitize name).toList
  again : sanitize (sanitize name) = sanitize name

lemma isIdentifierContinue_iff {c : Char} :
    isIdentifierContinue c ↔ Text.isAlphabetic c ∨ Text.isNumeric c ∨ c = '_' := by
  rw [isIdentifierContinue, isIdentifierStart, Bool.or_eq_true, Bool.or_eq_true, decide_eq_true_eq,
    or_assoc, or_comm (a := c = '_')]

/-- Names are written as identifiers; the lexer is asked for nothing but that they are names. -/
lemma WrittenAsIdentifier.of_isName {name : String} (h : isName name.toList) :
    WrittenAsIdentifier name := by
  have hidentifier := isIdentifier_sanitize h
  have hevery := isIdentifierContinue_of_mem hidentifier
  refine ⟨?_, ?_, fun c hc => isIdentifierContinue_iff.1 (hevery c hc), ?_, sanitize_sanitize name⟩
  · rintro hempty
    rw [hempty] at hidentifier
    cases hidentifier
  · intro c hc
    obtain ⟨rest, hword⟩ := List.head?_eq_some_iff.1 hc
    rw [hword, isIdentifier, Text.isFormed, Bool.and_eq_true, isIdentifierStart, Bool.or_eq_true,
      decide_eq_true_eq] at hidentifier
    exact hidentifier.1
  · intro c hmark hc
    have hmarks : targetMarks.all fun c => !isIdentifierContinue c := by decide
    simpa [hevery c hc] using List.all_eq_true.1 hmarks c hmark

/-! ## The names that a scanner cuts out -/

namespace Scanner

/-- A call that returns a name has cut it out as one. -/
lemma isName_of_nextToken {s : Scanner} (hs : s.Coherent) {token : Token}
    (h : s.nextToken.1 = .ok token) {name : String} (hkind : token.kind = .name name) :
    isName name.toList := by
  obtain ⟨gap, t, -, hskip, hnext⟩ := exists_reads_gap hs
  rw [hnext] at h
  match hlexeme : longestLexeme t.remaining with
  | .name text =>
    rw [hlexeme] at h
    cases h
    cases hkind
    rw [String.toList_ofList]
    exact isName_of_longestLexeme hlexeme
  | .textEnd | .number _ =>
    rw [hlexeme] at h
    cases h
    cases hkind
  | .faulty _ _ =>
    rw [hlexeme] at h
    cases h
  | .lineEnd =>
    rw [hlexeme, Lexeme.isSkipped] at hskip
    rw [hlexeme, respond, hskip] at h
    cases h
    cases hkind
  | .blank _ =>
    rw [hlexeme] at hskip
    cases hskip

/-- Over any number of calls, errors among them, all names produced were cut out as names. -/
lemma isName_of_mem_produced {s : Scanner} {text : List Char} (hs : s.StandsIn text) (n : Nat) :
    ∀ token ∈ s.produced n, ∀ name, token.kind = .name name → isName name.toList := by
  induction n with
  | zero => simp [produced]
  | succ n ih =>
    intro token htoken name hkind
    rcases List.mem_append.1 htoken with htoken | htoken
    · exact ih token htoken name hkind
    · rcases hresult : (s.afterCalls n).nextToken.1 with e | made
      · rw [hresult] at htoken
        cases htoken
      · rw [hresult] at htoken
        cases List.mem_singleton.1 htoken
        exact isName_of_nextToken (hs.afterCalls n).coherent hresult hkind

end Scanner

/-- **Names become identifiers.**  Whatever a scanner makes a name of, in a run over a text or by
calls that go on behind errors, is written as an identifier: it is not empty, begins with a letter
or an underscore, goes on with letters, numbers and underscores, and stays as it is if it is written
again.  So are the variables of every unit, and each of them is a word of its own in the output. -/
theorem writtenAsIdentifier_of_name (source : String) :
    (∀ origin tokens, tokenize source origin = .ok tokens →
      ∀ token ∈ tokens, ∀ name, token.kind = .name name → WrittenAsIdentifier name) ∧
    (∀ origin n, ∀ token ∈ (Scanner.ofText source.toList origin).produced n,
      ∀ name, token.kind = .name name → WrittenAsIdentifier name) ∧
    ∀ settings program, programOf source settings = .ok program →
      WritesWords source settings program ∧
        ∀ id ∈ program.variables, WrittenAsIdentifier id.name := by
  refine ⟨?_, ?_, ?_⟩
  · intro origin tokens htokens token htoken name hkind
    obtain ⟨-, rfl⟩ := tokenize_eq_ok_iff.1 htokens
    rcases List.mem_append.1 htoken with htoken | htoken
    · exact .of_isName (TokenStream.isName_of_mem_ofText _ _ _ _ token htoken name hkind)
    · cases List.mem_singleton.1 htoken
      cases hkind
  · intro origin n token htoken name hkind
    have hstands := Scanner.standsIn_ofText source.toList origin
    exact .of_isName (Scanner.isName_of_mem_produced hstands n token htoken name hkind)
  · intro settings program hprogram
    refine ⟨writesWords_of_programOf hprogram, fun id hid => ?_⟩
    obtain ⟨s, hs, hleaf⟩ := Program.exists_of_mem_variables hid
    exact .of_isName (Leaf.isLexed_of_mem_programOf hprogram hs hleaf)

/-- A variable of letters, marks and a number, as a token and in its unit; and a name of marks
alone, cut out behind a character that is no part of a name. -/
theorem writtenAsIdentifier_of_name_marks :
    (∃ tokens, tokenize "O.O é!9\n" .inMemory = .ok tokens ∧
      ∃ token ∈ tokens, token.kind = .name "é!9" ∧ WrittenAsIdentifier "é!9") ∧
    (∃ token ∈ (Scanner.ofText "$~\\:".toList .inMemory).produced 2,
      token.kind = .name "~\\:" ∧ WrittenAsIdentifier "~\\:" ∧
        sanitize "~\\:" = "_tilde__bslash__colon_") ∧
    ∃ program, programOf "O.O é!9\n" ⟨.inMemory, .c⟩ = .ok program ∧
      ∃ id ∈ program.variables, id.word = "é_bang_9" ∧ WrittenAsIdentifier id.name := by
  have htokens : tokenize "O.O é!9\n" .inMemory = .ok
      [⟨.name "O.O", ⟨0, 0, 0⟩, 3, .inMemory⟩, ⟨.name "é!9", ⟨0, 4, 4⟩, 3, .inMemory⟩,
        ⟨.newLine, ⟨0, 7, 7⟩, 1, .inMemory⟩, ⟨.endOfFile, ⟨1, 0, 8⟩, 0, .inMemory⟩] := by
    decide +kernel
  have hproduced : (Scanner.ofText "$~\\:".toList .inMemory).produced 2 =
      [⟨.name "~\\:", ⟨0, 1, 1⟩, 3, .inMemory⟩] := by
    decide +kernel
  have hprogram : programOf "O.O é!9\n" ⟨.inMemory, .c⟩ =
      .ok [.declaration .int ⟨"é!9", ⟨0, 4, 4⟩⟩] := by
    decide +kernel
  refine ⟨⟨_, htokens, _, List.mem_cons_of_mem _ List.mem_cons_self, rfl, ?_⟩, ?_, ?_⟩
  · exact (writtenAsIdentifier_of_name "O.O é!9\n").1 _ _ htokens _
      (List.mem_cons_of_mem _ List.mem_cons_self) _ rfl
  · have hmem : ⟨.name "~\\:", ⟨0, 1, 1⟩, 3, .inMemory⟩ ∈
        (Scanner.ofText "$~\\:".toList .inMemory).produced 2 := by
      rw [hproduced]
      exact List.mem_cons_self
    refine ⟨_, hmem, rfl, ?_, by decide⟩
    exact (writtenAsIdentifier_of_name "$~\\:").2.1 _ _ _ hmem _ rfl
  · refine ⟨_, hprogram, ⟨"é!9", ⟨0, 4, 4⟩⟩, List.mem_cons_self, by decide, ?_⟩
    exact ((writtenAsIdentifier_of_name "O.O é!9\n").2.2 _ _ hprogram).2 _ List.mem_cons_self

end Kaomoji
