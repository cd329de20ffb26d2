import Kaomoji.Compile
import Kaomoji.Proofs.TokenStream

/-!
# Reading lines

The parser sees one token at a time and advances at three different places: within a line, behind
a blank line and behind the line end of a line.  Which of a lexical error and a misplaced token it
reports depends on when each advance happens.

`TokenStream.reading` says what comes out without looking at any of this.  It takes the whole
stream, splits its tokens at the line ends, drops the empty groups, and looks for the first offence
in the order of the tokens: a number at the head of a line, the error that ends the stream, or a
last line that the end of the text leaves without line end.  Where there is none, each token of a
line is a leaf.  The main statement is that the parser agrees, `Parser.parse_eq`.
-/

namespace Kaomoji

/-- The leaf that a token stands for. -/
def Token.leaf? (token : Token) : Option Leaf :=
  match token.kind with
  | .name text => some (.identifier ⟨text, token.position⟩)
  | .number value => some (.number ⟨value, token.position⟩)
  | .newLine | .typeName _ | .endOfFile => none

lemma Token.tag_eq_newLine {token : Token} : token.tag = .newLine ↔ token.kind = .newLine := by
  rw [Token.tag]
  cases token.kind <;> simp [TokenKind.tag]

namespace TokenStream

/-! ## The reading of a stream -/

/-- The lines of a stream: what stands between its line ends, where something does. -/
def lines (stream : TokenStream) : List (List Token) :=
  (stream.tokens.splitOnP (·.tag = .newLine)).filter (!·.isEmpty)

/-- The leaves of the lines. -/
def tree (stream : TokenStream) : Tree :=
  stream.lines.map fun line => ⟨line.filterMap Token.leaf?⟩

/-- The first number that begins a line. -/
def misplaced? (stream : TokenStream) : Option Token :=
  (stream.lines.filterMap List.head?).find? (·.tag = .number)

/-- Whether the last token, if there is one, is a line end. -/
def isClosed (stream : TokenStream) : Bool := stream.tokens.getLast?.all (·.tag = .newLine)

/-- The first offence in the order of the tokens.  A misplaced number and an end of the text that
comes too early are reported with their own place, span and unit. -/
def offence? (stream : TokenStream) : Option ParseError :=
  match stream.misplaced? with
  | some token =>
    some (.structural
      { fault := .unexpectedToken .name token.tag
        position := token.position
        span := token.span
        origin := token.origin })
  | none =>
    match stream.ending with
    | .error e => some (.lexical e)
    | .ok last =>
      if stream.isClosed then none
      else
        some (.structural
          { fault := .missingNewLine last.tag
            position := last.position
            span := last.span
            origin := last.origin })

/-- **What a stream is read as.** -/
def reading (stream : TokenStream) : Except ParseError Tree :=
  match stream.offence? with
  | some e => .error e
  | none => .ok stream.tree

/-! ### What is read -/

lemma exists_splitOnP_eq_cons (tokens : List Token) :
    ∃ first later, tokens.splitOnP (·.tag = .newLine) = first :: later :=
  List.exists_cons_of_ne_nil (List.splitOnP_ne_nil _ tokens)

/-- The lines hold the tokens that are no line ends, in order. -/
lemma flatten_lines (stream : TokenStream) :
    stream.lines.flatten = stream.tokens.filter (·.tag ≠ .newLine) := by
  rw [lines, List.flatten_filter_not_isEmpty]
  induction stream.tokens with
  | nil => rfl
  | cons token rest ih =>
    rw [List.splitOnP_cons_eq_if_modifyHead]
    by_cases hnewLine : token.tag = .newLine
    · simp [hnewLine, ih]
    · obtain ⟨first, later, hsplit⟩ := exists_splitOnP_eq_cons rest
      rw [hsplit] at ih ⊢
      simpa [hnewLine] using ih

lemma ne_nil_of_mem_lines {stream : TokenStream} {line : List Token} (hline : line ∈ stream.lines) :
    line ≠ [] := by
  rw [lines, List.mem_filter] at hline
  simpa using hline.2

lemma mem_of_mem_lines {stream : TokenStream} {line : List Token} (hline : line ∈ stream.lines)
    {token : Token} (htoken : token ∈ line) : token ∈ stream.tokens ∧ token.tag ≠ .newLine := by
  have hmem := List.mem_flatten_of_mem hline htoken
  rw [flatten_lines, List.mem_filter] at hmem
  simpa using hmem

/-- The leaves of the tree are the words of the stream, in order. -/
lemma leaves_tree (stream : TokenStream) :
    stream.tree.flatMap Line.leaves = stream.tokens.filterMap Token.leaf? := by
  have hskip : (stream.tokens.filter (·.tag ≠ .newLine)).filterMap Token.leaf? =
      stream.tokens.filterMap Token.leaf? := by
    rw [List.filterMap_filter]
    refine List.filterMap_congr fun token _ => ?_
    by_cases hnewLine : token.tag = .newLine
    · simp [hnewLine, Token.leaf?, Token.tag_eq_newLine.1 hnewLine]
    · simp [hnewLine]
  calc stream.tree.flatMap Line.leaves
      = (stream.lines.map (List.filterMap Token.leaf?)).flatten := by
        rw [tree, List.flatMap_map, List.flatMap_def]
    _ = stream.lines.flatten.filterMap Token.leaf? := List.filterMap_flatten.symm
    _ = stream.tokens.filterMap Token.leaf? := by rw [flatten_lines, hskip]

/-- A stream that holds line ends, names and numbers is read without offence if its lines begin
with names, no error ends it, and its last line has a line end. -/
lemma exists_reading_eq_ok {stream : TokenStream}
    (htags : ∀ token ∈ stream.tokens, token.tag ∈ [TokenTag.newLine, .name, .number]) :
    (∃ tree, stream.reading = .ok tree) ↔
      (∃ last, stream.ending = .ok last) ∧
      (∀ line ∈ stream.lines, ∃ head ∈ line.head?, head.tag = .name) ∧
      stream.isClosed := by
  have hheads : stream.misplaced? = none ↔
      ∀ line ∈ stream.lines, ∃ head ∈ line.head?, head.tag = .name := by
    rw [misplaced?, List.find?_eq_none]
    constructor
    · intro h line hline
      obtain ⟨head, words, rfl⟩ := List.exists_cons_of_ne_nil (ne_nil_of_mem_lines hline)
      obtain ⟨hmem, hnewLine⟩ := mem_of_mem_lines hline List.mem_cons_self
      have hnumber := h head (List.mem_filterMap.2 ⟨_, hline, rfl⟩)
      have htag := htags head hmem
      refine ⟨head, rfl, ?_⟩
      simp_all
    · intro h head hhead
      obtain ⟨line, hline, hhead⟩ := List.mem_filterMap.1 hhead
      obtain ⟨head', hhead', htag⟩ := h line hline
      obtain rfl : head' = head := Option.mem_unique hhead' hhead
      simp [htag]
  rw [← hheads, reading, offence?]
  rcases stream.misplaced? with _ | token
  · rcases stream.ending with e | last
    · simp
    · by_cases hclosed : stream.isClosed <;> simp [hclosed]
  · simp

lemma eq_tree_of_reading {stream : TokenStream} {tree : Tree} (h : stream.reading = .ok tree) :
    tree = stream.tree := by
  rw [reading] at h
  split at h
  · cases h
  · exact (Except.ok.inj h).symm

/-! ### Reading line by line -/

section Lines

variable (words : List Token) {newLine : Token} (rest : List Token)
  (ending : Except LexicalError Token)

/-- The lines of a stream are its first line, if it is not blank, and the lines behind. -/
lemma lines_append_newLine {words : List Token} (hwords : ∀ token ∈ words, token.tag ≠ .newLine)
    (hnewLine : newLine.tag = .newLine) :
    lines ⟨words ++ newLine :: rest, ending⟩ =
      (if words = [] then [] else [words]) ++ lines ⟨rest, ending⟩ := by
  have hsplit : (words ++ newLine :: rest).splitOnP (·.tag = .newLine) =
      words :: rest.splitOnP (·.tag = .newLine) :=
    List.splitOnP_append_cons_of_forall_mem (by simpa using hwords) newLine (by simpa using hnewLine)
      rest
  rw [lines, hsplit]
  by_cases hnil : words = []
  · simp [hnil, lines]
  · simp [hnil, lines]

/-- Behind a line end the rest alone decides whether the last line is closed. -/
lemma isClosed_append_newLine (hnewLine : newLine.tag = .newLine) :
    isClosed ⟨words ++ newLine :: rest, ending⟩ = isClosed ⟨rest, ending⟩ := by
  rcases List.eq_nil_or_concat rest with rfl | ⟨front, last, rfl⟩
  · simp [isClosed, hnewLine]
  · simp [isClosed, List.getLast?_append, List.getLast?_cons]

lemma reading_blank (hnewLine : newLine.tag = .newLine) :
    reading ⟨newLine :: rest, ending⟩ = reading ⟨rest, ending⟩ := by
  have hlines : lines ⟨newLine :: rest, ending⟩ = lines ⟨rest, ending⟩ :=
    lines_append_newLine rest ending (by simp : ∀ token ∈ ([] : List Token), _) hnewLine
  have hclosed : isClosed ⟨newLine :: rest, ending⟩ = isClosed ⟨rest, ending⟩ :=
    isClosed_append_newLine [] rest ending hnewLine
  simp only [reading, offence?, misplaced?, tree, hlines, hclosed]

/-- A line that begins with a name and is closed is one line of the tree. -/
lemma reading_line {head : Token} {words : List Token} (hhead : head.tag = .name)
    (hwords : ∀ token ∈ words, token.tag ≠ .newLine) (hnewLine : newLine.tag = .newLine) :
    reading ⟨head :: words ++ newLine :: rest, ending⟩ =
      (⟨(head :: words).filterMap Token.leaf?⟩ :: ·) <$> reading ⟨rest, ending⟩ := by
  have hall : ∀ token ∈ head :: words, token.tag ≠ .newLine :=
    List.forall_mem_cons.2 ⟨by simp [hhead], hwords⟩
  have hlines := lines_append_newLine rest ending hall hnewLine
  rw [if_neg (by simp), List.singleton_append] at hlines
  have hmisplaced : misplaced? ⟨head :: words ++ newLine :: rest, ending⟩ =
      misplaced? ⟨rest, ending⟩ := by
    rw [misplaced?, misplaced?, hlines, List.filterMap_cons, List.head?_cons]
    exact List.find?_cons_of_neg (by simp [hhead])
  have hoffence : offence? ⟨head :: words ++ newLine :: rest, ending⟩ = offence? ⟨rest, ending⟩ := by
    rw [offence?, offence?, hmisplaced, isClosed_append_newLine (head :: words) rest ending hnewLine]
  rw [reading, reading, hoffence, tree, hlines]
  cases offence? ⟨rest, ending⟩ with
  | none => rfl
  | some e => rfl

/-- A number at the head of a line is refused, whatever follows. -/
lemma reading_misplaced {head : Token} (hhead : head.tag = .number) :
    reading ⟨head :: rest, ending⟩ =
      .error (.structural (.ofToken (.unexpectedToken .name) head)) := by
  have hmisplaced : misplaced? ⟨head :: rest, ending⟩ = some head := by
    obtain ⟨first, later, hsplit⟩ := exists_splitOnP_eq_cons rest
    rw [misplaced?, lines, List.splitOnP_cons_eq_if_modifyHead, hsplit]
    simp [hhead]
  rw [reading, offence?, hmisplaced]
  rfl

/-- A last line without line end is refused, by the error that ends it or at the end of the text. -/
lemma reading_open {head : Token} {words : List Token} (hhead : head.tag = .name)
    (hwords : ∀ token ∈ words, token.tag ≠ .newLine) :
    reading ⟨head :: words, ending⟩ =
      match ending with
      | .error e => .error (.lexical e)
      | .ok last => .error (.structural (.ofToken .missingNewLine last)) := by
  have hall : ∀ token ∈ head :: words, token.tag ≠ .newLine :=
    List.forall_mem_cons.2 ⟨by simp [hhead], hwords⟩
  have hsplit : (head :: words).splitOnP (·.tag = .newLine) = [head :: words] :=
    List.splitOnP_eq_singleton (by simpa using hall)
  have hmisplaced : misplaced? ⟨head :: words, ending⟩ = none := by
    simp [misplaced?, lines, hsplit, hhead]
  have hclosed : isClosed ⟨head :: words, ending⟩ = false := by
    have hlast := hall _ (List.getLast_mem (List.cons_ne_nil head words))
    simp [isClosed, List.getLast?_eq_some_getLast (List.cons_ne_nil head words), hlast]
  rw [reading, offence?, hmisplaced]
  cases ending with
  | error e => rfl
  | ok last => simp [hclosed, SyntaxError.ofToken]

end Lines

end TokenStream

/-! ## What tokens a scanner makes -/

namespace Scanner

/-- A token that was made is a line end, a word, or the end of the text with nothing behind it. -/
lemma nextToken_kind {s t : Scanner} (hs : s.Coherent) {token : Token}
    (h : s.nextToken = (.ok token, t)) :
    t.Coherent ∧ (∀ text, token.kind ≠ .typeName text) ∧
      (token.kind = .endOfFile → t.remaining = []) := by
  obtain ⟨taken, hreads⟩ := exists_reads_nextToken hs
  rw [h] at hreads
  refine ⟨hreads.coherent, ?_⟩
  obtain ⟨gap, u, -, ⟨hnil, hnext⟩ | ⟨kind, taken, v, -, htag, hnext⟩ | ⟨read, fault, -, hnext⟩⟩ :=
    nextToken_cases hs
  · rw [h] at hnext
    cases hnext
    exact ⟨by simp, fun _ => hnil⟩
  · rw [h] at hnext
    cases hnext
    constructor
    · rintro text rfl
      simp [TokenKind.tag] at htag
    · rintro rfl
      simp [TokenKind.tag] at htag
  · rw [h] at hnext
    cases hnext

lemma stream_tags {s : Scanner} (hs : s.Coherent) :
    ∀ token ∈ s.stream.tokens, token.tag ∈ [TokenTag.newLine, .name, .number] := by
  induction hn : s.remaining.length using Nat.strong_induction_on generalizing s with
  | _ n ih =>
    rcases hnext : s.nextToken with ⟨e | token, t⟩
    · rw [stream_of_nextToken_error hnext]
      simp
    · obtain ⟨ht, hkind, -⟩ := nextToken_kind hs hnext
      by_cases hend : token.kind = .endOfFile
      · rw [stream_of_nextToken_endOfFile hnext hend]
        simp
      · rw [stream_of_nextToken_ok hnext hend]
        have htag : token.tag ∈ [TokenTag.newLine, .name, .number] := by
          rw [Token.tag]
          cases h : token.kind <;> simp_all [TokenKind.tag]
        exact List.forall_mem_cons.2 ⟨htag, ih _ (hn ▸ nextToken_remaining_lt hnext hend) ht rfl⟩

end Scanner

namespace Parser

/-! ## What a parser looks at -/

/-- A parser whose current token was made by its scanner. -/
structure Sound (p : Parser) : Prop where
  coherent : p.scanner.Coherent
  kind : ∀ text, p.current.kind ≠ .typeName text
  atEnd : p.current.kind = .endOfFile → p.scanner.remaining = []

lemma Sound.exists_leaf {p : Parser} (hp : p.Sound) (hnewLine : p.current.kind ≠ .newLine)
    (hend : p.current.kind ≠ .endOfFile) : ∃ leaf, p.current.leaf? = some leaf := by
  have htype := hp.kind
  rw [Token.leaf?]
  cases hkind : p.current.kind <;> simp_all

/-- The stream that a parser looks at: its current token and what its scanner still has to read. -/
def stream (p : Parser) : TokenStream :=
  if p.current.kind = .endOfFile then ⟨[], .ok p.current⟩ else p.scanner.stream.cons p.current

lemma stream_endOfFile {p : Parser} (h : p.current.kind = .endOfFile) :
    p.stream = ⟨[], .ok p.current⟩ := if_pos h

lemma stream_cons {p : Parser} (h : p.current.kind ≠ .endOfFile) :
    p.stream = p.scanner.stream.cons p.current := if_neg h

/-- A parser on the first token looks at the stream of its scanner. -/
lemma stream_of_nextToken {s t : Scanner} (hs : s.Coherent) {token : Token}
    (h : s.nextToken = (.ok token, t)) (last : Option Token) :
    Sound ⟨t, token, last⟩ ∧ stream ⟨t, token, last⟩ = s.stream := by
  obtain ⟨ht, hkind, hend⟩ := Scanner.nextToken_kind hs h
  refine ⟨⟨ht, hkind, hend⟩, ?_⟩
  by_cases hlast : token.kind = .endOfFile
  · rw [stream_endOfFile hlast, Scanner.stream_of_nextToken_endOfFile h hlast]
  · rw [stream_cons hlast, Scanner.stream_of_nextToken_ok h hlast]

/-- Advancing moves along the stream, or stops at the error that ends it. -/
lemma advance_cases {p : Parser} (hp : p.Sound) (hcurrent : p.current.kind ≠ .endOfFile) :
    (∃ e q, p.advance = (.error (.lexical e), q) ∧ p.stream = ⟨[p.current], .error e⟩) ∨
      ∃ q, p.advance = (.ok (), q) ∧ q.Sound ∧ p.stream = q.stream.cons p.current := by
  rw [stream_cons hcurrent]
  rcases hnext : p.scanner.nextToken with ⟨e | token, t⟩
  · left
    refine ⟨e, { p with scanner := t }, ?_, ?_⟩
    · rw [advance, hnext]
    · rw [Scanner.stream_of_nextToken_error hnext]
      rfl
  · right
    obtain ⟨hsound, hstream⟩ := stream_of_nextToken hp.coherent hnext (some p.current)
    refine ⟨⟨t, token, some p.current⟩, ?_, hsound, ?_⟩
    · rw [advance, hnext]
    · rw [hstream]

/-! ## The parser's functions, one step each -/

lemma leaves_of_newLine {p : Parser} (h : p.current.kind = .newLine) : p.leaves = (.ok [], p) := by
  rw [leaves]
  split <;> simp_all

lemma leaves_of_endOfFile {p : Parser} (h : p.current.kind = .endOfFile) :
    p.leaves = (.ok [], p) := by
  rw [leaves]
  split <;> simp_all

lemma leaves_of_advance_error {p q : Parser} {leaf : Leaf} (hleaf : p.current.leaf? = some leaf)
    {e : ParseError} (h : p.advance = (.error e, q)) : p.leaves = (.error e, q) := by
  rw [Token.leaf?] at hleaf
  rw [leaves]
  split <;> simp_all
  all_goals split <;> simp_all

/-- A word is a leaf before the leaves behind it. -/
lemma leaves_of_advance_ok {p q : Parser} {leaf : Leaf} (hleaf : p.current.leaf? = some leaf)
    (h : p.advance = (.ok (), q)) : p.leaves = ((leaf :: ·) <$> q.leaves.1, q.leaves.2) := by
  rw [Token.leaf?] at hleaf
  rw [leaves]
  split <;> simp_all
  all_goals
    split <;> simp_all
    rcases q.leaves with ⟨_ | rest, r⟩ <;> rfl

lemma parse_of_newLine_error {p q : Parser} (hkind : p.current.kind = .newLine) {e : ParseError}
    (h : p.advance = (.error e, q)) : p.parse = (.error e, q) := by
  rw [parse]
  split <;> simp_all
  split <;> simp_all

lemma parse_of_newLine_ok {p q : Parser} (hkind : p.current.kind = .newLine)
    (h : p.advance = (.ok (), q)) : p.parse = q.parse := by
  rw [parse]
  split <;> simp_all
  split <;> simp_all

lemma parse_of_endOfFile {p q : Parser} (hkind : p.current.kind = .endOfFile)
    (h : p.advance = (.ok (), q)) : p.parse = (.ok [], q) := by
  rw [parse]
  split <;> simp_all

lemma parse_of_line_error {p q : Parser} {text : String} (hkind : p.current.kind = .name text)
    {e : ParseError} (h : p.line = (.error e, q)) : p.parse = (.error e, q) := by
  rw [parse]
  split <;> simp_all
  split <;> simp_all

lemma parse_of_line_ok {p q : Parser} {text : String} (hkind : p.current.kind = .name text)
    {line : Line} (h : p.line = (.ok line, q)) :
    p.parse = ((line :: ·) <$> q.parse.1, q.parse.2) := by
  rw [parse]
  split <;> simp_all
  split <;> simp_all
  rcases q.parse with ⟨_ | rest, r⟩ <;> rfl

lemma parse_of_number {p : Parser} {value : Binary64} (h : p.current.kind = .number value) :
    p.parse = (.error (.structural (.ofToken (.unexpectedToken .name) p.current)), p) := by
  rw [parse]
  split <;> simp_all

/-! ## The parser reads what the stream is read as -/

/-- Reading leaves goes along the stream to the next line end or the end of the text, or to the
error that ends the stream before either. -/
lemma leaves_cases {p : Parser} (hp : p.Sound) :
    (∃ words e q, p.leaves = (.error (.lexical e), q) ∧ p.stream = ⟨words, .error e⟩ ∧
      ∀ token ∈ words, token.tag ≠ .newLine) ∨
    ∃ words q, p.leaves = (.ok (words.filterMap Token.leaf?), q) ∧ q.Sound ∧
      p.stream = ⟨words ++ q.stream.tokens, q.stream.ending⟩ ∧
      (∀ token ∈ words, token.tag ≠ .newLine) ∧
      (q.current.kind = .newLine ∨ q.current.kind = .endOfFile) := by
  induction hn : p.stream.tokens.length using Nat.strong_induction_on generalizing p with
  | _ n ih =>
    by_cases hstop : p.current.kind = .newLine ∨ p.current.kind = .endOfFile
    · right
      refine ⟨[], p, ?_, hp, rfl, by simp, hstop⟩
      rcases hstop with h | h
      · exact leaves_of_newLine h
      · exact leaves_of_endOfFile h
    · -- the current token is a word, hence a leaf
      rw [not_or] at hstop
      obtain ⟨leaf, hleaf⟩ := hp.exists_leaf hstop.1 hstop.2
      have htag : p.current.tag ≠ .newLine := fun h => hstop.1 (Token.tag_eq_newLine.1 h)
      rcases advance_cases hp hstop.2 with ⟨e, q, hadvance, hstream⟩ | ⟨q, hadvance, hq, hstream⟩
      · left
        exact ⟨[p.current], e, q, leaves_of_advance_error hleaf hadvance, hstream,
          by simpa using htag⟩
      · have hlt : q.stream.tokens.length < n := by
          rw [← hn, hstream]
          simp [TokenStream.cons]
        have hleaves := leaves_of_advance_ok hleaf hadvance
        rcases ih _ hlt hq rfl with
          ⟨words, e, r, hr, hlater, hwords⟩ | ⟨words, r, hr, hsound, hlater, hwords, hend⟩
        · left
          refine ⟨p.current :: words, e, r, ?_, ?_, List.forall_mem_cons.2 ⟨htag, hwords⟩⟩
          · rw [hleaves, hr]
            rfl
          · rw [hstream, hlater]
            rfl
        · right
          refine ⟨p.current :: words, r, ?_, hsound, ?_, List.forall_mem_cons.2 ⟨htag, hwords⟩, hend⟩
          · rw [hleaves, hr, List.filterMap_cons, hleaf]
            rfl
          · rw [hstream, hlater]
            rfl

/-- The words before a line end or the end of the text begin with the current token, if that is
neither. -/
lemma exists_head_of_stream {p q : Parser} {words : List Token} (hp : p.current.kind ≠ .newLine)
    (hp' : p.current.kind ≠ .endOfFile)
    (hstream : p.stream = ⟨words ++ q.stream.tokens, q.stream.ending⟩)
    (hq : q.current.kind = .newLine ∨ q.current.kind = .endOfFile) :
    ∃ more, words = p.current :: more := by
  have htokens : p.current :: p.scanner.stream.tokens = words ++ q.stream.tokens := by
    rw [stream_cons hp'] at hstream
    exact congrArg TokenStream.tokens hstream
  rcases words with _ | ⟨head, more⟩
  · exfalso
    rcases hq with hq | hq
    · rw [stream_cons (by simp [hq])] at htokens
      have hcurrent : p.current = q.current := (List.cons.inj htokens).1
      exact hp (hcurrent ▸ hq)
    · rw [stream_endOfFile hq] at htokens
      cases htokens
  · exact ⟨more, by rw [(List.cons.inj htokens).1]⟩

/-- A line that begins with a name is refused as its stream is, or it is the first line of the
stream and the parser goes on behind it. -/
lemma line_cases {p : Parser} (hp : p.Sound) {text : String} (hname : p.current.kind = .name text) :
    (∃ e q, p.line = (.error e, q) ∧ p.stream.reading = .error e) ∨
    ∃ line q, p.line = (.ok line, q) ∧ q.Sound ∧
      q.stream.tokens.length < p.stream.tokens.length ∧
      p.stream.reading = (line :: ·) <$> q.stream.reading := by
  have htag : p.current.tag = .name := by rw [Token.tag, hname, TokenKind.tag]
  have hend : p.current.kind ≠ .endOfFile := by simp [hname]
  rcases leaves_cases hp with
    ⟨words, e, q, hleaves, hstream, hwords⟩ | ⟨words, q, hleaves, hq, hstream, hwords, hstop⟩
  · -- a lexical error within the line
    left
    refine ⟨.lexical e, q, by rw [line, hleaves], ?_⟩
    obtain ⟨more, rfl⟩ : ∃ more, words = p.current :: more := by
      rw [stream_cons hend] at hstream
      exact ⟨_, (congrArg TokenStream.tokens hstream).symm⟩
    rw [hstream, TokenStream.reading_open _ htag (List.forall_mem_cons.1 hwords).2]
  · obtain ⟨more, rfl⟩ := exists_head_of_stream (by simp [hname]) hend hstream hstop
    have hmore := (List.forall_mem_cons.1 hwords).2
    rcases hstop with hnewLine | heof
    · have hnewLineTag := Token.tag_eq_newLine.2 hnewLine
      rcases advance_cases hq (by simp [hnewLine]) with
        ⟨e, r, hadvance, hlast⟩ | ⟨r, hadvance, hr, hlater⟩
      · -- a lexical error behind the line
        left
        refine ⟨.lexical e, r, by simp [line, hleaves, hnewLine, hadvance], ?_⟩
        rw [hstream, hlast, TokenStream.reading_line _ _ htag hmore hnewLineTag]
        rfl
      · right
        refine ⟨⟨(p.current :: more).filterMap Token.leaf?⟩, r,
          by simp [line, hleaves, hnewLine, hadvance], hr, ?_, ?_⟩
        · rw [hstream, hlater]
          simp only [TokenStream.cons, List.length_append, List.length_cons]
          omega
        · rw [hstream, hlater]
          exact TokenStream.reading_line _ _ htag hmore hnewLineTag
    · -- the text ends within the line
      left
      refine ⟨.structural (.ofToken .missingNewLine q.current), q, by simp [line, hleaves, heof], ?_⟩
      rw [hstream, stream_endOfFile heof, List.append_nil, TokenStream.reading_open _ htag hmore]

/-- **The parser agrees with the reading of its stream.** -/
theorem parse_eq {p : Parser} (hp : p.Sound) : p.parse.1 = p.stream.reading := by
  induction hn : p.stream.tokens.length using Nat.strong_induction_on generalizing p with
  | _ n ih =>
    cases hkind : p.current.kind with
    | newLine =>
      have htag := Token.tag_eq_newLine.2 hkind
      rcases advance_cases hp (by simp [hkind]) with
        ⟨e, q, hadvance, hstream⟩ | ⟨q, hadvance, hq, hstream⟩
      · rw [parse_of_newLine_error hkind hadvance, hstream, TokenStream.reading_blank _ _ htag]
        rfl
      · have hlt : q.stream.tokens.length < n := by
          rw [← hn, hstream]
          simp [TokenStream.cons]
        rw [parse_of_newLine_ok hkind hadvance, ih _ hlt hq rfl, hstream]
        exact (TokenStream.reading_blank _ _ htag).symm
    | name text =>
      rcases line_cases hp hkind with ⟨e, q, hline, hreading⟩ | ⟨line, q, hline, hq, hlt, hreading⟩
      · rw [parse_of_line_error hkind hline, hreading]
      · rw [parse_of_line_ok hkind hline, hreading, ih _ (hn ▸ hlt) hq rfl]
    | number value =>
      have htag : p.current.tag = .number := by rw [Token.tag, hkind, TokenKind.tag]
      rw [parse_of_number hkind, stream_cons (by simp [hkind])]
      exact (TokenStream.reading_misplaced _ _ htag).symm
    | typeName text => exact absurd hkind (hp.kind text)
    | endOfFile =>
      -- the end of the text is advanced over, which cannot fail
      have hnext : p.scanner.nextToken = p.scanner.make .endOfFile p.scanner.position 0 := by
        rw [Scanner.nextToken_eq hp.coherent, hp.atEnd hkind]
        rfl
      have hadvance : ∃ q, p.advance = (.ok (), q) := by
        rw [advance, hnext]
        exact ⟨_, rfl⟩
      obtain ⟨q, hadvance⟩ := hadvance
      rw [parse_of_endOfFile hkind hadvance, stream_endOfFile hkind]
      rfl

end Parser

/-- What the lexer finds in a text: its tokens up to the end of the text or up to the first error.
-/
def streamOf (source : String) (settings : Settings) : TokenStream :=
  (Scanner.ofText source.toList settings.origin).stream

lemma tokensOf_eq_listing (source : String) (settings : Settings) :
    tokensOf source settings = (streamOf source settings).listing.mapError .lexical := by
  rw [tokensOf, tokenize_eq_listing, streamOf]

/-- Reading a text is reading its stream. -/
lemma treeOf_eq_mapError_reading (source : String) (settings : Settings) :
    treeOf source settings = (streamOf source settings).reading.mapError .ofParseError := by
  have hs := Scanner.coherent_ofText source.toList settings.origin
  rw [treeOf, parseText, Parser.start, streamOf]
  rcases hnext : (Scanner.ofText source.toList settings.origin).nextToken with ⟨e | token, t⟩
  · rw [Scanner.stream_of_nextToken_error hnext]
    rfl
  · obtain ⟨hsound, hstream⟩ := Parser.stream_of_nextToken hs hnext none
    rw [← hstream, ← Parser.parse_eq hsound]

lemma treeOf_eq_ok_iff {source : String} {settings : Settings} {tree : Tree} :
    treeOf source settings = .ok tree ↔ (streamOf source settings).reading = .ok tree := by
  rw [treeOf_eq_mapError_reading]
  cases (streamOf source settings).reading <;> simp [Except.mapError]

/-- **What the lines of a text are.**  Reading them gives the reading of the stream of the text,
which names the first offence if there is one.  There is none if the text has no lexical error,
each of its lines begins with a name and its last token is a line end; the leaves of the tree are
then the names and the numbers of the text, in order. -/
theorem treeOf_eq_reading (source : String) (settings : Settings) :
    tokensOf source settings = (streamOf source settings).listing.mapError .lexical ∧
    (treeOf source settings =
      match (streamOf source settings).reading with
      | .ok tree => .ok tree
      | .error (.lexical e) => .error (.lexical e)
      | .error (.structural e) => .error (.structural e)) ∧
    ((∃ tree, treeOf source settings = .ok tree) ↔
      (∃ last, (streamOf source settings).ending = .ok last) ∧
      (∀ line ∈ (streamOf source settings).lines, ∃ head ∈ line.head?, head.tag = .name) ∧
      (streamOf source settings).isClosed) ∧
    ∀ tree, treeOf source settings = .ok tree →
      tree.flatMap Line.leaves = (streamOf source settings).tokens.filterMap Token.leaf? := by
  have hs := Scanner.coherent_ofText source.toList settings.origin
  refine ⟨tokensOf_eq_listing _ _, ?_, ?_, ?_⟩
  · rw [treeOf_eq_mapError_reading]
    rcases (streamOf source settings).reading with (e | e) | tree <;> rfl
  · simp only [treeOf_eq_ok_iff]
    exact TokenStream.exists_reading_eq_ok (Scanner.stream_tags hs)
  · intro tree htree
    rw [TokenStream.eq_tree_of_reading (treeOf_eq_ok_iff.1 htree)]
    exact TokenStream.leaves_tree _

end Kaomoji
