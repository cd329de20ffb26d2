import Kaomoji.Proofs.LongestMatch

/-!
# Token streams

A run over the tokens of a text ends at the end-of-file token or at a lexical error.  A
`TokenStream` keeps both what came before that end and the end itself, while the list that
`tokenize` returns loses the tokens before an error.

There are two ways to the stream of a text.  `Scanner.stream` asks a scanner again and again;
`TokenStream.ofText` has no scanner, no cursor and no held character: it cuts the text into longest
matches from left to right and carries along only the text before, from which it reads places off,
and whether the token before was a line end.  That they agree, `Scanner.streamsText`, is the
correctness of the scanner; `tokenize_eq_longestMatch` says the same of the list of all tokens.
-/

namespace Kaomoji

/-- The tokens of a text before its end, and what ends it: the end-of-file token, or an error. -/
structure TokenStream where
  tokens : List Token
  ending : Except LexicalError Token

namespace TokenStream

/-- The stream with one more token in front. -/
def cons (token : Token) (stream : TokenStream) : TokenStream :=
  { stream with tokens := token :: stream.tokens }

/-- All tokens of a stream through the end-of-file token, or the error that ends it. -/
def listing (stream : TokenStream) : Except LexicalError (List Token) :=
  (fun last => stream.tokens ++ [last]) <$> stream.ending

lemma listing_cons (token : Token) (stream : TokenStream) :
    (stream.cons token).listing = (token :: ·) <$> stream.listing := by
  rcases h : stream.ending with e | last <;> simp [listing, cons, h]

/-! ## The stream of a text -/

lemma drop_extent_lt {rest : List Char} {lexeme : Lexeme} (h : longestLexeme rest = lexeme)
    (hlexeme : lexeme ≠ .textEnd) : (rest.drop lexeme.extent.length).length < rest.length := by
  have hne : rest ≠ [] := by
    rintro rfl
    exact hlexeme h.symm
  have hpos := List.length_pos_of_ne_nil (longestLexeme_extent_ne_nil hne)
  have hrest := List.length_pos_of_ne_nil hne
  rw [h] at hpos
  rw [List.length_drop]
  omega

/-- **The stream of a text by longest matches**: `rest` is what is still to be cut, `before` the
text before it, and `afterLineEnd` says whether the token before was a line end. -/
def ofText (origin : Origin) (afterLineEnd : Bool) (before rest : List Char) : TokenStream :=
  match _hlexeme : longestLexeme rest with
  | .textEnd => ⟨[], .ok ⟨.endOfFile, .behind before, 0, origin⟩⟩
  | .blank c =>
    ofText origin afterLineEnd (before ++ [c]) (rest.drop 1)
  | .lineEnd =>
    let later := ofText origin true (before ++ ['\n']) (rest.drop 1)
    if afterLineEnd then later else later.cons ⟨.newLine, .behind before, 1, origin⟩
  | .name text =>
    (ofText origin false (before ++ text) (rest.drop text.length)).cons
      ⟨.name (String.ofList text), .behind before, text.length, origin⟩
  | .number text =>
    (ofText origin false (before ++ text) (rest.drop text.length)).cons
      ⟨.number (numeralValue (withoutSeparators text)), .behind before, text.length, origin⟩
  | .faulty read fault => ⟨[], .error ⟨fault, .behind (before ++ read), origin⟩⟩
termination_by rest.length
decreasing_by all_goals exact drop_extent_lt _hlexeme (by simp)

end TokenStream

namespace Scanner

lemma nextToken_remaining_lt {s t : Scanner} {token : Token} (h : s.nextToken = (.ok token, t))
    (hend : token.kind ≠ .endOfFile) : t.remaining.length < s.remaining.length := by
  rcases s.nextToken_progress with hlt | ⟨-, hmake⟩
  · rwa [h] at hlt
  · rw [h] at hmake
    cases hmake
    exact absurd rfl hend

/-- The stream of what a scanner still has to read. -/
def stream (s : Scanner) : TokenStream :=
  match h : s.nextToken with
  | (.error e, _) => ⟨[], .error e⟩
  | (.ok token, s') =>
    if hend : token.kind = .endOfFile then ⟨[], .ok token⟩
    else
      have := nextToken_remaining_lt h hend
      s'.stream.cons token
termination_by s.remaining.length

lemma stream_of_nextToken_error {s s' : Scanner} {e : LexicalError}
    (h : s.nextToken = (.error e, s')) : s.stream = ⟨[], .error e⟩ := by
  rw [stream]
  split <;> simp_all

lemma stream_of_nextToken_endOfFile {s s' : Scanner} {token : Token}
    (h : s.nextToken = (.ok token, s')) (hend : token.kind = .endOfFile) :
    s.stream = ⟨[], .ok token⟩ := by
  rw [stream]
  split <;> simp_all

lemma stream_of_nextToken_ok {s s' : Scanner} {token : Token} (h : s.nextToken = (.ok token, s'))
    (hend : token.kind ≠ .endOfFile) : s.stream = s'.stream.cons token := by
  rw [stream]
  split <;> simp_all

lemma stream_congr {s t : Scanner} (h : s.nextToken = t.nextToken) : s.stream = t.stream := by
  rcases ht : t.nextToken with ⟨e | token, t'⟩
  · rw [stream_of_nextToken_error (h.trans ht), stream_of_nextToken_error ht]
  · by_cases hend : token.kind = .endOfFile
    · rw [stream_of_nextToken_endOfFile (h.trans ht) hend, stream_of_nextToken_endOfFile ht hend]
    · rw [stream_of_nextToken_ok (h.trans ht) hend, stream_of_nextToken_ok ht hend]

/-! ## The two streams agree -/

/-- The stream of the scanner is that of the text it has still to read. -/
def StreamsText (s : Scanner) : Prop :=
  ∀ before, s.position = .behind before →
    s.stream = .ofText s.origin (s.lastIs .newLine) before s.remaining

/-- A skipped character moves the place and nothing else. -/
lemma stream_skip {s : Scanner} {before : List Char} {c : Char}
    (hbefore : s.position = .behind before) (hc : [c] <+: s.remaining)
    (hnext : s.nextToken = (s.past [c]).nextToken) (hlater : (s.past [c]).StreamsText) :
    s.stream = .ofText s.origin (s.lastIs .newLine) (before ++ [c]) (s.remaining.drop 1) := by
  have hpast := reads_past hc
  have hrest : (s.past [c]).remaining = s.remaining.drop 1 := by
    rw [hpast.remaining]
    rfl
  have hplace : (s.past [c]).position = .behind (before ++ [c]) := by
    rw [hpast.position, hbefore, Position.behind_append]
  rw [stream_congr hnext, hlater _ hplace, hrest]
  rfl

/-- A token heads the stream, and the rest of the stream is that of the text behind it. -/
lemma stream_make {s t : Scanner} {taken before : List Char} {kind : TokenKind} {span : Nat}
    (hbefore : s.position = .behind before) (ht : s.Reads taken t)
    (hnext : s.nextToken = t.make kind s.position span) (hkind : kind ≠ .endOfFile)
    (hlater : (t.make kind s.position span).2.StreamsText) :
    s.stream =
      (TokenStream.ofText s.origin (kind.tag = .newLine) (before ++ taken)
        (s.remaining.drop taken.length)).cons ⟨kind, .behind before, span, s.origin⟩ := by
  have hmake := ht.make kind s.position span
  have hrest : (t.make kind s.position span).2.remaining = s.remaining.drop taken.length := by
    rw [hmake.remaining, List.drop_left]
  have hplace : (t.make kind s.position span).2.position = .behind (before ++ taken) := by
    rw [hmake.position, hbefore, Position.behind_append]
  have hlast : (t.make kind s.position span).2.lastIs .newLine = decide (kind.tag = .newLine) := rfl
  have hpair : s.nextToken =
      (.ok ⟨kind, s.position, span, t.origin⟩, (t.make kind s.position span).2) := hnext
  rw [stream_of_nextToken_ok hpair hkind, hlater _ hplace, hrest, hmake.origin, hlast, ht.origin,
    hbefore]

/-- **The scanner cuts its text into longest matches.** -/
theorem streamsText {s : Scanner} (hs : s.Coherent) : s.StreamsText := by
  induction hn : s.remaining.length using Nat.strong_induction_on generalizing s with
  | _ n ih =>
    have hlater : ∀ {taken t}, s.Reads taken t → taken ≠ [] → t.StreamsText := by
      intro taken t ht htaken
      refine ih _ ?_ ht.coherent rfl
      have hpos := List.length_pos_of_ne_nil htaken
      rw [← hn, ht.remaining, List.length_append]
      omega
    intro before hbefore
    have hnext := nextToken_eq hs
    have hprefix := longestLexeme_extent_prefix s.remaining
    have hne : ∀ {lexeme}, longestLexeme s.remaining = lexeme → lexeme ≠ .textEnd →
        lexeme.extent ≠ [] := by
      rintro _ rfl hend
      apply longestLexeme_extent_ne_nil
      intro hnil
      rw [hnil] at hend
      exact hend rfl
    rw [TokenStream.ofText]
    split <;> rename_i hlexeme <;> rw [hlexeme] at hnext hprefix
    · -- the end of the text
      rw [stream_of_nextToken_endOfFile hnext rfl, hbefore]
    · -- a blank
      exact stream_skip hbefore hprefix hnext (hlater (reads_past hprefix) (hne hlexeme (by simp)))
    · -- a line end
      by_cases hlast : s.lastIs .newLine
      · rw [respond, if_pos hlast] at hnext
        rw [stream_skip hbefore hprefix hnext (hlater (reads_past hprefix) (hne hlexeme (by simp))),
          hlast]
        rfl
      · rw [respond, if_neg hlast] at hnext
        have hpast := reads_past hprefix
        rw [stream_make hbefore hpast hnext (by simp)
          (hlater (hpast.make _ _ _) (hne hlexeme (by simp)))]
        simp [hlast, TokenKind.tag, Lexeme.extent]
    · -- a name
      have hpast := reads_past_peeked hprefix
      rw [stream_make hbefore hpast hnext (by simp)
        (hlater (hpast.make _ _ _) (hne hlexeme (by simp)))]
      rfl
    · -- a number
      have hpast := reads_past_peeked hprefix
      rw [stream_make hbefore hpast hnext (by simp)
        (hlater (hpast.make _ _ _) (hne hlexeme (by simp)))]
      rfl
    · -- a fault
      rw [stream_of_nextToken_error hnext, hbefore, ← Position.behind_append]
      rfl

/-- A scanner that has a whole text before it finds its longest matches. -/
lemma stream_ofText (text : List Char) (origin : Origin) :
    (Scanner.ofText text origin).stream = .ofText origin false [] text :=
  streamsText (coherent_ofText text origin) [] rfl

/-! ## The list of all tokens -/

/-- A run that has not ended yields what the scanner yields, and ends with the text or an error. -/
lemma next?_of_not_finished {s : Scanner} (h : s.finished = false) :
    s.next? = (some s.nextToken.1,
      { s.nextToken.2 with
        finished := match s.nextToken.1 with
          | .ok token => decide (token.tag = .endOfFile)
          | .error _ => true }) := by
  rw [next?]
  exact if_neg (by simp [h])

lemma tokens_of_finished {s : Scanner} (h : s.finished = true) : s.tokens = .ok [] := by
  have hnext : s.next? = (none, s) := by rw [next?, if_pos h]
  rw [tokens]
  split <;> simp_all

lemma tokens_of_next?_error {s s' : Scanner} {e : LexicalError}
    (h : s.next? = (some (.error e), s')) : s.tokens = .error e := by
  rw [tokens]
  split <;> simp_all

lemma tokens_of_next?_ok {s s' : Scanner} {token : Token} (h : s.next? = (some (.ok token), s')) :
    s.tokens = (token :: ·) <$> s'.tokens := by
  rw [tokens]
  split <;> simp_all

theorem tokens_eq_listing {s : Scanner} (hs : s.Coherent) (hfinished : s.finished = false) :
    s.tokens = s.stream.listing := by
  induction hn : s.remaining.length using Nat.strong_induction_on generalizing s with
  | _ n ih =>
    have hstep := next?_of_not_finished hfinished
    obtain ⟨taken, hreads⟩ := exists_reads_nextToken hs
    rcases hnext : s.nextToken with ⟨e | token, t⟩
    · rw [hnext] at hstep
      rw [tokens_of_next?_error hstep, stream_of_nextToken_error hnext]
      rfl
    · rw [hnext] at hstep hreads
      rw [tokens_of_next?_ok hstep]
      by_cases hend : token.kind = .endOfFile
      · rw [stream_of_nextToken_endOfFile hnext hend, tokens_of_finished]
        · rfl
        · simp [Token.tag, hend, TokenKind.tag]
      · have hgo : token.tag ≠ .endOfFile := by
          rw [Token.tag]
          cases hkind : token.kind <;> simp_all [TokenKind.tag]
        have hsame : ({ t with finished := decide (token.tag = .endOfFile) } : Scanner) = t := by
          have hopen : t.finished = false := hreads.finished.trans hfinished
          rw [decide_eq_false hgo, ← hopen]
        have hlt : t.remaining.length < n := hn ▸ nextToken_remaining_lt hnext hend
        rw [stream_of_nextToken_ok hnext hend, TokenStream.listing_cons]
        dsimp only
        rw [hsame, ih _ hlt hreads.coherent (hreads.finished.trans hfinished) rfl]

end Scanner

lemma tokenize_eq_listing (text : String) (origin : Origin) :
    tokenize text origin = (Scanner.ofText text.toList origin).stream.listing := by
  rw [tokenize, Scanner.tokens_eq_listing (Scanner.coherent_ofText text.toList origin) rfl]

/-- **Correctness of the scanner.**  The tokens of a text are its longest matches from left to
right, each with its place, its span and what it carries, or else the error at the first fault. -/
theorem tokenize_eq_longestMatch (text : String) (origin : Origin) :
    tokenize text origin = (TokenStream.ofText origin false [] text.toList).listing := by
  rw [tokenize_eq_listing, Scanner.stream_ofText]

end Kaomoji
