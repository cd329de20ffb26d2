import Kaomoji.Proofs.LineReading
import Kaomoji.Proofs.ShownLines

/-!
# Where tokens and errors stand

The stream of a text was made from the text, so whatever it holds can be found there again: a name
or a number is a word that begins at its position and spans its characters, an error of the lexer
stands at a place that a reader is shown, and the end of the text is behind all of it.  All this is
said of `TokenStream.ofText`, which carries the text before along, by an induction along that
function.

The end of the text needs more care, since there is no line behind a final newline.  A parser only
complains about it when the last token is no line end, and then the text does not end in a newline
either: `openLine_ne_nil_of_isClosed_eq_false`.
-/

namespace Kaomoji

/-! ## The characters of lexemes -/

/-- What is known of the characters of a lexeme at the head of a text: words hold no line ends, and
a fault is found at a character that is no newline, or behind a point. -/
def Lexeme.Unbroken (rest : List Char) : Lexeme → Prop
  | textEnd | lineEnd => True
  | blank c => Text.IsWord [c]
  | name text | number text => Text.IsWord text
  | faulty read _ =>
    (read = [] ∧ ∃ c more, rest = c :: more ∧ c ≠ '\n') ∨ ∃ whole, read = whole ++ ['.']

/-- Characters are a word if none of them can be part of a line end. -/
lemma isWord_of_forall {p : Char → Bool} (hnewline : p '\n' = false) (hreturn : p '\r' = false)
    {word : List Char} (hne : word ≠ []) (hword : ∀ c ∈ word, p c) : Text.IsWord word := by
  refine ⟨hne, fun c hc => ⟨?_, ?_⟩⟩
  · rintro rfl
    exact absurd (hword _ hc) (by simp [hnewline])
  · rintro rfl
    exact absurd (hword _ hc) (by simp [hreturn])

lemma unbroken_numberLexeme {whole : List Char} (hne : whole ≠ [])
    (hwhole : ∀ c ∈ whole, isDigitOrSeparator c) (behind rest : List Char) :
    (numberLexeme whole behind).Unbroken rest := by
  unfold numberLexeme
  split
  · exact Or.inr ⟨whole, rfl⟩
  · split
    · -- a point with digits on both sides
      refine isWord_of_forall (p := fun c => isDigitOrSeparator c || c = '.') (by decide)
        (by decide) (by simp) fun c hc => ?_
      rcases List.mem_append.1 hc with hc | hc
      · simp [hwhole c hc]
      · rcases List.mem_cons.1 hc with rfl | hc
        · decide
        · simp [List.mem_takeWhile_imp hc]
    · exact Or.inr ⟨whole, rfl⟩
  · exact isWord_of_forall (by decide) (by decide) hne hwhole

lemma unbroken_longestLexeme (rest : List Char) : (longestLexeme rest).Unbroken rest := by
  rcases rest with _ | ⟨c, rest⟩
  · trivial
  · rw [longestLexeme]
    split_ifs with hnewline hblank hname hdigit
    · trivial
    · exact isWord_of_forall (p := isBlank) (by decide) (by decide) (by simp) (by simpa using hblank)
    · refine isWord_of_forall (p := isNameContinue) (by decide) (by decide) (by simp) fun d hd => ?_
      rcases List.mem_cons.1 hd with rfl | hd
      · simp [isNameContinue, hname]
      · exact List.mem_takeWhile_imp hd
    · exact unbroken_numberLexeme (by simp)
        (isDigitOrSeparator_of_mem_cons hdigit fun _ => List.mem_takeWhile_imp) _ _
    · exact Or.inl ⟨rfl, c, rest, rfl, hnewline⟩

lemma Lexeme.unbroken_of_eq {rest : List Char} {lexeme : Lexeme} (h : longestLexeme rest = lexeme) :
    lexeme.Unbroken rest := h ▸ unbroken_longestLexeme rest

lemma visible_of_faulty {rest read : List Char} {fault : LexicalFault}
    (h : longestLexeme rest = .faulty read fault) (before : List Char) :
    Text.Visible (before ++ read) (rest.drop read.length) := by
  rcases Lexeme.unbroken_of_eq h with ⟨rfl, c, more, rfl, hc⟩ | ⟨whole, rfl⟩
  · exact Text.visible_cons _ hc more
  · refine ⟨fun _ => ?_, fun _ => ?_⟩
    · rw [← List.append_assoc, Text.openLine_concat _ (by decide)]
      simp
    · rw [← List.append_assoc, List.getLast?_concat]
      decide

/-- Cutting a lexeme off moves it from the rest to the text before. -/
lemma append_extent_drop {rest : List Char} {lexeme : Lexeme} (h : longestLexeme rest = lexeme)
    (before : List Char) :
    before ++ lexeme.extent ++ rest.drop lexeme.extent.length = before ++ rest := by
  obtain ⟨more, hmore⟩ := h ▸ longestLexeme_extent_prefix rest
  rw [← hmore, List.drop_left, List.append_assoc]

/-! ## Places in a text -/

/-- The word begins at the position in the text. -/
structure Text.WordAt (source : List Char) (position : Position) (word : List Char) : Prop where
  isWord : IsWord word
  split : ∃ before after, source = before ++ (word ++ after) ∧ position = .behind before

/-- The token is a word of the text, and a name carries that word. -/
def Token.StandsIn (source : List Char) (token : Token) : Prop :=
  ∃ word, Text.WordAt source token.position word ∧ token.span = word.length ∧
    ∀ text, token.kind = .name text → text.toList = word

/-- The leaf is a word of the text, and a name is that word. -/
def Leaf.StandsIn (source : List Char) (leaf : Leaf) : Prop :=
  ∃ word, Text.WordAt source leaf.position word ∧
    ∀ id, leaf = .identifier id → id.name.toList = word

lemma Token.StandsIn.leaf {source : List Char} {token : Token} (h : token.StandsIn source)
    {leaf : Leaf} (hleaf : token.leaf? = some leaf) : leaf.StandsIn source := by
  obtain ⟨word, hword, -, hname⟩ := h
  rw [Token.leaf?] at hleaf
  split at hleaf
  · rename_i text hkind
    cases hleaf
    refine ⟨word, hword, ?_⟩
    rintro _ ⟨⟩
    exact hname text hkind
  · cases hleaf
    exact ⟨word, hword, by simp⟩
  all_goals cases hleaf

/-- The position is one of the text that a reader is shown. -/
def Position.IsVisibleIn (source : List Char) (position : Position) : Prop :=
  ∃ before rest, source = before ++ rest ∧ position = .behind before ∧ Text.Visible before rest

namespace TokenStream

/-- What the stream holds stands in the text. -/
structure StandsIn (source : List Char) (stream : TokenStream) : Prop where
  words : ∀ token ∈ stream.tokens, token.tag ≠ .newLine → token.StandsIn source
  error : ∀ e, stream.ending = .error e → e.position.IsVisibleIn source
  last : ∀ last, stream.ending = .ok last → last.position = .behind source ∧ last.span = 0

lemma StandsIn.cons {source : List Char} {stream : TokenStream} (h : stream.StandsIn source)
    {token : Token} (htoken : token.tag ≠ .newLine → token.StandsIn source) :
    (stream.cons token).StandsIn source :=
  ⟨List.forall_mem_cons.2 ⟨htoken, h.words⟩, h.error, h.last⟩

lemma token_standsIn {before text rest : List Char} (hword : Text.IsWord text) (kind : TokenKind)
    (origin : Origin) (hname : ∀ name, kind = .name name → name.toList = text) :
    Token.StandsIn (before ++ text ++ rest) ⟨kind, .behind before, text.length, origin⟩ :=
  ⟨text, ⟨hword, before, rest, List.append_assoc _ _ _, rfl⟩, rfl, hname⟩

/-- **What the stream of a text holds stands in the text.** -/
lemma standsIn_ofText (origin : Origin) (afterLineEnd : Bool) (before rest : List Char) :
    (ofText origin afterLineEnd before rest).StandsIn (before ++ rest) := by
  fun_induction ofText origin afterLineEnd before rest with
  | case1 afterLineEnd before rest hend =>
    -- the end of the text
    rw [eq_nil_of_textEnd hend, List.append_nil]
    exact ⟨by simp, by simp, by rintro _ ⟨⟩; exact ⟨rfl, rfl⟩⟩
  | case2 afterLineEnd before rest c hblank ih =>
    have hsplit : before ++ [c] ++ rest.drop 1 = before ++ rest := append_extent_drop hblank before
    rwa [hsplit] at ih
  | case3 before rest hlineEnd later ih =>
    have hsplit : before ++ ['\n'] ++ rest.drop 1 = before ++ rest :=
      append_extent_drop hlineEnd before
    rwa [hsplit] at ih
  | case4 afterLineEnd before rest hlineEnd later _ ih =>
    have hsplit : before ++ ['\n'] ++ rest.drop 1 = before ++ rest :=
      append_extent_drop hlineEnd before
    rw [hsplit] at ih
    exact ih.cons fun hnewLine => absurd rfl hnewLine
  | case5 afterLineEnd before rest text hname ih =>
    have hsplit : before ++ text ++ rest.drop text.length = before ++ rest :=
      append_extent_drop hname before
    rw [← hsplit]
    refine ih.cons fun _ => token_standsIn (Lexeme.unbroken_of_eq hname) _ _ ?_
    rintro _ ⟨⟩
    exact String.toList_ofList
  | case6 afterLineEnd before rest text hnumber ih =>
    have hsplit : before ++ text ++ rest.drop text.length = before ++ rest :=
      append_extent_drop hnumber before
    rw [← hsplit]
    exact ih.cons fun _ => token_standsIn (Lexeme.unbroken_of_eq hnumber) _ _ (by simp)
  | case7 afterLineEnd before rest read fault hfaulty =>
    refine ⟨by simp, ?_, by simp⟩
    rintro _ ⟨⟩
    have hread : read <+: rest := by
      have hextent := longestLexeme_extent_prefix rest
      rw [hfaulty] at hextent
      exact (List.prefix_append _ _).trans hextent
    have hsplit : before ++ rest = before ++ read ++ rest.drop read.length := by
      obtain ⟨more, rfl⟩ := hread
      rw [List.drop_left, List.append_assoc]
    exact ⟨_, _, hsplit, rfl, visible_of_faulty hfaulty before⟩

/-! ## The last line -/

/-- The tokens behind the first leave a line open if all of them do. -/
lemma tag_getLast?_of_cons {token : Token} {stream : TokenStream}
    (h : ∀ last ∈ (stream.cons token).tokens.getLast?, last.tag ≠ .newLine) :
    ∀ last ∈ stream.tokens.getLast?, last.tag ≠ .newLine := by
  intro last hlast
  apply h
  rw [Option.mem_def] at hlast
  simp [cons, List.getLast?_cons, hlast]

lemma openLine_append_ne_nil {word : List Char} (hword : Text.IsWord word) (before : List Char) :
    Text.openLine (before ++ word) ≠ [] := by
  rw [Text.openLine_append _ hword.newline_notMem]
  exact List.append_ne_nil_of_right_ne_nil _ hword.ne_nil

/-- If the tokens of a text do not end in a line end, the text does not end in a newline.  Where no
token is left to come this has to be known of the text before. -/
lemma openLine_ne_nil_of_ofText (origin : Origin) (afterLineEnd : Bool) (before rest : List Char) :
    (∃ last, (ofText origin afterLineEnd before rest).ending = .ok last) →
    (∀ last ∈ (ofText origin afterLineEnd before rest).tokens.getLast?, last.tag ≠ .newLine) →
    ((ofText origin afterLineEnd before rest).tokens = [] →
      afterLineEnd = false ∧ Text.openLine before ≠ []) →
    Text.openLine (before ++ rest) ≠ [] := by
  fun_induction ofText origin afterLineEnd before rest with
  | case1 afterLineEnd before rest hend =>
    intro _ _ hopen
    rw [eq_nil_of_textEnd hend, List.append_nil]
    exact (hopen rfl).2
  | case2 afterLineEnd before rest c hblank ih =>
    have hsplit : before ++ [c] ++ rest.drop 1 = before ++ rest := append_extent_drop hblank before
    rw [hsplit] at ih
    intro hending hlast hopen
    exact ih hending hlast
      fun hnil => ⟨(hopen hnil).1, openLine_append_ne_nil (Lexeme.unbroken_of_eq hblank) before⟩
  | case3 before rest hlineEnd later ih =>
    have hsplit : before ++ ['\n'] ++ rest.drop 1 = before ++ rest :=
      append_extent_drop hlineEnd before
    rw [hsplit] at ih
    intro hending hlast hopen
    exact ih hending hlast fun hnil => absurd (hopen hnil).1 (by decide)
  | case4 afterLineEnd before rest hlineEnd later _ ih =>
    have hsplit : before ++ ['\n'] ++ rest.drop 1 = before ++ rest :=
      append_extent_drop hlineEnd before
    rw [hsplit] at ih
    intro hending hlast _
    refine ih hending (tag_getLast?_of_cons hlast) fun hnil => ?_
    have hnewLine := hlast ⟨.newLine, .behind before, 1, origin⟩ (by rw [cons, hnil]; rfl)
    exact absurd rfl hnewLine
  | case5 afterLineEnd before rest text hname ih =>
    have hsplit : before ++ text ++ rest.drop text.length = before ++ rest :=
      append_extent_drop hname before
    rw [hsplit] at ih
    intro hending hlast _
    exact ih hending (tag_getLast?_of_cons hlast)
      fun _ => ⟨rfl, openLine_append_ne_nil (Lexeme.unbroken_of_eq hname) before⟩
  | case6 afterLineEnd before rest text hnumber ih =>
    have hsplit : before ++ text ++ rest.drop text.length = before ++ rest :=
      append_extent_drop hnumber before
    rw [hsplit] at ih
    intro hending hlast _
    exact ih hending (tag_getLast?_of_cons hlast)
      fun _ => ⟨rfl, openLine_append_ne_nil (Lexeme.unbroken_of_eq hnumber) before⟩
  | case7 afterLineEnd before rest read fault hfaulty =>
    rintro ⟨_, ⟨⟩⟩

end TokenStream

/-! ## The stream of a text -/

lemma streamOf_eq_ofText (source : String) (settings : Settings) :
    streamOf source settings = .ofText settings.origin false [] source.toList :=
  Scanner.stream_ofText source.toList settings.origin

lemma standsIn_streamOf (source : String) (settings : Settings) :
    (streamOf source settings).StandsIn source.toList := by
  rw [streamOf_eq_ofText]
  exact TokenStream.standsIn_ofText settings.origin false [] source.toList

section

variable {source : String} {settings : Settings}

/-- Where the last line is not closed, the text does not end in a newline. -/
lemma openLine_ne_nil_of_isClosed_eq_false {last : Token}
    (hending : (streamOf source settings).ending = .ok last)
    (hclosed : (streamOf source settings).isClosed = false) : Text.openLine source.toList ≠ [] := by
  rw [streamOf_eq_ofText] at hending hclosed
  rw [TokenStream.isClosed, Option.all_eq_false] at hclosed
  obtain ⟨token, htoken, htag⟩ := hclosed
  refine TokenStream.openLine_ne_nil_of_ofText settings.origin false [] source.toList
    ⟨last, hending⟩ ?_ ?_
  · intro last hlast
    obtain rfl := Option.mem_unique hlast htoken
    simpa using htag
  · intro hnil
    simp [hnil] at htoken

/-- Each leaf of a tree that was read comes from a token of the text. -/
lemma Leaf.exists_token_of_mem_tree {line : Line} (hline : line ∈ (streamOf source settings).tree)
    {leaf : Leaf} (hleaf : leaf ∈ line.leaves) :
    ∃ token ∈ (TokenStream.ofText settings.origin false [] source.toList).tokens,
      token.leaf? = some leaf := by
  obtain ⟨words, hwords, rfl⟩ := List.mem_map.1 hline
  obtain ⟨token, htoken, hleaf⟩ := List.mem_filterMap.1 hleaf
  obtain ⟨hmem, -⟩ := TokenStream.mem_of_mem_lines hwords htoken
  rw [streamOf_eq_ofText] at hmem
  exact ⟨token, hmem, hleaf⟩

lemma Token.kind_of_leaf?_eq_number {token : Token} {n : NumberLiteral}
    (h : token.leaf? = some (.number n)) :
    token.kind = .number n.value ∧ token.position = n.position := by
  rw [leaf?] at h
  split at h
  · cases h
  · rename_i value hkind
    cases h
    exact ⟨hkind, rfl⟩
  all_goals cases h

/-- The lines of a tree that was read have leaves, and these stand in the text. -/
lemma leaves_standIn {line : Line} (hline : line ∈ (streamOf source settings).tree) :
    line.leaves ≠ [] ∧ ∀ leaf ∈ line.leaves, leaf.StandsIn source.toList := by
  obtain ⟨words, hwords, rfl⟩ := List.mem_map.1 hline
  constructor
  · obtain ⟨head, more, rfl⟩ := List.exists_cons_of_ne_nil (TokenStream.ne_nil_of_mem_lines hwords)
    obtain ⟨hmem, hnewLine⟩ := TokenStream.mem_of_mem_lines hwords List.mem_cons_self
    have htag := Scanner.stream_tags (Scanner.coherent_ofText _ _) head hmem
    obtain ⟨leaf, hleaf⟩ : ∃ leaf, head.leaf? = some leaf := by
      rw [Token.tag] at htag hnewLine
      rw [Token.leaf?]
      cases hkind : head.kind <;> simp_all [TokenKind.tag]
    simp [hleaf]
  · intro leaf hleaf
    obtain ⟨token, htoken, hleaf⟩ := List.mem_filterMap.1 hleaf
    obtain ⟨hmem, hnewLine⟩ := TokenStream.mem_of_mem_lines hwords htoken
    exact ((standsIn_streamOf source settings).words token hmem hnewLine).leaf hleaf

end

end Kaomoji
