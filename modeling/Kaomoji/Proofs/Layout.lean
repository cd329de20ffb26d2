import Kaomoji.Proofs.Seams

/-!
# Layout

Blanks between words and lines without words are there for the reader of a text only.  A blank may
be put wherever it does not cut a token in two, and an empty line wherever a line begins; neither
changes what the text is compiled to (`layout_irrelevant`).

Such an insertion does move what stands behind it, so the two texts do not have the same tokens and
leaves but tokens and leaves that differ in their places.  "But for places" is said with
`relocate (fun _ => .start)`, which gives everything the same place.
-/

namespace Kaomoji

namespace TokenStream

variable {origin : Origin} {front back : List Char}

/-- **A blank at a seam** moves the tokens behind it. -/
lemma forget_ofText_insert_blank
    (hending : ∃ last, (ofText origin false [] (front ++ back)).ending = .ok last)
    (hcut : (ofText origin false [] (front ++ back)).CutAt front.length) {blank : Char}
    (hblank : isBlank blank) :
    (ofText origin false [] (front ++ blank :: back)).relocate (fun _ => .start) =
      (ofText origin false [] (front ++ back)).relocate (fun _ => .start) := by
  have happart : Text.Apart front (blank :: back) := by
    right
    simp [Text.isSeparator, hblank]
  obtain ⟨tokens, atLineEnd, hbehind, -⟩ := exists_cut hending (by simpa using hcut)
  rw [hbehind _ (Or.inr happart), hbehind back (Or.inl rfl), List.nil_append, ofText_blank hblank,
    relocate_prepend, relocate_prepend, forget_ofText front]

/-- A newline at the head of a text begins it with an empty line. -/
lemma reading_forget_newline (origin : Origin) (back : List Char) :
    ((ofText origin false [] ('\n' :: back)).relocate (fun _ => .start)).reading =
      ((ofText origin false [] back).relocate (fun _ => .start)).reading := by
  have hempty : (ofText origin false [] ('\n' :: back)).reading =
      (ofText origin true ['\n'] back).reading := by
    rw [ofText_newline]
    exact reading_prepend_newLine rfl _
  rw [reading_relocate, hempty, ← reading_relocate, forget_ofText [], reading_relocate,
    reading_ofText_congr, ← reading_relocate]

/-- **A newline behind a newline** is passed over. -/
lemma forget_ofText_insert_newline
    (hending : ∃ last, (ofText origin false [] (front ++ '\n' :: back)).ending = .ok last) :
    (ofText origin false [] (front ++ '\n' :: '\n' :: back)).relocate (fun _ => .start) =
      (ofText origin false [] (front ++ '\n' :: back)).relocate (fun _ => .start) := by
  have hassoc (rest : List Char) : front ++ '\n' :: rest = (front ++ ['\n']) ++ rest := by simp
  have happart (rest : List Char) : Text.Apart (front ++ ['\n']) rest := by
    left
    simp [Text.isSeparator]
  have hcut := cutAt_newline origin false [] front back
  rw [hassoc] at hending hcut
  obtain ⟨tokens, atLineEnd, hbehind, hflag⟩ := exists_cut hending (by simpa using hcut)
  -- the line end before is remembered, so the second one makes no token
  obtain rfl : atLineEnd = true := hflag (Or.inl (by simp))
  rw [hassoc back, hassoc ('\n' :: back), hbehind _ (Or.inr (happart _)),
    hbehind _ (Or.inr (happart _)), ofText_newline, if_pos rfl, relocate_prepend, relocate_prepend,
    relocate_prepend, forget_ofText ([] ++ (front ++ ['\n']))]
  rfl

/-- The tokens of streams that differ only in places are of the same kinds. -/
lemma exists_listing_of_relocate_eq {f : Position → Position} {stream stream' : TokenStream}
    (h : stream'.relocate f = stream.relocate f) {tokens : List Token}
    (htokens : stream.listing = .ok tokens) :
    ∃ tokens', stream'.listing = .ok tokens' ∧ tokens'.map Token.kind = tokens.map Token.kind := by
  have hlisting := congrArg listing h
  rw [listing_relocate, listing_relocate, htokens] at hlisting
  rcases hstream : stream'.listing with e | tokens'
  · rw [hstream] at hlisting
    cases hlisting
  · rw [hstream] at hlisting
    have hkinds := congrArg (List.map Token.kind) (Except.ok.inj hlisting)
    rw [List.map_map, List.map_map] at hkinds
    exact ⟨tokens', rfl, hkinds⟩

end TokenStream

/-! ## Texts -/

/-- Texts whose streams are read alike but for places have the same lines but for places. -/
lemma relocateReading_treeOf_congr {f : Position → Position} {source source' : String}
    {settings : Settings} (h : ((streamOf source settings).relocate f).reading =
      ((streamOf source' settings).relocate f).reading) :
    relocateReading f (treeOf source settings) = relocateReading f (treeOf source' settings) := by
  have htree (text : String) : relocateReading f (treeOf text settings) =
      ((streamOf text settings).relocate f).reading.mapError .ofParseError := by
    rw [treeOf_eq_mapError_reading, TokenStream.reading_relocate]
    rcases (streamOf text settings).reading with e | tree
    · exact congrArg Except.error (CompileError.ofParseError_relocate e).symm
    · rfl
  rw [htree, htree, h]

section

variable {front back : String} {settings : Settings} {tokens : List Token}

lemma exists_ending_of_tokensOf {source : String} (h : tokensOf source settings = .ok tokens) :
    ∃ last, (streamOf source settings).ending = .ok last ∧
      tokens = (streamOf source settings).tokens ++ [last] := by
  rwa [tokensOf_eq_listing, mapError_eq_ok_iff, TokenStream.listing_eq_ok_iff] at h

lemma forget_streamOf_insert_blank (h : tokensOf (front ++ back) settings = .ok tokens)
    (hcut : ∀ token ∈ tokens, front.length ≤ token.position.index ∨
      token.position.index + token.span ≤ front.length) {blank : Char} (hblank : isBlank blank) :
    (streamOf (front ++ String.singleton blank ++ back) settings).relocate (fun _ => .start) =
      (streamOf (front ++ back) settings).relocate (fun _ => .start) := by
  obtain ⟨last, hending, rfl⟩ := exists_ending_of_tokensOf h
  have htext : (front ++ String.singleton blank ++ back).toList =
      front.toList ++ blank :: back.toList := by simp
  rw [streamOf_eq_ofText, String.toList_append] at hending hcut
  rw [streamOf_eq_ofText, streamOf_eq_ofText, htext, String.toList_append]
  refine TokenStream.forget_ofText_insert_blank ⟨last, hending⟩ ?_ hblank
  intro token htoken
  rw [String.length_toList]
  exact hcut token (List.mem_append_left _ htoken)

lemma reading_streamOf_insert_newline (h : tokensOf (front ++ back) settings = .ok tokens)
    (hfront : Text.EndsLine front.toList) :
    ((streamOf (front ++ "\n" ++ back) settings).relocate (fun _ => .start)).reading =
      ((streamOf (front ++ back) settings).relocate (fun _ => .start)).reading := by
  obtain ⟨last, hending, -⟩ := exists_ending_of_tokensOf h
  have htext : (front ++ "\n" ++ back).toList = front.toList ++ '\n' :: back.toList := by simp
  rw [streamOf_eq_ofText, String.toList_append] at hending
  rw [streamOf_eq_ofText, streamOf_eq_ofText, htext, String.toList_append]
  rcases hfront with hnil | ⟨closed, hclosed⟩
  · rw [hnil]
    exact TokenStream.reading_forget_newline settings.origin back.toList
  · rw [hclosed] at hending ⊢
    simp only [List.append_assoc, List.singleton_append] at hending ⊢
    rw [TokenStream.forget_ofText_insert_newline ⟨last, hending⟩]

end

/-- **Layout does not matter.**  A blank at a place that is not within a token leaves the kinds of
the tokens as they are, what they carry included; a newline where a line begins leaves the leaves of
all lines, or else the error, as they are but for their places.  In both cases the output is the
same, or the code of the error. -/
theorem layout_irrelevant (front back : String) (settings : Settings) {tokens : List Token}
    (h : tokensOf (front ++ back) settings = .ok tokens) :
    (∀ blank, blank = ' ' ∨ blank = '\t' →
      (∀ token ∈ tokens, front.length ≤ token.position.index ∨
        token.position.index + token.span ≤ front.length) →
      (∃ tokens', tokensOf (front ++ String.singleton blank ++ back) settings = .ok tokens' ∧
        tokens'.map Token.kind = tokens.map Token.kind) ∧
      (compile (front ++ String.singleton blank ++ back) settings).mapError CompileError.code =
        (compile (front ++ back) settings).mapError CompileError.code) ∧
    (Text.EndsLine front.toList →
      relocateReading (fun _ => .start) (treeOf (front ++ "\n" ++ back) settings) =
        relocateReading (fun _ => .start) (treeOf (front ++ back) settings) ∧
      (compile (front ++ "\n" ++ back) settings).mapError CompileError.code =
        (compile (front ++ back) settings).mapError CompileError.code) := by
  constructor
  · intro blank hblank hcut
    have hkind : isBlank blank := by rcases hblank with rfl | rfl <;> decide
    have hstream := forget_streamOf_insert_blank h hcut hkind
    have hreading := relocateReading_treeOf_congr (congrArg TokenStream.reading hstream)
    refine ⟨?_, compile_code_congr hreading⟩
    rw [tokensOf_eq_listing, mapError_eq_ok_iff] at h
    obtain ⟨tokens', htokens', hkinds⟩ := TokenStream.exists_listing_of_relocate_eq hstream h
    exact ⟨tokens', by rw [tokensOf_eq_listing, htokens']; rfl, hkinds⟩
  · intro hfront
    have hreading := relocateReading_treeOf_congr (reading_streamOf_insert_newline h hfront)
    exact ⟨hreading, compile_code_congr hreading⟩

/-- A tab between a number and a name that touch, and an empty line before a misplaced number. -/
theorem layout_irrelevant_touching_words :
    (∃ tokens tokens',
      tokensOf ("UwU 12" ++ "abc\n") ⟨.inMemory, .python⟩ = .ok tokens ∧
      tokensOf ("UwU 12" ++ String.singleton '\t' ++ "abc\n") ⟨.inMemory, .python⟩ = .ok tokens' ∧
      tokens'.map Token.kind = tokens.map Token.kind) ∧
    (compile ("UwU 1\n" ++ "\n" ++ "2\n") ⟨.inMemory, .c⟩).mapError CompileError.code =
      .error .unexpectedToken := by
  have hwords : tokensOf ("UwU 12" ++ "abc\n") ⟨.inMemory, .python⟩ =
      .ok [⟨.name "UwU", ⟨0, 0, 0⟩, 3, .inMemory⟩,
        ⟨.number (numeralValue "12".toList), ⟨0, 4, 4⟩, 2, .inMemory⟩,
        ⟨.name "abc", ⟨0, 6, 6⟩, 3, .inMemory⟩, ⟨.newLine, ⟨0, 9, 9⟩, 1, .inMemory⟩,
        ⟨.endOfFile, ⟨1, 0, 10⟩, 0, .inMemory⟩] := by
    decide +kernel
  have hlines : tokensOf ("UwU 1\n" ++ "2\n") ⟨.inMemory, .c⟩ =
      .ok [⟨.name "UwU", ⟨0, 0, 0⟩, 3, .inMemory⟩,
        ⟨.number (numeralValue ['1']), ⟨0, 4, 4⟩, 1, .inMemory⟩,
        ⟨.newLine, ⟨0, 5, 5⟩, 1, .inMemory⟩,
        ⟨.number (numeralValue ['2']), ⟨1, 0, 6⟩, 1, .inMemory⟩,
        ⟨.newLine, ⟨1, 1, 7⟩, 1, .inMemory⟩, ⟨.endOfFile, ⟨2, 0, 8⟩, 0, .inMemory⟩] := by
    decide +kernel
  constructor
  · obtain ⟨⟨tokens', htokens', hkinds⟩, -⟩ :=
      (layout_irrelevant _ _ _ hwords).1 '\t' (Or.inr rfl) (by decide)
    exact ⟨_, tokens', hwords, htokens', hkinds⟩
  · rw [((layout_irrelevant _ _ _ hlines).2 (Or.inr ⟨"UwU 1".toList, by decide⟩)).2]
    decide +kernel

end Kaomoji
