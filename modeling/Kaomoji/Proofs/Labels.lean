import Kaomoji.Proofs.ErrorPlaces
import Kaomoji.Proofs.Seams

/-!
# Labels are carried along

The label of a unit is copied into every token and from there into every lexical and syntactical
error, so it is at hand in all of lexing and reading.  None of it is looked at.  `relabel` puts
another label in the place of the one a thing carries: a text under another label has the same
tokens but for their labels (`TokenStream.relabel_ofText`), and reading follows its tokens
(`TokenStream.reading_relabel`).  Lines hold no label at all, so two runs that read a tree have read
the same one and go on alike.  They differ only if reading fails, and then in the label of the
error: `compile_eq_mapError_relabel`.

A report names the unit once, in the locator line of its one label, and `Reporter.exists_report_eq`
takes it apart there.
-/

namespace Kaomoji

/-! ## Other labels -/

section

variable (origin : Origin)

def Token.relabel (token : Token) : Token := { token with origin }

def LexicalError.relabel (e : LexicalError) : LexicalError := { e with origin }

def SyntaxError.relabel (e : SyntaxError) : SyntaxError := { e with origin }

def ParseError.relabel : ParseError → ParseError
  | lexical e => lexical (e.relabel origin)
  | structural e => structural (e.relabel origin)

/-- **The error under another label.**  Errors of meaning and of emission carry none. -/
def CompileError.relabel : CompileError → CompileError
  | lexical e => lexical (e.relabel origin)
  | structural e => structural (e.relabel origin)
  | meaning e => meaning e
  | emission e => emission e

def TokenStream.relabel (stream : TokenStream) : TokenStream where
  tokens := stream.tokens.map (Token.relabel origin)
  ending := (stream.ending.map (Token.relabel origin)).mapError (LexicalError.relabel origin)

end

variable {origin : Origin}

lemma Token.leaf?_relabel (token : Token) : (token.relabel origin).leaf? = token.leaf? := rfl

lemma CompileError.ofParseError_relabel (e : ParseError) :
    ofParseError (e.relabel origin) = (ofParseError e).relabel origin := by
  cases e <;> rfl

/-- The errors agree in all that is told of them without naming a unit; the one-line message names
it. -/
structure CompileError.AgreesWith (e e' : CompileError) : Prop where
  phase : e.phase = e'.phase
  code : e.code = e'.code
  position : e.position? = e'.position?
  diagnostic : e.diagnostic = e'.diagnostic

lemma CompileError.agreesWith_relabel (e : CompileError) (origin : Origin) :
    e.AgreesWith (e.relabel origin) := by
  cases e <;> exact ⟨rfl, rfl, rfl, rfl⟩

/-! ## Reading under another label -/

namespace TokenStream

lemma relabel_prepend (tokens : List Token) (stream : TokenStream) :
    (stream.prepend tokens).relabel origin =
      (stream.relabel origin).prepend (tokens.map (Token.relabel origin)) := by
  simp [relabel, prepend]

lemma relabel_token? (lexeme : Lexeme) (origin' : Origin) (afterLineEnd : Bool)
    (before : List Char) :
    (lexeme.token? origin' afterLineEnd before).map (Token.relabel origin) =
      lexeme.token? origin afterLineEnd before := by
  cases lexeme with
  | lineEnd => cases afterLineEnd <;> rfl
  | textEnd | blank _ | faulty _ _ | name _ | number _ => rfl

/-- **A text under another label has the same tokens**, apart from the label. -/
lemma relabel_ofText (origin' : Origin) (afterLineEnd : Bool) (before rest : List Char) :
    (ofText origin' afterLineEnd before rest).relabel origin =
      ofText origin afterLineEnd before rest := by
  induction rest using lexeme_induction generalizing afterLineEnd before with
  | atEnd =>
    rw [ofText_nil, ofText_nil]
    rfl
  | atFault rest read fault hfault =>
    rw [ofText_faulty hfault, ofText_faulty hfault]
    rfl
  | pass lexeme later hlexeme hpassed ih =>
    rw [ofText_extent_append hlexeme hpassed, ofText_extent_append hlexeme hpassed,
      relabel_prepend, ih, ← Option.toList_map, relabel_token?]

lemma tree_relabel (stream : TokenStream) : (stream.relabel origin).tree = stream.tree := by
  have hlines :
      (stream.relabel origin).lines = stream.lines.map (List.map (Token.relabel origin)) :=
    lines_of_tokens_eq_map rfl fun _ => rfl
  rw [tree, tree, hlines, List.map_map]
  refine List.map_congr_left fun line _ => congrArg Line.mk ?_
  rw [List.filterMap_map]
  exact List.filterMap_congr fun token _ => token.leaf?_relabel

lemma offence?_relabel (stream : TokenStream) :
    (stream.relabel origin).offence? = stream.offence?.map (ParseError.relabel origin) := by
  have hmisplaced : (stream.relabel origin).misplaced? =
      stream.misplaced?.map (Token.relabel origin) :=
    misplaced?_of_tokens_eq_map rfl fun _ => rfl
  have hclosed : (stream.relabel origin).isClosed = stream.isClosed :=
    isClosed_of_tokens_eq_map rfl fun _ => rfl
  rw [offence?, offence?, hmisplaced, hclosed, relabel]
  rcases stream.misplaced? with _ | token
  · rcases stream.ending with e | last
    · rfl
    · by_cases h : stream.isClosed
      · simp [h, Except.map, Except.mapError]
      · simp only [h]
        rfl
  · rfl

/-- **Tokens under another label are read alike.**  Only an error tells the label. -/
lemma reading_relabel (stream : TokenStream) :
    (stream.relabel origin).reading = stream.reading.mapError (ParseError.relabel origin) := by
  rw [reading, reading, offence?_relabel, tree_relabel]
  rcases stream.offence? with _ | e <;> rfl

end TokenStream

/-! ## Compiling under another label -/

section

variable (source : String) (target : Target) (origin origin' : Origin)

lemma treeOf_eq_mapError_relabel :
    treeOf source ⟨origin', target⟩ =
      (treeOf source ⟨origin, target⟩).mapError (CompileError.relabel origin') := by
  have hstream : streamOf source ⟨origin', target⟩ =
      (streamOf source ⟨origin, target⟩).relabel origin' := by
    rw [streamOf_eq_ofText, streamOf_eq_ofText, TokenStream.relabel_ofText]
  rw [treeOf_eq_mapError_reading, treeOf_eq_mapError_reading, hstream, TokenStream.reading_relabel]
  rcases (streamOf source ⟨origin, target⟩).reading with e | tree
  · exact congrArg Except.error (CompileError.ofParseError_relabel e)
  · rfl

/-- From a tree on no label is carried. -/
lemma Target.compileTree_mapError_relabel (tree : Tree) :
    (target.compileTree tree).mapError (CompileError.relabel origin) = target.compileTree tree := by
  rw [compileTree, programOfTree]
  rcases Program.ofTree tree with e | program
  · rfl
  · show ((target.generate program).mapError .emission).mapError (CompileError.relabel origin) =
      (target.generate program).mapError .emission
    rcases target.generate program with e | text <;> rfl

/-- **Another label changes nothing but the label of an error.** -/
lemma compile_eq_mapError_relabel :
    compile source ⟨origin', target⟩ =
      (compile source ⟨origin, target⟩).mapError (CompileError.relabel origin') := by
  rw [compile_eq_bind, compile_eq_bind, treeOf_eq_mapError_relabel source target origin origin']
  rcases treeOf source ⟨origin, target⟩ with e | tree
  · rfl
  · exact (target.compileTree_mapError_relabel origin' tree).symm

end

/-! ## Reports -/

/-- The locator line of a report's one label, up to the place in the file. -/
def Label.locator (label : Label) (colors : Bool) (file : String) : String :=
  paint colors
    [.plain (Reporter.blanks (Reporter.gutterWidth [label])), .styled .frame "-->",
      .plain s!" {file}:{label.position.text}"]

/-- **A report with one label names the file in the locator line and nowhere else.** -/
lemma Reporter.exists_report_eq {d : Diagnostic} {label : Label} (h : d.labels = [label])
    (colors : Bool) (source : Option String) :
    ∃ rest, ∀ file, Reporter.report ⟨colors, source, some file⟩ d =
      d.headline colors ++ label.locator colors file ++ rest := by
  -- The source line is looked up without regard to the file.
  have hline : ∀ file, sourceLine? ⟨colors, source, some file⟩ label =
      sourceLine? ⟨colors, source, none⟩ label := fun _ => rfl
  constructor
  intro file
  rw [report, segments, h, List.flatMap_singleton, labelSegments, hline]
  simp only [List.append_assoc]
  rw [paint_append, paint_append, Diagnostic.headline, Label.locator, ← String.append_assoc]
  rfl

/-- Every error of a compilation has one label. -/
lemma CompileError.exists_label {source : String} {settings : Settings} {e : CompileError}
    (h : compile source settings = .error e) : ∃ label, e.diagnostic.labels = [label] := by
  match e, arises_of_compile_eq_error h with
  | _, .lexical (e := e) _ =>
    obtain ⟨length, message, hlabels, -⟩ := e.exists_labels_eq
    exact ⟨_, hlabels⟩
  | _, .misplaced _ _ => exact ⟨_, rfl⟩
  | _, .unclosed _ _ => exact ⟨_, rfl⟩
  | _, .meaningless hline hmeaning =>
    obtain ⟨leaf, -, hconcerns⟩ :=
      Statement.exists_concerns_of_ofLine (leaves_standIn hline).1 hmeaning
    obtain ⟨label, hlabels, -⟩ := hconcerns.exists_label
    exact ⟨label, hlabels⟩
  | _, .inexpressible _ hmeaning hexpress =>
    obtain ⟨leaf, -, hconcerns⟩ := Target.exists_concerns_of_line hmeaning hexpress
    obtain ⟨label, hlabels, -⟩ := hconcerns.exists_label
    exact ⟨label, hlabels⟩

/-- **The label of a unit has no say in its compilation.**  Under any two labels a text has the same
output for a target, or errors that are equal up to the label they carry; these agree in all that is
said of them, and their reports in all but the file of the locator line. -/
theorem compile_of_labels (source : String) (target : Target) (origin origin' : Origin) :
    (∃ output, compile source ⟨origin, target⟩ = .ok output ∧
      compile source ⟨origin', target⟩ = .ok output) ∨
    ∃ e e', compile source ⟨origin, target⟩ = .error e ∧
      compile source ⟨origin', target⟩ = .error e' ∧
      e' = e.relabel origin' ∧ e.AgreesWith e' ∧
      ∃ label, e.diagnostic.labels = [label] ∧ ∀ colors, ∃ rest,
        e.report source ⟨origin, target⟩ colors =
          e.diagnostic.headline colors ++
            label.locator colors (Settings.displayPath ⟨origin, target⟩) ++ rest ∧
        e'.report source ⟨origin', target⟩ colors =
          e.diagnostic.headline colors ++
            label.locator colors (Settings.displayPath ⟨origin', target⟩) ++ rest := by
  have hrelabel := compile_eq_mapError_relabel source target origin origin'
  match hcompile : compile source ⟨origin, target⟩ with
  | .ok output =>
    rw [hcompile] at hrelabel
    exact Or.inl ⟨output, rfl, hrelabel⟩
  | .error e =>
    rw [hcompile] at hrelabel
    have hagrees := e.agreesWith_relabel origin'
    obtain ⟨label, hlabel⟩ := CompileError.exists_label hcompile
    refine Or.inr ⟨e, _, rfl, hrelabel, rfl, hagrees, label, hlabel, fun colors => ?_⟩
    obtain ⟨rest, hrest⟩ := Reporter.exists_report_eq hlabel colors (some source)
    refine ⟨rest, hrest _, ?_⟩
    rw [CompileError.report, ← hagrees.diagnostic]
    exact hrest _

end Kaomoji
