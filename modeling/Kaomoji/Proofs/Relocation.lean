import Kaomoji.Proofs.UnlimitedOutput

/-!
# Positions are carried along

A position enters with a token, stays with the leaf that the token becomes and with the statement
that the leaf is part of, and comes out in an error.  On the way no phase looks at it.  This module
says so once and for all: `relocate f` replaces each position of a thing by its image under `f`, and
every phase that has tokens, leaves or statements for its input commutes with it, whatever `f` is
(`TokenStream.reading_relocate`, `Statement.ofLine_relocate`, `Target.line_relocate`,
`Target.compileTree_relocate`).

Two uses are worth keeping in mind.  Where `f` moves all positions by the same lines and characters,
this tells how a text is read behind another one; where `f` forgets positions altogether, it tells
what does not depend on the layout of a text.
-/

namespace Kaomoji

/-! ## Moving positions -/

section

variable (f : Position → Position)

def Token.relocate (token : Token) : Token := { token with position := f token.position }

def Identifier.relocate (id : Identifier) : Identifier := { id with position := f id.position }

def NumberLiteral.relocate (n : NumberLiteral) : NumberLiteral :=
  { n with position := f n.position }

def Leaf.relocate : Leaf → Leaf
  | identifier id => identifier (id.relocate f)
  | number n => number (n.relocate f)

def Line.relocate (line : Line) : Line := ⟨line.leaves.map (Leaf.relocate f)⟩

def Tree.relocate (tree : Tree) : Tree := tree.map (Line.relocate f)

def Statement.relocate : Statement → Statement
  | call callee args => call (callee.relocate f) (args.map (Leaf.relocate f))
  | declaration type target => declaration type (target.relocate f)
  | extended form args position => extended form (args.map (Leaf.relocate f)) (f position)

def LexicalError.relocate (e : LexicalError) : LexicalError := { e with position := f e.position }

def SyntaxError.relocate (e : SyntaxError) : SyntaxError := { e with position := f e.position }

def ParseError.relocate : ParseError → ParseError
  | lexical e => lexical (e.relocate f)
  | structural e => structural (e.relocate f)

def MeaningError.relocate : MeaningError → MeaningError
  | emptyLine => emptyLine
  | notAnIdentifier found position => notAnIdentifier found (f position)
  | unknownKeyword name position => unknownKeyword name (f position)
  | declarationArity found position => declarationArity found (f position)
  | declarationTarget found position => declarationTarget found (f position)

def EmitError.relocate : EmitError → EmitError
  | unknownCall name position => unknownCall name (f position)
  | noFormat type position => noFormat type (f position)
  | unknownVariable name position => unknownVariable name (f position)
  | statementArity form expected found position => statementArity form expected found (f position)
  | statementTarget form found position => statementTarget form found (f position)
  | refusedWrite => refusedWrite

/-- **The error at another place**; what it says and what it carries stay. -/
def CompileError.relocate : CompileError → CompileError
  | lexical e => lexical (e.relocate f)
  | structural e => structural (e.relocate f)
  | meaning e => meaning (e.relocate f)
  | emission e => emission (e.relocate f)

def TokenStream.relocate (stream : TokenStream) : TokenStream where
  tokens := stream.tokens.map (Token.relocate f)
  ending := (stream.ending.map (Token.relocate f)).mapError (LexicalError.relocate f)

/-- What comes of reading a text, with its leaves or its error at other places. -/
def relocateReading (reading : Except CompileError Tree) : Except CompileError Tree :=
  (reading.map (Tree.relocate f)).mapError (CompileError.relocate f)

end

variable {f : Position → Position}

@[simp] lemma Identifier.name_relocate (id : Identifier) : (id.relocate f).name = id.name := rfl

@[simp] lemma Leaf.word_relocate (leaf : Leaf) : (leaf.relocate f).word = leaf.word := by
  cases leaf <;> rfl

lemma map_word_relocate (leaves : List Leaf) :
    (leaves.map (Leaf.relocate f)).map Leaf.word = leaves.map Leaf.word := by
  simp

lemma Token.leaf?_relocate (token : Token) :
    (token.relocate f).leaf? = token.leaf?.map (Leaf.relocate f) := by
  obtain ⟨kind, position, span, origin⟩ := token
  cases kind <;> rfl

/-- An error keeps its code wherever it is. -/
@[simp] lemma CompileError.code_relocate (e : CompileError) : (e.relocate f).code = e.code := by
  rcases e with e | e | e | e
  · rfl
  · rfl
  · cases e <;> rfl
  · cases e <;> rfl

lemma CompileError.ofParseError_relocate (e : ParseError) :
    ofParseError (e.relocate f) = (ofParseError e).relocate f := by
  cases e <;> rfl

/-! ## Lines -/

namespace TokenStream

lemma splitOnP_map {α β : Type} (g : α → β) (p : β → Bool) (xs : List α) :
    (xs.map g).splitOnP p = (xs.splitOnP (p ∘ g)).map (List.map g) := by
  induction xs with
  | nil => rfl
  | cons x rest ih =>
    rw [List.map_cons, List.splitOnP_cons_eq_if_modifyHead, List.splitOnP_cons_eq_if_modifyHead, ih]
    by_cases hx : p (g x)
    · simp [hx]
    · obtain ⟨first, later, hsplit⟩ :=
        List.exists_cons_of_ne_nil (List.splitOnP_ne_nil (p ∘ g) rest)
      simp [hx, hsplit]

section

variable {stream stream' : TokenStream} {g : Token → Token}

/-- Where each token gives way to one with the same tag, lines are divided as before. -/
lemma lines_of_tokens_eq_map (h : stream'.tokens = stream.tokens.map g)
    (htag : ∀ token, (g token).tag = token.tag) :
    stream'.lines = stream.lines.map (List.map g) := by
  have hnewLine : (fun token : Token => decide (token.tag = .newLine)) ∘ g =
      fun token => decide (token.tag = .newLine) := by
    funext token
    simp only [Function.comp_apply, htag]
  have hempty : (fun line : List Token => !line.isEmpty) ∘ List.map g =
      fun line => !line.isEmpty := by
    funext line
    simp
  rw [lines, lines, h, splitOnP_map, hnewLine, List.filter_map, hempty]

lemma misplaced?_of_tokens_eq_map (h : stream'.tokens = stream.tokens.map g)
    (htag : ∀ token, (g token).tag = token.tag) :
    stream'.misplaced? = stream.misplaced?.map g := by
  have hheads (lines : List (List Token)) :
      (lines.map (List.map g)).filterMap List.head? = (lines.filterMap List.head?).map g := by
    rw [List.filterMap_map, List.map_filterMap]
    exact List.filterMap_congr fun line _ => List.head?_map
  have hnumber : (fun token : Token => decide (token.tag = .number)) ∘ g =
      fun token => decide (token.tag = .number) := by
    funext token
    simp only [Function.comp_apply, htag]
  rw [misplaced?, misplaced?, lines_of_tokens_eq_map h htag, hheads, List.find?_map, hnumber]

lemma isClosed_of_tokens_eq_map (h : stream'.tokens = stream.tokens.map g)
    (htag : ∀ token, (g token).tag = token.tag) : stream'.isClosed = stream.isClosed := by
  rw [isClosed, isClosed, h, List.getLast?_map, Option.all_map]
  simp only [htag]

end

lemma lines_relocate (stream : TokenStream) :
    (stream.relocate f).lines = stream.lines.map (List.map (Token.relocate f)) :=
  lines_of_tokens_eq_map rfl fun _ => rfl

lemma tree_relocate (stream : TokenStream) :
    (stream.relocate f).tree = Tree.relocate f stream.tree := by
  have hleaves (line : List Token) : (line.map (Token.relocate f)).filterMap Token.leaf? =
      (line.filterMap Token.leaf?).map (Leaf.relocate f) := by
    rw [List.filterMap_map, List.map_filterMap]
    exact List.filterMap_congr fun token _ => token.leaf?_relocate
  rw [tree, tree, lines_relocate, Tree.relocate, List.map_map, List.map_map]
  refine List.map_congr_left fun line _ => ?_
  exact congrArg Line.mk (hleaves line)

lemma misplaced?_relocate (stream : TokenStream) :
    (stream.relocate f).misplaced? = stream.misplaced?.map (Token.relocate f) :=
  misplaced?_of_tokens_eq_map rfl fun _ => rfl

lemma isClosed_relocate (stream : TokenStream) :
    (stream.relocate f).isClosed = stream.isClosed :=
  isClosed_of_tokens_eq_map rfl fun _ => rfl

lemma offence?_relocate (stream : TokenStream) :
    (stream.relocate f).offence? = stream.offence?.map (ParseError.relocate f) := by
  rw [offence?, offence?, misplaced?_relocate, isClosed_relocate]
  rcases stream.misplaced? with _ | token
  · rw [relocate]
    rcases stream.ending with e | last
    · rfl
    · by_cases hclosed : stream.isClosed
      · simp [hclosed, Except.map, Except.mapError]
      · simp [hclosed, Except.map, Except.mapError]
        rfl
  · rfl

/-- **Lines are read alike wherever their tokens stand.** -/
theorem reading_relocate (stream : TokenStream) :
    (stream.relocate f).reading =
      (stream.reading.map (Tree.relocate f)).mapError (ParseError.relocate f) := by
  rw [reading, reading, offence?_relocate, tree_relocate]
  rcases stream.offence? with _ | e <;> rfl

lemma listing_relocate (stream : TokenStream) :
    (stream.relocate f).listing =
      (stream.listing.map (List.map (Token.relocate f))).mapError (LexicalError.relocate f) := by
  obtain ⟨tokens, ending⟩ := stream
  rcases ending with e | last
  · rfl
  · simp [relocate, listing, Except.map, Except.mapError, Functor.map]

lemma exists_reading_of_relocate_eq {stream stream' : TokenStream} {tree' : Tree}
    (h : stream.relocate f = stream'.relocate f) (htree' : stream'.reading = .ok tree') :
    ∃ tree, stream.reading = .ok tree ∧ Tree.relocate f tree = Tree.relocate f tree' := by
  have hreading := congrArg reading h
  rw [reading_relocate, reading_relocate, htree'] at hreading
  rcases hstream : stream.reading with e | tree
  · rw [hstream] at hreading
    cases hreading
  · rw [hstream] at hreading
    exact ⟨tree, rfl, Except.ok.inj hreading⟩

end TokenStream

/-! ## Meanings -/

section

variable {α β γ δ ε ε' : Type}

/-- What commutes with a change of input and outcome does so along a list. -/
lemma mapM_map_of_commutes {k : α → Except ε β} {k' : γ → Except ε' δ} {g : α → γ} {v : β → δ}
    {w : ε → ε'} (h : ∀ x, k' (g x) = ((k x).map v).mapError w) (xs : List α) :
    (xs.map g).mapM k' = ((xs.mapM k).map (List.map v)).mapError w := by
  induction xs with
  | nil => rfl
  | cons x rest ih =>
    rw [List.map_cons, List.mapM_cons, List.mapM_cons, h, ih]
    rcases k x with e | y
    · rfl
    · rcases rest.mapM k with e | ys <;> rfl

end

lemma Statement.ofDeclaration_relocate (type : DeclaredType) (position : Position)
    (args : List Leaf) :
    ofDeclaration type (f position) (args.map (Leaf.relocate f)) =
      ((ofDeclaration type position args).map (Statement.relocate f)).mapError
        (MeaningError.relocate f) := by
  rcases args with _ | ⟨first, _ | ⟨second, rest⟩⟩
  · rfl
  · cases first <;> rfl
  · simp [ofDeclaration, Except.map, Except.mapError, MeaningError.relocate]

lemma Statement.ofLine_relocate (line : Line) :
    ofLine (line.relocate f) =
      ((ofLine line).map (Statement.relocate f)).mapError (MeaningError.relocate f) := by
  obtain ⟨leaves⟩ := line
  rcases leaves with _ | ⟨head | n, args⟩
  · rfl
  · simp only [ofLine, Line.relocate, List.map_cons, Leaf.relocate, Identifier.name_relocate]
    rcases Keyword.ofName? head.name with _ | keyword
    · rfl
    · cases keyword with
      | call => rfl
      | declaration type => exact ofDeclaration_relocate type head.position args
      | extended form => rfl
  · rfl

lemma programOfTree_relocate (tree : Tree) :
    programOfTree (Tree.relocate f tree) =
      ((programOfTree tree).map (List.map (Statement.relocate f))).mapError
        (CompileError.relocate f) := by
  rw [programOfTree, programOfTree, Program.ofTree, Program.ofTree, Tree.relocate,
    mapM_map_of_commutes Statement.ofLine_relocate]
  rcases tree.mapM Statement.ofLine with e | program <;> rfl

/-! ## Units -/

namespace Target

lemma placeholder_relocate (scope : Scope) (arg : Leaf) :
    placeholder scope (arg.relocate f) =
      ((placeholder scope arg).map id).mapError (EmitError.relocate f) := by
  cases arg with
  | identifier name =>
    simp only [placeholder, typeOf, Leaf.relocate, Identifier.name_relocate]
    rcases scope.lookup name.name with _ | type
    · rfl
    · cases type <;> rfl
  | number n =>
    simp only [placeholder, typeOf, Leaf.relocate, NumberLiteral.relocate, NumberLiteral.isIntegral]
    by_cases hintegral : n.value.isIntegral
    · simp only [hintegral, if_true]
      rfl
    · simp only [hintegral]
      rfl

end Target

lemma sumOperands_relocate (args : List Leaf) (position : Position) :
    sumOperands (args.map (Leaf.relocate f)) (f position) =
      ((sumOperands args position).map
        (Prod.map (Identifier.relocate f) (Leaf.relocate f))).mapError (EmitError.relocate f) := by
  rcases args with _ | ⟨first, _ | ⟨second, _ | ⟨third, rest⟩⟩⟩
  · rfl
  · cases first <;> rfl
  · cases first <;> rfl
  · cases first <;> simp [sumOperands, Leaf.relocate, Except.map, Except.mapError,
      EmitError.relocate]

namespace Target

lemma pythonLine_relocate (s : Statement) :
    pythonLine (s.relocate f) = (pythonLine s).mapError (EmitError.relocate f) := by
  cases s with
  | call callee args =>
    simp only [pythonLine, Statement.relocate, Identifier.name_relocate, argumentList,
      map_word_relocate]
    rcases pythonCalls.lookup callee.name with _ | function <;> rfl
  | declaration type target => rfl
  | extended form args position =>
    cases form with
    | sum =>
      simp only [pythonLine, Statement.relocate, sumOperands_relocate]
      rcases sumOperands args position with e | ⟨target, value⟩
      · rfl
      · cases value <;> rfl

lemma cLine_relocate (scope : Scope) (s : Statement) :
    cLine scope (s.relocate f) = (cLine scope s).mapError (EmitError.relocate f) := by
  cases s with
  | call callee args =>
    simp only [cLine, Statement.relocate, Identifier.name_relocate, map_word_relocate,
      mapM_map_of_commutes (placeholder_relocate scope)]
    rcases cCalls.lookup callee.name with _ | function
    · rfl
    · rcases args.mapM (placeholder scope) with e | placeholders
      · rfl
      · simp [Except.map, Except.mapError, bind, Except.bind, pure, Except.pure]
  | declaration type target => rfl
  | extended form args position =>
    cases form with
    | sum =>
      simp only [cLine, Statement.relocate, sumOperands_relocate]
      rcases sumOperands args position with e | ⟨target, value⟩
      · rfl
      · cases value <;> rfl

lemma line_relocate (target : Target) (scope : Scope) (s : Statement) :
    target.line scope (s.relocate f) = (target.line scope s).mapError (EmitError.relocate f) := by
  cases target with
  | c => exact cLine_relocate scope s
  | python =>
    rw [line, line, pythonLine_relocate]
    rcases pythonLine s with e | text <;> rfl

lemma draft_relocate (target : Target) (scope : Scope) (program : Program) :
    target.draft scope (program.map (Statement.relocate f)) =
      { target.draft scope program with
        result := (target.draft scope program).result.mapError (EmitError.relocate f) } := by
  induction program generalizing scope with
  | nil => rfl
  | cons s rest ih =>
    have hs := line_relocate (f := f) target scope s
    rcases hline : target.line scope s with e | ⟨line, later⟩
    · rw [hline] at hs
      rw [List.map_cons, draft_cons_error hs, draft_cons_error hline]
      rfl
    · rw [hline] at hs
      rw [List.map_cons, draft_cons_ok hs, draft_cons_ok hline, ih]

/-- The text of a unit, in terms of its draft. -/
lemma generate_eq (target : Target) (program : Program) :
    target.generate program = (target.draft [] program).result.map
      fun _ => unlines (target.unitLines (target.draft [] program)) := by
  rw [generate, compile, Sink.empty, Generator.compile_unlimited]
  simp only [Generator.fresh, String.empty_append]

lemma generate_relocate (target : Target) (program : Program) :
    target.generate (program.map (Statement.relocate f)) =
      (target.generate program).mapError (EmitError.relocate f) := by
  rw [generate_eq, generate_eq, draft_relocate]
  rcases hresult : (target.draft [] program).result with e | _
  · rfl
  · simp [Except.map, Except.mapError, unitLines, hresult]

/-- The text of the unit that a tree means. -/
def compileTree (target : Target) (tree : Tree) : Except CompileError String := do
  let program ← programOfTree tree
  (target.generate program).mapError .emission

/-- **A tree is compiled alike wherever its leaves stand.** -/
theorem compileTree_relocate (target : Target) (tree : Tree) :
    target.compileTree (Tree.relocate f tree) =
      (target.compileTree tree).mapError (CompileError.relocate f) := by
  rw [compileTree, compileTree, programOfTree_relocate]
  rcases programOfTree tree with e | program
  · rfl
  · show (target.generate (program.map (Statement.relocate f))).mapError .emission =
      ((target.generate program).mapError .emission).mapError (CompileError.relocate f)
    rw [generate_relocate]
    rcases target.generate program with e | text <;> rfl

/-- Trees that differ only in the places of their leaves have the same output. -/
lemma compileTree_eq_ok_of_relocate_eq {target : Target} {tree tree' : Tree} {output : String}
    (h : Tree.relocate f tree = Tree.relocate f tree')
    (houtput : target.compileTree tree' = .ok output) :
    target.compileTree tree = .ok output := by
  have hcompiled := congrArg target.compileTree h
  rw [compileTree_relocate, compileTree_relocate, houtput] at hcompiled
  exact mapError_eq_ok_iff.1 hcompiled

end Target

/-- To compile a text is to read it and to compile its tree. -/
lemma compile_eq_bind (source : String) (settings : Settings) :
    compile source settings = treeOf source settings >>= settings.target.compileTree := by
  rw [compile, compileTo, programOf]
  rcases treeOf source settings with e | tree
  · rfl
  · rcases hprogram : programOfTree tree with e | program
    · simp [bind, Except.bind, Target.compileTree, hprogram, Except.map]
    · simp only [bind, Except.bind, Target.compileTree, hprogram, Target.generate]
      rcases settings.target.compile program none with ⟨e | _, sink⟩ <;> rfl

/-- Texts that are read alike but for the places of their leaves have the same output, or fail with
the same code. -/
lemma compile_code_congr {source source' : String} {settings : Settings}
    (h : relocateReading f (treeOf source settings) = relocateReading f (treeOf source' settings)) :
    (compile source settings).mapError CompileError.code =
      (compile source' settings).mapError CompileError.code := by
  have houtcome (reading : Except CompileError Tree) :
      (reading >>= settings.target.compileTree).mapError CompileError.code =
        (relocateReading f reading >>= settings.target.compileTree).mapError
          CompileError.code := by
    rcases reading with e | tree
    · exact congrArg Except.error (CompileError.code_relocate e).symm
    · show (settings.target.compileTree tree).mapError CompileError.code =
        (settings.target.compileTree (Tree.relocate f tree)).mapError CompileError.code
      rw [Target.compileTree_relocate]
      rcases settings.target.compileTree tree with e | text
      · exact congrArg Except.error (CompileError.code_relocate e).symm
      · rfl
  rw [compile_eq_bind, compile_eq_bind, houtcome, h, ← houtcome]

end Kaomoji
