import Kaomoji.Proofs.Causes
import Kaomoji.Proofs.SnippetRows
import Kaomoji.Proofs.TokenPlaces

/-!
# Errors are shown where they are

An error of a compilation carries a position that was made by the scanner, and its report is made
from the lines of the text.  The main statement of this module,
`exists_shownAt_of_compile_eq_error`, is that the two fit together for every error: the report
always has a snippet, which is drawn as `SnippetRows` describes, its marks stand below text or right
behind it, and a name that a message quotes is the name that is underlined.

The lexer and the parser complain at places that `TokenPlaces` already knows to be visible.  The
later phases complain about leaves.  They never see the text, so all that can be said of them alone
is that each error `Concerns` a leaf of the line it arose from; that the leaves of a line stand in
the text then does the rest.
-/

namespace Kaomoji

/-! ## The leaf that an error concerns -/

/-- The error is about the leaf: it names it, or at least gives its place. -/
def MeaningError.Concerns (leaf : Leaf) : MeaningError → Prop
  | emptyLine => False
  | unknownKeyword name position => leaf = .identifier ⟨name, position⟩
  | notAnIdentifier _ position | declarationArity _ position | declarationTarget _ position =>
    leaf.position = position

/-- The error is about the leaf: it names it, or at least gives its place. -/
def EmitError.Concerns (leaf : Leaf) : EmitError → Prop
  | unknownCall name position | unknownVariable name position => leaf = .identifier ⟨name, position⟩
  | noFormat _ position | statementArity _ _ _ position | statementTarget _ _ position =>
    leaf.position = position
  | refusedWrite => False

/-- A line that has leaves but no meaning has a leaf that is the reason. -/
lemma Statement.exists_concerns_of_ofLine {line : Line} (hne : line.leaves ≠ []) {e : MeaningError}
    (h : Statement.ofLine line = .error e) : ∃ leaf ∈ line.leaves, e.Concerns leaf := by
  rw [Statement.ofLine] at h
  split at h
  · rename_i hnil
    exact absurd hnil hne
  · rename_i n args hleaves
    cases h
    exact ⟨.number n, by simp [hleaves], rfl⟩
  · rename_i head args hleaves
    have hhead : Leaf.identifier head ∈ line.leaves := by simp [hleaves]
    split at h
    · cases h
    · rw [Statement.ofDeclaration.eq_def] at h
      split at h
      · cases h
      · rename_i n
        cases h
        exact ⟨.number n, by simp [hleaves], rfl⟩
      · cases h
        exact ⟨_, hhead, rfl⟩
    · cases h
    · cases h
      exact ⟨_, hhead, rfl⟩

lemma exists_concerns_of_sumOperands {args : List Leaf} {head : Identifier} {e : EmitError}
    (h : sumOperands args head.position = .error e) :
    ∃ leaf ∈ .identifier head :: args, e.Concerns leaf := by
  unfold sumOperands at h
  split at h
  · cases h
  · rename_i n value
    cases h
    exact ⟨.number n, by simp, rfl⟩
  · cases h
    exact ⟨.identifier head, by simp, rfl⟩

lemma Target.concerns_of_typeOf {scope : Scope} {arg : Leaf} {e : EmitError}
    (h : Target.typeOf scope arg = .error e) : e.Concerns arg := by
  unfold Target.typeOf at h
  split at h
  · split at h
    · cases h
    · cases h
      rfl
  · cases h

lemma Target.concerns_of_placeholder {scope : Scope} {arg : Leaf} {e : EmitError}
    (h : Target.placeholder scope arg = .error e) : e.Concerns arg := by
  rw [Target.placeholder] at h
  obtain htype | ⟨type, -, hplaceholder⟩ := bind_eq_error_iff.1 h
  · exact Target.concerns_of_typeOf htype
  · split at hplaceholder
    · cases hplaceholder
    · cases hplaceholder
      rfl

lemma Target.line_call_eq_error {target : Target} {scope : Scope} {callee : Identifier}
    {args : List Leaf} {e : EmitError} (h : target.line scope (.call callee args) = .error e) :
    e = .unknownCall callee.name callee.position ∨
      ∃ arg ∈ args, Target.placeholder scope arg = .error e := by
  cases target with
  | c =>
    rw [Target.line, Target.cLine] at h
    split at h
    · right
      obtain hplaceholders | ⟨placeholders, -, hline⟩ := bind_eq_error_iff.1 h
      · exact exists_of_mapM_eq_error hplaceholders
      · cases hline
    · left
      cases h
      rfl
  | python =>
    left
    rw [Target.line, Target.pythonLine] at h
    split at h
    · cases h
    · cases h
      rfl

lemma Target.line_sum_eq_error {target : Target} {scope : Scope} {args : List Leaf}
    {position : Position} {e : EmitError}
    (h : target.line scope (.extended .sum args position) = .error e) :
    sumOperands args position = .error e := by
  cases target with
  | c =>
    obtain hoperands | ⟨operands, -, hline⟩ := bind_eq_error_iff.1 h
    · exact hoperands
    · cases hline
  | python =>
    rcases hoperands : sumOperands args position with e' | operands
    · rw [Target.line, Target.pythonLine, hoperands] at h
      cases h
      rfl
    · rw [Target.line, Target.pythonLine, hoperands] at h
      cases h

/-- What a target cannot express, it cannot express because of a leaf of the line. -/
lemma Target.exists_concerns_of_line {target : Target} {scope : Scope} {line : Line} {s : Statement}
    (hmeaning : Statement.ofLine line = .ok s) {e : EmitError}
    (h : target.line scope s = .error e) : ∃ leaf ∈ line.leaves, e.Concerns leaf := by
  rcases Statement.ofLine_cases hmeaning with
    ⟨head, args, hleaves, -, rfl⟩ | ⟨head, type, declared, hleaves, -, rfl⟩ |
      ⟨head, form, args, hleaves, -, rfl⟩
  · rw [hleaves]
    rcases Target.line_call_eq_error h with rfl | ⟨arg, harg, hplaceholder⟩
    · exact ⟨.identifier head, List.mem_cons_self, rfl⟩
    · exact ⟨arg, List.mem_cons_of_mem _ harg, Target.concerns_of_placeholder hplaceholder⟩
  · cases target with
    | c => cases h
    | python => cases h
  · rw [hleaves]
    cases form with
    | sum => exact exists_concerns_of_sumOperands (Target.line_sum_eq_error h)

/-! ## What is shown of an error -/

/-- What a diagnostic with one label is shown as where the line of the label is shown too. -/
def Reporter.snippetReport (r : Reporter) (d : Diagnostic) (label : Label) (line : List Char) :
    List Segment :=
  let width := gutterWidth [label]
  [.styled .error "error", .styled .strong s!"[{d.code.text}]", .plain s!": {d.message}\n"] ++
    ([.plain (blanks width), .styled .frame "-->", .plain (r.place label), .plain "\n"] ++
      snippet width label line) ++
    d.notes.flatMap (remarkSegments width .strong "note") ++
    d.suggestions.flatMap (remarkSegments width .help "help") ++
    [.plain "\n"]

/-- The error is shown by the one label `label` in the line `line` of its text. -/
structure CompileError.ShownAt (e : CompileError) (source : String) (settings : Settings)
    (label : Label) (line : List Char) : Prop where
  labels : e.diagnostic.labels = [label]
  position : e.position? = some label.position
  points : label.PointsInto source.toList line
  /-- An unknown keyword is quoted and underlined. -/
  keyword : ∀ name place, e = .meaning (.unknownKeyword name place) →
    e.diagnostic.message = "unknown keyword `" ++ name ++ "`" ∧
      label.underlined line = name.toList
  /-- A variable of unknown type is quoted and underlined. -/
  variableName : ∀ name place, e = .emission (.unknownVariable name place) →
    e.diagnostic.message = "unknown variable type for `" ++ name ++ "`" ∧
      label.underlined line = name.toList
  /-- Without colours the report is the headline, the line with the marks below it, and remarks. -/
  drawn : ∃ drawing : Reporter.Drawing,
    drawing.Shows ⟨false, some source, some settings.displayPath⟩ (label.lineNumber.length + 1)
      label line ∧
    e.report source settings false =
      e.diagnostic.headline false ++ drawing.text ++
        Reporter.remarks e.diagnostic (label.lineNumber.length + 1)
  /-- With colours or without, the report has a snippet. -/
  report : ∀ colors, e.report source settings colors =
    paint colors (Reporter.snippetReport ⟨colors, some source, some settings.displayPath⟩
      e.diagnostic label line)

lemma Reporter.report_eq_snippetReport {r : Reporter} {source : String}
    (hsource : r.source = some source) {d : Diagnostic} {label : Label}
    (hlabels : d.labels = [label]) {line : List Char}
    (hpoints : label.PointsInto source.toList line) :
    r.report d = paint r.colors (r.snippetReport d label line) := by
  have hline : r.sourceLine? label = some line := by
    rw [Reporter.sourceLine?, hsource]
    exact hpoints.shown
  rw [Reporter.report, Reporter.segments, Reporter.snippetReport, hlabels, List.flatMap_singleton,
    Reporter.labelSegments, hline]
  rfl

section

variable {source : String} {settings : Settings} {label : Label}

lemma CompileError.shownAt_of_pointsInto {e : CompileError} {line : List Char}
    (hlabels : e.diagnostic.labels = [label]) (hposition : e.position? = some label.position)
    (hpoints : label.PointsInto source.toList line)
    (hkeyword : ∀ name place, e = .meaning (.unknownKeyword name place) →
      label.underlined line = name.toList)
    (hvariable : ∀ name place, e = .emission (.unknownVariable name place) →
      label.underlined line = name.toList) :
    e.ShownAt source settings label line where
  labels := hlabels
  position := hposition
  points := hpoints
  keyword := by
    rintro name place rfl
    exact ⟨rfl, hkeyword name place rfl⟩
  variableName := by
    rintro name place rfl
    exact ⟨rfl, hvariable name place rfl⟩
  drawn := Reporter.exists_drawing_of_labels_eq hlabels hpoints.shown
  report := fun _ => Reporter.report_eq_snippetReport rfl hlabels hpoints

/-! ### Errors of the lexer and the parser -/

/-- A visible position can be pointed at by at most one character. -/
lemma Position.IsVisibleIn.exists_pointsInto {source : List Char} {position : Position}
    (h : position.IsVisibleIn source) {length : Nat} (hlength : length ≤ 1) (message : String) :
    ∃ line, Label.PointsInto ⟨position, length, message⟩ source line := by
  obtain ⟨before, rest, hsource, hposition, hvisible⟩ := h
  rw [hsource]
  exact ⟨_, Label.pointsInto_of_visible hvisible hposition hlength⟩

lemma LexicalError.exists_labels_eq (e : LexicalError) :
    ∃ length message, e.diagnostic.labels = [⟨e.position, length, message⟩] ∧ length ≤ 1 := by
  rw [LexicalError.diagnostic]
  split
  · exact ⟨_, _, rfl, le_rfl⟩
  · refine ⟨_, _, rfl, ?_⟩
    split <;> omega

lemma exists_shownAt_lexical {e : LexicalError} (hplace : e.position.IsVisibleIn source.toList) :
    ∃ label line, CompileError.ShownAt (.lexical e) source settings label line := by
  obtain ⟨length, message, hlabels, hlength⟩ := e.exists_labels_eq
  obtain ⟨line, hpoints⟩ := hplace.exists_pointsInto hlength message
  exact ⟨_, line, CompileError.shownAt_of_pointsInto hlabels rfl hpoints (by simp) (by simp)⟩

lemma exists_shownAt_structural {e : SyntaxError} {line : List Char}
    (hpoints : Label.PointsInto ⟨e.position, e.span, e.fault.remark⟩ source.toList line) :
    ∃ label line, CompileError.ShownAt (.structural e) source settings label line :=
  ⟨_, line, CompileError.shownAt_of_pointsInto rfl rfl hpoints (by simp) (by simp)⟩

/-- A word of the text can be underlined whole. -/
lemma Token.StandsIn.exists_pointsInto {source : List Char} {token : Token}
    (h : token.StandsIn source) (message : String) :
    ∃ line, Label.PointsInto ⟨token.position, token.span, message⟩ source line := by
  obtain ⟨word, ⟨hword, before, rest, hsource, hposition⟩, hspan, -⟩ := h
  rw [hsource]
  exact ⟨_, Label.pointsInto_of_isWord hword hposition hspan.le⟩

lemma isVisibleIn_end {source : List Char} (h : Text.openLine source ≠ []) :
    (Position.behind source).IsVisibleIn source :=
  ⟨source, [], (List.append_nil source).symm, rfl, fun _ => h, by simp⟩

/-! ### Errors about leaves -/

/-- The label stands at the leaf, and it is as long as the leaf if it is longer than a character. -/
structure Label.Marks (label : Label) (leaf : Leaf) : Prop where
  position : label.position = leaf.position
  length : label.length ≤ 1 ∨ ∃ id, leaf = .identifier id ∧ label.length = id.name.length

lemma Label.Marks.exists_pointsInto {leaf : Leaf} (h : label.Marks leaf)
    (hleaf : leaf.StandsIn source.toList) :
    ∃ line, label.PointsInto source.toList line ∧
      ∀ id, leaf = .identifier id → label.length = id.name.length →
        label.underlined line = id.name.toList := by
  obtain ⟨word, ⟨hword, before, rest, hsource, hposition⟩, hname⟩ := hleaf
  have hplace : label.position = .behind before := h.position.trans hposition
  have hlength : label.length ≤ word.length := by
    rcases h.length with hlength | ⟨id, hid, hlength⟩
    · have hpos := List.length_pos_of_ne_nil hword.ne_nil
      omega
    · rw [hlength, ← hname id hid, String.length_toList]
  rw [hsource]
  refine ⟨_, Label.pointsInto_of_isWord hword hplace hlength, fun id hid hfull => ?_⟩
  rw [hname id hid]
  refine Label.underlined_eq_word hplace ?_
  rw [hfull, ← hname id hid, String.length_toList]

lemma MeaningError.Concerns.exists_label {e : MeaningError} {leaf : Leaf} (h : e.Concerns leaf) :
    ∃ label, e.diagnostic.labels = [label] ∧ e.position? = some label.position ∧
      label.Marks leaf := by
  cases e with
  | emptyLine => exact h.elim
  | unknownKeyword name position =>
    subst h
    exact ⟨_, rfl, rfl, rfl, Or.inr ⟨_, rfl, rfl⟩⟩
  | notAnIdentifier _ _ | declarationArity _ _ | declarationTarget _ _ =>
    exact ⟨_, rfl, rfl, h.symm, Or.inl le_rfl⟩

lemma EmitError.Concerns.exists_label {e : EmitError} {leaf : Leaf} (h : e.Concerns leaf) :
    ∃ label, e.diagnostic.labels = [label] ∧ e.position? = some label.position ∧
      label.Marks leaf := by
  cases e with
  | refusedWrite => exact h.elim
  | unknownCall name position | unknownVariable name position =>
    subst h
    exact ⟨_, rfl, rfl, rfl, Or.inr ⟨_, rfl, rfl⟩⟩
  | noFormat _ _ | statementArity _ _ _ _ | statementTarget _ _ _ =>
    exact ⟨_, rfl, rfl, h.symm, Or.inl le_rfl⟩

lemma exists_shownAt_meaning {e : MeaningError} {leaf : Leaf} (h : e.Concerns leaf)
    (hleaf : leaf.StandsIn source.toList) :
    ∃ label line, CompileError.ShownAt (.meaning e) source settings label line := by
  obtain ⟨label, hlabels, hposition, hmarks⟩ := h.exists_label
  obtain ⟨line, hpoints, hunderlined⟩ := hmarks.exists_pointsInto hleaf
  refine ⟨label, line, CompileError.shownAt_of_pointsInto hlabels hposition hpoints ?_ (by simp)⟩
  rintro name place ⟨⟩
  obtain rfl := List.singleton_injective hlabels
  exact hunderlined _ h rfl

lemma exists_shownAt_emission {e : EmitError} {leaf : Leaf} (h : e.Concerns leaf)
    (hleaf : leaf.StandsIn source.toList) :
    ∃ label line, CompileError.ShownAt (.emission e) source settings label line := by
  obtain ⟨label, hlabels, hposition, hmarks⟩ := h.exists_label
  obtain ⟨line, hpoints, hunderlined⟩ := hmarks.exists_pointsInto hleaf
  refine ⟨label, line, CompileError.shownAt_of_pointsInto hlabels hposition hpoints (by simp) ?_⟩
  rintro name place ⟨⟩
  obtain rfl := List.singleton_injective hlabels
  exact hunderlined _ h rfl

/-! ### All errors -/

/-- **Every error of a compilation is shown where it is**: by one label at its position, in a line
that the report shows, and below the name that the message quotes. -/
theorem exists_shownAt_of_compile_eq_error {e : CompileError}
    (h : compile source settings = .error e) :
    ∃ label line, e.ShownAt source settings label line := by
  have hstream := standsIn_streamOf source settings
  cases arises_of_compile_eq_error h with
  | lexical hending => exact exists_shownAt_lexical (hstream.error _ hending)
  | misplaced htoken hnumber =>
    have htoken := hstream.words _ htoken (by simp [hnumber])
    obtain ⟨line, hpoints⟩ := htoken.exists_pointsInto _
    exact exists_shownAt_structural hpoints
  | unclosed hending hclosed =>
    obtain ⟨hposition, hspan⟩ := hstream.last _ hending
    have hend := isVisibleIn_end (openLine_ne_nil_of_isClosed_eq_false hending hclosed)
    rw [← hposition] at hend
    obtain ⟨line, hpoints⟩ := hend.exists_pointsInto (hspan.trans_le (Nat.zero_le 1)) _
    exact exists_shownAt_structural hpoints
  | meaningless hline hmeaning =>
    obtain ⟨hne, hleaves⟩ := leaves_standIn hline
    obtain ⟨leaf, hleaf, hconcerns⟩ := Statement.exists_concerns_of_ofLine hne hmeaning
    exact exists_shownAt_meaning hconcerns (hleaves leaf hleaf)
  | inexpressible hline hmeaning hexpress =>
    obtain ⟨leaf, hleaf, hconcerns⟩ := Target.exists_concerns_of_line hmeaning hexpress
    exact exists_shownAt_emission hconcerns ((leaves_standIn hline).2 leaf hleaf)

/-- A carriage return is no character of the language, and where it belongs to a line end it is not
shown either: the label stands right behind the line. -/
theorem exists_shownAt_return :
    compile "O.O x\r\n" .inMemory =
        .error (.lexical ⟨.unknownCharacter '\r', ⟨0, 5, 5⟩, .inMemory⟩) ∧
      ∃ label line, CompileError.ShownAt (.lexical ⟨.unknownCharacter '\r', ⟨0, 5, 5⟩, .inMemory⟩)
        "O.O x\r\n" .inMemory label line := by
  have h : compile "O.O x\r\n" .inMemory =
      .error (.lexical ⟨.unknownCharacter '\r', ⟨0, 5, 5⟩, .inMemory⟩) := by decide +kernel
  exact ⟨h, exists_shownAt_of_compile_eq_error h⟩

end

end Kaomoji
