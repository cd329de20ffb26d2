import Kaomoji.Proofs.LineReading

/-!
# The causes of an error

A compilation hands the first error of any phase up through a parser, two monads and three
wrappers. `CompileError.Arises` says where each error can come from, in terms of the text and not
of the phases in between: from the stream of the text, from a line that means nothing, or from a
statement that the target cannot express.  That there is no other cause is
`arises_of_compile_eq_error`; whatever is said of all errors of a compilation is then said of five
cases.

Output that does not fit its sink is not among them: a compilation into a string has no limit.  The
proof goes through the emissions one by one, each of which keeps the session `Session.Free` or fails
for a cause of its own.
-/

namespace Kaomoji

/-! ## Where a result comes from -/

section

variable {α β ε ε' : Type} {x : Except ε α}

lemma bind_eq_error_iff {f : α → Except ε β} {e : ε} :
    (x >>= f) = .error e ↔ x = .error e ∨ ∃ a, x = .ok a ∧ f a = .error e := by
  cases x <;> simp [bind, Except.bind]

lemma bind_eq_ok_iff {f : α → Except ε β} {b : β} :
    (x >>= f) = .ok b ↔ ∃ a, x = .ok a ∧ f a = .ok b := by
  cases x <;> simp [bind, Except.bind]

lemma mapError_eq_error_iff {f : ε → ε'} {e' : ε'} :
    x.mapError f = .error e' ↔ ∃ e, x = .error e ∧ f e = e' := by
  cases x <;> simp [Except.mapError]

lemma mapError_eq_ok_iff {f : ε → ε'} {a : α} : x.mapError f = .ok a ↔ x = .ok a := by
  cases x <;> simp [Except.mapError]

end

/-! ## Writing without a limit -/

/-- A sink without limit takes everything and stays without limit. -/
lemma Sink.write_of_limit_eq_none {sink : Sink} (h : sink.limit = none) (pieces : List String) :
    (sink.write pieces).1 = true ∧ (sink.write pieces).2.limit = none := by
  induction pieces generalizing sink with
  | nil => exact ⟨rfl, h⟩
  | cons piece rest ih =>
    have haccepts : sink.accepts piece = true := by simp [accepts, h]
    rw [write, if_pos haccepts]
    exact ih h

lemma Writer.writeLine_of_limit_eq_none {w : Writer} (h : w.sink.limit = none) (line : String) :
    ∃ later, w.writeLine line = (true, later) ∧ later.sink.limit = none := by
  obtain ⟨htaken, hlimit⟩ := Sink.write_of_limit_eq_none h (linePieces w.indent line)
  rcases hwrite : w.sink.write (linePieces w.indent line) with ⟨taken, sink⟩
  rw [hwrite] at htaken hlimit
  obtain rfl : taken = true := htaken
  exact ⟨{ w with sink, lines := w.lines + 1 }, by rw [writeLine, hwrite], hlimit⟩

/-- The session writes for the target, and nothing limits what it writes. -/
structure Session.Free (target : Target) (session : Session) : Prop where
  limit : session.writer.sink.limit = none
  target : session.generator.target = target

namespace Emit

/-- On a free session the emission leaves a free session behind, or it fails for the cause. -/
def FailsOnly (target : Target) (cause : EmitError → Prop) (emission : Emit Unit) : Prop :=
  ∀ session : Session, session.Free target →
    (∃ later, session.perform emission = (.ok (), later) ∧ later.Free target) ∨
      ∃ e later, session.perform emission = (.error e, later) ∧ cause e

variable {target : Target} {cause : EmitError → Prop}

lemma failsOnly_pure : FailsOnly target cause (pure ()) :=
  fun session hfree => Or.inl ⟨session, rfl, hfree⟩

lemma failsOnly_bind {first : Emit Unit} {second : Unit → Emit Unit}
    (hfirst : FailsOnly target cause first) (hsecond : FailsOnly target cause (second ())) :
    FailsOnly target cause (first >>= second) := by
  intro session hfree
  rw [Session.perform_bind]
  rcases hfirst session hfree with ⟨later, hperform, hlater⟩ | ⟨e, later, hperform, he⟩
  · rw [hperform]
    exact hsecond later hlater
  · rw [hperform]
    exact Or.inr ⟨e, later, rfl, he⟩

lemma failsOnly_writeLine (line : String) : FailsOnly target cause (writeLine line) := by
  intro session hfree
  obtain ⟨writer, hwrite, hlimit⟩ := Writer.writeLine_of_limit_eq_none hfree.limit line
  rw [Session.perform_writeLine, hwrite]
  exact Or.inl ⟨{ session with writer }, rfl, hlimit, hfree.target⟩

lemma failsOnly_indent : FailsOnly target cause indent :=
  fun _ hfree => Or.inl ⟨_, rfl, hfree.limit, hfree.target⟩

lemma failsOnly_dedent : FailsOnly target cause dedent :=
  fun _ hfree => Or.inl ⟨_, rfl, hfree.limit, hfree.target⟩

lemma failsOnly_setScope (scope : Scope) : FailsOnly target cause (setScope scope) :=
  fun _ hfree => Or.inl ⟨_, rfl, hfree.limit, hfree.target⟩

lemma failsOnly_throw {e : EmitError} (he : cause e) : FailsOnly target cause (throw e) :=
  fun session _ => Or.inr ⟨e, session, rfl, he⟩

/-- What looks at the session looks at a free one. -/
lemma failsOnly_get {next : Session → Emit Unit}
    (h : ∀ session : Session, session.Free target → FailsOnly target cause (next session)) :
    FailsOnly target cause (get >>= next) :=
  fun session hfree => h session hfree session hfree

lemma failsOnly_prologue : FailsOnly target cause prologue := by
  refine failsOnly_bind (failsOnly_setScope []) (failsOnly_get fun session hfree => ?_)
  rw [hfree.target]
  cases target with
  | c =>
    exact failsOnly_bind (failsOnly_writeLine _) (failsOnly_bind (failsOnly_writeLine _)
      (failsOnly_bind (failsOnly_writeLine _) failsOnly_indent))
  | python => exact failsOnly_pure

lemma failsOnly_epilogue : FailsOnly target cause epilogue := by
  refine failsOnly_get fun session hfree => ?_
  rw [hfree.target]
  cases target with
  | c =>
    exact failsOnly_bind (failsOnly_writeLine _)
      (failsOnly_bind failsOnly_dedent (failsOnly_writeLine _))
  | python => exact failsOnly_pure

/-- A statement is refused only where the target cannot express it. -/
lemma failsOnly_statement {s : Statement}
    (hcause : ∀ scope e, target.line scope s = .error e → cause e) :
    FailsOnly target cause (statement s) := by
  refine failsOnly_get fun session hfree => ?_
  rw [hfree.target]
  rcases hline : target.line session.generator.scope s with e | ⟨line, scope⟩
  · exact failsOnly_throw (hcause _ e hline)
  · exact failsOnly_bind (failsOnly_setScope scope) (failsOnly_writeLine line)

lemma failsOnly_statements {program : Program}
    (hcause : ∀ s ∈ program, ∀ scope e, target.line scope s = .error e → cause e) :
    FailsOnly target cause (statements program) := by
  induction program with
  | nil => exact failsOnly_pure
  | cons s rest ih =>
    obtain ⟨hs, hrest⟩ := List.forall_mem_cons.1 hcause
    exact failsOnly_bind (failsOnly_statement hs) (ih hrest)

lemma failsOnly_unit {program : Program}
    (hcause : ∀ s ∈ program, ∀ scope e, target.line scope s = .error e → cause e) :
    FailsOnly target cause (unit program) :=
  failsOnly_bind failsOnly_prologue
    (failsOnly_bind (failsOnly_statements hcause) failsOnly_epilogue)

end Emit

/-- Without a limit a unit is refused for one of its statements. -/
lemma Target.exists_line_of_compile_error {target : Target} {program : Program} {e : EmitError}
    {sink : Sink} (h : target.compile program none = (.error e, sink)) :
    ∃ s ∈ program, ∃ scope, target.line scope s = .error e := by
  have hunit : Emit.FailsOnly target
      (fun e => ∃ s ∈ program, ∃ scope, target.line scope s = .error e) (Emit.unit program) :=
    Emit.failsOnly_unit fun s hs scope e he => ⟨s, hs, scope, he⟩
  rw [Target.compile, Generator.compile] at h
  rcases hunit ⟨.fresh target, .onto (.empty none)⟩ ⟨rfl, rfl⟩ with
    ⟨later, hperform, -⟩ | ⟨e', later, hperform, hcause⟩
  · rw [hperform] at h
    cases h
  · rw [hperform] at h
    cases h
    exact hcause

/-! ## Lines and their meanings -/

section

variable {α β ε : Type} {f : α → Except ε β} {xs : List α}

/-- A list is refused for one of its members. -/
lemma exists_of_mapM_eq_error {e : ε} (h : xs.mapM f = .error e) : ∃ x ∈ xs, f x = .error e := by
  induction xs with
  | nil => cases h
  | cons x rest ih =>
    rw [List.mapM_cons] at h
    obtain hx | ⟨y, -, h⟩ := bind_eq_error_iff.1 h
    · exact ⟨x, List.mem_cons_self, hx⟩
    · obtain hrest | ⟨ys, -, hcons⟩ := bind_eq_error_iff.1 h
      · obtain ⟨x', hmem, hx'⟩ := ih hrest
        exact ⟨x', List.mem_cons_of_mem _ hmem, hx'⟩
      · cases hcons

lemma exists_of_mem_mapM {ys : List β} (h : xs.mapM f = .ok ys) {y : β} (hy : y ∈ ys) :
    ∃ x ∈ xs, f x = .ok y := by
  induction xs generalizing ys with
  | nil =>
    cases h
    cases hy
  | cons x rest ih =>
    rw [List.mapM_cons] at h
    obtain ⟨first, hx, h⟩ := bind_eq_ok_iff.1 h
    obtain ⟨later, hrest, hcons⟩ := bind_eq_ok_iff.1 h
    cases hcons
    rcases List.mem_cons.1 hy with rfl | hy
    · exact ⟨x, List.mem_cons_self, hx⟩
    · obtain ⟨x', hmem, hx'⟩ := ih hrest hy
      exact ⟨x', List.mem_cons_of_mem _ hmem, hx'⟩

end

/-- A line with a meaning is a call, a declaration of one name, or an extended statement, as its
keyword announces. -/
lemma Statement.ofLine_cases {line : Line} {s : Statement} (h : Statement.ofLine line = .ok s) :
    (∃ head args, line.leaves = .identifier head :: args ∧
      Keyword.ofName? head.name = some .call ∧ s = .call head args) ∨
    (∃ head type target, line.leaves = [.identifier head, .identifier target] ∧
      Keyword.ofName? head.name = some (.declaration type) ∧ s = .declaration type target) ∨
    ∃ head form args, line.leaves = .identifier head :: args ∧
      Keyword.ofName? head.name = some (.extended form) ∧
      s = .extended form args head.position := by
  rw [Statement.ofLine] at h
  split at h
  · cases h
  · cases h
  · rename_i head args hleaves
    split at h
    · rename_i hkeyword
      cases h
      exact Or.inl ⟨head, args, hleaves, hkeyword, rfl⟩
    · rename_i type hkeyword
      rw [Statement.ofDeclaration.eq_def] at h
      split at h
      · rename_i target
        cases h
        exact Or.inr (Or.inl ⟨head, type, target, hleaves, hkeyword, rfl⟩)
      · cases h
      · cases h
    · rename_i form hkeyword
      cases h
      exact Or.inr (Or.inr ⟨head, form, args, hleaves, hkeyword, rfl⟩)
    · cases h

/-! ## All causes -/

/-- **What the errors of a compilation arise from.** -/
inductive CompileError.Arises (source : String) (settings : Settings) : CompileError → Prop
  /-- The text has a lexical error. -/
  | lexical {e : LexicalError} (hending : (streamOf source settings).ending = .error e) :
    Arises source settings (.lexical e)
  /-- A line of the text begins with a number. -/
  | misplaced {token : Token} (htoken : token ∈ (streamOf source settings).tokens)
    (hnumber : token.tag = .number) :
    Arises source settings (.structural (.ofToken (.unexpectedToken .name) token))
  /-- The last line of the text has no line end. -/
  | unclosed {last : Token} (hending : (streamOf source settings).ending = .ok last)
    (hclosed : (streamOf source settings).isClosed = false) :
    Arises source settings (.structural (.ofToken .missingNewLine last))
  /-- A line of the text means nothing. -/
  | meaningless {line : Line} {e : MeaningError} (hline : line ∈ (streamOf source settings).tree)
    (hmeaning : Statement.ofLine line = .error e) : Arises source settings (.meaning e)
  /-- The target cannot express what a line of the text means. -/
  | inexpressible {line : Line} {s : Statement} {scope : Scope} {e : EmitError}
    (hline : line ∈ (streamOf source settings).tree) (hmeaning : Statement.ofLine line = .ok s)
    (hexpress : settings.target.line scope s = .error e) : Arises source settings (.emission e)

section

variable {source : String} {settings : Settings}

lemma arises_of_offence? {e : ParseError} (h : (streamOf source settings).offence? = some e) :
    CompileError.Arises source settings (.ofParseError e) := by
  rw [TokenStream.offence?] at h
  split at h
  · rename_i token hmisplaced
    cases h
    have hnumber := List.find?_some hmisplaced
    obtain ⟨line, hline, hhead⟩ := List.mem_filterMap.1 (List.mem_of_find?_eq_some hmisplaced)
    have hmem := (TokenStream.mem_of_mem_lines hline (List.mem_of_mem_head? hhead)).1
    exact .misplaced hmem (by simpa using hnumber)
  · split at h
    · rename_i hending
      cases h
      exact .lexical hending
    · rename_i hending
      split_ifs at h with hclosed
      cases h
      exact .unclosed hending (by simpa using hclosed)

lemma programOf_of_offence? {e : ParseError} (h : (streamOf source settings).offence? = some e) :
    programOf source settings = .error (.ofParseError e) := by
  rw [programOf, treeOf_eq_mapError_reading, TokenStream.reading, h]
  rfl

lemma programOf_of_offence?_eq_none (h : (streamOf source settings).offence? = none) :
    programOf source settings =
      (Program.ofTree (streamOf source settings).tree).mapError .meaning := by
  rw [programOf, treeOf_eq_mapError_reading, TokenStream.reading, h]
  rfl

/-- A text whose statements cannot be found has an offence or a line without meaning. -/
lemma arises_of_programOf_eq_error {e : CompileError} (h : programOf source settings = .error e) :
    e.Arises source settings := by
  rcases hoffence : (streamOf source settings).offence? with _ | e'
  · rw [programOf_of_offence?_eq_none hoffence] at h
    obtain ⟨e', hprogram, rfl⟩ := mapError_eq_error_iff.1 h
    obtain ⟨line, hline, hmeaning⟩ := exists_of_mapM_eq_error hprogram
    exact .meaningless hline hmeaning
  · rw [programOf_of_offence? hoffence] at h
    cases h
    exact arises_of_offence? hoffence

lemma exists_line_of_mem_programOf {program : Program} (h : programOf source settings = .ok program)
    {s : Statement} (hs : s ∈ program) :
    ∃ line ∈ (streamOf source settings).tree, Statement.ofLine line = .ok s := by
  rcases hoffence : (streamOf source settings).offence? with _ | e
  · rw [programOf_of_offence?_eq_none hoffence] at h
    exact exists_of_mem_mapM (mapError_eq_ok_iff.1 h) hs
  · rw [programOf_of_offence? hoffence] at h
    cases h

/-- **Every error of a compilation arises from the text.** -/
lemma arises_of_compile_eq_error {e : CompileError} (h : compile source settings = .error e) :
    e.Arises source settings := by
  rw [compile, compileTo] at h
  rcases hprogram : programOf source settings with e' | program
  · rw [hprogram] at h
    cases h
    exact arises_of_programOf_eq_error hprogram
  · rw [hprogram] at h
    rcases hcompile : settings.target.compile program none with ⟨e' | _, sink⟩
    · simp only [hcompile] at h
      cases h
      obtain ⟨s, hs, scope, hexpress⟩ := Target.exists_line_of_compile_error hcompile
      obtain ⟨line, hline, hmeaning⟩ := exists_line_of_mem_programOf hprogram hs
      exact .inexpressible hline hmeaning hexpress
    · simp only [hcompile] at h
      cases h

end

end Kaomoji
