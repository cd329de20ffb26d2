import Kaomoji.Proofs.Causes

/-!
# Output without a limit

A unit is written by an emission: a computation that carries a generator and a writer, may fail at
any line and keeps what it did before the failure.  Where nothing limits the output, all of this
comes down to one recursion along the statements.  A `Draft` is what that recursion yields: the
lines of the statements up to the first that the target cannot express, the scope behind them, and
how it ended.

`Session.perform_statements` says that performing the statements is putting their draft into place,
and `Generator.compile_unlimited` says the same of whole units: the opening of the target, the lines
of the draft and, if the draft reaches the end, the closing.  Whatever is said later about the text
of a unit, or about the error it is refused with, is said of drafts.
-/

namespace Kaomoji

/-! ## What a line adds -/

namespace Writer

/-- A line as it stands in the output, its newline apart. -/
def indented (indent : Nat) (line : String) : String :=
  if line = "" then "" else String.join (List.replicate indent indentUnit) ++ line

@[simp] lemma indented_zero (line : String) : indented 0 line = line := by
  rw [indented]
  split
  · rename_i hline
    exact hline.symm
  · simp

lemma indented_one {line : String} (h : line ≠ "") : indented 1 line = "    " ++ line := by
  rw [indented, if_neg h]
  rfl

lemma join_linePieces (indent : Nat) (line : String) :
    String.join (linePieces indent line) = indented indent line ++ "\n" := by
  rw [linePieces, indented]
  split
  · rename_i hline
    simp [hline]
  · simp [String.append_assoc]

/-- The writer behind some more lines. -/
def extend (w : Writer) (lines : List String) : Writer :=
  { w with
    sink := { w.sink with text := w.sink.text ++ unlines (lines.map (indented w.indent)) }
    lines := w.lines + lines.length }

@[simp] lemma extend_limit (w : Writer) (lines : List String) :
    (w.extend lines).sink.limit = w.sink.limit := rfl

@[simp] lemma extend_indent (w : Writer) (lines : List String) :
    (w.extend lines).indent = w.indent := rfl

@[simp] lemma extend_nil (w : Writer) : w.extend [] = w := by
  simp [extend]

lemma extend_extend (w : Writer) (first second : List String) :
    (w.extend first).extend second = w.extend (first ++ second) := by
  simp [extend, String.append_assoc, Nat.add_assoc]

end Writer

lemma Sink.write_unlimited (text : String) (pieces : List String) :
    (⟨none, text⟩ : Sink).write pieces = (true, ⟨none, text ++ String.join pieces⟩) := by
  induction pieces generalizing text with
  | nil => simp [write]
  | cons piece rest ih => simp [write, accepts, ih, String.append_assoc]

lemma Writer.writeLine_unlimited {w : Writer} (h : w.sink.limit = none) (line : String) :
    w.writeLine line = (true, w.extend [line]) := by
  obtain ⟨⟨limit, text⟩, indent, lines⟩ := w
  obtain rfl : limit = none := h
  rw [writeLine, Sink.write_unlimited, join_linePieces]
  simp [extend]

/-! ## Drafts -/

/-- What comes of a list of statements: their lines up to the first statement that cannot be
expressed, the scope behind these lines, and the error if there is one. -/
structure Draft where
  lines : List String
  scope : Scope
  result : Except EmitError Unit

/-- **The draft of a list of statements** that is begun with a scope. -/
def Target.draft (target : Target) (scope : Scope) : Program → Draft
  | [] => ⟨[], scope, .ok ()⟩
  | s :: rest =>
    match target.line scope s with
    | .error e => ⟨[], scope, .error e⟩
    | .ok (line, scope) =>
      let later := target.draft scope rest
      { later with lines := line :: later.lines }

namespace Target

variable {target : Target} {scope : Scope} {s : Statement} {program : Program}

lemma draft_cons_error {e : EmitError} (h : target.line scope s = .error e) (rest : Program) :
    target.draft scope (s :: rest) = ⟨[], scope, .error e⟩ := by
  rw [draft, h]

lemma draft_cons_ok {line : String} {later : Scope} (h : target.line scope s = .ok (line, later))
    (rest : Program) :
    target.draft scope (s :: rest) =
      ⟨line :: (target.draft later rest).lines, (target.draft later rest).scope,
        (target.draft later rest).result⟩ := by
  rw [draft, h]

/-- A statement behind a draft without error is expressed in the scope that the draft leaves. -/
lemma draft_concat_of_ok (h : (target.draft scope program).result = .ok ()) (s : Statement) :
    target.draft scope (program ++ [s]) =
      match target.line (target.draft scope program).scope s with
      | .error e => { target.draft scope program with result := .error e }
      | .ok (line, later) => ⟨(target.draft scope program).lines ++ [line], later, .ok ()⟩ := by
  induction program generalizing scope with
  | nil =>
    rcases hline : target.line scope s with e | ⟨line, later⟩
    · simp [draft, hline]
    · simp [draft, hline]
  | cons t rest ih =>
    rcases hline : target.line scope t with e | ⟨line, later⟩
    · rw [draft_cons_error hline] at h
      cases h
    · rw [draft_cons_ok hline] at h
      rw [List.cons_append, draft_cons_ok hline, ih h, draft_cons_ok hline]
      rcases target.line (target.draft later rest).scope s with e | ⟨line', later'⟩ <;> rfl

/-- A draft that ends in an error is the draft of every longer list. -/
lemma draft_append_of_error {e : EmitError} (h : (target.draft scope program).result = .error e)
    (more : Program) : target.draft scope (program ++ more) = target.draft scope program := by
  induction program generalizing scope with
  | nil => cases h
  | cons t rest ih =>
    rcases hline : target.line scope t with e' | ⟨line, later⟩
    · rw [List.cons_append, draft_cons_error hline, draft_cons_error hline]
    · rw [draft_cons_ok hline] at h
      rw [List.cons_append, draft_cons_ok hline, ih h, draft_cons_ok hline]

/-- Where all statements can be expressed, the first of them can. -/
lemma draft_take_of_ok (h : (target.draft scope program).result = .ok ()) (i : Nat) :
    (target.draft scope (program.take i)).result = .ok () := by
  rcases htake : (target.draft scope (program.take i)).result with e | _
  · have hwhole := draft_append_of_error htake (program.drop i)
    rw [List.take_append_drop] at hwhole
    rw [hwhole, htake] at h
    cases h
  · rfl

/-- A draft ends with an error at the first statement that cannot be expressed in the scope behind
the statements before it. -/
lemma draft_result_eq_error_iff {e : EmitError} :
    (target.draft scope program).result = .error e ↔
      ∃ i s, program[i]? = some s ∧ (target.draft scope (program.take i)).result = .ok () ∧
        target.line (target.draft scope (program.take i)).scope s = .error e := by
  induction program generalizing scope with
  | nil => simp [draft]
  | cons t rest ih =>
    rcases hline : target.line scope t with e' | ⟨line, later⟩
    · rw [draft_cons_error hline]
      constructor
      · intro h
        cases h
        exact ⟨0, t, rfl, rfl, hline⟩
      · rintro ⟨i, s, hs, hbefore, herror⟩
        cases i with
        | zero =>
          obtain rfl : t = s := Option.some.inj hs
          cases hline.symm.trans herror
          rfl
        | succ i =>
          rw [List.take_succ_cons, draft_cons_error hline] at hbefore
          cases hbefore
    · rw [draft_cons_ok hline, ih]
      constructor
      · rintro ⟨i, s, hs, hbefore, herror⟩
        refine ⟨i + 1, s, hs, ?_, ?_⟩
        · rwa [List.take_succ_cons, draft_cons_ok hline]
        · rwa [List.take_succ_cons, draft_cons_ok hline]
      · rintro ⟨i, s, hs, hbefore, herror⟩
        cases i with
        | zero =>
          obtain rfl : t = s := Option.some.inj hs
          cases hline.symm.trans herror
        | succ i =>
          rw [List.take_succ_cons, draft_cons_ok hline] at hbefore herror
          exact ⟨i, s, hs, hbefore, herror⟩

/-- In a draft without error the line of a statement is what the target makes of it in the scope
behind the statements before it. -/
lemma exists_line_of_draft_ok (h : (target.draft scope program).result = .ok ()) {i : Nat}
    {s : Statement} (hs : program[i]? = some s) :
    ∃ line later, target.line (target.draft scope (program.take i)).scope s = .ok (line, later) ∧
      (target.draft scope program).lines[i]? = some line ∧
      (target.draft scope (program.take (i + 1))).scope = later := by
  induction program generalizing scope i with
  | nil => cases hs
  | cons t rest ih =>
    rcases hline : target.line scope t with e | ⟨line, later⟩
    · rw [draft_cons_error hline] at h
      cases h
    · rw [draft_cons_ok hline] at h ⊢
      cases i with
      | zero =>
        obtain rfl : t = s := Option.some.inj hs
        refine ⟨line, later, hline, rfl, ?_⟩
        rw [List.take_succ_cons, List.take_zero, draft_cons_ok hline]
        rfl
      | succ i =>
        simp only [List.take_succ_cons, draft_cons_ok hline]
        exact ih h hs

/-- Each statement of a draft without error has its line. -/
lemma length_lines_draft (h : (target.draft scope program).result = .ok ()) :
    (target.draft scope program).lines.length = program.length := by
  induction program generalizing scope with
  | nil => rfl
  | cons s rest ih =>
    rcases hline : target.line scope s with e | ⟨line, later⟩
    · rw [draft_cons_error hline] at h
      cases h
    · rw [draft_cons_ok hline] at h
      rw [draft_cons_ok hline, List.length_cons, ih h, List.length_cons]

/-- The lines of the first statements are the first lines. -/
lemma lines_draft_take (h : (target.draft scope program).result = .ok ()) (i : Nat) :
    (target.draft scope (program.take i)).lines = (target.draft scope program).lines.take i := by
  induction program generalizing scope i with
  | nil => simp [draft]
  | cons s rest ih =>
    rcases hline : target.line scope s with e | ⟨line, later⟩
    · rw [draft_cons_error hline] at h
      cases h
    · rw [draft_cons_ok hline] at h
      cases i with
      | zero => rfl
      | succ i =>
        rw [List.take_succ_cons, draft_cons_ok hline, draft_cons_ok hline, ih h]
        rfl

end Target

/-! ## Performing emissions -/

namespace Session

variable {session : Session}

lemma perform_bind_of_ok {first : Emit Unit} {later : Session}
    (h : session.perform first = (.ok (), later)) (second : Unit → Emit Unit) :
    session.perform (first >>= second) = later.perform (second ()) := by
  rw [perform_bind, h]

lemma perform_bind_of_error {first : Emit Unit} {later : Session} {e : EmitError}
    (h : session.perform first = (.error e, later)) (second : Unit → Emit Unit) :
    session.perform (first >>= second) = (.error e, later) := by
  rw [perform_bind, h]

lemma perform_writeLine_unlimited (h : session.writer.sink.limit = none) (line : String) :
    session.perform (Emit.writeLine line) =
      (.ok (), { session with writer := session.writer.extend [line] }) := by
  rw [perform_writeLine, Writer.writeLine_unlimited h]

@[simp] lemma perform_indent (session : Session) :
    session.perform Emit.indent = (.ok (), { session with writer := session.writer.deeper }) := rfl

@[simp] lemma perform_dedent (session : Session) :
    session.perform Emit.dedent = (.ok (), { session with writer := session.writer.shallower }) :=
  rfl

/-- A line before something else. -/
lemma perform_writeLine_bind (h : session.writer.sink.limit = none) (line : String)
    (next : Unit → Emit Unit) :
    session.perform (Emit.writeLine line >>= next) =
      { session with writer := session.writer.extend [line] }.perform (next ()) := by
  rw [perform_bind, perform_writeLine_unlimited h]

/-- The session behind a draft. -/
def put (session : Session) (draft : Draft) : Session :=
  ⟨{ session.generator with scope := draft.scope }, session.writer.extend draft.lines⟩

/-- **Performing statements puts their draft into place.** -/
theorem perform_statements (session : Session) (h : session.writer.sink.limit = none)
    (program : Program) :
    session.perform (Emit.statements program) =
      ((session.generator.target.draft session.generator.scope program).result,
        session.put (session.generator.target.draft session.generator.scope program)) := by
  induction program generalizing session with
  | nil => simp [Emit.statements, Target.draft, put]
  | cons s rest ih =>
    show session.perform (Emit.statement s >>= fun _ => Emit.statements rest) = _
    rw [perform_bind, perform_statement]
    rcases hline : session.generator.target.line session.generator.scope s with e | ⟨line, later⟩
    · rw [Target.draft_cons_error hline]
      simp [put]
    · rw [Target.draft_cons_ok hline]
      dsimp only
      rw [perform_writeLine_unlimited (by simpa using h)]
      dsimp only
      rw [ih _ (by simpa using h)]
      simp [put, Writer.extend_extend]

end Session

/-! ## Whole units -/

namespace Target

/-- The lines before the statements. -/
def opening : Target → List String
  | c => ["#include <stdio.h>", "", "int main(int argc, char** argv) \x7b"]
  | python => []

/-- The lines behind the statements, as they stand in the output. -/
def closing : Target → List String
  | c => ["    return 0;", "\x7d"]
  | python => []

/-- The indentation of statements. -/
def depth : Target → Nat
  | c => 1
  | python => 0

/-- The lines that a draft adds to the output; there is no closing behind an error. -/
def unitLines (target : Target) (draft : Draft) : List String :=
  target.opening ++ draft.lines.map (Writer.indented target.depth) ++
    match draft.result with
    | .ok () => target.closing
    | .error _ => []

end Target

namespace Generator

/-- The session in which the first statement of a unit is written. -/
def opened (generator : Generator) (text : String) : Session where
  generator := ⟨generator.target, []⟩
  writer :=
    { sink := ⟨none, text ++ unlines generator.target.opening⟩
      indent := generator.target.depth
      lines := generator.target.opening.length }

lemma perform_prologue (generator : Generator) (text : String) :
    Session.perform ⟨generator, .onto ⟨none, text⟩⟩ Emit.prologue =
      (.ok (), generator.opened text) := by
  obtain ⟨target, scope⟩ := generator
  cases target with
  | python =>
    show ((.ok (), ⟨⟨.python, []⟩, .onto ⟨none, text⟩⟩) : Except EmitError Unit × Session) = _
    simp [opened, Target.opening, Target.depth, Writer.onto]
  | c =>
    show Session.perform ⟨⟨.c, []⟩, .onto ⟨none, text⟩⟩
      (Emit.writeLine "#include <stdio.h>" >>= fun _ => Emit.writeLine "" >>= fun _ =>
        Emit.writeLine "int main(int argc, char** argv) \x7b" >>= fun _ => Emit.indent) = _
    rw [Session.perform_writeLine_bind rfl, Session.perform_writeLine_bind rfl,
      Session.perform_writeLine_bind rfl, Session.perform_indent]
    simp [opened, Target.opening, Target.depth, Writer.extend, Writer.onto, Writer.deeper,
      Writer.indented, String.append_assoc]

/-- The session behind the statements of a unit. -/
lemma perform_prologue_statements (generator : Generator) (text : String) (program : Program) :
    Session.perform ⟨generator, .onto ⟨none, text⟩⟩
        (do Emit.prologue; Emit.statements program) =
      ((generator.target.draft [] program).result,
        (generator.opened text).put (generator.target.draft [] program)) := by
  rw [Session.perform_bind_of_ok (perform_prologue generator text)]
  exact Session.perform_statements (generator.opened text) rfl program

/-- The closing is written where the statements were, and stands further out. -/
lemma exists_perform_epilogue (session : Session) (hlimit : session.writer.sink.limit = none)
    (hindent : session.writer.indent = session.generator.target.depth) :
    ∃ later, session.perform Emit.epilogue = (.ok (), later) ∧
      later.generator = session.generator ∧
      later.writer.sink =
        ⟨none, session.writer.sink.text ++ unlines session.generator.target.closing⟩ ∧
      later.writer.lines = session.writer.lines + session.generator.target.closing.length := by
  obtain ⟨⟨target, scope⟩, ⟨⟨limit, text⟩, indent, lines⟩⟩ := session
  obtain rfl : limit = none := hlimit
  obtain rfl : indent = target.depth := hindent
  cases target with
  | python =>
    refine ⟨_, rfl, rfl, ?_, rfl⟩
    simp [Target.closing]
  | c =>
    refine ⟨⟨⟨.c, scope⟩, ⟨⟨none, text ++ unlines (Target.closing .c)⟩, 0, lines + 2⟩⟩, ?_, rfl, rfl,
      rfl⟩
    show Session.perform ⟨⟨.c, scope⟩, ⟨⟨none, text⟩, 1, lines⟩⟩
      (Emit.writeLine "return 0;" >>= fun _ => Emit.dedent >>= fun _ => Emit.writeLine "\x7d") = _
    rw [Session.perform_writeLine_bind rfl, Session.perform_bind_of_ok (Session.perform_dedent _),
      Session.perform_writeLine_unlimited rfl]
    simp [Target.closing, Writer.extend, Writer.shallower, Writer.indented,
      Writer.indentUnit, String.append_assoc]

/-- **A unit is its draft between opening and closing.** -/
theorem exists_perform_unit (generator : Generator) (text : String) (program : Program) :
    ∃ later, Session.perform ⟨generator, .onto ⟨none, text⟩⟩ (Emit.unit program) =
        ((generator.target.draft [] program).result, later) ∧
      later.generator = ⟨generator.target, (generator.target.draft [] program).scope⟩ ∧
      later.writer.sink =
        ⟨none, text ++ unlines (generator.target.unitLines (generator.target.draft [] program))⟩ ∧
      later.writer.lines =
        (generator.target.unitLines (generator.target.draft [] program)).length := by
  have hstatements := Session.perform_statements (generator.opened text) rfl program
  show ∃ later, Session.perform ⟨generator, .onto ⟨none, text⟩⟩
    (Emit.prologue >>= fun _ => Emit.statements program >>= fun _ => Emit.epilogue) = _ ∧ _
  rw [Session.perform_bind_of_ok (perform_prologue generator text)]
  rcases hresult : (generator.target.draft [] program).result with e | _
  · rw [Session.perform_bind_of_error (hstatements.trans (congrArg (·, _) hresult))]
    refine ⟨_, rfl, rfl, ?_, ?_⟩
    · simp [opened, Session.put, Writer.extend, Target.unitLines, hresult, String.append_assoc]
    · simp [opened, Session.put, Writer.extend, Target.unitLines, hresult]
  · rw [Session.perform_bind_of_ok (hstatements.trans (congrArg (·, _) hresult))]
    obtain ⟨later, hlater, hgenerator, hsink, hlines⟩ := exists_perform_epilogue
      ((generator.opened text).put (generator.target.draft [] program)) rfl rfl
    refine ⟨later, hlater, hgenerator, hsink.trans ?_, hlines.trans ?_⟩
    · simp [opened, Session.put, Writer.extend, Target.unitLines, hresult, String.append_assoc]
    · simp [opened, Session.put, Writer.extend, Target.unitLines, hresult, Nat.add_assoc]

/-- What compiling a unit returns and leaves behind. -/
theorem compile_unlimited (generator : Generator) (program : Program) (text : String) :
    generator.compile program ⟨none, text⟩ =
      ((generator.target.draft [] program).result,
        ⟨generator.target, (generator.target.draft [] program).scope⟩,
        ⟨none, text ++
          unlines (generator.target.unitLines (generator.target.draft [] program))⟩) := by
  obtain ⟨later, hperform, hgenerator, hsink, -⟩ := exists_perform_unit generator text program
  rw [compile, hperform]
  dsimp only
  rw [hgenerator, hsink]

end Generator

/-- A text compiles to the unit of the statements that it means. -/
lemma compile_eq_ok_iff {source : String} {settings : Settings} {output : String} :
    compile source settings = .ok output ↔
      ∃ program, programOf source settings = .ok program ∧
        (settings.target.draft [] program).result = .ok () ∧
        output = unlines (settings.target.unitLines (settings.target.draft [] program)) := by
  rw [compile, compileTo]
  rcases programOf source settings with e | program
  · simp [Except.map]
  · have hunit := Generator.compile_unlimited (.fresh settings.target) program ""
    simp only [Target.compile, Sink.empty, hunit]
    rcases hresult : (settings.target.draft [] program).result with e | _
    · simp [Generator.fresh, hresult, Except.map, Except.mapError]
    · simp [Generator.fresh, hresult, Except.map, Except.mapError, eq_comm]

end Kaomoji
