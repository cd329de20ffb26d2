import Kaomoji.Target.Rendering
import Kaomoji.Target.Sink

/-!
# Writing units

A generator writes units in one target language.  It remembers the variables declared so far and
forgets them when it begins a unit, so one generator can write many units one after another.

Writing is done in the monad `Emit`, which carries the generator and the writer.  Both keep what
happened before an error: lines already written stay written, and a declaration counts from the
moment its line is begun, even if the sink then refuses the line.
-/

namespace Kaomoji

/-- What writes units in a target language. -/
structure Generator where
  target : Target
  /-- The variables declared since the unit was begun. -/
  scope : Scope
deriving DecidableEq

/-- A generator that has written nothing yet. -/
def Generator.fresh (target : Target) : Generator := ⟨target, []⟩

/-- A generator at work on a text. -/
structure Session where
  generator : Generator
  writer : Writer
deriving DecidableEq

/-- Writing that may fail and whose effects before the failure stay. -/
abbrev Emit := ExceptT EmitError (StateM Session)

namespace Emit

/-- Writes one line; what a refused line leaves in the sink stays there. -/
def writeLine (line : String) : Emit Unit := ExceptT.mk fun session =>
  match session.writer.writeLine line with
  | (true, writer) => (.ok (), { session with writer })
  | (false, writer) => (.error .refusedWrite, { session with writer })

/-- Indents the lines that follow by one more unit. -/
def indent : Emit Unit := modify fun session => { session with writer := session.writer.deeper }

/-- Indents the lines that follow by one unit less. -/
def dedent : Emit Unit := modify fun session => { session with writer := session.writer.shallower }

/-- Replaces the declared variables. -/
def setScope (scope : Scope) : Emit Unit :=
  modify fun session => { session with generator := { session.generator with scope } }

/-- Begins a unit: no variable is declared, and a C program opens its main function. -/
def prologue : Emit Unit := do
  setScope []
  match (← get).generator.target with
  | .python => pure ()
  | .c =>
    writeLine "#include <stdio.h>"
    writeLine ""
    writeLine "int main(int argc, char** argv) \x7b"
    indent

/-- Ends a unit: a C program closes its main function. -/
def epilogue : Emit Unit := do
  match (← get).generator.target with
  | .python => pure ()
  | .c =>
    writeLine "return 0;"
    dedent
    writeLine "\x7d"

/-- Writes the line of a statement; what the statement declares is declared first. -/
def statement (s : Statement) : Emit Unit := do
  let session ← get
  match session.generator.target.line session.generator.scope s with
  | .error e => throw e
  | .ok (line, scope) =>
    setScope scope
    writeLine line

/-- Writes the lines of statements in order. -/
def statements (program : Program) : Emit Unit := program.forM statement

/-- Writes a whole unit. -/
def unit (program : Program) : Emit Unit := do
  prologue
  statements program
  epilogue

end Emit

/-! ## Performing emissions -/

/-- Runs an emission; what follows is given also after an error. -/
def Session.perform (session : Session) (emission : Emit Unit) : Except EmitError Unit × Session :=
  emission.run.run session

namespace Session

@[simp] theorem perform_pure (session : Session) : session.perform (pure ()) = (.ok (), session) :=
  rfl

/-- Of two emissions in sequence the second is performed only where the first succeeded, and then
on what the first left behind. -/
theorem perform_bind (session : Session) (first : Emit Unit) (second : Unit → Emit Unit) :
    session.perform (first >>= second) =
      match session.perform first with
      | (.ok (), later) => later.perform (second ())
      | (.error e, later) => (.error e, later) := by
  show ExceptT.bindCont second (first session).1 (first session).2 =
    match first session with
    | (.ok (), later) => later.perform (second ())
    | (.error e, later) => (.error e, later)
  rcases first session with ⟨_ | _, later⟩ <;> rfl

/-- Writing a line changes only the writer, and it fails exactly where the line is not taken. -/
theorem perform_writeLine (session : Session) (line : String) :
    session.perform (Emit.writeLine line) =
      match session.writer.writeLine line with
      | (true, writer) => (.ok (), { session with writer })
      | (false, writer) => (.error .refusedWrite, { session with writer }) := rfl

/-- A statement that the target cannot express changes nothing; any other puts its scope in place
before its line is written. -/
theorem perform_statement (session : Session) (s : Statement) :
    session.perform (Emit.statement s) =
      match session.generator.target.line session.generator.scope s with
      | .error e => (.error e, session)
      | .ok (line, scope) =>
        { session with generator := { session.generator with scope } }.perform
          (Emit.writeLine line) := by
  show Session.perform session
      (match session.generator.target.line session.generator.scope s with
      | .error e => throw e
      | .ok (line, scope) => do Emit.setScope scope; Emit.writeLine line) = _
  rcases session.generator.target.line session.generator.scope s with e | ⟨line, scope⟩ <;> rfl

end Session

/-! ## Whole units -/

/-- Writes a whole unit to a sink. -/
def Generator.compile (generator : Generator) (program : Program) (sink : Sink) :
    Except EmitError Unit × Generator × Sink :=
  let (result, session) := Session.perform ⟨generator, .onto sink⟩ (Emit.unit program)
  (result, session.generator, session.writer.sink)

namespace Target

/-- Writes a unit with a generator of its own to a sink with a limit. -/
def compile (target : Target) (program : Program) (limit : Option Nat) :
    Except EmitError Unit × Sink :=
  let (result, _, sink) := (Generator.fresh target).compile program (.empty limit)
  (result, sink)

/-- The text of a unit. -/
def generate (target : Target) (program : Program) : Except EmitError String :=
  let (result, sink) := target.compile program none
  result.map fun _ => sink.text

end Target

end Kaomoji
