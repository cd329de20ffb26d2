import Kaomoji.Proofs.LimitedOutput

/-!
# Using a generator again

A generator keeps the variables that were declared since a unit was begun, and what is written apart
from whole units fills that table as well: a statement here, a prologue whose second line is refused
there.  None of it reaches the next unit.  Two facts make this so.  Whatever is asked of a
generator, and however that ends, its target stays what it was (`target_after`); and a unit forgets
the table before it writes anything, so that of the generator it depends on the target alone
(`compile_congr`).
-/

namespace Kaomoji

namespace Generator

/-- What can be asked of a generator.  Whatever it writes apart from whole units goes to a writer of
the caller, who may have changed its sink and its indentation in the meantime. -/
inductive Request where
  | prologue (writer : Writer)
  | epilogue (writer : Writer)
  | statement (s : Statement) (writer : Writer)
  | statements (program : Program) (writer : Writer)
  /-- The word of a leaf, for which nothing is written. -/
  | word (leaf : Leaf)
  | unit (program : Program) (sink : Sink)

/-- The generator that a request leaves behind, whether it succeeds or fails. -/
def afterRequest (generator : Generator) : Request → Generator
  | .prologue writer => (Session.perform ⟨generator, writer⟩ Emit.prologue).2.generator
  | .epilogue writer => (Session.perform ⟨generator, writer⟩ Emit.epilogue).2.generator
  | .statement s writer => (Session.perform ⟨generator, writer⟩ (Emit.statement s)).2.generator
  | .statements program writer =>
    (Session.perform ⟨generator, writer⟩ (Emit.statements program)).2.generator
  | .word _ => generator
  | .unit program sink => (generator.compile program sink).2.1

/-- The generator behind a history of requests. -/
def after (generator : Generator) (history : List Request) : Generator :=
  history.foldl afterRequest generator

/-! ## The target stays -/

/-- An emission that sends pieces keeps the target, whether they are taken or not. -/
lemma target_perform {emission : Emit Unit} {generator later : Generator} (writer : Writer)
    {pieces : List String} {result : Except EmitError Unit} {laterIndent : Nat}
    (h : emission.Sends generator writer.indent pieces result later laterIndent) :
    (Session.perform ⟨generator, writer⟩ emission).2.generator.target = generator.target := by
  obtain ⟨sink, indent, lines⟩ := writer
  cases htaken : (sink.write pieces).1 with
  | true =>
    obtain ⟨lines', hperform⟩ := h.taken sink lines htaken
    rw [hperform]
    exact h.target_eq
  | false =>
    obtain ⟨session, hperform, -, htarget⟩ := h.refused sink lines htaken
    rw [hperform]
    exact htarget

lemma target_afterRequest (generator : Generator) (request : Request) :
    (generator.afterRequest request).target = generator.target := by
  cases request with
  | prologue writer => exact target_perform writer (Emit.sends_prologue generator writer.indent)
  | epilogue writer => exact target_perform writer (Emit.sends_epilogue generator writer.indent)
  | statement s writer =>
    have hs := Emit.sends_statement generator writer.indent s
    rcases hline : generator.target.line generator.scope s with e | ⟨line, scope⟩
    · rw [hline] at hs
      exact target_perform writer hs
    · rw [hline] at hs
      exact target_perform writer hs
  | statements program writer =>
    exact target_perform writer (Emit.sends_statements generator writer.indent program)
  | word leaf => rfl
  | unit program sink =>
    obtain ⟨later, laterIndent, hunit⟩ := Emit.exists_sends_unit generator program
    exact target_perform (.onto sink) hunit

/-- No history changes the target. -/
lemma target_after (generator : Generator) (history : List Request) :
    (generator.after history).target = generator.target := by
  induction history generalizing generator with
  | nil => rfl
  | cons request rest ih => exact (ih _).trans (target_afterRequest generator request)

/-! ## The table is forgotten -/

/-- A unit is begun with no variable declared. -/
lemma perform_unit_eq (generator : Generator) (writer : Writer) (program : Program) :
    Session.perform ⟨generator, writer⟩ (Emit.unit program) =
      Session.perform ⟨.fresh generator.target, writer⟩ (Emit.unit program) := rfl

lemma compile_congr {generator other : Generator} (h : generator.target = other.target)
    (program : Program) (sink : Sink) :
    generator.compile program sink = other.compile program sink := by
  rw [compile, compile, perform_unit_eq generator, perform_unit_eq other, h]

/-- **A generator carries nothing from one unit to the next.**  Whatever was asked of it before, a
unit ends and is written as by a fresh generator, on every sink. -/
theorem compile_after_history (target : Target) (history : List Request) (program : Program)
    (sink : Sink) :
    ((Generator.fresh target).after history).compile program sink =
      (Generator.fresh target).compile program sink :=
  compile_congr (target_after _ history) program sink

end Generator

end Kaomoji
