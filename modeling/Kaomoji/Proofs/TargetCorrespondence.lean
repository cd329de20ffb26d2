import Kaomoji.Proofs.CAcceptance

/-!
# The two targets side by side

The targets are written apart: C keeps a table of variables, computes a format string for each call
and indents its statements, and Python does nothing of the kind.  Nevertheless the Python unit of a
program can be read off its C unit, and what Python refuses C refuses as well, for the same reason
unless a call stopped it earlier.

All of this holds statement by statement (`Target.exists_pythonLine_of_cLine`,
`Target.cLine_eq_error_of_pythonLine` and `Target.exists_call_of_cLine_eq_error`), and
`targets_correspond` carries it over to units.
-/

namespace Kaomoji

/-! ## How a unit ends and what it consists of -/

/-- **The unit is refused at its statement `i`**: what stands before that statement is written as a
unit of its own, and with it the unit is refused. -/
structure Generator.RejectsAt (generator : Generator) (sink : Sink) (program : Program) (i : Nat)
    (e : EmitError) : Prop where
  before : (generator.compile (program.take i) sink).1 = .ok ()
  through : (generator.compile (program.take (i + 1)) sink).1 = .error e
  whole : (generator.compile program sink).1 = .error e

/-- **The unit goes out as an opening, one line for each statement, and a closing.**  A writer
counts the lines that are written to it, so the text and the count behind each statement tell what
the statement has written, whatever characters its line holds. -/
structure Generator.Writes (generator : Generator) (sink : Sink) (program : Program)
    (opening lines closing : List String) : Prop where
  length_eq : lines.length = program.length
  statements (i : Nat) (h : i ≤ program.length) : ∃ later,
    Session.perform ⟨generator, .onto sink⟩
      (do Emit.prologue; Emit.statements (program.take i)) = (.ok (), later) ∧
    later.writer.sink.text = sink.text ++ unlines (opening ++ lines.take i) ∧
    later.writer.lines = opening.length + i
  unit : ∃ later,
    Session.perform ⟨generator, .onto sink⟩ (Emit.unit program) = (.ok (), later) ∧
    later.writer.sink.text = sink.text ++ unlines (opening ++ lines ++ closing) ∧
    later.writer.lines = opening.length + program.length + closing.length
  text_eq : (generator.compile program sink).2.2.text =
    sink.text ++ unlines (opening ++ lines ++ closing)

/-- The lines that Python and C have for one statement. -/
def Statement.Corresponds (python c : String) : Statement → Prop
  | .declaration _ _ => c = "    int " ++ python ++ ";"
  | .extended _ _ _ => c = "    " ++ python ++ ";"
  | .call _ args => ∃ list, python = "print(" ++ list ++ ")" ∧
      c = "    printf(" ++
        ("\"" ++ " ".intercalate (List.replicate args.length "%d") ++ "\\n\"") ++
        (if args = [] then "" else ", " ++ list) ++ ");"

/-! ## One statement -/

namespace Target

variable {scope : Scope} {earlier : Program} {s : Statement}

lemma pythonLine_call {callee : Identifier} (h : callee.name = "UwU") (args : List Leaf) :
    pythonLine (.call callee args) = .ok ("print(" ++ argumentList args ++ ")") := by
  rw [pythonLine, h]
  rfl

lemma pythonLine_call_of_ne {callee : Identifier} (h : callee.name ≠ "UwU") (args : List Leaf) :
    pythonLine (.call callee args) = .error (.unknownCall callee.name callee.position) := by
  have hlookup : pythonCalls.lookup callee.name = none := by
    rw [pythonCalls, List.lookup_cons, beq_false_of_ne h, List.lookup_nil]
  rw [pythonLine, hlookup]

lemma line_python_eq_error_iff {e : EmitError} :
    python.line scope s = .error e ↔ pythonLine s = .error e := by
  show (·, scope) <$> pythonLine s = .error e ↔ _
  rcases pythonLine s with e' | text <;> simp [Functor.map, Except.map]

lemma line_python_eq_ok_iff {line : String} {later : Scope} :
    python.line scope s = .ok (line, later) ↔ pythonLine s = .ok line ∧ scope = later := by
  show (·, scope) <$> pythonLine s = .ok (line, later) ↔ _
  rcases pythonLine s with e | text <;> simp [Functor.map, Except.map]

/-- What Python cannot express, C cannot express either, whatever is declared. -/
lemma cLine_eq_error_of_pythonLine {e : EmitError} (h : pythonLine s = .error e) (scope : Scope) :
    cLine scope s = .error e := by
  cases s with
  | call callee args =>
    by_cases hcallee : callee.name = "UwU"
    · rw [pythonLine_call hcallee] at h
      cases h
    · rw [pythonLine_call_of_ne hcallee] at h
      cases h
      exact cLine_call_of_ne hcallee args
  | declaration type target => cases h
  | extended form args position =>
    cases form with
    | sum =>
      obtain h | ⟨_, _, ⟨⟩⟩ := bind_eq_error_iff.1 h
      exact bind_eq_error_iff.2 (Or.inl h)

/-- Where C alone cannot express a statement, the statement is a call with an argument that has no
placeholder. -/
lemma exists_call_of_cLine_eq_error (hscope : scope.Models earlier) {e : EmitError}
    (h : cLine scope s = .error e) {line : String} (hpython : pythonLine s = .ok line) :
    ∃ callee args, s = .call callee args ∧
      ((∃ type position, e = .noFormat type position) ∨
        ∃ name position, e = .unknownVariable name position) := by
  cases (cLine_eq_error_iff hscope).1 h with
  | callee hcallee =>
    rw [pythonLine_call_of_ne hcallee] at hpython
    cases hpython
  | argument _ _ harg =>
    refine ⟨_, _, rfl, ?_⟩
    cases harg with
    | undeclared _ => exact Or.inr ⟨_, _, rfl⟩
    | fractional _ => exact Or.inl ⟨_, _, rfl⟩
  | arity hlength =>
    obtain ⟨⟨target, value⟩, hoperands, -⟩ := bind_eq_ok_iff.1 hpython
    rw [sumOperands_eq_ok_iff.1 hoperands] at hlength
    exact absurd rfl hlength
  | target => cases hpython

/-- **What C expresses, Python expresses**, and the two lines correspond. -/
lemma exists_pythonLine_of_cLine (hscope : scope.Models earlier) {line : String} {later : Scope}
    (h : cLine scope s = .ok (line, later)) :
    ∃ text, pythonLine s = .ok text ∧ s.Corresponds text (Writer.indented 1 line) := by
  rcases cLine_cases h with ⟨callee, args, placeholders, rfl, hcallee, hplaceholders, rfl, -⟩ |
    ⟨type, target, rfl, rfl, -⟩ | ⟨target, value, position, rfl, rfl, -⟩
  · obtain ⟨rfl, -⟩ := (placeholders_eq_ok_iff hscope).1 hplaceholders
    refine ⟨_, pythonLine_call hcallee args, argumentList args, rfl, ?_⟩
    rw [Writer.indented_one (by simp)]
    have hindent : "    printf(" = "    " ++ "printf(" := rfl
    cases args with
    | nil => rfl
    | cons arg rest =>
      simp only [hindent, formatString, argumentList, List.map_cons, String.intercalate_cons_cons,
        List.length_cons, List.cons_ne_nil, reduceIte, String.append_assoc]
  · refine ⟨target.word ++ " = 0", ?_, ?_⟩
    · cases type
      show Except.ok (target.word ++ " = " ++ "0") = .ok (target.word ++ (" = " ++ "0"))
      rw [String.append_assoc]
    · rw [Writer.indented_one (by simp)]
      show "    " ++ ("int " ++ (target.word ++ " = 0") ++ ";") =
        ("    " ++ "int ") ++ (target.word ++ " = 0") ++ ";"
      simp only [String.append_assoc]
  · refine ⟨target.word ++ " += " ++ value.word, rfl, ?_⟩
    rw [Writer.indented_one (by simp)]
    show "    " ++ (target.word ++ " += " ++ value.word ++ ";") =
      "    " ++ (target.word ++ " += " ++ value.word) ++ ";"
    simp only [String.append_assoc]

end Target

/-! ## Whole units -/

namespace Generator

variable {program : Program} {i : Nat} {e : EmitError}

/-- A unit is refused at the statement at which its draft ends. -/
lemma rejectsAt_iff (generator : Generator) (text : String) :
    generator.RejectsAt ⟨none, text⟩ program i e ↔
      ∃ s, program[i]? = some s ∧ (generator.target.draft [] (program.take i)).result = .ok () ∧
        generator.target.line (generator.target.draft [] (program.take i)).scope s = .error e := by
  constructor
  · rintro ⟨hbefore, hthrough, -⟩
    simp only [compile_unlimited] at hbefore hthrough
    obtain hi | hi := Nat.lt_or_ge i program.length
    · refine ⟨program[i], List.getElem?_eq_getElem hi, hbefore, ?_⟩
      rw [List.take_succ_eq_append_getElem hi, Target.draft_concat_of_ok hbefore] at hthrough
      rcases hline : generator.target.line _ program[i] with e' | ⟨line, later⟩
      · rw [hline] at hthrough
        simpa using hthrough
      · rw [hline] at hthrough
        cases hthrough
    · rw [List.take_of_length_le hi] at hbefore
      rw [List.take_of_length_le (by omega), hbefore] at hthrough
      cases hthrough
  · rintro ⟨s, hs, hbefore, hline⟩
    refine ⟨?_, ?_, ?_⟩
    · rw [compile_unlimited]
      exact hbefore
    · rw [compile_unlimited]
      have htake : (program.take (i + 1)).take i = program.take i := by
        rw [List.take_take, Nat.min_eq_left (Nat.le_succ i)]
      refine Target.draft_result_eq_error_iff.2 ⟨i, s, ?_, ?_, ?_⟩
      · rw [List.getElem?_take, if_pos (Nat.lt_succ_self i), hs]
      · rw [htake, hbefore]
      · rw [htake, hline]
    · rw [compile_unlimited]
      exact Target.draft_result_eq_error_iff.2 ⟨i, s, hs, hbefore, hline⟩

lemma exists_rejectsAt (generator : Generator) (text : String)
    (h : (generator.compile program ⟨none, text⟩).1 = .error e) :
    ∃ i, generator.RejectsAt ⟨none, text⟩ program i e := by
  rw [compile_unlimited] at h
  obtain ⟨i, s, hs, hbefore, hline⟩ := Target.draft_result_eq_error_iff.1 h
  exact ⟨i, (rejectsAt_iff generator text).2 ⟨s, hs, hbefore, hline⟩⟩

/-- A unit without error goes out line by line. -/
lemma writes_of_draft_ok (generator : Generator) (text : String)
    (h : (generator.target.draft [] program).result = .ok ()) :
    generator.Writes ⟨none, text⟩ program generator.target.opening
      ((generator.target.draft [] program).lines.map (Writer.indented generator.target.depth))
      generator.target.closing := by
  refine ⟨?_, ?_, ?_, ?_⟩
  · rw [List.length_map, Target.length_lines_draft h]
  · intro i hi
    have htake := Target.draft_take_of_ok h i
    have hperform := perform_prologue_statements generator text (program.take i)
    refine ⟨_, hperform.trans (by rw [htake]), ?_, ?_⟩
    · simp [opened, Session.put, Writer.extend, Target.lines_draft_take h, List.map_take,
        String.append_assoc]
    · simp [opened, Session.put, Writer.extend, Target.length_lines_draft htake, hi]
  · obtain ⟨later, hperform, -, hsink, hlines⟩ := exists_perform_unit generator text program
    refine ⟨later, ?_, ?_, ?_⟩
    · rw [hperform, h]
    · rw [hsink]
      simp [Target.unitLines, h]
    · rw [hlines]
      simp [Target.unitLines, h, Target.length_lines_draft h, Nat.add_assoc]
  · rw [compile_unlimited]
    simp [Target.unitLines, h]

end Generator

/-- What C accepts, Python accepts. -/
lemma Target.draft_python_ok {program : Program} (h : (Target.c.draft [] program).result = .ok ()) :
    (Target.python.draft [] program).result = .ok () := by
  rcases hresult : (Target.python.draft [] program).result with e | _
  · obtain ⟨i, s, hs, -, herror⟩ := draft_result_eq_error_iff.1 hresult
    obtain ⟨line, later, hline, -, -⟩ := exists_line_of_draft_ok h hs
    have hc := cLine_eq_error_of_pythonLine (line_python_eq_error_iff.1 herror)
      (c.draft [] (program.take i)).scope
    cases hc.symm.trans hline
  · rfl

/-- Where both targets accept, the lines of each statement correspond. -/
lemma Target.exists_corresponding_lines {program : Program}
    (h : (Target.c.draft [] program).result = .ok ()) {i : Nat} {s : Statement}
    (hs : program[i]? = some s) :
    ∃ text line, (Target.python.draft [] program).lines[i]? = some text ∧
      (Target.c.draft [] program).lines[i]? = some line ∧
      s.Corresponds text (Writer.indented 1 line) := by
  obtain ⟨line, later, hline, hindex, -⟩ := exists_line_of_draft_ok h hs
  obtain ⟨text, htext, hcorresponds⟩ :=
    exists_pythonLine_of_cLine (Scope.models_draft (draft_take_of_ok h i)) hline
  obtain ⟨text', scope', hline', hindex', -⟩ := exists_line_of_draft_ok (draft_python_ok h) hs
  obtain ⟨hpython, -⟩ := line_python_eq_ok_iff.1 hline'
  cases htext.symm.trans hpython
  exact ⟨text, line, hindex', hindex, hcorresponds⟩

/-- Where Python refuses a statement, C has refused it or a call before it. -/
lemma Generator.RejectsAt.of_python {program : Program} {i : Nat} {e : EmitError} {scope : Scope}
    {text : String} (h : Generator.RejectsAt ⟨.python, scope⟩ ⟨none, text⟩ program i e)
    (generator : Generator) (hc : generator.target = .c) (text' : String) :
    generator.RejectsAt ⟨none, text'⟩ program i e ∨
      ∃ j callee args e', j < i ∧ program[j]? = some (.call callee args) ∧
        generator.RejectsAt ⟨none, text'⟩ program j e' ∧
        ((∃ type position, e' = .noFormat type position) ∨
          ∃ name position, e' = .unknownVariable name position) := by
  obtain ⟨s, hs, hbefore, hline⟩ := (rejectsAt_iff _ text).1 h
  rw [Target.line_python_eq_error_iff] at hline
  simp only [rejectsAt_iff, hc]
  rcases hresult : (Target.c.draft [] (program.take i)).result with e' | _
  · -- C stopped at an earlier statement, which Python has written
    right
    obtain ⟨j, t, ht, hdraft, hline'⟩ := Target.draft_result_eq_error_iff.1 hresult
    obtain ⟨text, _, hpython, -, -⟩ := Target.exists_line_of_draft_ok hbefore ht
    have hj : j < i := by
      by_contra hj
      simp [hj] at ht
    rw [List.take_take, Nat.min_eq_left hj.le] at hdraft hline'
    rw [List.getElem?_take, if_pos hj] at ht
    obtain ⟨callee, args, rfl, herror⟩ := Target.exists_call_of_cLine_eq_error
      (Scope.models_draft hdraft) hline' (Target.line_python_eq_ok_iff.1 hpython).1
    exact ⟨j, callee, args, e', hj, ht, ⟨_, ht, hdraft, hline'⟩, herror⟩
  · left
    exact ⟨s, hs, rfl, Target.cLine_eq_error_of_pythonLine hline _⟩

/-- **The two targets correspond.**  What C accepts, Python accepts.  Where Python refuses a unit at
one of its statements, C refuses it at the same statement with the same error, or at an earlier call
whose argument it cannot print.  Where C accepts, both units have one line for each statement, and
the lines of each statement correspond. -/
theorem targets_correspond (program : Program) (pythonScope cScope : Scope)
    (pythonText cText : String) :
    let python := Generator.mk .python pythonScope
    let c := Generator.mk .c cScope
    let pythonSink := Sink.mk none pythonText
    let cSink := Sink.mk none cText
    ((c.compile program cSink).1 = .ok () → (python.compile program pythonSink).1 = .ok ()) ∧
    (∀ e, (python.compile program pythonSink).1 = .error e →
      ∃ i, python.RejectsAt pythonSink program i e) ∧
    (∀ i e, python.RejectsAt pythonSink program i e →
      c.RejectsAt cSink program i e ∨
        ∃ j callee args e', j < i ∧ program[j]? = some (.call callee args) ∧
          c.RejectsAt cSink program j e' ∧
          ((∃ type position, e' = .noFormat type position) ∨
            ∃ name position, e' = .unknownVariable name position)) ∧
    ((c.compile program cSink).1 = .ok () →
      ∃ texts lines,
        python.Writes pythonSink program [] texts [] ∧
        c.Writes cSink program
          ["#include <stdio.h>", "", "int main(int argc, char** argv) \x7b"] lines
          ["    return 0;", "\x7d"] ∧
        ∀ (i : Nat) (s : Statement), program[i]? = some s →
          ∃ text line, texts[i]? = some text ∧ lines[i]? = some line ∧
            s.Corresponds text line) := by
  intro python c pythonSink cSink
  have hc : (c.compile program cSink).1 = (Target.c.draft [] program).result := by
    rw [Generator.compile_unlimited]
  refine ⟨?_, ?_, ?_, ?_⟩
  · intro h
    rw [Generator.compile_unlimited]
    exact Target.draft_python_ok (hc.symm.trans h)
  · intro e h
    exact python.exists_rejectsAt pythonText h
  · intro i e h
    exact h.of_python c rfl cText
  · intro h
    have hdraft := hc.symm.trans h
    refine ⟨(Target.python.draft [] program).lines.map (Writer.indented 0),
      (Target.c.draft [] program).lines.map (Writer.indented 1),
      python.writes_of_draft_ok pythonText (Target.draft_python_ok hdraft),
      c.writes_of_draft_ok cText hdraft, ?_⟩
    intro i s hs
    obtain ⟨text, line, htext, hline, hcorresponds⟩ := Target.exists_corresponding_lines hdraft hs
    refine ⟨Writer.indented 0 text, Writer.indented 1 line, ?_, ?_, ?_⟩
    · rw [List.getElem?_map, htext]
      rfl
    · rw [List.getElem?_map, hline]
      rfl
    · rwa [Writer.indented_zero]

end Kaomoji
