import Kaomoji.Proofs.TargetCorrespondence

/-!
# Output with a limit

A sink with a limit may refuse any of the pieces in which a line goes out, so a unit can be cut off
at many places of its opening, its statements and its closing.  What keeps this manageable is that
an emission does not look at its sink.  It sends a list of pieces that depends only on the generator
and the indentation, and the sink decides how many of them it takes.  `Emit.Sends` says this of one
emission, for all sinks at once; in sequence the pieces add up, and a statement that cannot be
expressed sends nothing.

Two sinks of different limits thus see the same pieces, and `compile_limited` is the comparison of
the two: a unit that fits is written as if there were no limit, and of any other there remains the
longest part that fits among those that end with a piece.
-/

namespace Kaomoji

/-! ## What a sink takes -/

lemma utf8ByteSize_join_take_le (pieces : List String) {m n : Nat} (h : m ≤ n) :
    (String.join (pieces.take m)).utf8ByteSize ≤ (String.join (pieces.take n)).utf8ByteSize := by
  obtain ⟨more, hmore⟩ := List.take_prefix_take_left (l := pieces) h
  rw [← hmore, String.join_append, String.utf8ByteSize_append]
  exact Nat.le_add_right _ _

namespace Sink

lemma write_append (sink : Sink) (first second : List String) :
    sink.write (first ++ second) =
      if (sink.write first).1 then (sink.write first).2.write second
      else (false, (sink.write first).2) := by
  induction first generalizing sink with
  | nil => simp [write]
  | cons piece rest ih =>
    by_cases haccepts : sink.accepts piece
    · simp only [List.cons_append, write, haccepts, if_true]
      exact ih _
    · simp [write, haccepts]

variable {limit : Nat} {text : String} {pieces : List String}

lemma accepts_iff (piece : String) :
    (⟨some limit, text⟩ : Sink).accepts piece = true ↔
      text.utf8ByteSize + piece.utf8ByteSize ≤ limit := by
  simp [accepts]

/-- Pieces that fit together are all taken. -/
lemma write_of_fits (h : text.utf8ByteSize + (String.join pieces).utf8ByteSize ≤ limit) :
    (⟨some limit, text⟩ : Sink).write pieces =
      (true, ⟨some limit, text ++ String.join pieces⟩) := by
  induction pieces generalizing text with
  | nil => simp [write]
  | cons piece rest ih =>
    rw [String.join_cons, String.utf8ByteSize_append] at h
    rw [write, if_pos ((accepts_iff piece).2 (by omega)), ih, String.join_cons, String.append_assoc]
    rw [String.utf8ByteSize_append]
    dsimp only
    omega

/-- Of pieces that do not fit together the first are taken, up to the one that is too much. -/
lemma exists_write_of_not_fits (htext : text.utf8ByteSize ≤ limit)
    (h : limit < text.utf8ByteSize + (String.join pieces).utf8ByteSize) :
    ∃ n, (⟨some limit, text⟩ : Sink).write pieces =
        (false, ⟨some limit, text ++ String.join (pieces.take n)⟩) ∧
      text.utf8ByteSize + (String.join (pieces.take n)).utf8ByteSize ≤ limit ∧
      limit < text.utf8ByteSize + (String.join (pieces.take (n + 1))).utf8ByteSize := by
  induction pieces generalizing text with
  | nil =>
    rw [String.join_nil, String.utf8ByteSize_empty] at h
    omega
  | cons piece rest ih =>
    rw [String.join_cons, String.utf8ByteSize_append] at h
    by_cases hfits : text.utf8ByteSize + piece.utf8ByteSize ≤ limit
    · have hsize : (text ++ piece).utf8ByteSize = text.utf8ByteSize + piece.utf8ByteSize :=
        String.utf8ByteSize_append
      obtain ⟨n, hwrite, hbelow, habove⟩ := ih (hsize ▸ hfits) (by omega)
      rw [hsize] at hbelow habove
      refine ⟨n + 1, ?_, ?_, ?_⟩
      · rw [write, if_pos ((accepts_iff piece).2 hfits), hwrite, List.take_succ_cons,
          String.join_cons, String.append_assoc]
      · rw [List.take_succ_cons, String.join_cons, String.utf8ByteSize_append]
        omega
      · rw [List.take_succ_cons, String.join_cons, String.utf8ByteSize_append]
        omega
    · refine ⟨0, ?_, ?_, ?_⟩
      · rw [write, if_neg (fun haccepts => hfits ((accepts_iff piece).1 haccepts))]
        simp
      · simpa using htext
      · simp only [Nat.zero_add, List.take_succ_cons, List.take_zero, String.join_cons,
          String.join_nil, String.append_empty]
        omega

end Sink

/-- **The longest text that fits** among those that consist of the first of some pieces. -/
structure IsLongestFitting (pieces : List String) (limit : Nat) (text : String) : Prop where
  cut : ∃ n, text = String.join (pieces.take n)
  fits : text.utf8ByteSize ≤ limit
  longest : ∀ n, (String.join (pieces.take n)).utf8ByteSize ≤ limit →
    (String.join (pieces.take n)).utf8ByteSize ≤ text.utf8ByteSize

/-- A sink that held nothing before is left with the longest text that fits. -/
lemma Sink.write_empty_of_not_fits {limit : Nat} {pieces : List String}
    (h : limit < (String.join pieces).utf8ByteSize) :
    ((Sink.empty (some limit)).write pieces).1 = false ∧
      IsLongestFitting pieces limit ((Sink.empty (some limit)).write pieces).2.text := by
  have hempty : "".utf8ByteSize ≤ limit := Nat.zero_le limit
  have hsize : limit < "".utf8ByteSize + (String.join pieces).utf8ByteSize := by simpa using h
  obtain ⟨n, hwrite, hbelow, habove⟩ := exists_write_of_not_fits hempty hsize
  rw [String.utf8ByteSize_empty, Nat.zero_add] at hbelow habove
  rw [Sink.empty, hwrite]
  refine ⟨rfl, ⟨n, by simp⟩, by simpa using hbelow, ?_⟩
  intro m hm
  have hmn : m ≤ n := by
    by_contra hlt
    have hle := utf8ByteSize_join_take_le pieces (show n + 1 ≤ m by omega)
    omega
  simpa using utf8ByteSize_join_take_le pieces hmn

/-! ## What an emission sends -/

/-- **The emission sends the pieces.**  Begun by the generator at the indentation, on whatever sink
and behind however many lines, it writes these pieces in order and nothing else.  If the sink takes
all of them, the emission ends with the result and leaves the later generator and indentation
behind; if not, it ends as a refused write. -/
structure Emit.Sends (emission : Emit Unit) (generator : Generator) (indent : Nat)
    (pieces : List String) (result : Except EmitError Unit) (later : Generator)
    (laterIndent : Nat) : Prop where
  taken (sink : Sink) (lines : Nat) (h : (sink.write pieces).1 = true) : ∃ lines',
    Session.perform ⟨generator, ⟨sink, indent, lines⟩⟩ emission =
      (result, ⟨later, ⟨(sink.write pieces).2, laterIndent, lines'⟩⟩)
  refused (sink : Sink) (lines : Nat) (h : (sink.write pieces).1 = false) : ∃ session,
    Session.perform ⟨generator, ⟨sink, indent, lines⟩⟩ emission = (.error .refusedWrite, session) ∧
      session.writer.sink = (sink.write pieces).2 ∧
      session.generator.target = generator.target
  target_eq : later.target = generator.target

namespace Emit

variable {generator later last : Generator} {indent laterIndent lastIndent : Nat}
  {pieces more : List String} {result : Except EmitError Unit}

/-- An emission that only changes generator and indentation sends nothing. -/
lemma sends_nil {emission : Emit Unit}
    (h : ∀ sink lines, Session.perform ⟨generator, ⟨sink, indent, lines⟩⟩ emission =
      (result, ⟨later, ⟨sink, laterIndent, lines⟩⟩))
    (htarget : later.target = generator.target) :
    emission.Sends generator indent [] result later laterIndent where
  taken sink lines _ := ⟨lines, h sink lines⟩
  refused _ _ h := by cases h
  target_eq := htarget

lemma sends_writeLine (generator : Generator) (indent : Nat) (line : String) :
    (writeLine line).Sends generator indent (Writer.linePieces indent line) (.ok ()) generator
      indent where
  taken sink lines h := by
    rcases hwrite : sink.write (Writer.linePieces indent line) with ⟨taken, sink'⟩
    rw [hwrite] at h
    obtain rfl : taken = true := h
    refine ⟨lines + 1, ?_⟩
    rw [Session.perform_writeLine, Writer.writeLine, hwrite]
  refused sink lines h := by
    rcases hwrite : sink.write (Writer.linePieces indent line) with ⟨taken, sink'⟩
    rw [hwrite] at h
    obtain rfl : taken = false := h
    refine ⟨⟨generator, ⟨sink', indent, lines⟩⟩, ?_, rfl, rfl⟩
    rw [Session.perform_writeLine, Writer.writeLine, hwrite]
  target_eq := rfl

/-- In sequence the pieces add up. -/
lemma Sends.bind {first : Emit Unit} {second : Unit → Emit Unit}
    (hfirst : first.Sends generator indent pieces (.ok ()) later laterIndent)
    (hsecond : (second ()).Sends later laterIndent more result last lastIndent) :
    (first >>= second).Sends generator indent (pieces ++ more) result last lastIndent where
  taken sink lines h := by
    rw [Sink.write_append] at h ⊢
    split_ifs at h with hpieces
    obtain ⟨lines', hperform⟩ := hfirst.taken sink lines hpieces
    rw [Session.perform_bind_of_ok hperform, if_pos hpieces]
    exact hsecond.taken _ lines' h
  refused sink lines h := by
    rw [Sink.write_append] at h ⊢
    split_ifs at h with hpieces
    · obtain ⟨lines', hperform⟩ := hfirst.taken sink lines hpieces
      rw [Session.perform_bind_of_ok hperform, if_pos hpieces, ← hfirst.target_eq]
      exact hsecond.refused _ lines' h
    · obtain ⟨session, hperform, hsink, htarget⟩ :=
        hfirst.refused sink lines (by simpa using hpieces)
      rw [Session.perform_bind_of_error hperform, if_neg hpieces]
      exact ⟨session, rfl, hsink, htarget⟩
  target_eq := hsecond.target_eq.trans hfirst.target_eq

/-- Behind an error nothing is sent. -/
lemma Sends.bind_error {first : Emit Unit} {e : EmitError}
    (hfirst : first.Sends generator indent pieces (.error e) later laterIndent)
    (second : Unit → Emit Unit) :
    (first >>= second).Sends generator indent pieces (.error e) later laterIndent where
  taken sink lines h := by
    obtain ⟨lines', hperform⟩ := hfirst.taken sink lines h
    exact ⟨lines', Session.perform_bind_of_error hperform second⟩
  refused sink lines h := by
    obtain ⟨session, hperform, hsession⟩ := hfirst.refused sink lines h
    exact ⟨session, Session.perform_bind_of_error hperform second, hsession⟩
  target_eq := hfirst.target_eq

/-- What looks at the session may look at its generator. -/
lemma sends_get {next : Session → Emit Unit}
    (h : ∀ writer, (next ⟨generator, writer⟩).Sends generator indent pieces result later
      laterIndent) :
    (get >>= next).Sends generator indent pieces result later laterIndent where
  taken sink lines := (h ⟨sink, indent, lines⟩).taken sink lines
  refused sink lines := (h ⟨sink, indent, lines⟩).refused sink lines
  target_eq := (h ⟨.empty none, indent, 0⟩).target_eq

lemma sends_setScope (generator : Generator) (indent : Nat) (scope : Scope) :
    (setScope scope).Sends generator indent [] (.ok ()) ⟨generator.target, scope⟩ indent :=
  sends_nil (fun _ _ => rfl) rfl

lemma sends_indent (generator : Generator) (indent : Nat) :
    Emit.indent.Sends generator indent [] (.ok ()) generator (indent + 1) :=
  sends_nil (fun _ _ => rfl) rfl

lemma sends_dedent (generator : Generator) (indent : Nat) :
    dedent.Sends generator indent [] (.ok ()) generator (indent - 1) :=
  sends_nil (fun _ _ => rfl) rfl

/-- A statement is checked before any of its line is sent. -/
lemma sends_statement (generator : Generator) (indent : Nat) (s : Statement) :
    match generator.target.line generator.scope s with
    | .error e => (statement s).Sends generator indent [] (.error e) generator indent
    | .ok (line, scope) =>
      (statement s).Sends generator indent (Writer.linePieces indent line) (.ok ())
        ⟨generator.target, scope⟩ indent := by
  have hline (writer : Writer) := Session.perform_statement ⟨generator, writer⟩ s
  rcases h : generator.target.line generator.scope s with e | ⟨line, scope⟩
  · simp only [h] at hline
    exact sends_nil (fun sink lines => hline _) rfl
  · simp only [h] at hline
    have hwrite := sends_writeLine ⟨generator.target, scope⟩ indent line
    exact
      { taken := fun sink lines htaken => by rw [hline]; exact hwrite.taken sink lines htaken
        refused := fun sink lines hrefused => by
          rw [hline]
          exact hwrite.refused sink lines hrefused
        target_eq := rfl }

/-- **Statements send the lines of their draft.** -/
lemma sends_statements (generator : Generator) (indent : Nat) (program : Program) :
    (statements program).Sends generator indent
      ((generator.target.draft generator.scope program).lines.flatMap (Writer.linePieces indent))
      (generator.target.draft generator.scope program).result
      ⟨generator.target, (generator.target.draft generator.scope program).scope⟩ indent := by
  induction program generalizing generator with
  | nil => exact sends_nil (fun _ _ => rfl) rfl
  | cons s rest ih =>
    show (statement s >>= fun _ => statements rest).Sends _ _ _ _ _ _
    have hs := sends_statement generator indent s
    rcases hline : generator.target.line generator.scope s with e | ⟨line, scope⟩
    · rw [hline] at hs
      rw [Target.draft_cons_error hline]
      exact hs.bind_error _
    · rw [hline] at hs
      rw [Target.draft_cons_ok hline]
      exact hs.bind (ih ⟨generator.target, scope⟩)

end Emit

/-! ## The pieces of a unit -/

namespace Target

/-- The pieces of the closing, begun at an indentation. -/
def closingPieces (indent : Nat) : Target → List String
  | c => Writer.linePieces indent "return 0;" ++ Writer.linePieces (indent - 1) "\x7d"
  | python => []

/-- The pieces in which a unit goes out; there is no closing behind an error. -/
def unitPieces (target : Target) (draft : Draft) : List String :=
  target.opening.flatMap (Writer.linePieces 0) ++
    draft.lines.flatMap (Writer.linePieces target.depth) ++
    match draft.result with
    | .ok () => target.closingPieces target.depth
    | .error _ => []

/-- The pieces of a unit make up its lines. -/
lemma join_unitPieces (target : Target) (draft : Draft) :
    String.join (target.unitPieces draft) = unlines (target.unitLines draft) := by
  have hlines (indent : Nat) (lines : List String) :
      String.join (lines.flatMap (Writer.linePieces indent)) =
        unlines (lines.map (Writer.indented indent)) := by
    induction lines with
    | nil => rfl
    | cons line rest ih =>
      rw [List.flatMap_cons, String.join_append, Writer.join_linePieces, ih, List.map_cons,
        unlines_cons]
  have hopening : target.opening.map (Writer.indented 0) = target.opening :=
    (List.map_congr_left fun line _ => Writer.indented_zero line).trans (List.map_id _)
  have hclosing : String.join (target.closingPieces target.depth) = unlines target.closing := by
    cases target <;> rfl
  rw [unitPieces, unitLines, String.join_append, String.join_append, hlines, hlines, hopening,
    unlines_append, unlines_append]
  cases draft.result with
  | error e => rfl
  | ok _ => rw [hclosing]

end Target

namespace Emit

/-- The opening goes out where the unit is begun, and the statements stand further in. -/
lemma sends_prologue (generator : Generator) (indent : Nat) :
    prologue.Sends generator indent
      (generator.target.opening.flatMap (Writer.linePieces indent)) (.ok ())
      ⟨generator.target, []⟩ (indent + generator.target.depth) := by
  refine (sends_setScope generator indent []).bind (sends_get fun writer => ?_)
  obtain ⟨target, scope⟩ := generator
  cases target with
  | python => exact sends_nil (fun _ _ => rfl) rfl
  | c =>
    exact (sends_writeLine _ _ _).bind ((sends_writeLine _ _ _).bind
      ((sends_writeLine _ _ _).bind (sends_indent _ _)))

lemma sends_epilogue (generator : Generator) (indent : Nat) :
    epilogue.Sends generator indent (generator.target.closingPieces indent) (.ok ()) generator
      (indent - generator.target.depth) := by
  refine sends_get fun writer => ?_
  obtain ⟨target, scope⟩ := generator
  cases target with
  | python => exact sends_nil (fun _ _ => rfl) rfl
  | c =>
    exact (sends_writeLine _ _ _).bind
      ((sends_dedent _ _).bind (sends_writeLine _ _ _))

/-- **A unit sends its pieces.** -/
theorem exists_sends_unit (generator : Generator) (program : Program) :
    ∃ later, ∃ laterIndent,
      (unit program).Sends generator 0
        (generator.target.unitPieces (generator.target.draft [] program))
        (generator.target.draft [] program).result later laterIndent := by
  have hprologue := sends_prologue generator 0
  have hstatements := sends_statements ⟨generator.target, []⟩ generator.target.depth program
  rw [Nat.zero_add] at hprologue
  rw [Target.unitPieces, List.append_assoc]
  rcases hresult : (generator.target.draft [] program).result with e | _
  · simp only [hresult, List.append_nil] at hstatements ⊢
    exact ⟨_, _, hprologue.bind (hstatements.bind_error _)⟩
  · simp only [hresult] at hstatements ⊢
    exact ⟨_, _, hprologue.bind (hstatements.bind (sends_epilogue _ _))⟩

end Emit

namespace Generator

variable {generator : Generator} {program : Program} {sink : Sink}

/-- A unit whose pieces are all taken ends as its draft does. -/
lemma compile_of_taken
    (h : (sink.write (generator.target.unitPieces (generator.target.draft [] program))).1 = true) :
    (generator.compile program sink).1 = (generator.target.draft [] program).result ∧
      (generator.compile program sink).2.2 =
        (sink.write (generator.target.unitPieces (generator.target.draft [] program))).2 := by
  obtain ⟨later, laterIndent, hsends⟩ := Emit.exists_sends_unit generator program
  obtain ⟨lines, hperform⟩ := hsends.taken sink 0 h
  rw [compile, Writer.onto, hperform]
  exact ⟨rfl, rfl⟩

lemma compile_of_refused
    (h : (sink.write (generator.target.unitPieces (generator.target.draft [] program))).1 = false) :
    (generator.compile program sink).1 = .error .refusedWrite ∧
      (generator.compile program sink).2.2 =
        (sink.write (generator.target.unitPieces (generator.target.draft [] program))).2 := by
  obtain ⟨later, laterIndent, hsends⟩ := Emit.exists_sends_unit generator program
  obtain ⟨session, hperform, hsink, -⟩ := hsends.refused sink 0 h
  rw [compile, Writer.onto, hperform]
  exact ⟨rfl, hsink⟩

end Generator

/-! ## The statements of a draft -/

/-- A draft holds the lines of the statements before the first that cannot be expressed. -/
lemma Target.draft_take_length_lines (target : Target) (scope : Scope) (program : Program) :
    target.draft scope (program.take (target.draft scope program).lines.length) =
        ⟨(target.draft scope program).lines, (target.draft scope program).scope, .ok ()⟩ ∧
      ∀ e, (target.draft scope program).result = .error e →
        ∃ s, program[(target.draft scope program).lines.length]? = some s ∧
          target.line (target.draft scope program).scope s = .error e := by
  induction program generalizing scope with
  | nil => exact ⟨rfl, by simp [draft]⟩
  | cons s rest ih =>
    rcases hline : target.line scope s with e | ⟨line, later⟩
    · rw [draft_cons_error hline]
      refine ⟨rfl, fun e' he => ⟨s, rfl, ?_⟩⟩
      cases he
      exact hline
    · rw [draft_cons_ok hline]
      obtain ⟨htake, herror⟩ := ih later
      refine ⟨?_, herror⟩
      rw [List.length_cons, List.take_succ_cons, draft_cons_ok hline, htake]

namespace Generator

variable (generator : Generator) (program : Program) {limit : Nat}

lemma text_compile_unlimited :
    (generator.compile program (.empty none)).2.2.text =
      unlines (generator.target.unitLines (generator.target.draft [] program)) := by
  rw [Sink.empty, compile_unlimited]
  exact String.empty_append

/-- Without a limit a unit is written to its end, or through the lines before the statement at which
it is refused. -/
lemma compile_unlimited_cases :
    let draft := generator.target.draft [] program
    let lines := draft.lines.map (Writer.indented generator.target.depth)
    let unlimited := generator.compile program (.empty none)
    (unlimited.1 = .ok () ∧ lines.length = program.length ∧ unlimited.2.2.text =
        unlines (generator.target.opening ++ lines ++ generator.target.closing)) ∨
      ∃ e, unlimited.1 = .error e ∧ generator.RejectsAt (.empty none) program lines.length e ∧
        unlimited.2.2.text = unlines (generator.target.opening ++ lines) := by
  intro draft lines unlimited
  obtain ⟨htake, herror⟩ := Target.draft_take_length_lines generator.target [] program
  have hresult : unlimited.1 = draft.result := by
    rw [show unlimited = _ from compile_unlimited generator program ""]
  rw [hresult, show unlimited.2.2.text = _ from text_compile_unlimited generator program,
    Target.unitLines, List.length_map]
  rcases hdraft : draft.result with e | _
  · obtain ⟨s, hs, hline⟩ := herror e hdraft
    refine Or.inr ⟨e, rfl, (rejectsAt_iff generator "").2 ⟨s, hs, ?_, ?_⟩, ?_⟩
    · rw [htake]
    · rw [htake]
      exact hline
    · rw [List.append_nil]
  · exact Or.inl ⟨rfl, Target.length_lines_draft hdraft, rfl⟩

/-- The lines of a draft are those of the statements before the first that is refused. -/
lemma writes_take_draft :
    let lines := (generator.target.draft [] program).lines.map
      (Writer.indented generator.target.depth)
    generator.Writes (.empty none) (program.take lines.length) generator.target.opening lines
      generator.target.closing := by
  intro lines
  obtain ⟨htake, -⟩ := Target.draft_take_length_lines generator.target [] program
  have hwrites := writes_of_draft_ok generator "" (congrArg Draft.result htake)
  rw [htake] at hwrites
  rwa [List.length_map]

variable {generator program}

/-- A unit that fits is written as if there were no limit. -/
lemma compile_of_fits
    (h : (generator.compile program (.empty none)).2.2.text.utf8ByteSize ≤ limit) :
    (generator.compile program (.empty (some limit))).1 =
        (generator.compile program (.empty none)).1 ∧
      (generator.compile program (.empty (some limit))).2.2.text =
        (generator.compile program (.empty none)).2.2.text := by
  rw [text_compile_unlimited, ← Target.join_unitPieces] at h ⊢
  have hsize : "".utf8ByteSize + (String.join (generator.target.unitPieces
      (generator.target.draft [] program))).utf8ByteSize ≤ limit := by simpa using h
  have hwrite := Sink.write_of_fits hsize
  obtain ⟨hresult, hsink⟩ := compile_of_taken (congrArg Prod.fst hwrite)
  rw [Sink.empty, Sink.empty, hresult, hsink, hwrite, compile_unlimited]
  exact ⟨rfl, String.empty_append⟩

/-- Of a unit that does not fit there remains the longest part that does. -/
lemma compile_of_not_fits
    (h : limit < (generator.compile program (.empty none)).2.2.text.utf8ByteSize) :
    (generator.compile program (.empty (some limit))).1 = .error .refusedWrite ∧
      IsLongestFitting (generator.target.unitPieces (generator.target.draft [] program)) limit
        (generator.compile program (.empty (some limit))).2.2.text := by
  rw [text_compile_unlimited, ← Target.join_unitPieces] at h
  obtain ⟨hrefused, hlongest⟩ := Sink.write_empty_of_not_fits h
  obtain ⟨hresult, hsink⟩ := compile_of_refused hrefused
  rw [hresult, hsink]
  exact ⟨rfl, hlongest⟩

/-- **What a limit does to a unit.**  Without one, a unit consists of the opening, a complete line
for each statement before the first that is refused, and the closing if there is none such.  With a
limit that is not below its size it comes out the same and ends the same.  With any smaller limit
its writing is refused, and the sink is left with the longest part that fits and ends with a piece.
So an error other than a refused write is found behind complete lines. -/
theorem compile_limited (generator : Generator) (program : Program) (limit : Nat) :
    let draft := generator.target.draft [] program
    let lines := draft.lines.map (Writer.indented generator.target.depth)
    let pieces := generator.target.unitPieces draft
    let unlimited := generator.compile program (.empty none)
    let limited := generator.compile program (.empty (some limit))
    let text := unlimited.2.2.text
    generator.Writes (.empty none) (program.take lines.length) generator.target.opening lines
      generator.target.closing ∧
    ((unlimited.1 = .ok () ∧ lines.length = program.length ∧
        text = unlines (generator.target.opening ++ lines ++ generator.target.closing)) ∨
      ∃ e, unlimited.1 = .error e ∧ generator.RejectsAt (.empty none) program lines.length e ∧
        text = unlines (generator.target.opening ++ lines)) ∧
    text = String.join pieces ∧
    (text.utf8ByteSize ≤ limit → limited.1 = unlimited.1 ∧ limited.2.2.text = text) ∧
    (limit < text.utf8ByteSize →
      limited.1 = .error .refusedWrite ∧ IsLongestFitting pieces limit limited.2.2.text) ∧
    ∀ e, limited.1 = .error e → e ≠ .refusedWrite →
      limited.2.2.text = unlines (generator.target.opening ++ lines) := by
  intro draft lines pieces unlimited limited text
  have hcases := compile_unlimited_cases generator program
  refine ⟨writes_take_draft generator program, hcases,
    (text_compile_unlimited generator program).trans (Target.join_unitPieces _ _).symm,
    compile_of_fits, compile_of_not_fits, ?_⟩
  intro e he hne
  rcases Nat.lt_or_ge limit text.utf8ByteSize with hlt | hle
  · rw [(compile_of_not_fits hlt).1] at he
    cases he
    exact absurd rfl hne
  · obtain ⟨hsame, hwhole⟩ := compile_of_fits hle
    rcases hcases with ⟨hok, -, -⟩ | ⟨_, -, -, hlines⟩
    · rw [hsame, hok] at he
      cases he
    · exact hwhole.trans hlines

/-- A limit that leaves room for the text of a line and not for its newline. -/
theorem compile_limited_before_newline :
    5 < ((fresh .python).compile [.declaration .int ⟨"x", .start⟩]
      (.empty none)).2.2.text.utf8ByteSize ∧
    ((fresh .python).compile [.declaration .int ⟨"x", .start⟩] (.empty (some 5))).1 =
      .error .refusedWrite ∧
    ((fresh .python).compile [.declaration .int ⟨"x", .start⟩] (.empty (some 5))).2.2.text =
      "x = 0" ∧
    IsLongestFitting ["x = 0", "\n"] 5 "x = 0" := by
  have hsize : 5 < ((fresh .python).compile [.declaration .int ⟨"x", .start⟩]
      (.empty none)).2.2.text.utf8ByteSize := by
    decide +kernel
  have htext : ((fresh .python).compile [.declaration .int ⟨"x", .start⟩]
      (.empty (some 5))).2.2.text = "x = 0" := by
    decide +kernel
  obtain ⟨-, -, -, -, hrefused, -⟩ :=
    compile_limited (fresh .python) [.declaration .int ⟨"x", .start⟩] 5
  obtain ⟨hresult, hlongest⟩ := hrefused hsize
  rw [htext] at hlongest
  exact ⟨hsize, hresult, htext, hlongest⟩

end Generator

end Kaomoji
