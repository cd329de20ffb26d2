import Kaomoji.Proofs.Seams
import Kaomoji.Proofs.TargetCorrespondence

/-!
# Texts one behind the other

A text that is read without offence has closed its last line, so a text behind it is read as if it
stood alone, only further down (`treeOf_append`).  The seam is harmless on both sides: the first
text ends with a blank or a newline, which no word runs across, and the memory of a line end that is
carried into the second text has no bearing on its lines.

Python writes one line for each statement and nothing around them, and its lines do not depend on
the statements before.  There the outputs of two texts are put together just as the texts are.  In C
they are not: each unit has its own frame, and what the first text declares is known in the second.
-/

namespace Kaomoji

/-! ## Further down -/

/-- The place that corresponds to a place if its text is put below another. -/
def Position.below (above : List Char) (p : Position) : Position :=
  ⟨p.line + above.count '\n', p.column, p.index + above.length⟩

lemma Position.behind_append_eq_below {above : List Char} (h : Text.EndsLine above)
    (before : List Char) : behind (above ++ before) = (behind before).below above := by
  have hopen : Text.openLine (above ++ before) = Text.openLine before := by
    rcases h with rfl | ⟨front, rfl⟩
    · rfl
    · rw [List.append_assoc]
      exact Text.openLine_append_newline front before
  ext
  · simp [below, List.count_append, Nat.add_comm]
  · rw [behind_column, hopen, ← behind_column]
    rfl
  · simp [below, Nat.add_comm]

namespace TokenStream

/-- **What stands behind a text that is read without offence is read by itself.** -/
lemma reading_append {origin : Origin} {first : List Char} {tree : Tree}
    (h : (ofText origin false [] first).reading = .ok tree) (second : List Char) :
    (ofText origin false [] (first ++ second)).reading =
      (tree ++ ·) <$> (ofText origin false first second).reading := by
  obtain ⟨-, hending, hclosed⟩ := of_reading_eq_ok h
  have happart : Text.Apart first second := Or.inl (isSeparator_of_isClosed hending hclosed)
  have hcut := cutAt_end origin false [] first
  nth_rewrite 1 [← List.append_nil first] at hcut
  rw [← List.append_nil first] at hending
  obtain ⟨tokens, atLineEnd, hbehind, -⟩ := exists_cut hending hcut
  have hfirst := hbehind [] (Or.inl rfl)
  rw [List.append_nil, List.nil_append, ofText_nil] at hfirst
  rw [hfirst, prepend, List.append_nil] at h
  rw [hbehind second (Or.inr happart), reading_prepend h, List.nil_append, reading_ofText_congr]

/-- Behind a text that ends a line the places are those further down. -/
lemma ofText_below {first : List Char} (h : Text.EndsLine first) (origin : Origin)
    (second : List Char) :
    ofText origin false first second = (ofText origin false [] second).relocate (.below first) := by
  have hplaces (more : List Char) : id (.behind (first ++ more)) =
      Position.below first (.behind ([] ++ more)) := Position.behind_append_eq_below h more
  rw [← relocate_ofText hplaces, relocate_id]

end TokenStream

/-! ## Python -/

namespace Target

/-- Python writes the statements behind others as it writes them alone. -/
lemma draft_python_append {scope : Scope} {first : Program}
    (h : (python.draft scope first).result = .ok ()) (second : Program) :
    (python.draft scope (first ++ second)).result = (python.draft scope second).result ∧
      (python.draft scope (first ++ second)).lines =
        (python.draft scope first).lines ++ (python.draft scope second).lines := by
  induction first with
  | nil => exact ⟨rfl, rfl⟩
  | cons s rest ih =>
    rcases hline : python.line scope s with e | ⟨line, later⟩
    · rw [draft_cons_error hline] at h
      cases h
    · obtain ⟨-, rfl⟩ := line_python_eq_ok_iff.1 hline
      rw [draft_cons_ok hline] at h
      obtain ⟨hresult, hlines⟩ := ih h
      rw [List.cons_append, draft_cons_ok hline, draft_cons_ok hline]
      exact ⟨hresult, by rw [hlines]; rfl⟩

lemma generate_python_eq_ok_iff {program : Program} {output : String} :
    python.generate program = .ok output ↔
      (python.draft [] program).result = .ok () ∧
        output = unlines (python.draft [] program).lines := by
  have hindented : Writer.indented 0 = id := funext Writer.indented_zero
  rw [generate_eq]
  rcases hresult : (python.draft [] program).result with e | _
  · simp [Except.map]
  · simp [Except.map, unitLines, hresult, opening, closing, depth, hindented, eq_comm]

lemma generate_python_append {first second : Program} {output output' : String}
    (h : python.generate first = .ok output) (h' : python.generate second = .ok output') :
    python.generate (first ++ second) = .ok (output ++ output') := by
  rw [generate_python_eq_ok_iff] at h h' ⊢
  obtain ⟨hfirst, rfl⟩ := h
  obtain ⟨hsecond, rfl⟩ := h'
  obtain ⟨hresult, hlines⟩ := draft_python_append hfirst second
  exact ⟨hresult.trans hsecond, by rw [hlines, unlines_append]⟩

lemma compileTree_eq_ok_iff {target : Target} {tree : Tree} {output : String} :
    target.compileTree tree = .ok output ↔
      ∃ program, programOfTree tree = .ok program ∧ target.generate program = .ok output := by
  simp only [compileTree, bind_eq_ok_iff, mapError_eq_ok_iff]

/-- **Python's output for lines one behind the other.** -/
lemma compileTree_python_append {first second : Tree} {output output' : String}
    (h : python.compileTree first = .ok output) (h' : python.compileTree second = .ok output') :
    python.compileTree (first ++ second) = .ok (output ++ output') := by
  rw [compileTree_eq_ok_iff] at h h' ⊢
  obtain ⟨program, hprogram, hgenerate⟩ := h
  obtain ⟨program', hprogram', hgenerate'⟩ := h'
  refine ⟨program ++ program', ?_, generate_python_append hgenerate hgenerate'⟩
  rw [programOfTree, mapError_eq_ok_iff] at hprogram hprogram' ⊢
  rw [Program.ofTree] at hprogram hprogram' ⊢
  rw [List.mapM_append, hprogram, hprogram']
  rfl

end Target

/-! ## Texts -/

section

variable {first : String} {settings : Settings} {tree : Tree}

lemma treeOf_append_eq (h : treeOf first settings = .ok tree) (second : String) :
    treeOf (first ++ second) settings =
      ((tree ++ ·) <$> (TokenStream.ofText settings.origin false first.toList
        second.toList).reading).mapError .ofParseError := by
  rw [treeOf_eq_ok_iff, streamOf_eq_ofText] at h
  rw [treeOf_eq_mapError_reading, streamOf_eq_ofText, String.toList_append,
    TokenStream.reading_append h]

/-- Behind a text that is read a second one has its own lines, whatever the first ends with; only
their places may be others. -/
lemma exists_treeOf_append {second : String} {later : Tree} (h : treeOf first settings = .ok tree)
    (hlater : treeOf second settings = .ok later) :
    ∃ moved, treeOf (first ++ second) settings = .ok (tree ++ moved) ∧
      Tree.relocate (fun _ => .start) moved = Tree.relocate (fun _ => .start) later := by
  rw [treeOf_eq_ok_iff, streamOf_eq_ofText] at hlater
  obtain ⟨moved, hmoved, hsame⟩ := TokenStream.exists_reading_of_relocate_eq
    (TokenStream.forget_ofText [] first.toList settings.origin false second.toList) hlater
  refine ⟨moved, ?_, hsame⟩
  rw [treeOf_append_eq h, hmoved]
  rfl

end

/-- **Concatenation.**  Behind a text that ends a line and is read without offence, a second text is
read as it is alone, lines and errors alike, but further down.  Where Python has an output for two
texts, its output for one behind the other is the one output behind the other. -/
theorem treeOf_append (first second : String) (settings : Settings) :
    (Text.EndsLine first.toList → ∀ tree, treeOf first settings = .ok tree →
      treeOf (first ++ second) settings =
        match treeOf second settings with
        | .ok later => .ok (tree ++ Tree.relocate (.below first.toList) later)
        | .error e => .error (e.relocate (.below first.toList))) ∧
    (settings.target = .python → ∀ output output', compile first settings = .ok output →
      compile second settings = .ok output' →
      compile (first ++ second) settings = .ok (output ++ output')) := by
  constructor
  · intro hends tree htree
    rw [treeOf_append_eq htree, treeOf_eq_mapError_reading second, streamOf_eq_ofText,
      TokenStream.ofText_below hends, TokenStream.reading_relocate]
    rcases (TokenStream.ofText settings.origin false [] second.toList).reading with e | later
    · exact congrArg Except.error (CompileError.ofParseError_relocate e)
    · rfl
  · intro htarget output output' hfirst hsecond
    rw [compile_eq_bind, bind_eq_ok_iff, htarget] at hfirst hsecond
    obtain ⟨tree, htree, houtput⟩ := hfirst
    obtain ⟨later, hlater, houtput'⟩ := hsecond
    obtain ⟨moved, hmoved, hsame⟩ := exists_treeOf_append htree hlater
    rw [compile_eq_bind, hmoved, htarget]
    exact Target.compileTree_python_append houtput
      (Target.compileTree_eq_ok_of_relocate_eq hsame houtput')

/-- A second text that begins with blank lines, once with a misplaced number and once without. -/
theorem treeOf_append_blank_lines :
    (treeOf "O.O x\n" ⟨.inMemory, .python⟩ =
        .ok [⟨[.identifier ⟨"O.O", ⟨0, 0, 0⟩⟩, .identifier ⟨"x", ⟨0, 4, 4⟩⟩]⟩] ∧
      treeOf "\n \n 1 x\n" ⟨.inMemory, .python⟩ =
        .error (.structural ⟨.unexpectedToken .name .number, ⟨2, 1, 4⟩, 1, .inMemory⟩) ∧
      treeOf ("O.O x\n" ++ "\n \n 1 x\n") ⟨.inMemory, .python⟩ =
        .error (.structural ⟨.unexpectedToken .name .number, ⟨3, 1, 10⟩, 1, .inMemory⟩)) ∧
    compile ("O.O x\n" ++ "\n \nUwU x\n") ⟨.inMemory, .python⟩ =
      .ok ("x = 0\n" ++ "print(x)\n") := by
  have htree : treeOf "O.O x\n" ⟨.inMemory, .python⟩ =
      .ok [⟨[.identifier ⟨"O.O", ⟨0, 0, 0⟩⟩, .identifier ⟨"x", ⟨0, 4, 4⟩⟩]⟩] := by
    decide +kernel
  have hmisplaced : treeOf "\n \n 1 x\n" ⟨.inMemory, .python⟩ =
      .error (.structural ⟨.unexpectedToken .name .number, ⟨2, 1, 4⟩, 1, .inMemory⟩) := by
    decide +kernel
  refine ⟨⟨htree, hmisplaced, ?_⟩, ?_⟩
  · rw [(treeOf_append _ _ _).1 (Or.inr ⟨"O.O x".toList, by decide⟩) _ htree, hmisplaced]
    decide
  · exact (treeOf_append _ _ _).2 rfl _ _ (by decide +kernel) (by decide +kernel)

end Kaomoji
