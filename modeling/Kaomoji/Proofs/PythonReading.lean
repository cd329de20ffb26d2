import Kaomoji.Proofs.CScoping
import Kaomoji.Proofs.Concatenation
import Kaomoji.Proofs.Numerals

/-!
# What a Python text tells

On its way to Python a program loses the places of its parts, and of its names what sanitizing does
not keep.  It loses nothing else: two sources with finite numbers compile to the same text exactly
if their statements have the same essence (`compile_python_eq_iff`).

The text can be read back because nothing in it is ambiguous.  Words have no line ends, so lines can
be told (`Text.lines_unlines`); only a call has a parenthesis and only a sum has a plus, so the
three kinds of lines can be told (`mem_iff_mem_pythonMarks`); words have no commas and are not
empty, so arguments can be told (`argumentList_eq_iff`); and a numeral is no identifier and has one
value, so leaves can be told as far as sanitizing allows (`Leaf.word_eq_iff`).
-/

namespace Kaomoji

/-! ## The essence of statements -/

/-- The leaf with its name as targets write it. -/
def Leaf.sanitized : Leaf → Leaf
  | .identifier id => .identifier { id with name := sanitize id.name }
  | .number n => .number n

/-- The statement with its variables as targets write them. -/
def Statement.sanitized : Statement → Statement
  | .call callee args => .call callee (args.map Leaf.sanitized)
  | .declaration type target => .declaration type { target with name := sanitize target.name }
  | .extended form args position => .extended form (args.map Leaf.sanitized) position

def Leaf.essence (leaf : Leaf) : Leaf := leaf.sanitized.relocate fun _ => .start

/-- **What a target can tell of a statement**: variables are sanitized, and positions erased. -/
def Statement.essence (s : Statement) : Statement := s.sanitized.relocate fun _ => .start

lemma Statement.essence_call (callee : Identifier) (args : List Leaf) :
    (call callee args).essence = call ⟨callee.name, .start⟩ (args.map Leaf.essence) := by
  simp only [essence, sanitized, relocate, List.map_map]
  rfl

lemma Statement.essence_declaration (type : DeclaredType) (target : Identifier) :
    (declaration type target).essence = declaration type ⟨sanitize target.name, .start⟩ := rfl

lemma Statement.essence_extended (form : Form) (args : List Leaf) (position : Position) :
    (extended form args position).essence = extended form (args.map Leaf.essence) .start := by
  simp only [essence, sanitized, relocate, List.map_map]
  rfl

/-- Where two maps tell the same members of two lists apart, they tell the lists apart alike. -/
lemma map_eq_map_iff_of_forall {α β γ : Type} {f : α → β} {g : α → γ} {xs ys : List α}
    (h : ∀ x ∈ xs, ∀ y ∈ ys, (f x = f y ↔ g x = g y)) :
    xs.map f = ys.map f ↔ xs.map g = ys.map g := by
  induction xs generalizing ys with
  | nil => simp
  | cons x xs ih =>
    rcases ys with _ | ⟨y, ys⟩
    · simp
    · have hhead := h x List.mem_cons_self y List.mem_cons_self
      have htail := ih fun x' hx' y' hy' =>
        h x' (List.mem_cons_of_mem _ hx') y' (List.mem_cons_of_mem _ hy')
      simp only [List.map_cons, List.cons.injEq, hhead, htail]

/-! ## Words -/

namespace Leaf

variable {leaf leaf' : Leaf}

lemma isIdentifier_word_iff (h : leaf.IsPlain) :
    isIdentifier leaf.word.toList ↔ ∃ id, leaf = .identifier id := by
  cases leaf with
  | identifier id =>
    have hword : isIdentifier (Leaf.identifier id).word.toList := isIdentifier_sanitize h
    simp [hword]
  | number n =>
    have hword : isIdentifier (Leaf.number n).word.toList = false :=
      Binary64.isIdentifier_text_of_isFinite h.1
    simp [hword]

/-- **A word tells its leaf**, as far as sanitizing allows. -/
lemma word_eq_iff (h : leaf.IsPlain) (h' : leaf'.IsPlain) :
    leaf.word = leaf'.word ↔ leaf.essence = leaf'.essence := by
  have hkind : leaf.word = leaf'.word →
      ((∃ id, leaf = .identifier id) ↔ ∃ id, leaf' = .identifier id) := by
    intro hword
    rw [← isIdentifier_word_iff h, ← isIdentifier_word_iff h', hword]
  rcases leaf with ⟨name, position⟩ | ⟨value, position⟩
  · rcases leaf' with ⟨name', position'⟩ | ⟨value', position'⟩
    · simp [word, Identifier.word, essence, sanitized, relocate, Identifier.relocate]
    · simp only [essence, sanitized, relocate, reduceCtorEq, iff_false]
      intro hword
      simpa using hkind hword
  · rcases leaf' with ⟨name', position'⟩ | ⟨value', position'⟩
    · simp only [essence, sanitized, relocate, reduceCtorEq, iff_false]
      intro hword
      simpa using hkind hword
    · have htext : value.text = value'.text ↔ value = value' := by
        constructor
        · exact Binary64.text_inj h.1 h.2 h'.1 h'.2
        · rintro rfl
          rfl
      simpa [word, NumberLiteral.text, essence, sanitized, relocate, NumberLiteral.relocate]
        using htext

lemma word_ne_nil (h : leaf.IsPlain) : leaf.word.toList ≠ [] := by
  cases leaf with
  | identifier id =>
    intro hnil
    have hword : isIdentifier id.word.toList := isIdentifier_sanitize h
    rw [show id.word.toList = [] from hnil] at hword
    cases hword
  | number n =>
    obtain ⟨c, rest, hpositional, -⟩ := n.value.shortest.exists_positional_eq_cons
    have htext : (Leaf.number n).word.toList = c :: rest := by
      rw [← hpositional]
      exact Binary64.toList_text h.1 h.2
    rw [htext]
    exact List.cons_ne_nil _ _

lemma notMem_word (h : leaf.IsPlain) {c : Char} (hc : isWordChar c = false) :
    c ∉ leaf.word.toList := by
  intro hmem
  rw [isWordChar_of_mem_word h.isLexed c hmem] at hc
  cases hc

end Leaf

/-! ## Arguments -/

lemma toList_argumentList (args : List Leaf) :
    (argumentList args).toList = ", ".toList.intercalate (args.map (·.word.toList)) := by
  simp [argumentList, String.toList_intercalate, Function.comp_def]

/-- **Arguments tell their leaves**; that there are none is told as well, as no word is empty. -/
lemma argumentList_eq_iff {args args' : List Leaf} (h : ∀ leaf ∈ args, leaf.IsPlain)
    (h' : ∀ leaf ∈ args', leaf.IsPlain) :
    argumentList args = argumentList args' ↔ args.map Leaf.essence = args'.map Leaf.essence := by
  have hwords : args.map (·.word.toList) = args'.map (·.word.toList) ↔
      args.map Leaf.essence = args'.map Leaf.essence := by
    apply map_eq_map_iff_of_forall
    intro leaf hleaf leaf' hleaf'
    rw [String.toList_inj, Leaf.word_eq_iff (h leaf hleaf) (h' leaf' hleaf')]
  have hcomma {args : List Leaf} (h : ∀ leaf ∈ args, leaf.IsPlain) :
      ∀ part ∈ args.map (·.word.toList), ',' ∉ part := by
    intro part hpart
    obtain ⟨leaf, hleaf, rfl⟩ := List.mem_map.1 hpart
    exact Leaf.notMem_word (h leaf hleaf) (by decide)
  have hnil {args : List Leaf} (h : ∀ leaf ∈ args, leaf.IsPlain)
      (hempty : ", ".toList.intercalate (args.map (·.word.toList)) = []) : args = [] := by
    rcases args with _ | ⟨leaf, rest⟩
    · rfl
    · have hleaf := Leaf.word_ne_nil (h leaf List.mem_cons_self)
      rcases rest with _ | ⟨next, rest⟩
      · exact absurd (by simpa using hempty) hleaf
      · simp at hempty
  rw [← hwords, ← String.toList_inj, toList_argumentList, toList_argumentList]
  constructor
  · intro heq
    by_cases hargs : args = []
    · subst hargs
      rw [hnil h' heq.symm]
    · have hargs' : args' ≠ [] := by
        rintro rfl
        exact hargs (hnil h heq)
      exact eq_of_intercalate_eq (by simpa using hargs) (by simpa using hargs') (hcomma h)
        (hcomma h') heq
  · intro heq
    rw [heq]

/-! ## Lines -/

/-- The characters that a line has around its words. -/
def Statement.pythonMarks : Statement → String
  | call _ _ => "print(, )"
  | declaration _ _ => " =0"
  | extended _ _ _ => " +="

lemma Statement.lineEnds_notMem_pythonMarks (s : Statement) :
    '\n' ∉ s.pythonMarks.toList ∧ '\r' ∉ s.pythonMarks.toList := by
  cases s with
  | call _ _ =>
    rw [pythonMarks]
    decide
  | declaration _ _ =>
    rw [pythonMarks]
    decide
  | extended _ _ _ =>
    rw [pythonMarks]
    decide

lemma Statement.pythonMarks_essence (s : Statement) : s.essence.pythonMarks = s.pythonMarks := by
  cases s <;> rfl

lemma Statement.pythonMarks_eq (s : Statement) :
    s.pythonMarks =
      if '(' ∈ s.pythonMarks.toList then "print(, )"
      else if '+' ∈ s.pythonMarks.toList then " +="
      else " =0" := by
  cases s with
  | call _ _ => simp [pythonMarks]
  | declaration _ _ => simp [pythonMarks]
  | extended _ _ _ => simp [pythonMarks]

namespace Target

variable {s s' : Statement} {line line' : String}

/-- **What Python writes for a statement.** -/
lemma pythonLine_cases (h : pythonLine s = .ok line) :
    (∃ callee args, s = .call callee args ∧ callee.name = "UwU" ∧
      line = "print(" ++ argumentList args ++ ")") ∨
    (∃ target, s = .declaration .int target ∧ line = target.word ++ " = 0") ∨
    ∃ target value position, s = .extended .sum [.identifier target, value] position ∧
      line = target.word ++ " += " ++ value.word := by
  cases s with
  | call callee args =>
    left
    by_cases hcallee : callee.name = "UwU"
    · rw [pythonLine_call hcallee] at h
      cases h
      exact ⟨callee, args, rfl, hcallee, rfl⟩
    · rw [pythonLine_call_of_ne hcallee] at h
      cases h
  | declaration type target =>
    right
    left
    cases type
    cases h
    refine ⟨target, rfl, ?_⟩
    show target.word ++ " = " ++ "0" = target.word ++ (" = " ++ "0")
    rw [String.append_assoc]
  | extended form args position =>
    right
    right
    cases form
    obtain ⟨⟨target, value⟩, hoperands, hline⟩ := bind_eq_ok_iff.1 h
    cases hline
    rw [sumOperands_eq_ok_iff.1 hoperands]
    exact ⟨target, value, position, rfl, rfl⟩

/-- A line consists of words and the marks around them. -/
lemma isWordChar_or_mem_pythonMarks (h : pythonLine s = .ok line)
    (hs : ∀ leaf ∈ s.operands, leaf.IsLexed) {c : Char} (hc : c ∈ line.toList) :
    isWordChar c ∨ c ∈ s.pythonMarks.toList := by
  obtain ⟨callee, args, rfl, -, rfl⟩ | ⟨target, rfl, rfl⟩ | ⟨target, value, position, rfl, rfl⟩ :=
    pythonLine_cases h
  · rw [String.toList_append, String.toList_append, toList_argumentList, List.mem_append,
      List.mem_append] at hc
    obtain (hc | hc) | hc := hc
    · exact Or.inr ((by decide : "print(".toList ⊆ "print(, )".toList) hc)
    · obtain hc | ⟨part, hpart, hc⟩ := mem_or_of_mem_intercalate hc
      · exact Or.inr ((by decide : ", ".toList ⊆ "print(, )".toList) hc)
      · obtain ⟨leaf, hleaf, rfl⟩ := List.mem_map.1 hpart
        exact Or.inl (Leaf.isWordChar_of_mem_word (hs leaf hleaf) c hc)
    · exact Or.inr ((by decide : ")".toList ⊆ "print(, )".toList) hc)
  · rw [String.toList_append, List.mem_append] at hc
    obtain hc | hc := hc
    · exact Or.inl (Leaf.isWordChar_of_mem_word (hs _ List.mem_cons_self) c hc)
    · exact Or.inr ((by decide : " = 0".toList ⊆ " =0".toList) hc)
  · rw [String.toList_append, String.toList_append, List.mem_append, List.mem_append] at hc
    have htarget := hs (.identifier target) (by simp [Statement.operands])
    have hvalue := hs value (by simp [Statement.operands])
    obtain (hc | hc) | hc := hc
    · exact Or.inl (Leaf.isWordChar_of_mem_word htarget c hc)
    · exact Or.inr ((by decide : " += ".toList ⊆ " +=".toList) hc)
    · exact Or.inl (Leaf.isWordChar_of_mem_word hvalue c hc)

/-- Only a call has a parenthesis, and only a sum has a plus. -/
lemma mem_iff_mem_pythonMarks (h : pythonLine s = .ok line)
    (hs : ∀ leaf ∈ s.operands, leaf.IsLexed) {c : Char} (hc : c = '(' ∨ c = '+') :
    c ∈ line.toList ↔ c ∈ s.pythonMarks.toList := by
  constructor
  · intro hmem
    have hword : isWordChar c = false := by
      obtain rfl | rfl := hc
      · decide
      · decide
    obtain hchar | hmark := isWordChar_or_mem_pythonMarks h hs hmem
    · rw [hword] at hchar
      cases hchar
    · exact hmark
  · obtain ⟨callee, args, rfl, -, rfl⟩ | ⟨target, rfl, rfl⟩ |
      ⟨target, value, position, rfl, rfl⟩ := pythonLine_cases h
    · obtain rfl | rfl := hc
      · simp
      · simp [Statement.pythonMarks]
    · obtain rfl | rfl := hc
      · simp [Statement.pythonMarks]
      · simp [Statement.pythonMarks]
    · obtain rfl | rfl := hc
      · simp [Statement.pythonMarks]
      · simp

/-- **A line tells the kind of its statement.** -/
lemma pythonMarks_eq_of_pythonLine_eq (h : pythonLine s = .ok line) (h' : pythonLine s' = .ok line)
    (hs : ∀ leaf ∈ s.operands, leaf.IsLexed) (hs' : ∀ leaf ∈ s'.operands, leaf.IsLexed) :
    s.pythonMarks = s'.pythonMarks := by
  rw [s.pythonMarks_eq, s'.pythonMarks_eq]
  simp only [← mem_iff_mem_pythonMarks h hs (Or.inl rfl),
    ← mem_iff_mem_pythonMarks h hs (Or.inr rfl), ← mem_iff_mem_pythonMarks h' hs' (Or.inl rfl),
    ← mem_iff_mem_pythonMarks h' hs' (Or.inr rfl)]

/-- **A line tells its statement**, up to what is no part of the essence. -/
lemma pythonLine_eq_iff (h : pythonLine s = .ok line) (h' : pythonLine s' = .ok line')
    (hs : ∀ leaf ∈ s.operands, leaf.IsPlain) (hs' : ∀ leaf ∈ s'.operands, leaf.IsPlain) :
    line = line' ↔ s.essence = s'.essence := by
  by_cases hmarks : s.pythonMarks = s'.pythonMarks
  · obtain ⟨callee, args, rfl, hcallee, rfl⟩ | ⟨target, rfl, rfl⟩ |
      ⟨target, value, position, rfl, rfl⟩ := pythonLine_cases h
    · obtain ⟨callee', args', rfl, hcallee', rfl⟩ | ⟨target', rfl, rfl⟩ |
        ⟨target', value', position', rfl, rfl⟩ := pythonLine_cases h'
      · have hargs : argumentList args = argumentList args' ↔ _ := argumentList_eq_iff hs hs'
        simp [Statement.essence_call, hcallee, hcallee', ← hargs]
      · simp [Statement.pythonMarks] at hmarks
      · simp [Statement.pythonMarks] at hmarks
    · obtain ⟨callee', args', rfl, hcallee', rfl⟩ | ⟨target', rfl, rfl⟩ |
        ⟨target', value', position', rfl, rfl⟩ := pythonLine_cases h'
      · simp [Statement.pythonMarks] at hmarks
      · simp [Statement.essence_declaration, Identifier.word]
      · simp [Statement.pythonMarks] at hmarks
    · obtain ⟨callee', args', rfl, hcallee', rfl⟩ | ⟨target', rfl, rfl⟩ |
        ⟨target', value', position', rfl, rfl⟩ := pythonLine_cases h'
      · simp [Statement.pythonMarks] at hmarks
      · simp [Statement.pythonMarks] at hmarks
      · obtain ⟨htarget, hvalue⟩ : (Leaf.identifier target).IsPlain ∧ value.IsPlain := by
          simpa [Statement.operands] using hs
        obtain ⟨htarget', hvalue'⟩ : (Leaf.identifier target').IsPlain ∧ value'.IsPlain := by
          simpa [Statement.operands] using hs'
        rw [Statement.essence_extended, Statement.essence_extended]
        simp only [List.map_cons, List.map_nil, Statement.extended.injEq, List.cons.injEq, and_true,
          true_and, ← Leaf.word_eq_iff htarget htarget', ← Leaf.word_eq_iff hvalue hvalue']
        constructor
        · intro hline
          have hsplit : target.word.toList ++ ' ' :: ("+= ".toList ++ value.word.toList) =
              target'.word.toList ++ ' ' :: ("+= ".toList ++ value'.word.toList) := by
            simpa using congrArg String.toList hline
          obtain ⟨hword, hrest⟩ := append_separator_inj (Leaf.notMem_word htarget (by decide))
            (Leaf.notMem_word htarget' (by decide)) hsplit
          exact ⟨String.toList_inj.1 hword, String.toList_inj.1 (List.append_cancel_left hrest)⟩
        · rintro ⟨hword, hword'⟩
          rw [show target.word = target'.word from hword, hword']
  · constructor
    · rintro rfl
      refine absurd (pythonMarks_eq_of_pythonLine_eq h h' ?_ ?_) hmarks
      · exact fun leaf hleaf => (hs leaf hleaf).isLexed
      · exact fun leaf hleaf => (hs' leaf hleaf).isLexed
    · intro hessence
      rw [← s.pythonMarks_essence, hessence, s'.pythonMarks_essence] at hmarks
      exact absurd rfl hmarks

/-! ## Units -/

/-- An accepted unit has a line for each statement, and nothing else. -/
lemma map_pythonLine_of_draft_ok {program : Program}
    (h : (python.draft [] program).result = .ok ()) :
    program.map pythonLine = (python.draft [] program).lines.map .ok := by
  induction program with
  | nil => rfl
  | cons s rest ih =>
    rcases hline : python.line [] s with e | ⟨line, later⟩
    · rw [draft_cons_error hline] at h
      cases h
    · obtain ⟨hwritten, rfl⟩ := line_python_eq_ok_iff.1 hline
      rw [draft_cons_ok hline] at h ⊢
      rw [List.map_cons, List.map_cons, hwritten, ih h]

section

variable {program program' : Program}

lemma exists_pythonLine_of_draft_ok (h : (python.draft [] program).result = .ok ()) {s : Statement}
    (hs : s ∈ program) :
    ∃ line ∈ (python.draft [] program).lines, pythonLine s = .ok line := by
  have hmem := List.mem_map_of_mem (f := pythonLine) hs
  rw [map_pythonLine_of_draft_ok h] at hmem
  obtain ⟨line, hline, hwritten⟩ := List.mem_map.1 hmem
  exact ⟨line, hline, hwritten.symm⟩

/-- The text of an accepted unit has the lines that were written. -/
lemma lines_unlines_draft (h : (python.draft [] program).result = .ok ())
    (hprogram : ∀ s ∈ program, ∀ leaf ∈ s.operands, leaf.IsLexed) :
    Text.lines (unlines (python.draft [] program).lines).toList =
      (python.draft [] program).lines.map String.toList := by
  apply Text.lines_unlines
  intro line hline
  have hmem : (.ok line : Except EmitError String) ∈ (python.draft [] program).lines.map .ok :=
    List.mem_map_of_mem hline
  rw [← map_pythonLine_of_draft_ok h] at hmem
  obtain ⟨s, hs, hwritten⟩ := List.mem_map.1 hmem
  obtain ⟨hnewline, hreturn⟩ := s.lineEnds_notMem_pythonMarks
  constructor
  · intro hc
    obtain hc | hc := isWordChar_or_mem_pythonMarks hwritten (hprogram s hs) hc
    · exact absurd hc (by decide)
    · exact hnewline hc
  · intro hc
    obtain hc | hc := isWordChar_or_mem_pythonMarks hwritten (hprogram s hs) hc
    · exact absurd hc (by decide)
    · exact hreturn hc

/-- **Accepted units tell their programs**, up to what is no part of the essence. -/
lemma unlines_draft_eq_iff (h : (python.draft [] program).result = .ok ())
    (h' : (python.draft [] program').result = .ok ())
    (hprogram : ∀ s ∈ program, ∀ leaf ∈ s.operands, leaf.IsPlain)
    (hprogram' : ∀ s ∈ program', ∀ leaf ∈ s.operands, leaf.IsPlain) :
    unlines (python.draft [] program).lines = unlines (python.draft [] program').lines ↔
      program.map Statement.essence = program'.map Statement.essence := by
  have hlexed : ∀ s ∈ program, ∀ leaf ∈ s.operands, leaf.IsLexed :=
    fun s hs leaf hleaf => (hprogram s hs leaf hleaf).isLexed
  have hlexed' : ∀ s ∈ program', ∀ leaf ∈ s.operands, leaf.IsLexed :=
    fun s hs leaf hleaf => (hprogram' s hs leaf hleaf).isLexed
  calc unlines (python.draft [] program).lines = unlines (python.draft [] program').lines
      ↔ (python.draft [] program).lines = (python.draft [] program').lines := by
        constructor
        · intro htext
          have hlines := lines_unlines_draft h hlexed
          rw [htext, lines_unlines_draft h' hlexed'] at hlines
          exact (List.map_injective_iff.2 fun _ _ => String.toList_inj.1) hlines.symm
        · intro hlines
          rw [hlines]
    _ ↔ program.map pythonLine = program'.map pythonLine := by
        rw [map_pythonLine_of_draft_ok h, map_pythonLine_of_draft_ok h',
          (List.map_injective_iff.2 fun _ _ => Except.ok.inj).eq_iff]
    _ ↔ program.map Statement.essence = program'.map Statement.essence := by
        apply map_eq_map_iff_of_forall
        intro s hs s' hs'
        obtain ⟨line, -, hline⟩ := exists_pythonLine_of_draft_ok h hs
        obtain ⟨line', -, hline'⟩ := exists_pythonLine_of_draft_ok h' hs'
        rw [hline, hline', Except.ok.injEq,
          pythonLine_eq_iff hline hline' (hprogram s hs) (hprogram' s' hs')]

end

end Target

/-! ## Sources -/

/-- What compiling a source with finite numbers to Python amounts to. -/
lemma exists_draft_of_compile_python {source : String} {settings : Settings} {output : String}
    {tree : Tree} (hpython : settings.target = .python) (h : compile source settings = .ok output)
    (htree : treeOf source settings = .ok tree) (hfinite : Tree.IsFinite tree) :
    ∃ program, programOf source settings = .ok program ∧
      (Target.python.draft [] program).result = .ok () ∧
      output = unlines (Target.python.draft [] program).lines ∧
      ∀ s ∈ program, ∀ leaf ∈ s.operands, leaf.IsPlain := by
  rw [compile_eq_bind, hpython, htree] at h
  obtain ⟨program, hprogram, hgenerate⟩ := Target.compileTree_eq_ok_iff.1 h
  obtain ⟨hresult, houtput⟩ := Target.generate_python_eq_ok_iff.1 hgenerate
  have hprogramOf : programOf source settings = .ok program := by
    rw [programOf, htree]
    exact hprogram
  refine ⟨program, hprogramOf, hresult, houtput, ?_⟩
  intro s hs leaf hleaf
  obtain ⟨line, hline, hmeaning⟩ := exists_line_of_mem_programOf hprogramOf hs
  rw [← TokenStream.eq_tree_of_reading (treeOf_eq_ok_iff.1 htree)] at hline
  exact Leaf.isPlain_of_mem_tree htree hfinite hline
    (Statement.mem_leaves_of_mem_operands hmeaning hleaf)

/-- **Python's output determines the program up to sanitizing.**  Two sources with finite numbers
have the same output exactly if they have as many statements, and the statements are one by one the
same once positions are erased and variables sanitized. -/
theorem compile_python_eq_iff {source source' : String} {settings settings' : Settings}
    {output output' : String} {tree tree' : Tree} (hpython : settings.target = .python)
    (hpython' : settings'.target = .python) (h : compile source settings = .ok output)
    (h' : compile source' settings' = .ok output') (htree : treeOf source settings = .ok tree)
    (htree' : treeOf source' settings' = .ok tree') (hfinite : Tree.IsFinite tree)
    (hfinite' : Tree.IsFinite tree') :
    ∃ program program', programOf source settings = .ok program ∧
      programOf source' settings' = .ok program' ∧
      (output = output' ↔ program.map Statement.essence = program'.map Statement.essence) := by
  obtain ⟨program, hprogram, hresult, rfl, hplain⟩ :=
    exists_draft_of_compile_python hpython h htree hfinite
  obtain ⟨program', hprogram', hresult', rfl, hplain'⟩ :=
    exists_draft_of_compile_python hpython' h' htree' hfinite'
  refine ⟨program, program', hprogram, hprogram', ?_⟩
  exact Target.unlines_draft_eq_iff hresult hresult' hplain hplain'

/-- Spellings of a number, blank lines and names that are sanitized alike cannot be told. -/
theorem compile_python_eq_iff_spellings :
    ∃ program program',
      programOf "O.O @\nUwU @ 2.50\n" ⟨.inMemory, .python⟩ = .ok program ∧
      programOf "O.O _at_\n\nUwU  _at_ 2.5\n" ⟨.inMemory, .python⟩ = .ok program' ∧
      program.map Statement.essence = program'.map Statement.essence := by
  have h : compile "O.O @\nUwU @ 2.50\n" ⟨.inMemory, .python⟩ =
      .ok "_at_ = 0\nprint(_at_, 2.5)\n" := by
    decide +kernel
  have h' : compile "O.O _at_\n\nUwU  _at_ 2.5\n" ⟨.inMemory, .python⟩ =
      .ok "_at_ = 0\nprint(_at_, 2.5)\n" := by
    decide +kernel
  have htree : treeOf "O.O @\nUwU @ 2.50\n" ⟨.inMemory, .python⟩ =
      .ok [⟨[.identifier ⟨"O.O", ⟨0, 0, 0⟩⟩, .identifier ⟨"@", ⟨0, 4, 4⟩⟩]⟩,
        ⟨[.identifier ⟨"UwU", ⟨1, 0, 6⟩⟩, .identifier ⟨"@", ⟨1, 4, 10⟩⟩,
          .number ⟨⟨0x4004000000000000⟩, ⟨1, 6, 12⟩⟩]⟩] := by
    decide +kernel
  have htree' : treeOf "O.O _at_\n\nUwU  _at_ 2.5\n" ⟨.inMemory, .python⟩ =
      .ok [⟨[.identifier ⟨"O.O", ⟨0, 0, 0⟩⟩, .identifier ⟨"_at_", ⟨0, 4, 4⟩⟩]⟩,
        ⟨[.identifier ⟨"UwU", ⟨2, 0, 10⟩⟩, .identifier ⟨"_at_", ⟨2, 5, 15⟩⟩,
          .number ⟨⟨0x4004000000000000⟩, ⟨2, 10, 20⟩⟩]⟩] := by
    decide +kernel
  obtain ⟨program, program', hprogram, hprogram', hiff⟩ :=
    compile_python_eq_iff rfl rfl h h' htree htree' (by decide +kernel) (by decide +kernel)
  exact ⟨program, program', hprogram, hprogram', hiff.1 rfl⟩

end Kaomoji
