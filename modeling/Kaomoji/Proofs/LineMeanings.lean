import Mathlib.Data.List.Forall2
import Kaomoji.Proofs.CAcceptance

/-!
# What lines mean

`Line.Means` and `Line.FailsFor` say what a line means and why it means nothing, one rule for each
kind of statement and one for each cause.  They read the table of keywords as a set: as no name
stands in it twice, the order in which it is searched does not matter (`Keyword.ofName?_eq_some_iff`).
A line has a meaning or a fault (`Statement.ofLine_eq_ok_iff`, `Statement.ofLine_eq_error_iff`), and
a tree has the meanings of its lines, or the fault of the first line that has one.

A statement keeps all leaves of its line but the keyword.  A call keeps that too, an extended
statement keeps its place, and as each form and each type has one keyword the name can be told.  Only
the place of a declaration's keyword is lost: `Line.Means.eq_iff_agreesWith`.
-/

namespace Kaomoji

/-! ## Keywords -/

namespace Keyword

/-- The name of a keyword. -/
def name : Keyword → String
  | call => "UwU"
  | declaration .int => "O.O"
  | extended .sum => ":v"

/-- The table has each keyword once, with its name. -/
lemma mem_table_iff {text : String} {keyword : Keyword} :
    (text, keyword) ∈ table ↔ text = keyword.name := by
  constructor
  · have hall : ∀ entry ∈ table, entry.1 = entry.2.name := by decide
    exact hall (text, keyword)
  · rintro rfl
    match keyword with
    | call => decide
    | declaration .int => decide
    | extended .sum => decide

/-- **No name announces two things**, so that a search finds what the table holds. -/
lemma ofName?_eq_some_iff {text : String} {keyword : Keyword} :
    ofName? text = some keyword ↔ (text, keyword) ∈ table := by
  constructor
  · intro h
    obtain ⟨front, back, htable, -⟩ := List.lookup_eq_some_iff.1 h
    rw [htable]
    exact List.mem_append_right front List.mem_cons_self
  · have hall : ∀ entry ∈ table, ofName? entry.1 = some entry.2 := by decide
    exact hall (text, keyword)

lemma eq_of_mem_table {text : String} {keyword keyword' : Keyword} (h : (text, keyword) ∈ table)
    (h' : (text, keyword') ∈ table) : keyword = keyword' := by
  rw [← ofName?_eq_some_iff] at h h'
  exact Option.some.inj (h.symm.trans h')

lemma mem_names_iff {text : String} : text ∈ names ↔ ∃ keyword, (text, keyword) ∈ table := by
  rw [names, List.mem_map]
  constructor
  · rintro ⟨⟨text, keyword⟩, hentry, rfl⟩
    exact ⟨keyword, hentry⟩
  · rintro ⟨keyword, hentry⟩
    exact ⟨_, hentry, rfl⟩

lemma ofName?_eq_none_iff {text : String} : ofName? text = none ↔ text ∉ names := by
  rw [mem_names_iff, Option.eq_none_iff_forall_ne_some, not_exists]
  exact forall_congr' fun keyword => not_congr ofName?_eq_some_iff

end Keyword

/-! ## Single lines -/

/-- **What a line means.** -/
inductive Line.Means : Line → Statement → Prop
  | call {head : Identifier} {args : List Leaf} (h : (head.name, .call) ∈ Keyword.table) :
    Means ⟨.identifier head :: args⟩ (.call head args)
  | declaration {head target : Identifier} {type : DeclaredType}
    (h : (head.name, .declaration type) ∈ Keyword.table) :
    Means ⟨[.identifier head, .identifier target]⟩ (.declaration type target)
  | extended {head : Identifier} {form : Form} {args : List Leaf}
    (h : (head.name, .extended form) ∈ Keyword.table) :
    Means ⟨.identifier head :: args⟩ (.extended form args head.position)

/-- **Why a line means nothing.** -/
inductive Line.FailsFor : Line → MeaningError → Prop
  | empty : FailsFor ⟨[]⟩ .emptyLine
  | number (n : NumberLiteral) (args : List Leaf) :
    FailsFor ⟨.number n :: args⟩ (.notAnIdentifier (Leaf.number n).describe n.position)
  | unknown {head : Identifier} {args : List Leaf} (h : head.name ∉ Keyword.names) :
    FailsFor ⟨.identifier head :: args⟩ (.unknownKeyword head.name head.position)
  | arity {head : Identifier} {args : List Leaf} {type : DeclaredType}
    (h : (head.name, .declaration type) ∈ Keyword.table) (hargs : args.length ≠ 1) :
    FailsFor ⟨.identifier head :: args⟩ (.declarationArity args.length head.position)
  | target {head : Identifier} {n : NumberLiteral} {type : DeclaredType}
    (h : (head.name, .declaration type) ∈ Keyword.table) :
    FailsFor ⟨[.identifier head, .number n]⟩
      (.declarationTarget (Leaf.number n).describe n.position)

/-- **Which lines have a meaning**: those that begin with a keyword, and of the declarations those
of a single name. -/
def Line.IsMeaningful (line : Line) : Prop :=
  ∃ head args, line.leaves = .identifier head :: args ∧ head.name ∈ Keyword.names ∧
    ∀ type, (head.name, .declaration type) ∈ Keyword.table → ∃ target, args = [.identifier target]

namespace Statement

lemma ofLine_eq_ok_iff {line : Line} {s : Statement} : ofLine line = .ok s ↔ line.Means s := by
  constructor
  · intro h
    obtain ⟨leaves⟩ := line
    obtain ⟨head, args, rfl, hkeyword, rfl⟩ | ⟨head, type, target, rfl, hkeyword, rfl⟩ |
      ⟨head, form, args, rfl, hkeyword, rfl⟩ := ofLine_cases h
    · exact .call (Keyword.ofName?_eq_some_iff.1 hkeyword)
    · exact .declaration (Keyword.ofName?_eq_some_iff.1 hkeyword)
    · exact .extended (Keyword.ofName?_eq_some_iff.1 hkeyword)
  · rintro (h | h | h)
    all_goals
      rw [← Keyword.ofName?_eq_some_iff] at h
      simp only [ofLine, h, ofDeclaration]

lemma ofDeclaration_of_length_ne_one {args : List Leaf} (h : args.length ≠ 1) (type : DeclaredType)
    (position : Position) :
    ofDeclaration type position args = .error (.declarationArity args.length position) := by
  rw [ofDeclaration.eq_def]
  split
  · exact absurd rfl h
  · exact absurd rfl h
  · rfl

/-- A declaration is refused for the number of its arguments, or for its one argument. -/
lemma failsFor_of_ofDeclaration {head : Identifier} {args : List Leaf} {type : DeclaredType}
    (hkeyword : (head.name, .declaration type) ∈ Keyword.table) {e : MeaningError}
    (h : ofDeclaration type head.position args = .error e) :
    Line.FailsFor ⟨.identifier head :: args⟩ e := by
  rw [ofDeclaration.eq_def] at h
  split at h
  · cases h
  · cases h
    exact .target hkeyword
  · rename_i hidentifier hnumber
    cases h
    refine .arity hkeyword fun hlength => ?_
    obtain ⟨leaf, rfl⟩ := List.length_eq_one_iff.1 hlength
    cases leaf with
    | identifier target => exact hidentifier target rfl
    | number n => exact hnumber n rfl

lemma ofLine_eq_error_iff {line : Line} {e : MeaningError} :
    ofLine line = .error e ↔ line.FailsFor e := by
  constructor
  · intro h
    obtain ⟨leaves⟩ := line
    rw [ofLine] at h
    split at h
    · rename_i hleaves
      cases h
      cases hleaves
      exact .empty
    · rename_i n args hleaves
      cases h
      cases hleaves
      exact .number n args
    · rename_i head args hleaves
      cases hleaves
      split at h
      · cases h
      · rename_i type hkeyword
        exact failsFor_of_ofDeclaration (Keyword.ofName?_eq_some_iff.1 hkeyword) h
      · cases h
      · rename_i hkeyword
        cases h
        exact .unknown (Keyword.ofName?_eq_none_iff.1 hkeyword)
  · rintro (_ | _ | h | ⟨h, hargs⟩ | h)
    · rfl
    · rfl
    · rw [← Keyword.ofName?_eq_none_iff] at h
      simp only [ofLine, h]
    · rw [← Keyword.ofName?_eq_some_iff] at h
      simp only [ofLine, h, ofDeclaration_of_length_ne_one hargs]
    · rw [← Keyword.ofName?_eq_some_iff] at h
      simp only [ofLine, h, ofDeclaration]

end Statement

namespace Line

/-- A line has one meaning. -/
lemma Means.unique {line : Line} {s s' : Statement} (h : line.Means s) (h' : line.Means s') :
    s = s' := by
  rw [← Statement.ofLine_eq_ok_iff] at h h'
  exact Except.ok.inj (h.symm.trans h')

lemma isMeaningful_iff {line : Line} : line.IsMeaningful ↔ ∃ s, Statement.ofLine line = .ok s := by
  simp only [Statement.ofLine_eq_ok_iff]
  constructor
  · obtain ⟨leaves⟩ := line
    rintro ⟨head, args, rfl, hname, hdeclaration⟩
    obtain ⟨keyword, hkeyword⟩ := Keyword.mem_names_iff.1 hname
    match keyword with
    | .call => exact ⟨_, .call hkeyword⟩
    | .declaration type =>
      obtain ⟨target, rfl⟩ := hdeclaration type hkeyword
      exact ⟨_, .declaration hkeyword⟩
    | .extended form => exact ⟨_, .extended hkeyword⟩
  · rintro ⟨s, h | h | h⟩
    · exact ⟨_, _, rfl, Keyword.mem_names_iff.2 ⟨_, h⟩,
        fun _ hdeclaration => nomatch Keyword.eq_of_mem_table h hdeclaration⟩
    · exact ⟨_, _, rfl, Keyword.mem_names_iff.2 ⟨_, h⟩, fun _ _ => ⟨_, rfl⟩⟩
    · exact ⟨_, _, rfl, Keyword.mem_names_iff.2 ⟨_, h⟩,
        fun _ hdeclaration => nomatch Keyword.eq_of_mem_table h hdeclaration⟩

end Line

/-! ## Back from statements to lines -/

/-- The line that a statement comes from; the keyword of a declaration is put at the start. -/
def Statement.line : Statement → Line
  | call callee args => ⟨.identifier callee :: args⟩
  | declaration type target =>
    ⟨[.identifier ⟨(Keyword.declaration type).name, .start⟩, .identifier target]⟩
  | extended form args position => ⟨.identifier ⟨(Keyword.extended form).name, position⟩ :: args⟩

namespace Line

/-- **The lines agree** but for the place of a declaration's keyword. -/
inductive AgreesWith : Line → Line → Prop
  | same (line : Line) : AgreesWith line line
  | declaration {name : String} {type : DeclaredType}
    (h : (name, .declaration type) ∈ Keyword.table) (position position' : Position)
    (args : List Leaf) :
    AgreesWith ⟨.identifier ⟨name, position⟩ :: args⟩ ⟨.identifier ⟨name, position'⟩ :: args⟩

lemma AgreesWith.symm {line line' : Line} (h : line.AgreesWith line') : line'.AgreesWith line := by
  cases h with
  | same => exact .same _
  | declaration h position position' args => exact .declaration h position' position args

lemma AgreesWith.trans {first second third : Line} (h : first.AgreesWith second)
    (h' : second.AgreesWith third) : first.AgreesWith third := by
  cases h with
  | same => exact h'
  | declaration h position position' args =>
    cases h' with
    | same => exact .declaration h position position' args
    | declaration h' _ position'' _ => exact .declaration h position position'' args

/-- The place of a declaration's keyword has no part in what the line means. -/
lemma AgreesWith.means {line line' : Line} (h : line.AgreesWith line') {s : Statement}
    (hs : line.Means s) : line'.Means s := by
  cases h with
  | same => exact hs
  | declaration h position position' args =>
    cases hs with
    | call h' => exact nomatch Keyword.eq_of_mem_table h h'
    | declaration h' => exact .declaration h'
    | extended h' => exact nomatch Keyword.eq_of_mem_table h h'

/-- **The line can be told from what it means**, as each type and each form has one keyword. -/
lemma Means.agreesWith_line {line : Line} {s : Statement} (h : line.Means s) :
    line.AgreesWith s.line := by
  cases h with
  | call h => exact .same _
  | declaration h =>
    rw [Statement.line, ← Keyword.mem_table_iff.1 h]
    exact .declaration h _ _ _
  | extended h =>
    rw [Statement.line, ← Keyword.mem_table_iff.1 h]
    exact .same _

/-- Lines mean the same exactly when they agree. -/
lemma Means.eq_iff_agreesWith {line line' : Line} {s s' : Statement} (h : line.Means s)
    (h' : line'.Means s') : s = s' ↔ line.AgreesWith line' := by
  constructor
  · rintro rfl
    exact h.agreesWith_line.trans h'.agreesWith_line.symm
  · intro hagrees
    exact (hagrees.means h).unique h'

end Line

/-! ## Trees -/

/-- A list is accepted with what its members are accepted with, one by one. -/
lemma mapM_eq_ok_iff {α β ε : Type} {f : α → Except ε β} {xs : List α} {ys : List β} :
    xs.mapM f = .ok ys ↔ List.Forall₂ (fun x y => f x = .ok y) xs ys := by
  induction xs generalizing ys with
  | nil => simp [pure, Except.pure, eq_comm]
  | cons x rest ih =>
    rw [List.mapM_cons, bind_eq_ok_iff, List.forall₂_cons_left_iff]
    constructor
    · rintro ⟨y, hx, hrest⟩
      obtain ⟨more, hmore, hcons⟩ := bind_eq_ok_iff.1 hrest
      exact ⟨y, more, hx, ih.1 hmore, (Except.ok.inj hcons).symm⟩
    · rintro ⟨y, more, hx, hmore, rfl⟩
      exact ⟨y, hx, bind_eq_ok_iff.2 ⟨more, ih.2 hmore, rfl⟩⟩

namespace Program

/-- The statements of a tree are the meanings of its lines, in their order. -/
lemma ofTree_eq_ok_iff {tree : Tree} {program : Program} :
    ofTree tree = .ok program ↔ List.Forall₂ Line.Means tree program := by
  simp only [ofTree, mapM_eq_ok_iff, Statement.ofLine_eq_ok_iff]

/-- A tree fails for its first line without meaning; what follows is not looked at. -/
lemma ofTree_eq_error_iff {tree : Tree} {e : MeaningError} :
    ofTree tree = .error e ↔
      ∃ front line later, tree = front ++ line :: later ∧ (∀ earlier ∈ front, earlier.IsMeaningful) ∧
        line.FailsFor e := by
  simp only [ofTree, mapM_eq_error_iff, Line.isMeaningful_iff, Statement.ofLine_eq_error_iff]

lemma exists_ofTree_iff {tree : Tree} :
    (∃ program, ofTree tree = .ok program) ↔ ∀ line ∈ tree, line.IsMeaningful := by
  constructor
  · rintro ⟨program, h⟩ line hline
    exact Line.isMeaningful_iff.2 (exists_of_mapM_eq_ok h hline)
  · intro h
    rcases htree : ofTree tree with e | program
    · obtain ⟨front, line, later, rfl, -, hfails⟩ := ofTree_eq_error_iff.1 htree
      obtain ⟨s, hs⟩ := Line.isMeaningful_iff.1 (h line (by simp))
      rw [Statement.ofLine_eq_error_iff.2 hfails] at hs
      cases hs
    · exact ⟨program, rfl⟩

/-- Trees mean the same exactly when their lines agree. -/
lemma eq_iff_agree {tree tree' : Tree} {program program' : Program}
    (h : List.Forall₂ Line.Means tree program) (h' : List.Forall₂ Line.Means tree' program') :
    program = program' ↔ List.Forall₂ Line.AgreesWith tree tree' := by
  induction h generalizing tree' program' with
  | nil =>
    cases h' with
    | nil => simp
    | cons => simp
  | cons hline _ ih =>
    cases h' with
    | nil => simp
    | cons hline' hrest' =>
      rw [List.cons.injEq, hline.eq_iff_agreesWith hline', ih hrest', List.forall₂_cons]

/-- The tree can be told from its statements. -/
lemma agree_line {tree : Tree} {program : Program} (h : List.Forall₂ Line.Means tree program) :
    List.Forall₂ Line.AgreesWith tree (program.map Statement.line) := by
  rw [List.forall₂_map_right_iff]
  exact h.imp fun _ _ hline => hline.agreesWith_line

end Program

/-- **What a tree means.**  It has a meaning exactly if each of its lines begins with a keyword and
each declaration among them declares a single name.  Its statements are then the meanings of its
lines in their order, and the tree can be told from them up to the places of the keywords of
declarations: trees with the same statements are those that agree in all else.  A tree without
meaning has the fault of the first line without one, and the lines behind it have no say. -/
theorem ofTree_means (tree : Tree) :
    ((∃ program, Program.ofTree tree = .ok program) ↔ ∀ line ∈ tree, line.IsMeaningful) ∧
    (∀ program, Program.ofTree tree = .ok program ↔ List.Forall₂ Line.Means tree program) ∧
    (∀ program, Program.ofTree tree = .ok program →
      List.Forall₂ Line.AgreesWith tree (program.map Statement.line) ∧
      ∀ tree' program', Program.ofTree tree' = .ok program' →
        (program = program' ↔ List.Forall₂ Line.AgreesWith tree tree')) ∧
    ∀ e, Program.ofTree tree = .error e ↔
      ∃ front line later, tree = front ++ line :: later ∧
        (∀ earlier ∈ front, earlier.IsMeaningful) ∧ line.FailsFor e := by
  refine ⟨Program.exists_ofTree_iff, fun _ => Program.ofTree_eq_ok_iff, ?_,
    fun _ => Program.ofTree_eq_error_iff⟩
  intro program hprogram
  have hmeans := Program.ofTree_eq_ok_iff.1 hprogram
  refine ⟨Program.agree_line hmeans, fun tree' program' hprogram' => ?_⟩
  exact Program.eq_iff_agree hmeans (Program.ofTree_eq_ok_iff.1 hprogram')

/-- A declaration and a sum.  With the first keyword elsewhere the tree means the same, with the
second one elsewhere it does not; and of two faults the first is told. -/
theorem ofTree_means_moved_keyword :
    ∃ (tree : Position → Position → Tree) (program : Position → Program),
      (tree = fun declared summed =>
        [⟨[.identifier ⟨"O.O", declared⟩, .identifier ⟨"x", ⟨0, 4, 4⟩⟩]⟩,
          ⟨[.identifier ⟨":v", summed⟩]⟩]) ∧
      Program.ofTree (tree ⟨0, 0, 0⟩ ⟨1, 0, 6⟩) = .ok (program ⟨1, 0, 6⟩) ∧
      Program.ofTree (tree ⟨2, 2, 2⟩ ⟨1, 0, 6⟩) = .ok (program ⟨1, 0, 6⟩) ∧
      Program.ofTree (tree ⟨0, 0, 0⟩ ⟨2, 2, 2⟩) = .ok (program ⟨2, 2, 2⟩) ∧
      List.Forall₂ Line.AgreesWith (tree ⟨0, 0, 0⟩ ⟨1, 0, 6⟩) (tree ⟨2, 2, 2⟩ ⟨1, 0, 6⟩) ∧
      ¬List.Forall₂ Line.AgreesWith (tree ⟨0, 0, 0⟩ ⟨1, 0, 6⟩) (tree ⟨0, 0, 0⟩ ⟨2, 2, 2⟩) ∧
      Program.ofTree (tree ⟨0, 0, 0⟩ ⟨1, 0, 6⟩ ++ [⟨[.identifier ⟨"O.O", ⟨2, 0, 9⟩⟩]⟩, ⟨[]⟩]) =
        .error (.declarationArity 0 ⟨2, 0, 9⟩) := by
  have htree (declared summed : Position) :
      Program.ofTree [⟨[.identifier ⟨"O.O", declared⟩, .identifier ⟨"x", ⟨0, 4, 4⟩⟩]⟩,
          ⟨[.identifier ⟨":v", summed⟩]⟩] =
        .ok [.declaration .int ⟨"x", ⟨0, 4, 4⟩⟩, .extended .sum [] summed] := rfl
  have hagree (declared summed declared' summed' : Position) :=
    ((ofTree_means _).2.2.1 _ (htree declared summed)).2 _ _ (htree declared' summed')
  refine ⟨_, fun summed => [.declaration .int ⟨"x", ⟨0, 4, 4⟩⟩, .extended .sum [] summed], rfl,
    htree _ _, htree _ _, htree _ _, (hagree _ _ _ _).1 rfl, ?_, rfl⟩
  rw [← hagree]
  decide

end Kaomoji
