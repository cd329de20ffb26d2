import Kaomoji.Proofs.NumberSpelling

/-!
# When names collide

A name is written character by character, and a mark becomes a word between underscores.  So two
names may be written alike: `@` and `_at_` both become `_at_`.  This is the underscore's doing and
nothing else's.  The words of the marks begin with an underscore and none begins with another, so
that without underscores of its own a name can be read off what is written, one character at a time
(`sanitizeChar_append_inj`).  In a unit that has no underscores in its variables, different
variables are therefore written differently, whatever the target.
-/

namespace Kaomoji

/-! ## Reading a name back -/

/-- A character is written as the word of a mark or as itself. -/
lemma sanitizeChar_eq (c : Char) :
    (∃ word, (c, word) ∈ markWords ∧ sanitizeChar c = word.toList) ∨ sanitizeChar c = [c] := by
  rw [sanitizeChar]
  split
  · rename_i word hlookup
    obtain ⟨front, back, hsplit, -⟩ := List.lookup_eq_some_iff.1 hlookup
    refine Or.inl ⟨word, ?_, rfl⟩
    rw [hsplit]
    exact List.mem_append_right front List.mem_cons_self
  · exact Or.inr rfl

/-- The words of marks begin with an underscore. -/
lemma head?_markWords {entry : Char × String} (h : entry ∈ markWords) :
    entry.2.toList.head? = some '_' := by
  have hall : ∀ entry ∈ markWords, entry.2.toList.head? = some '_' := by decide
  exact hall entry h

/-- **The words of marks are a code**: none is the beginning of another. -/
lemma eq_of_begins_markWord {entry other : Char × String} (h : entry ∈ markWords)
    (hother : other ∈ markWords) (hbegins : entry.2.toList <+: other.2.toList) : entry = other := by
  have hall : ∀ entry ∈ markWords, ∀ other ∈ markWords,
      entry.2.toList <+: other.2.toList → entry = other := by decide
  exact hall entry h other hother hbegins

lemma sanitizeChar_ne_nil (c : Char) : sanitizeChar c ≠ [] := by
  rcases sanitizeChar_eq c with ⟨word, hword, hc⟩ | hc
  · intro hnil
    have hhead := head?_markWords hword
    rw [← hc, hnil] at hhead
    cases hhead
  · rw [hc]
    exact List.cons_ne_nil _ _

/-- A character that is written as itself is told from a mark, unless it is an underscore. -/
lemma ne_markWord_append {c mark : Char} (hc : c ≠ '_') {word : String}
    (hword : (mark, word) ∈ markWords) (back back' : List Char) :
    [c] ++ back ≠ word.toList ++ back' := by
  intro h
  have hhead := congrArg List.head? h
  rw [List.head?_append, List.head?_append, head?_markWords hword] at hhead
  exact hc (Option.some.inj hhead)

/-- **The first character can be read off**, and what is left is the rest. -/
lemma sanitizeChar_append_inj {c d : Char} (hc : c ≠ '_') (hd : d ≠ '_') {back back' : List Char}
    (h : sanitizeChar c ++ back = sanitizeChar d ++ back') : c = d ∧ back = back' := by
  have heq : c = d := by
    rcases sanitizeChar_eq c with ⟨word, hword, hcode⟩ | hcode <;>
      rcases sanitizeChar_eq d with ⟨word', hword', hcode'⟩ | hcode' <;> rw [hcode, hcode'] at h
    · -- of two words that begin the same text, one begins the other
      have hbegins : word.toList <+: word'.toList ++ back' := ⟨back, h⟩
      rcases List.prefix_or_prefix_of_prefix hbegins (List.prefix_append _ _) with hp | hp
      · exact congrArg Prod.fst (eq_of_begins_markWord hword hword' hp)
      · exact congrArg Prod.fst (eq_of_begins_markWord hword' hword hp).symm
    · exact absurd h.symm (ne_markWord_append hd hword back' back)
    · exact absurd h (ne_markWord_append hc hword' back back')
    · exact (List.cons.inj h).1
  subst heq
  exact ⟨rfl, List.append_cancel_left h⟩

lemma flatMap_sanitizeChar_inj {name other : List Char} (hname : '_' ∉ name) (hother : '_' ∉ other)
    (h : name.flatMap sanitizeChar = other.flatMap sanitizeChar) : name = other := by
  induction name generalizing other with
  | nil =>
    rcases other with _ | ⟨d, other⟩
    · rfl
    · rw [List.flatMap_nil, List.flatMap_cons] at h
      exact absurd (List.append_eq_nil_iff.1 h.symm).1 (sanitizeChar_ne_nil d)
  | cons c name ih =>
    rcases other with _ | ⟨d, other⟩
    · rw [List.flatMap_nil, List.flatMap_cons] at h
      exact absurd (List.append_eq_nil_iff.1 h).1 (sanitizeChar_ne_nil c)
    · rw [List.mem_cons, not_or] at hname hother
      rw [List.flatMap_cons, List.flatMap_cons] at h
      obtain ⟨rfl, hrest⟩ := sanitizeChar_append_inj (Ne.symm hname.1) (Ne.symm hother.1) h
      rw [ih hname.2 hother.2 hrest]

/-- Names without underscores are told apart by what is written of them. -/
lemma sanitize_inj {a b : String} (ha : '_' ∉ a.toList) (hb : '_' ∉ b.toList)
    (h : sanitize a = sanitize b) : a = b := by
  rw [sanitize, sanitize, String.ofList_inj] at h
  exact String.toList_inj.1 (flatMap_sanitizeChar_inj ha hb h)

/-! ## The variables of a unit -/

/-- The variables of a unit, in the order in which they occur. -/
def Program.variables (program : Program) : List Identifier :=
  program.flatMap fun s => s.operands.filterMap Leaf.identifier?

lemma Program.exists_of_mem_variables {program : Program} {id : Identifier}
    (h : id ∈ program.variables) : ∃ s ∈ program, .identifier id ∈ s.operands := by
  obtain ⟨s, hs, hid⟩ := List.mem_flatMap.1 h
  obtain ⟨leaf, hleaf, hname⟩ := List.mem_filterMap.1 hid
  cases leaf with
  | identifier id' =>
    cases hname
    exact ⟨s, hs, hleaf⟩
  | number n => cases hname

/-- **The variables of a unit are written apart**: each as an identifier of its own, and what is
written besides is known. -/
structure WritesApart (source : String) (settings : Settings) (program : Program) : Prop
    extends WritesWords source settings program where
  isIdentifier_word : ∀ id ∈ program.variables, isIdentifier id.word.toList
  word_ne : ∀ id ∈ program.variables, ∀ id' ∈ program.variables,
    id.name ≠ id'.name → id.word ≠ id'.word

/-- **Only an underscore makes names collide.**  Of two different names that are written alike, one
holds an underscore.  So a unit that has none in its variables is written with different identifiers
for different variables, for either target. -/
theorem sanitize_collision :
    (∀ a b : String, a ≠ b → sanitize a = sanitize b → '_' ∈ a.toList ∨ '_' ∈ b.toList) ∧
    ∀ source settings program, programOf source settings = .ok program →
      (∀ id ∈ program.variables, '_' ∉ id.name.toList) → WritesApart source settings program := by
  constructor
  · intro a b hne h
    by_contra hnot
    rw [not_or] at hnot
    exact hne (sanitize_inj hnot.1 hnot.2 h)
  · intro source settings program hprogram hnames
    refine ⟨writesWords_of_programOf hprogram, ?_, ?_⟩
    · intro id hid
      obtain ⟨s, hs, hleaf⟩ := Program.exists_of_mem_variables hid
      exact isIdentifier_sanitize (Leaf.isLexed_of_mem_programOf hprogram hs hleaf)
    · intro id hid id' hid' hne h
      exact hne (sanitize_inj (hnames id hid) (hnames id' hid') h)

/-- Two names of which one holds underscores are written alike; two variables made of marks are not,
even though the word of one mark is all but contained in the word of the other. -/
theorem sanitize_collision_marks :
    (sanitize "@" = sanitize "_at_" ∧ ('_' ∈ "@".toList ∨ '_' ∈ "_at_".toList)) ∧
    (∃ program, programOf "O.O /\n:v / \\\n" ⟨.inMemory, .python⟩ = .ok program ∧
      program.variables.map (·.name) = ["/", "/", "\\"] ∧
      WritesApart "O.O /\n:v / \\\n" ⟨.inMemory, .python⟩ program) ∧
    compile "O.O /\n:v / \\\n" ⟨.inMemory, .python⟩ =
      .ok "_slash_ = 0\n_slash_ += _bslash_\n" := by
  have hword : sanitize "@" = sanitize "_at_" := by decide
  refine ⟨⟨hword, sanitize_collision.1 "@" "_at_" (by decide) hword⟩, ?_, by decide +kernel⟩
  have hprogram : programOf "O.O /\n:v / \\\n" ⟨.inMemory, .python⟩ =
      .ok [.declaration .int ⟨"/", ⟨0, 4, 4⟩⟩,
        .extended .sum [.identifier ⟨"/", ⟨1, 3, 9⟩⟩, .identifier ⟨"\\", ⟨1, 5, 11⟩⟩]
          ⟨1, 0, 6⟩] := by
    decide +kernel
  refine ⟨_, hprogram, rfl, sanitize_collision.2 _ _ _ hprogram ?_⟩
  decide

end Kaomoji
