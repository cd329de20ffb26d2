import Kaomoji.Proofs.UnlimitedOutput
import Mathlib.Algebra.Order.Field.Rat

/-!
# What the C target accepts

The C target finds out statement by statement whether it can express a unit, with a table of the
variables declared so far.  This module says which units these are without that table.  A statement
is `Expressible` behind some earlier statements, and where it is not it `Offends` with an error of
its own; both look at nothing but the statement and the statements before it.

The table enters only through the invariant `Scope.Models`: it knows exactly the variables that the
earlier statements declare.  Each line keeps it, so it holds along every draft, and
`compile_c_eq_iff` reads the outcome for a whole unit off it.
-/

namespace Kaomoji

/-! ## The numbers that can be printed -/

namespace Binary64

/-- The number that a finite pattern stands for, its sign apart. -/
def magnitude (x : Binary64) : ℚ := weight x.pattern / 2 ^ 1074

lemma mod_pow_eq_zero_iff (n k : ℕ) : n % Nat.pow 2 k = 0 ↔ ∃ m : ℕ, (n / 2 ^ k : ℚ) = m := by
  have hpow : (2 ^ k : ℚ) ≠ 0 := pow_ne_zero k two_ne_zero
  rw [Nat.pow_eq, ← Nat.dvd_iff_mod_eq_zero]
  constructor
  · rintro ⟨m, rfl⟩
    refine ⟨m, ?_⟩
    rw [Nat.cast_mul, Nat.cast_pow, Nat.cast_ofNat, mul_div_cancel_left₀ _ hpow]
  · rintro ⟨m, hm⟩
    rw [div_eq_iff hpow] at hm
    exact Dvd.intro_left m (by exact_mod_cast hm.symm)

/-- A number is integral if it is finite and without fractional part. -/
lemma isIntegral_iff (x : Binary64) :
    x.isIntegral ↔ x.isFinite ∧ ∃ n : ℕ, x.magnitude = n := by
  unfold isIntegral magnitude
  generalize 1074 = k
  rw [Bool.and_eq_true, beq_iff_eq, mod_pow_eq_zero_iff]

end Binary64

/-! ## What can be expressed, and what cannot -/

/-- One of the statements declares a variable with the name. -/
def Declares (earlier : Program) (name : String) : Prop :=
  ∃ type target, Statement.declaration type target ∈ earlier ∧ target.name = name

lemma declares_concat {earlier : Program} {s : Statement} {name : String} :
    Declares (earlier ++ [s]) name ↔
      Declares earlier name ∨ ∃ type target, s = .declaration type target ∧ target.name = name := by
  simp only [Declares, List.mem_append, List.mem_singleton, or_and_right, exists_or, eq_comm]

/-- The argument can be printed behind the statements: it is a declared variable or a whole
number. -/
def Leaf.Printable (earlier : Program) : Leaf → Prop
  | .identifier id => Declares earlier id.name
  | .number n => n.value.isFinite ∧ ∃ k : ℕ, n.value.magnitude = k

/-- The argument cannot be printed behind the statements, for the reason that the error tells. -/
inductive Leaf.Offends (earlier : Program) : Leaf → EmitError → Prop
  | undeclared {id : Identifier} (h : ¬ (Leaf.identifier id).Printable earlier) :
    Offends earlier (.identifier id) (.unknownVariable id.name id.position)
  | fractional {n : NumberLiteral} (h : ¬ (Leaf.number n).Printable earlier) :
    Offends earlier (.number n) (.noFormat .float n.position)

/-- **The statement can be expressed behind the earlier ones.** -/
def Statement.Expressible (earlier : Program) : Statement → Prop
  | .call callee args => callee.name = "UwU" ∧ ∀ arg ∈ args, arg.Printable earlier
  | .declaration _ _ => True
  | .extended .sum args _ => ∃ target value, args = [.identifier target, value]

/-- **The statement cannot be expressed behind the earlier ones**, for the reason that the error
tells.  Of several reasons the callee comes before the arguments, an argument before those behind
it, and the number of operands before their kind. -/
inductive Statement.Offends (earlier : Program) : Statement → EmitError → Prop
  | callee {callee : Identifier} {args : List Leaf} (h : callee.name ≠ "UwU") :
    Offends earlier (.call callee args) (.unknownCall callee.name callee.position)
  | argument {callee : Identifier} {front back : List Leaf} {arg : Leaf} {e : EmitError}
    (hcallee : callee.name = "UwU") (hfront : ∀ leaf ∈ front, leaf.Printable earlier)
    (harg : arg.Offends earlier e) : Offends earlier (.call callee (front ++ arg :: back)) e
  | arity {args : List Leaf} {position : Position} (h : args.length ≠ 2) :
    Offends earlier (.extended .sum args position) (.statementArity .sum 2 args.length position)
  | target {n : NumberLiteral} {value : Leaf} {position : Position} :
    Offends earlier (.extended .sum [.number n, value] position)
      (.statementTarget .sum (Leaf.number n).describe n.position)

/-! ## The table of declared variables -/

/-- **The table knows what the statements declare**, and nothing else. -/
def Scope.Models (scope : Scope) (earlier : Program) : Prop :=
  ∀ name, (Declares earlier name ∧ scope.lookup name = some .int) ∨
    (¬ Declares earlier name ∧ scope.lookup name = none)

namespace Scope.Models

variable {scope : Scope} {earlier : Program}

lemma nil : Scope.Models [] [] := by
  intro name
  right
  exact ⟨by simp [Declares], rfl⟩

lemma declaration (h : scope.Models earlier) (type : DeclaredType) (target : Identifier) :
    Scope.Models ((target.name, Target.cType type) :: scope)
      (earlier ++ [.declaration type target]) := by
  have htype : Target.cType type = .int := by
    cases type
    rfl
  intro name
  by_cases hname : name = target.name
  · left
    constructor
    · exact ⟨type, target, by simp, hname.symm⟩
    · simp [hname, htype]
  · -- the new entry is about another name
    have hdeclares : Declares (earlier ++ [.declaration type target]) name ↔
        Declares earlier name := by
      rw [declares_concat]
      constructor
      · rintro (h | ⟨_, _, ⟨⟩, hother⟩)
        · exact h
        · exact absurd hother.symm hname
      · exact Or.inl
    have hlookup : List.lookup name ((target.name, Target.cType type) :: scope) =
        scope.lookup name := by
      rw [List.lookup_cons, beq_false_of_ne hname]
    rw [hdeclares, hlookup]
    exact h name

/-- A statement that declares nothing leaves the table as it is. -/
lemma concat (h : scope.Models earlier) {s : Statement}
    (hs : ∀ type target, s ≠ .declaration type target) : scope.Models (earlier ++ [s]) := by
  intro name
  have hdeclares : Declares (earlier ++ [s]) name ↔ Declares earlier name := by
    rw [declares_concat]
    constructor
    · rintro (h | ⟨type, target, rfl, -⟩)
      · exact h
      · exact absurd rfl (hs type target)
    · exact Or.inl
  rw [hdeclares]
  exact h name

end Scope.Models

/-! ## Lists of results -/

/-- A list is refused for its first member that is refused. -/
lemma mapM_eq_error_iff {α β ε : Type} {f : α → Except ε β} {xs : List α} {e : ε} :
    xs.mapM f = .error e ↔
      ∃ front x back, xs = front ++ x :: back ∧ (∀ y ∈ front, ∃ b, f y = .ok b) ∧
        f x = .error e := by
  induction xs with
  | nil => simp [pure, Except.pure]
  | cons x rest ih =>
    rw [List.mapM_cons, bind_eq_error_iff]
    constructor
    · rintro (hx | ⟨b, hb, hrest⟩)
      · exact ⟨[], x, rest, rfl, by simp, hx⟩
      · obtain hrest | ⟨_, _, ⟨⟩⟩ := bind_eq_error_iff.1 hrest
        obtain ⟨front, y, back, rfl, hfront, hy⟩ := ih.1 hrest
        exact ⟨x :: front, y, back, rfl, List.forall_mem_cons.2 ⟨⟨b, hb⟩, hfront⟩, hy⟩
    · rintro ⟨front, y, back, hsplit, hfront, hy⟩
      cases front with
      | nil =>
        cases hsplit
        exact Or.inl hy
      | cons z front =>
        cases hsplit
        obtain ⟨⟨b, hb⟩, hfront⟩ := List.forall_mem_cons.1 hfront
        refine Or.inr ⟨b, hb, bind_eq_error_iff.2 (Or.inl (ih.2 ⟨front, y, back, rfl, hfront, hy⟩))⟩

/-- A list is accepted with all its members. -/
lemma exists_of_mapM_eq_ok {α β ε : Type} {f : α → Except ε β} {xs : List α} {ys : List β}
    (h : xs.mapM f = .ok ys) {x : α} (hx : x ∈ xs) : ∃ y, f x = .ok y := by
  induction xs generalizing ys with
  | nil => cases hx
  | cons first rest ih =>
    rw [List.mapM_cons] at h
    obtain ⟨y, hfirst, h⟩ := bind_eq_ok_iff.1 h
    obtain ⟨more, hrest, -⟩ := bind_eq_ok_iff.1 h
    obtain rfl | hx := List.mem_cons.1 hx
    · exact ⟨y, hfirst⟩
    · exact ih hrest hx

/-! ## One statement -/

lemma Target.cLine_call {scope : Scope} {callee : Identifier} (h : callee.name = "UwU")
    (args : List Leaf) :
    Target.cLine scope (.call callee args) =
      args.mapM (Target.placeholder scope) >>= fun placeholders =>
        .ok ("printf(" ++
          ", ".intercalate (Target.formatString placeholders :: args.map Leaf.word) ++ ");",
          scope) := by
  rw [Target.cLine, h]
  rfl

lemma Target.cLine_call_of_ne {scope : Scope} {callee : Identifier} (h : callee.name ≠ "UwU")
    (args : List Leaf) :
    Target.cLine scope (.call callee args) =
      .error (.unknownCall callee.name callee.position) := by
  have hlookup : Target.cCalls.lookup callee.name = none := by
    rw [Target.cCalls, List.lookup_cons, beq_false_of_ne h, List.lookup_nil]
  rw [Target.cLine, hlookup]

section

variable {scope : Scope} {earlier : Program}

lemma Target.placeholder_eq_ok_iff (hscope : scope.Models earlier) {arg : Leaf} {text : String} :
    Target.placeholder scope arg = .ok text ↔ text = "%d" ∧ arg.Printable earlier := by
  cases arg with
  | identifier id =>
    rcases hscope id.name with ⟨hdeclares, hlookup⟩ | ⟨hdeclares, hlookup⟩
    · simp [Target.placeholder, Target.typeOf, hlookup, CType.placeholder?, Leaf.Printable,
        hdeclares, bind, Except.bind, eq_comm]
    · simp [Target.placeholder, Target.typeOf, hlookup, Leaf.Printable, hdeclares, bind,
        Except.bind]
  | number n =>
    have hintegral := n.value.isIntegral_iff
    rw [Leaf.Printable, ← hintegral]
    by_cases h : n.value.isIntegral
    · simp [Target.placeholder, Target.typeOf, NumberLiteral.isIntegral, h, CType.placeholder?,
        bind, Except.bind, eq_comm]
    · simp [Target.placeholder, Target.typeOf, NumberLiteral.isIntegral, h, CType.placeholder?,
        bind, Except.bind]

lemma Target.placeholder_eq_error_iff (hscope : scope.Models earlier) {arg : Leaf} {e : EmitError} :
    Target.placeholder scope arg = .error e ↔ arg.Offends earlier e := by
  constructor
  · intro h
    have hprintable : ¬ arg.Printable earlier := by
      intro hprintable
      rw [(Target.placeholder_eq_ok_iff hscope).2 ⟨rfl, hprintable⟩] at h
      cases h
    cases arg with
    | identifier id =>
      obtain ⟨-, hlookup⟩ := (hscope id.name).resolve_left fun hdeclares => hprintable hdeclares.1
      simp only [Target.placeholder, Target.typeOf, hlookup] at h
      cases h
      exact .undeclared hprintable
    | number n =>
      rw [Leaf.Printable, ← n.value.isIntegral_iff] at hprintable
      simp only [Target.placeholder, Target.typeOf, NumberLiteral.isIntegral, hprintable] at h
      cases h
      exact .fractional (by rwa [Leaf.Printable, ← n.value.isIntegral_iff])
  · rintro (⟨h⟩ | ⟨h⟩)
    · rename_i id
      obtain ⟨-, hlookup⟩ := (hscope id.name).resolve_left fun hdeclares => h hdeclares.1
      simp only [Target.placeholder, Target.typeOf, hlookup]
      rfl
    · rename_i n
      rw [Leaf.Printable, ← n.value.isIntegral_iff] at h
      simp only [Target.placeholder, Target.typeOf, NumberLiteral.isIntegral, h]
      rfl

lemma Target.placeholders_eq_ok_iff (hscope : scope.Models earlier) {args : List Leaf}
    {placeholders : List String} :
    args.mapM (Target.placeholder scope) = .ok placeholders ↔
      placeholders = List.replicate args.length "%d" ∧ ∀ arg ∈ args, arg.Printable earlier := by
  induction args generalizing placeholders with
  | nil => simp [pure, Except.pure, eq_comm]
  | cons arg rest ih =>
    rw [List.mapM_cons, bind_eq_ok_iff, List.forall_mem_cons, List.length_cons,
      List.replicate_succ]
    constructor
    · rintro ⟨first, hfirst, hrest⟩
      obtain ⟨more, hmore, hcons⟩ := bind_eq_ok_iff.1 hrest
      obtain ⟨rfl, harg⟩ := (Target.placeholder_eq_ok_iff hscope).1 hfirst
      obtain ⟨rfl, hprintable⟩ := ih.1 hmore
      cases hcons
      exact ⟨rfl, harg, hprintable⟩
    · rintro ⟨rfl, harg, hprintable⟩
      refine ⟨"%d", (Target.placeholder_eq_ok_iff hscope).2 ⟨rfl, harg⟩, ?_⟩
      rw [ih.2 ⟨rfl, hprintable⟩]
      rfl

lemma Target.placeholders_eq_error_iff (hscope : scope.Models earlier) {args : List Leaf}
    {e : EmitError} :
    args.mapM (Target.placeholder scope) = .error e ↔
      ∃ front arg back, args = front ++ arg :: back ∧ (∀ leaf ∈ front, leaf.Printable earlier) ∧
        arg.Offends earlier e := by
  rw [mapM_eq_error_iff]
  simp only [Target.placeholder_eq_ok_iff hscope, Target.placeholder_eq_error_iff hscope,
    exists_eq_left]

lemma sumOperands_eq_error_iff {args : List Leaf} {position : Position} {e : EmitError} :
    sumOperands args position = .error e ↔
      Statement.Offends earlier (.extended .sum args position) e := by
  constructor
  · intro h
    unfold sumOperands at h
    split at h
    · cases h
    · cases h
      exact .target
    · rename_i hidentifier hnumber
      cases h
      refine .arity fun hlength => ?_
      obtain ⟨first, value, rfl⟩ := List.length_eq_two.1 hlength
      cases first with
      | identifier target => exact hidentifier target value rfl
      | number n => exact hnumber n value rfl
  · intro h
    cases h with
    | arity h =>
      unfold sumOperands
      split
      · exact absurd rfl h
      · exact absurd rfl h
      · rfl
    | target => rfl

lemma sumOperands_eq_ok_iff {args : List Leaf} {position : Position} {target : Identifier}
    {value : Leaf} :
    sumOperands args position = .ok (target, value) ↔ args = [.identifier target, value] := by
  constructor
  · intro h
    unfold sumOperands at h
    split at h
    · cases h
      rfl
    · cases h
    · cases h
  · rintro rfl
    rfl

/-- **What the C target writes for a statement**, and what it declares. -/
lemma Target.cLine_cases {s : Statement} {line : String} {later : Scope}
    (h : Target.cLine scope s = .ok (line, later)) :
    (∃ callee args placeholders, s = .call callee args ∧ callee.name = "UwU" ∧
      args.mapM (Target.placeholder scope) = .ok placeholders ∧
      line = "printf(" ++
        ", ".intercalate (Target.formatString placeholders :: args.map Leaf.word) ++ ");" ∧
      later = scope) ∨
    (∃ type target, s = .declaration type target ∧ line = "int " ++ (target.word ++ " = 0") ++ ";" ∧
      later = (target.name, Target.cType type) :: scope) ∨
    ∃ target value position, s = .extended .sum [.identifier target, value] position ∧
      line = target.word ++ " += " ++ value.word ++ ";" ∧ later = scope := by
  cases s with
  | call callee args =>
    left
    by_cases hcallee : callee.name = "UwU"
    · rw [Target.cLine_call hcallee] at h
      obtain ⟨placeholders, hplaceholders, hline⟩ := bind_eq_ok_iff.1 h
      cases hline
      exact ⟨callee, args, placeholders, rfl, hcallee, hplaceholders, rfl, rfl⟩
    · rw [Target.cLine_call_of_ne hcallee] at h
      cases h
  | declaration type target =>
    right
    left
    cases h
    refine ⟨type, target, rfl, ?_, rfl⟩
    cases type
    show "int " ++ target.word ++ " = " ++ "0" ++ ";" =
      "int " ++ (target.word ++ (" = " ++ "0")) ++ ";"
    simp only [String.append_assoc]
  | extended form args position =>
    right
    right
    cases form with
    | sum =>
      obtain ⟨⟨target, value⟩, hoperands, hline⟩ := bind_eq_ok_iff.1 h
      cases hline
      exact ⟨target, value, position, by rw [sumOperands_eq_ok_iff.1 hoperands], rfl, rfl⟩

/-- The C target refuses a statement for what is offensive about it. -/
lemma Target.cLine_eq_error_iff (hscope : scope.Models earlier) {s : Statement} {e : EmitError} :
    Target.cLine scope s = .error e ↔ s.Offends earlier e := by
  cases s with
  | call callee args =>
    by_cases hcallee : callee.name = "UwU"
    · rw [Target.cLine_call hcallee, bind_eq_error_iff, Target.placeholders_eq_error_iff hscope]
      constructor
      · rintro (⟨front, arg, back, rfl, hfront, harg⟩ | ⟨_, _, ⟨⟩⟩)
        exact .argument hcallee hfront harg
      · intro h
        cases h with
        | callee h => exact absurd hcallee h
        | argument _ hfront harg => exact Or.inl ⟨_, _, _, rfl, hfront, harg⟩
    · rw [Target.cLine_call_of_ne hcallee]
      constructor
      · rintro ⟨⟩
        exact .callee hcallee
      · intro h
        cases h with
        | callee _ => rfl
        | argument h _ _ => exact absurd h hcallee
  | declaration type target =>
    constructor
    · intro h
      cases h
    · intro h
      cases h
  | extended form args position =>
    cases form with
    | sum =>
      rw [← sumOperands_eq_error_iff, Target.cLine, bind_eq_error_iff]
      constructor
      · rintro (h | ⟨_, _, ⟨⟩⟩)
        exact h
      · exact Or.inl

/-- The C target expresses what is expressible. -/
lemma Target.exists_cLine_iff (hscope : scope.Models earlier) {s : Statement} :
    (∃ line later, Target.cLine scope s = .ok (line, later)) ↔ s.Expressible earlier := by
  constructor
  · rintro ⟨line, later, h⟩
    rcases Target.cLine_cases h with
      ⟨callee, args, placeholders, rfl, hcallee, hplaceholders, -, -⟩ |
        ⟨type, target, rfl, -, -⟩ | ⟨target, value, position, rfl, -, -⟩
    · exact ⟨hcallee, ((Target.placeholders_eq_ok_iff hscope).1 hplaceholders).2⟩
    · trivial
    · exact ⟨target, value, rfl⟩
  · intro h
    cases s with
    | call callee args =>
      obtain ⟨hcallee, hargs⟩ := h
      rw [Target.cLine_call hcallee, (Target.placeholders_eq_ok_iff hscope).2 ⟨rfl, hargs⟩]
      exact ⟨_, _, rfl⟩
    | declaration type target => exact ⟨_, _, rfl⟩
    | extended form args position =>
      cases form with
      | sum =>
        obtain ⟨target, value, rfl⟩ := h
        exact ⟨_, _, rfl⟩

/-- Behind a statement the table knows what the statement declares. -/
lemma Scope.Models.cLine (hscope : scope.Models earlier) {s : Statement} {line : String}
    {later : Scope} (h : Target.cLine scope s = .ok (line, later)) :
    later.Models (earlier ++ [s]) := by
  rcases Target.cLine_cases h with ⟨callee, args, _, rfl, -, -, -, rfl⟩ |
    ⟨type, target, rfl, -, rfl⟩ | ⟨target, value, position, rfl, -, rfl⟩
  · exact hscope.concat (by simp)
  · exact hscope.declaration type target
  · exact hscope.concat (by simp)

end

/-! ## Whole units -/

/-- **Along a draft the table knows what has been declared.** -/
lemma Scope.models_draft {program : Program} (h : (Target.c.draft [] program).result = .ok ()) :
    (Target.c.draft [] program).scope.Models program := by
  induction program using List.reverseRecOn with
  | nil => exact Scope.Models.nil
  | append_singleton program s ih =>
    have hbefore : (Target.c.draft [] program).result = .ok () := by
      have htake := Target.draft_take_of_ok h program.length
      rwa [List.take_left] at htake
    rw [Target.draft_concat_of_ok hbefore] at h ⊢
    rcases hline : Target.c.line (Target.c.draft [] program).scope s with e | ⟨line, later⟩
    · simp [hline] at h
    · exact (ih hbefore).cLine hline

lemma Target.draft_c_eq_ok_iff {program : Program} :
    (Target.c.draft [] program).result = .ok () ↔
      ∀ (i : Nat) (s : Statement), program[i]? = some s → s.Expressible (program.take i) := by
  constructor
  · intro h i s hs
    have hscope := Scope.models_draft (Target.draft_take_of_ok h i)
    obtain ⟨line, later, hline, -, -⟩ := Target.exists_line_of_draft_ok h hs
    exact (Target.exists_cLine_iff hscope).1 ⟨line, later, hline⟩
  · intro h
    rcases hresult : (Target.c.draft [] program).result with e | _
    · obtain ⟨i, s, hs, hbefore, herror⟩ := Target.draft_result_eq_error_iff.1 hresult
      have hscope := Scope.models_draft hbefore
      obtain ⟨line, later, hline⟩ := (Target.exists_cLine_iff hscope).2 (h i s hs)
      cases herror.symm.trans hline
    · rfl

lemma Target.draft_c_take_eq_ok_iff {program : Program} {i : Nat} :
    (Target.c.draft [] (program.take i)).result = .ok () ↔
      ∀ (j : Nat) (t : Statement), j < i → program[j]? = some t →
        t.Expressible (program.take j) := by
  rw [Target.draft_c_eq_ok_iff]
  refine forall₂_congr fun j t => ?_
  by_cases hj : j < i
  · simp [hj, List.take_take, Nat.min_eq_left hj.le]
  · simp [hj]

lemma Target.draft_c_eq_error_iff {program : Program} {e : EmitError} :
    (Target.c.draft [] program).result = .error e ↔
      ∃ (i : Nat) (s : Statement), program[i]? = some s ∧
        (∀ (j : Nat) (t : Statement), j < i → program[j]? = some t →
          t.Expressible (program.take j)) ∧
        s.Offends (program.take i) e := by
  rw [Target.draft_result_eq_error_iff]
  refine exists₂_congr fun i s => and_congr_right fun _ => ?_
  rw [← Target.draft_c_take_eq_ok_iff]
  refine and_congr_right fun hbefore => ?_
  exact Target.cLine_eq_error_iff (Scope.models_draft hbefore)

/-- **What the C target accepts.**  A unit is written exactly if each of its statements can be
expressed behind those before it, and it is refused with exactly the error of the first statement
that cannot; neither depends on what the generator wrote before. -/
theorem compile_c_eq_iff (scope : Scope) (program : Program) (text : String) :
    ((Generator.compile ⟨.c, scope⟩ program ⟨none, text⟩).1 = .ok () ↔
      ∀ (i : Nat) (s : Statement), program[i]? = some s → s.Expressible (program.take i)) ∧
    ∀ e, (Generator.compile ⟨.c, scope⟩ program ⟨none, text⟩).1 = .error e ↔
      ∃ (i : Nat) (s : Statement), program[i]? = some s ∧
        (∀ (j : Nat) (t : Statement), j < i → program[j]? = some t →
          t.Expressible (program.take j)) ∧
        s.Offends (program.take i) e := by
  rw [Generator.compile_unlimited]
  exact ⟨Target.draft_c_eq_ok_iff, fun e => Target.draft_c_eq_error_iff⟩

end Kaomoji
