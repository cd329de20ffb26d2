import Kaomoji.Command.Options
import Kaomoji.Proofs.Causes

/-!
# The items of a build

The arguments of a build are a row of items in any order: flags, outputs, colour flags and inputs.
`BuildItem.Views` says how arguments are seen as items, from left to right, and that there is one way
to see them is `BuildItem.ofArguments_eq_iff`; the one difficulty is the argument behind `-o`, which
is a path whatever it looks like.

What the items together say does not come from the order in which they are gathered.  The step is
`Draft.add_ofItems`: if what has been gathered so far is known, so is what one more item adds to it or
why it is refused.  A run over all items then succeeds on `BuildItem.Readable` items and gathers
`Draft.ofItems` of them, in which different kinds of items do not meet.  So items may change places as
long as each kind keeps its own order (`BuildItem.Reorders`).
-/

namespace Kaomoji

namespace BuildItem

/-! ## Arguments as items -/

/-- The argument begins with a dash and has something behind it. -/
def IsDashed (arg : String) : Prop := arg.toList.head? = some '-' ∧ 1 < arg.utf8ByteSize

/-- The argument is neither `-o` nor a flag. -/
structure IsOther (arg : String) : Prop where
  ne_output : arg ≠ "-o"
  ne_c : arg ≠ "--c"
  ne_python : arg ≠ "--python"
  ne_color : ∀ name, arg ≠ "--color=" ++ name

/-- **The item that an argument makes alone.** -/
inductive Stands : String → BuildItem → Prop
  | c : Stands "--c" (.targetFlag .c)
  | python : Stands "--python" (.targetFlag .python)
  | color (name : String) : Stands ("--color=" ++ name) (.color name)
  | unrecognized {arg : String} (hother : IsOther arg) (hdashed : IsDashed arg) :
    Stands arg (.unrecognized arg)
  | input {arg : String} (hother : IsOther arg) (hdashed : ¬IsDashed arg) : Stands arg (.input arg)

/-- **The view of an argument list**: what follows `-o` belongs to it, whatever it is, and any other
argument makes an item alone. -/
inductive Views : List String → List BuildItem → Prop
  | nil : Views [] []
  | output (path : String) {rest : List String} {items : List BuildItem} (hrest : Views rest items) :
    Views ("-o" :: path :: rest) (.output path :: items)
  | outputWithoutPath : Views ["-o"] [.outputWithoutPath]
  | alone {arg : String} {item : BuildItem} {rest : List String} {items : List BuildItem}
    (hitem : Stands arg item) (hrest : Views rest items) : Views (arg :: rest) (item :: items)

variable {arg : String} {item : BuildItem} {args rest : List String} {items items' : List BuildItem}

/-- A dash is one byte long, so that bytes behind it are characters behind it. -/
lemma isDashed_iff : IsDashed arg ↔ (['-'].isPrefixOf arg.toList && arg.length > 1) = true := by
  obtain ⟨chars, rfl⟩ : ∃ chars, arg = String.ofList chars := ⟨_, String.ofList_toList.symm⟩
  rw [IsDashed, String.toList_ofList, Bool.and_eq_true, List.isPrefixOf_iff_prefix,
    decide_eq_true_eq, String.length_ofList]
  match chars with
  | [] => simp
  | c :: more =>
    have hsize : (String.ofList more).utf8ByteSize = 0 ↔ more.length = 0 := by
      rw [String.utf8ByteSize_eq_zero_iff, String.ofList_eq_empty_iff, List.length_eq_zero_iff]
    rw [List.head?_cons, Option.some_inj, List.cons_prefix_cons, String.ofList_cons,
      String.utf8ByteSize_append, String.utf8ByteSize_singleton, List.length_cons]
    constructor
    · rintro ⟨rfl, hlength⟩
      have hdash : Char.utf8Size '-' = 1 := by decide
      exact ⟨⟨rfl, List.nil_prefix⟩, by omega⟩
    · rintro ⟨⟨rfl, -⟩, hlength⟩
      have hdash : Char.utf8Size '-' = 1 := by decide
      exact ⟨rfl, by omega⟩

lemma colorName?_eq_some_iff {name : String} :
    colorName? arg = some name ↔ arg = "--color=" ++ name := by
  have hdrop (rest : List Char) : (colorFlag.toList ++ rest).drop colorFlag.length = rest :=
    List.drop_left
  rw [colorName?, Option.ite_none_right_eq_some, List.isPrefixOf_iff_prefix, Option.some_inj]
  constructor
  · rintro ⟨⟨rest, hrest⟩, rfl⟩
    show arg = colorFlag ++ _
    rw [← hrest, hdrop, ← String.toList_inj, String.toList_append, String.toList_ofList]
    exact hrest.symm
  · rintro rfl
    rw [String.toList_append]
    refine ⟨List.prefix_append _ _, ?_⟩
    exact (congrArg String.ofList (hdrop name.toList)).trans String.ofList_toList

lemma find?_flag_eq_none (hc : arg ≠ "--c") (hpython : arg ≠ "--python") :
    (Target.all.find? fun target => target.flag == arg) = none := by
  rw [List.find?_eq_none]
  intro target _ hflag
  rw [beq_iff_eq] at hflag
  match target with
  | .c => exact hc hflag.symm
  | .python => exact hpython hflag.symm

lemma colorFlag_ne (name : String) :
    "--color=" ++ name ≠ "-o" ∧ "--color=" ++ name ≠ "--c" ∧ "--color=" ++ name ≠ "--python" := by
  refine ⟨?_, ?_, ?_⟩
  all_goals
    intro h
    have hchars := congrArg String.toList h
    simp at hchars

/-- An argument other than `-o` makes the item that it is said to. -/
lemma stands_ofArgument (h : arg ≠ "-o") : Stands arg (ofArgument arg) := by
  by_cases hc : arg = "--c"
  · rw [hc]
    exact .c
  by_cases hpython : arg = "--python"
  · rw [hpython]
    exact .python
  rw [ofArgument, find?_flag_eq_none hc hpython]
  dsimp only
  split
  · rename_i name hname
    rw [colorName?_eq_some_iff.1 hname]
    exact .color name
  · rename_i hcolor
    have hother : IsOther arg := by
      refine ⟨h, hc, hpython, fun name hname => ?_⟩
      rw [colorName?_eq_some_iff.2 hname] at hcolor
      cases hcolor
    split_ifs with hdashed
    · exact .unrecognized hother (isDashed_iff.2 hdashed)
    · exact .input hother (mt isDashed_iff.1 hdashed)

lemma Stands.ne_output (h : Stands arg item) : arg ≠ "-o" := by
  cases h with
  | c => decide
  | python => decide
  | color name => exact (colorFlag_ne name).1
  | unrecognized hother _ => exact hother.ne_output
  | input hother _ => exact hother.ne_output

lemma IsOther.colorName?_eq_none (h : IsOther arg) : colorName? arg = none := by
  rw [Option.eq_none_iff_forall_ne_some]
  intro name hname
  exact h.ne_color name (colorName?_eq_some_iff.1 hname)

/-- An argument makes no item but this one. -/
lemma Stands.eq_ofArgument (h : Stands arg item) : item = ofArgument arg := by
  cases h with
  | c => rfl
  | python => rfl
  | color name =>
    obtain ⟨-, hc, hpython⟩ := colorFlag_ne name
    rw [ofArgument, find?_flag_eq_none hc hpython, colorName?_eq_some_iff.2 rfl]
  | unrecognized hother hdashed =>
    rw [ofArgument, find?_flag_eq_none hother.ne_c hother.ne_python, hother.colorName?_eq_none]
    exact (if_pos (isDashed_iff.1 hdashed)).symm
  | input hother hdashed =>
    rw [ofArgument, find?_flag_eq_none hother.ne_c hother.ne_python, hother.colorName?_eq_none]
    exact (if_neg (mt isDashed_iff.2 hdashed)).symm

lemma ofArguments_cons_of_ne (h : arg ≠ "-o") (rest : List String) :
    ofArguments (arg :: rest) = ofArgument arg :: ofArguments rest := by
  match rest with
  | [] => simp [ofArguments, h]
  | next :: rest => simp [ofArguments, h]

lemma views_ofArguments (args : List String) : Views args (ofArguments args) := by
  fun_induction ofArguments args with
  | case1 => exact .nil
  | case2 => exact .outputWithoutPath
  | case3 arg h => exact .alone (stands_ofArgument h) .nil
  | case4 path rest ih => exact .output path ih
  | case5 arg next rest h ih => exact .alone (stands_ofArgument h) ih

/-- **Arguments are seen as items in one way.** -/
lemma ofArguments_eq_iff : ofArguments args = items ↔ Views args items := by
  constructor
  · rintro rfl
    exact views_ofArguments args
  · intro h
    induction h with
    | nil => rfl
    | output path _ ih => rw [ofArguments, if_pos rfl, ih]
    | outputWithoutPath => rfl
    | alone hitem _ ih => rw [ofArguments_cons_of_ne hitem.ne_output, hitem.eq_ofArgument, ih]

/-! ## Items as arguments -/

/-- The arguments of an item. -/
def arguments : BuildItem → List String
  | targetFlag target => [target.flag]
  | output path => ["-o", path]
  | outputWithoutPath => ["-o"]
  | color name => ["--color=" ++ name]
  | input path => [path]
  | unrecognized arg => [arg]

lemma Stands.arguments_eq (h : Stands arg item) : item.arguments = [arg] := by
  cases h <;> rfl

/-- Each item that is seen can be seen alone. -/
lemma Views.of_mem (h : Views args items) : ∀ item ∈ items, Views item.arguments [item] := by
  induction h with
  | nil => simp
  | output path _ ih => exact List.forall_mem_cons.2 ⟨.output path .nil, ih⟩
  | outputWithoutPath => exact List.forall_mem_singleton.2 .outputWithoutPath
  | alone hitem _ ih =>
    refine List.forall_mem_cons.2 ⟨?_, ih⟩
    rw [hitem.arguments_eq]
    exact .alone hitem .nil

/-- **Items that can be seen alone are seen in any row**, if each output has its path. -/
lemma views_flatMap (h : ∀ item ∈ items, Views item.arguments [item])
    (hpath : .outputWithoutPath ∉ items) : Views (items.flatMap arguments) items := by
  induction items with
  | nil => exact .nil
  | cons item rest ih =>
    obtain ⟨hitem, hrest⟩ := List.forall_mem_cons.1 h
    rw [List.mem_cons, not_or] at hpath
    have hviews := ih hrest hpath.2
    rw [List.flatMap_cons]
    generalize hargs : item.arguments = args at hitem ⊢
    cases hitem with
    | output path hnil =>
      cases hnil
      exact .output path hviews
    | outputWithoutPath => exact absurd rfl hpath.1
    | alone hstands hnil =>
      cases hnil
      exact .alone hstands hviews

/-! ## What items say -/

/-- The input that an item is. -/
def input? : BuildItem → Option String
  | input path => some path
  | _ => none

/-- The output that an item names. -/
def output? : BuildItem → Option String
  | output path => some path
  | _ => none

/-- The name of a mode in a colour flag. -/
def color? : BuildItem → Option String
  | color name => some name
  | _ => none

/-- The target that an item chooses. -/
def target? : BuildItem → Option Target
  | targetFlag target => some target
  | _ => none

/-- **Each item can be taken into account**, and they choose one target at most. -/
@[mk_iff]
structure Readable (items : List BuildItem) : Prop where
  path : .outputWithoutPath ∉ items
  recognized : ∀ arg, .unrecognized arg ∉ items
  color : ∀ name, .color name ∈ items → ∃ mode : ColorMode, mode.name = name
  target : ¬(.targetFlag .c ∈ items ∧ .targetFlag .python ∈ items)

/-- **The items make a build**: there are inputs, and only one if an output is named. -/
structure Acceptable (items : List BuildItem) : Prop extends Readable items where
  inputs_ne_nil : items.filterMap input? ≠ []
  one_input : items.filterMap output? ≠ [] → (items.filterMap input?).length = 1

/-- **The items are in another order**, in which inputs, outputs and colour flags each keep theirs. -/
structure Reorders (items items' : List BuildItem) : Prop where
  perm : items.Perm items'
  inputs : items.filterMap input? = items'.filterMap input?
  outputs : items.filterMap output? = items'.filterMap output?
  colors : items.filterMap color? = items'.filterMap color?

lemma Reorders.symm (h : Reorders items items') : Reorders items' items :=
  ⟨h.perm.symm, h.inputs.symm, h.outputs.symm, h.colors.symm⟩

lemma Reorders.acceptable (h : Reorders items items') (hitems : Acceptable items) :
    Acceptable items' where
  path hmem := hitems.path (h.perm.mem_iff.2 hmem)
  recognized arg hmem := hitems.recognized arg (h.perm.mem_iff.2 hmem)
  color name hmem := hitems.color name (h.perm.mem_iff.2 hmem)
  target hmem := hitems.target ⟨h.perm.mem_iff.2 hmem.1, h.perm.mem_iff.2 hmem.2⟩
  inputs_ne_nil := by
    rw [← h.inputs]
    exact hitems.inputs_ne_nil
  one_input := by
    rw [← h.inputs, ← h.outputs]
    exact hitems.one_input

/-! ## One more item -/

/-- The item can be taken into account after the items before it. -/
def Fits (items : List BuildItem) : BuildItem → Prop
  | targetFlag target => ∀ earlier, .targetFlag earlier ∈ items → earlier = target
  | color name => ∃ mode : ColorMode, mode.name = name
  | outputWithoutPath | unrecognized _ => False
  | output _ | input _ => True

lemma Readable.eq_of_mem (h : Readable items) {target target' : Target}
    (hmem : .targetFlag target ∈ items) (hmem' : .targetFlag target' ∈ items) :
    target = target' := by
  match target, target' with
  | .c, .c | .python, .python => rfl
  | .c, .python => exact absurd ⟨hmem, hmem'⟩ h.target
  | .python, .c => exact absurd ⟨hmem', hmem⟩ h.target

lemma readable_concat : Readable (items ++ [item]) ↔ Readable items ∧ item.Fits items := by
  constructor
  · intro h
    refine ⟨⟨fun hmem => h.path (List.mem_append_left _ hmem),
      fun arg hmem => h.recognized arg (List.mem_append_left _ hmem),
      fun name hmem => h.color name (List.mem_append_left _ hmem),
      fun hmem => h.target ⟨List.mem_append_left _ hmem.1, List.mem_append_left _ hmem.2⟩⟩, ?_⟩
    have hitem : item ∈ items ++ [item] := List.mem_concat_self
    match item with
    | targetFlag target =>
      exact fun earlier hmem => h.eq_of_mem (List.mem_append_left _ hmem) hitem
    | color name => exact h.color name hitem
    | outputWithoutPath => exact h.path hitem
    | unrecognized arg => exact h.recognized arg hitem
    | output _ | input _ => trivial
  · rintro ⟨h, hfits⟩
    simp only [readable_iff, List.mem_append, List.mem_singleton]
    refine ⟨?_, ?_, ?_, ?_⟩
    · rintro (hmem | rfl)
      · exact h.path hmem
      · exact hfits
    · rintro arg (hmem | rfl)
      · exact h.recognized arg hmem
      · exact hfits
    · rintro name (hmem | rfl)
      · exact h.color name hmem
      · exact hfits
    · rintro ⟨hc | rfl, hpython | hpython⟩
      · exact h.target ⟨hc, hpython⟩
      · subst hpython
        exact nomatch hfits .c hc
      · exact nomatch hfits .python hpython
      · cases hpython

end BuildItem

namespace BuildOptions

open BuildItem

variable {items : List BuildItem} {item : BuildItem}

/-- **What has been gathered of some items**; the last item of a kind counts. -/
def Draft.ofItems (items : List BuildItem) : Draft where
  target := (items.filterMap target?).getLast?
  output := (items.filterMap output?).getLast?
  inputs := items.filterMap input?
  color := ((items.filterMap color?).getLast?.bind ColorMode.ofName?).getD .auto

lemma mem_filterMap_target? {target : Target} :
    target ∈ items.filterMap target? ↔ .targetFlag target ∈ items := by
  have hitem (item : BuildItem) : item.target? = some target ↔ item = .targetFlag target := by
    cases item <;> simp [target?]
  simp [List.mem_filterMap, hitem]

lemma mem_filterMap_color? {name : String} :
    name ∈ items.filterMap color? ↔ .color name ∈ items := by
  have hitem (item : BuildItem) : item.color? = some name ↔ item = .color name := by
    cases item <;> simp [color?]
  simp [List.mem_filterMap, hitem]

lemma filterMap_concat {α β : Type} (f : α → Option β) (xs : List α) (x : α) :
    (xs ++ [x]).filterMap f = xs.filterMap f ++ (f x).toList := by
  rw [List.filterMap_append, List.filterMap_cons]
  cases f x <;> rfl

lemma getLast?_append_toList {α : Type} (xs : List α) (x : Option α) :
    (xs ++ x.toList).getLast? = x.or xs.getLast? := by
  rw [List.getLast?_append]
  cases x <;> rfl

/-- What one more item adds. -/
lemma Draft.ofItems_concat (items : List BuildItem) (item : BuildItem) :
    Draft.ofItems (items ++ [item]) =
      { target := item.target?.or (Draft.ofItems items).target
        output := item.output?.or (Draft.ofItems items).output
        inputs := (Draft.ofItems items).inputs ++ item.input?.toList
        color :=
          match item.color? with
          | some name => (ColorMode.ofName? name).getD .auto
          | none => (Draft.ofItems items).color } := by
  simp only [Draft.ofItems, filterMap_concat, getLast?_append_toList]
  cases item.color? <;> rfl

lemma ofName?_eq_some_iff {name : String} {mode : ColorMode} :
    ColorMode.ofName? name = some mode ↔ mode.name = name := by
  constructor
  · intro h
    have hname := List.find?_some h
    exact beq_iff_eq.1 hname
  · rintro rfl
    cases mode <;> rfl

/-- A target is taken into account if no other has been chosen. -/
lemma Draft.add_targetFlag (h : Readable items) {target : Target} {draft : Draft} :
    (Draft.ofItems items).add (.targetFlag target) = .ok draft ↔
      (∀ earlier, .targetFlag earlier ∈ items → earlier = target) ∧
        draft = { Draft.ofItems items with target := some target } := by
  rw [Draft.add]
  rcases hlast : (Draft.ofItems items).target with _ | earlier
  · have hnone (earlier : Target) : .targetFlag earlier ∉ items := by
      rw [← mem_filterMap_target?, List.getLast?_eq_none_iff.1 hlast]
      exact List.not_mem_nil
    simp [hnone, eq_comm]
  · have hearlier : .targetFlag earlier ∈ items := mem_filterMap_target?.1 (List.mem_of_getLast? hlast)
    dsimp only
    split_ifs with hsame
    · subst hsame
      have hdraft : { Draft.ofItems items with target := some earlier } = Draft.ofItems items := by
        rw [← hlast]
      have hfits : ∀ other, .targetFlag other ∈ items → other = earlier :=
        fun other hother => h.eq_of_mem hother hearlier
      rw [hdraft, Except.ok.injEq, and_iff_right hfits, eq_comm]
    · exact iff_of_false nofun fun hfits => hsame (hfits.1 earlier hearlier)

/-- **The step**: one more item is refused, or it adds what it says to what has been gathered. -/
lemma Draft.add_ofItems (h : Readable items) {draft : Draft} :
    (Draft.ofItems items).add item = .ok draft ↔
      item.Fits items ∧ draft = Draft.ofItems (items ++ [item]) := by
  rw [Draft.ofItems_concat]
  match item with
  | .outputWithoutPath => simp [Draft.add, Fits]
  | .unrecognized arg => simp [Draft.add, Fits]
  | .output path => simp [Draft.add, Fits, output?, input?, target?, color?, eq_comm]
  | .input path => simp [Draft.add, Fits, output?, input?, target?, color?, eq_comm]
  | .color name =>
    rw [Draft.add, Fits]
    simp only [← ofName?_eq_some_iff]
    rcases hname : ColorMode.ofName? name with _ | mode
    · simp
    · simp [hname, output?, input?, target?, color?, eq_comm]
  | .targetFlag target =>
    rw [Draft.add_targetFlag h, Fits]
    simp [output?, input?, target?, color?]

/-- **The run**: items are gathered exactly if they are readable, and the order of their kinds does
not show. -/
lemma foldlM_add_eq_ok_iff {draft : Draft} :
    items.foldlM Draft.add {} = .ok draft ↔ Readable items ∧ draft = Draft.ofItems items := by
  induction items using List.reverseRecOn generalizing draft with
  | nil =>
    have hnil : Readable [] := by simp [readable_iff]
    have hdraft : Draft.ofItems [] = {} := rfl
    simp [hnil, hdraft, pure, Except.pure, eq_comm]
  | append_singleton items item ih =>
    simp only [List.foldlM_append, bind_eq_ok_iff, ih, List.foldlM_cons, List.foldlM_nil,
      bind_pure, readable_concat]
    constructor
    · rintro ⟨_, ⟨hitems, rfl⟩, hadd⟩
      obtain ⟨hfits, hdraft⟩ := (Draft.add_ofItems hitems).1 hadd
      exact ⟨⟨hitems, hfits⟩, hdraft⟩
    · rintro ⟨⟨hitems, hfits⟩, hdraft⟩
      exact ⟨_, ⟨hitems, rfl⟩, (Draft.add_ofItems hitems).2 ⟨hfits, hdraft⟩⟩

/-! ## All items together -/

/-- **The options are those of the items.** -/
structure Gathers (options : BuildOptions) (items : List BuildItem) : Prop where
  inputs : options.inputs = items.filterMap input?
  target : options.target = .c ↔ .targetFlag .c ∈ items
  output : options.output = (items.filterMap output?).getLast?
  color : options.color.name = (items.filterMap color?).getLast?.getD "auto"

lemma Gathers.unique {options options' : BuildOptions} (h : options.Gathers items)
    (h' : options'.Gathers items) : options = options' := by
  have htarget : options.target = options'.target := by
    have hc := h.target.trans h'.target.symm
    cases htarget : options.target <;> cases htarget' : options'.target <;> simp_all
  have hcolor : options.color = options'.color := by
    have hname := ofName?_eq_some_iff.2 (h.color.trans h'.color.symm)
    exact Option.some.inj ((ofName?_eq_some_iff.2 rfl).symm.trans hname).symm
  have houtput := h.output.trans h'.output.symm
  have hinputs := h.inputs.trans h'.inputs.symm
  cases options
  cases options'
  rw [BuildOptions.mk.injEq]
  exact ⟨htarget, houtput, hinputs, hcolor⟩

/-- The options that readable items make, if they make a build. -/
lemma gathers_ofItems (h : Readable items) :
    Gathers
      { target := (Draft.ofItems items).target.getD .standard
        output := (Draft.ofItems items).output
        inputs := (Draft.ofItems items).inputs
        color := (Draft.ofItems items).color } items := by
  refine ⟨rfl, ?_, rfl, ?_⟩
  · dsimp only [Draft.ofItems]
    rcases hlast : (items.filterMap target?).getLast? with _ | target
    · have hnone : .targetFlag .c ∉ items := by
        rw [← mem_filterMap_target?, List.getLast?_eq_none_iff.1 hlast]
        exact List.not_mem_nil
      exact iff_of_false nofun hnone
    · have hmem : .targetFlag target ∈ items := mem_filterMap_target?.1 (List.mem_of_getLast? hlast)
      exact ⟨fun heq => heq ▸ hmem, fun hc => h.eq_of_mem hmem hc⟩
  · dsimp only [Draft.ofItems]
    rcases hlast : (items.filterMap color?).getLast? with _ | name
    · rfl
    · have hmem : .color name ∈ items := mem_filterMap_color?.1 (List.mem_of_getLast? hlast)
      obtain ⟨mode, hmode⟩ := h.color name hmem
      rw [Option.bind_some, ofName?_eq_some_iff.2 hmode]
      exact hmode

lemma Draft.finish_eq_ok_iff {draft : Draft} {options : BuildOptions} :
    draft.finish = .ok options ↔
      draft.inputs ≠ [] ∧ (draft.output ≠ none → draft.inputs.length = 1) ∧
        options =
          { target := draft.target.getD .standard
            output := draft.output
            inputs := draft.inputs
            color := draft.color } := by
  rw [Draft.finish]
  split_ifs with hempty hseveral
  · simp [List.isEmpty_iff.1 hempty]
  · rw [Bool.and_eq_true, Option.isSome_iff_ne_none, decide_eq_true_eq] at hseveral
    refine iff_of_false nofun fun ⟨_, hone, _⟩ => ?_
    exact absurd (hone hseveral.1) (Nat.ne_of_gt hseveral.2)
  · rw [Bool.and_eq_true, Option.isSome_iff_ne_none, decide_eq_true_eq, not_and] at hseveral
    rw [List.isEmpty_iff, ← List.length_eq_zero_iff] at hempty
    rw [Except.ok.injEq, eq_comm (b := options), ← and_assoc, and_iff_right]
    rw [ne_eq, ← List.length_eq_zero_iff]
    refine ⟨hempty, fun houtput => ?_⟩
    have hone := hseveral houtput
    omega

/-- **Which items make a build, and which one.** -/
lemma ofItems_eq_ok_iff {options : BuildOptions} :
    ofItems items = .ok options ↔ Acceptable items ∧ options.Gathers items := by
  simp only [ofItems, bind_eq_ok_iff, foldlM_add_eq_ok_iff, Draft.finish_eq_ok_iff]
  constructor
  · rintro ⟨_, ⟨hitems, rfl⟩, hinputs, hone, rfl⟩
    refine ⟨⟨hitems, hinputs, fun houtput => hone ?_⟩, gathers_ofItems hitems⟩
    exact mt List.getLast?_eq_none_iff.1 houtput
  · rintro ⟨hitems, hgathers⟩
    refine ⟨_, ⟨hitems.toReadable, rfl⟩, hitems.inputs_ne_nil, fun houtput => ?_,
      hgathers.unique (gathers_ofItems hitems.toReadable)⟩
    exact hitems.one_input (mt List.getLast?_eq_none_iff.2 houtput)

lemma Gathers.of_reorders {options : BuildOptions} {items' : List BuildItem}
    (h : options.Gathers items) (hitems : Reorders items items') : options.Gathers items' where
  inputs := h.inputs.trans hitems.inputs
  target := h.target.trans hitems.perm.mem_iff
  output := h.output.trans (congrArg List.getLast? hitems.outputs)
  color := by rw [h.color, hitems.colors]

/-- **Items make the same build in another order.** -/
lemma ofItems_of_reorders {options : BuildOptions} {items' : List BuildItem}
    (hitems : Reorders items items') (h : ofItems items = .ok options) :
    ofItems items' = .ok options := by
  rw [ofItems_eq_ok_iff] at h ⊢
  exact ⟨hitems.acceptable h.1, h.2.of_reorders hitems⟩

/-- **The options of a build.**  Arguments are seen as items in one way.  They make a build exactly
if each `-o` has its path, nothing is unrecognized, every colour is known, not both targets are
chosen, and there is an input, and a single one if an output is named.  The build has the inputs in
their order, is for C exactly if that is chosen, and has the last output and the last colour.  So the
items may be given in any order in which inputs, outputs and colours keep theirs: the arguments that
are then written are seen as these items and make the same build. -/
theorem ofArguments_gathers (args : List String) :
    (∀ items, Views args items ↔ items = BuildItem.ofArguments args) ∧
    ((∃ options, ofArguments args = .ok options) ↔ Acceptable (BuildItem.ofArguments args)) ∧
    (∀ options, ofArguments args = .ok options → options.Gathers (BuildItem.ofArguments args)) ∧
    (∀ args', Reorders (BuildItem.ofArguments args) (BuildItem.ofArguments args') →
      ∀ options, ofArguments args = .ok options ↔ ofArguments args' = .ok options) ∧
    ∀ options, ofArguments args = .ok options →
      ∀ items, Reorders (BuildItem.ofArguments args) items →
        Views (items.flatMap BuildItem.arguments) items ∧
          ofArguments (items.flatMap BuildItem.arguments) = .ok options := by
  refine ⟨fun items => ?_, ?_, fun options h => (ofItems_eq_ok_iff.1 h).2, ?_, ?_⟩
  · rw [← ofArguments_eq_iff, eq_comm]
  · simp only [ofArguments, ofItems_eq_ok_iff, exists_and_left]
    exact and_iff_left_of_imp fun hitems => ⟨_, gathers_ofItems hitems.toReadable⟩
  · intro args' hitems options
    exact ⟨ofItems_of_reorders hitems, ofItems_of_reorders hitems.symm⟩
  · intro options h items hitems
    have hmem : ∀ item ∈ items, Views item.arguments [item] := fun item hitem =>
      (views_ofArguments args).of_mem item (hitems.perm.mem_iff.2 hitem)
    have hacceptable := hitems.acceptable (ofItems_eq_ok_iff.1 h).1
    have hviews := views_flatMap hmem hacceptable.path
    refine ⟨hviews, ?_⟩
    rw [ofArguments, ofArguments_eq_iff.2 hviews]
    exact ofItems_of_reorders hitems h

/-- Three ways to order a build: the path of `-o` looks like a flag, and moves with it. -/
theorem ofArguments_gathers_path_like_flag :
    ∃ options, ofArguments ["-o", "--c", "a.uwu", "--color=never", "--c"] = .ok options ∧
      options = ⟨.c, some "--c", ["a.uwu"], .never⟩ ∧
      Acceptable (BuildItem.ofArguments ["-o", "--c", "a.uwu", "--color=never", "--c"]) ∧
      options.Gathers (BuildItem.ofArguments ["-o", "--c", "a.uwu", "--color=never", "--c"]) ∧
      ofArguments ["--c", "--color=never", "-o", "--c", "a.uwu"] = .ok options ∧
      Views ["a.uwu", "--c", "-o", "--c", "--color=never"]
        [.input "a.uwu", .targetFlag .c, .output "--c", .color "never"] ∧
      ofArguments ["a.uwu", "--c", "-o", "--c", "--color=never"] = .ok options := by
  have hargs : ofArguments ["-o", "--c", "a.uwu", "--color=never", "--c"] =
      .ok ⟨.c, some "--c", ["a.uwu"], .never⟩ := by decide +kernel
  obtain ⟨-, hacceptable, hgathers, hreorder, hwritten⟩ :=
    ofArguments_gathers ["-o", "--c", "a.uwu", "--color=never", "--c"]
  refine ⟨_, hargs, rfl, hacceptable.1 ⟨_, hargs⟩, hgathers _ hargs, ?_, ?_⟩
  · refine (hreorder _ ⟨?_, ?_, ?_, ?_⟩ _).1 hargs
    all_goals decide +kernel
  · refine hwritten _ hargs [.input "a.uwu", .targetFlag .c, .output "--c", .color "never"]
      ⟨?_, ?_, ?_, ?_⟩
    all_goals decide +kernel

end BuildOptions

end Kaomoji
