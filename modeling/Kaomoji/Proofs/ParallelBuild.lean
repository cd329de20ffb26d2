import Kaomoji.Command.Build
import Kaomoji.Proofs.DiskPaths
import Mathlib.Data.List.DropRight
import Mathlib.Data.List.Forall2
import Mathlib.Data.Set.List

/-!
# Building in parallel

The units of a build share one disk and may take their steps in any order.  If their outputs are
different files and none of these is an input, the order does not matter: every unit finds its
source as it was in the beginning, and writes a file that no other unit looks at.  So the build has
the outcome, and leaves the disk, of building one input after the other
(`Build.parallel_eq_sequential`).

A unit is the very `Build.buildOne` that is also run in sequence, on a store whose operations are
steps of a `FileProgram`.  A schedule says which unit takes the next step.  What holds along a
schedule is said with reference to the disk at the beginning (`ParallelBuild.Progress`): how far
each unit can have come, and that the disk has the outputs of the units that are done and is
otherwise as it was.  One step keeps this (`ParallelBuild.Progress.turn`), hence a schedule does.
Building one after the other is a schedule itself (`ParallelBuild.run_oneByOne`), so nothing is left
to be shown of it.

What the outcome says is stated word by word (`Build.Reports`): why each input that is not built is
not, in the order of the inputs and trimmed, and how many these are.
-/

namespace Kaomoji

/-! ## Programs that take steps -/

/-- A program that reads and writes files, one file at a step. -/
inductive FileProgram (α : Type) where
  | done (result : α)
  | read (path : String) (next : Except ReadFailure String → FileProgram α)
  | write (path text : String) (next : Except WriteFailure Unit → FileProgram α)

namespace FileProgram

variable {α β : Type}

/-- One program behind another. -/
def andThen (next : α → FileProgram β) : FileProgram α → FileProgram β
  | done result => next result
  | read path rest => read path fun answer => andThen next (rest answer)
  | write path text rest => write path text fun answer => andThen next (rest answer)

instance : Monad FileProgram where
  pure := done
  bind program next := program.andThen next

/-- The store whose operations are steps. -/
def store : Store FileProgram where
  read path := .read path .done
  write path text := .write path text .done

/-- One step on a disk; a program that is done stays. -/
def step (disk : Disk) : FileProgram α → FileProgram α × Disk
  | done result => (done result, disk)
  | read path next => (next (disk.read path), disk)
  | write path text next => (next (disk.write path text).1, (disk.write path text).2)

/-- The program is done after so many steps, whatever they yield. -/
def EndsWithin : FileProgram α → Nat → Prop
  | done _, _ => True
  | read _ next, n => 0 < n ∧ ∀ answer, (next answer).EndsWithin (n - 1)
  | write _ _ next, n => 0 < n ∧ ∀ answer, (next answer).EndsWithin (n - 1)

lemma EndsWithin.step {n : Nat} {program : FileProgram α} (h : program.EndsWithin n) (disk : Disk) :
    (program.step disk).1.EndsWithin (n - 1) := by
  cases program with
  | done result => trivial
  | read path next => exact h.2 _
  | write path text next => exact h.2 _

lemma EndsWithin.exists_eq_done {program : FileProgram α} (h : program.EndsWithin 0) :
    ∃ result, program = done result := by
  cases program with
  | done result => exact ⟨result, rfl⟩
  | read path next => exact absurd h.1 (Nat.lt_irrefl 0)
  | write path text next => exact absurd h.1 (Nat.lt_irrefl 0)

end FileProgram

/-! ## Units at work -/

/-- What a unit of a build has still to do; it returns the message if it fails. -/
abbrev BuildUnit := FileProgram (Option String)

/-- The units of a build at work on one disk. -/
structure ParallelBuild where
  disk : Disk
  units : List BuildUnit

namespace ParallelBuild

/-- All units before their first step. -/
def start (disk : Disk) (options : BuildOptions) (colors : Bool) : ParallelBuild where
  disk := disk
  units := options.inputs.map (Build.buildOne FileProgram.store options colors)

/-- A unit takes its next step. -/
def turn (build : ParallelBuild) (i : Nat) : ParallelBuild :=
  match build.units[i]? with
  | none => build
  | some unit => ⟨(unit.step build.disk).2, build.units.set i (unit.step build.disk).1⟩

/-- Units take steps in the order of a schedule. -/
def run (build : ParallelBuild) (schedule : List Nat) : ParallelBuild := schedule.foldl turn build

/-- All units are done, with these results in the order of the inputs. -/
def Ended (build : ParallelBuild) (results : List (Option String)) : Prop :=
  build.units = results.map .done

lemma turn_of_some {build : ParallelBuild} {i : Nat} {unit : BuildUnit}
    (h : build.units[i]? = some unit) :
    build.turn i = ⟨(unit.step build.disk).2, build.units.set i (unit.step build.disk).1⟩ := by
  rw [turn, h]

lemma getElem?_units_turn (build : ParallelBuild) (i j : Nat) :
    (build.turn j).units[i]? =
      if j = i then build.units[i]?.map fun unit => (unit.step build.disk).1
      else build.units[i]? := by
  cases hj : build.units[j]? with
  | none =>
    have hturn : build.turn j = build := by rw [turn, hj]
    split
    · rename_i hi
      rw [hturn, ← hi, hj, Option.map_none]
    · rw [hturn]
  | some unit =>
    obtain ⟨hlt, -⟩ := List.getElem?_eq_some_iff.1 hj
    rw [turn_of_some hj]
    split
    · rename_i hi
      rw [← hi, List.getElem?_set_self hlt, hj, Option.map_some]
    · rename_i hi
      rw [List.getElem?_set_ne hi]

lemma length_units_turn (build : ParallelBuild) (i : Nat) :
    (build.turn i).units.length = build.units.length := by
  rw [turn]
  split
  · rfl
  · exact List.length_set

lemma length_units_run (build : ParallelBuild) (schedule : List Nat) :
    (build.run schedule).units.length = build.units.length := by
  induction schedule generalizing build with
  | nil => rfl
  | cons i rest ih => exact (ih (build.turn i)).trans (length_units_turn build i)

/-- Each turn of a unit brings it nearer to its end. -/
lemma endsWithin_run {build : ParallelBuild} {bound : Nat → Nat}
    (h : ∀ i (unit : BuildUnit), build.units[i]? = some unit → unit.EndsWithin (bound i))
    (schedule : List Nat) :
    ∀ i (unit : BuildUnit), (build.run schedule).units[i]? = some unit →
      unit.EndsWithin (bound i - schedule.count i) := by
  induction schedule generalizing build bound with
  | nil =>
    intro i unit hunit
    exact h i unit hunit
  | cons j rest ih =>
    have hturn : ∀ i (unit : BuildUnit), (build.turn j).units[i]? = some unit →
        unit.EndsWithin (bound i - if j = i then 1 else 0) := by
      intro i unit hunit
      rw [getElem?_units_turn] at hunit
      by_cases hi : j = i
      · rw [if_pos hi] at hunit ⊢
        obtain ⟨unit', hunit', rfl⟩ := Option.map_eq_some_iff.1 hunit
        exact (h i unit' hunit').step build.disk
      · rw [if_neg hi] at hunit ⊢
        exact h i unit hunit
    intro i unit hunit
    have hrest := ih hturn i unit hunit
    rw [Nat.sub_sub, Nat.add_comm] at hrest
    simpa only [List.count_cons, beq_iff_eq] using hrest

end ParallelBuild

/-! ## One unit -/

namespace Build

/-- The message of an input that is built alone, if that fails. -/
def failure? (disk : Disk) (options : BuildOptions) (colors : Bool) (input : String) :
    Option String :=
  ((buildOne Disk.store options colors input).run disk).1

/-- **The input is built to a file**: it is there, it is a text and compiles to the code, and the
code can be written. -/
def Builds (disk : Disk) (options : BuildOptions) (input : String) (place : Location)
    (code : String) : Prop :=
  ∃ source, disk.read input = .ok source ∧
    compile source (.ofPath input options.target) = .ok code ∧
    disk.locateOutput (options.outputPath input) = .ok place

/-- Whether an input is built at all. -/
def IsBuilt (disk : Disk) (options : BuildOptions) (input : String) : Prop :=
  ∃ place code, Builds disk options input place code

/-- The files that the inputs are built to. -/
def outputPlaces (disk : Disk) (options : BuildOptions) : List Location :=
  options.inputs.filterMap fun input => (disk.locateOutput (options.outputPath input)).toOption

/-- The files that the inputs are. -/
def inputPlaces (disk : Disk) (options : BuildOptions) : List Location :=
  options.inputs.filterMap fun input => (disk.locate input).toOption

/-- **The outputs are different files, and none of them is an input.** -/
structure OutputsApart (disk : Disk) (options : BuildOptions) : Prop where
  nodup : (outputPlaces disk options).Nodup
  notMem : ∀ place ∈ outputPlaces disk options, place ∉ inputPlaces disk options

instance (disk : Disk) (options : BuildOptions) : Decidable (OutputsApart disk options) :=
  decidable_of_iff ((outputPlaces disk options).Nodup ∧
      ∀ place ∈ outputPlaces disk options, place ∉ inputPlaces disk options)
    ⟨fun h => ⟨h.1, h.2⟩, fun h => ⟨h.1, h.2⟩⟩

/-- **What a build leaves on the disk**: the codes of the inputs that are built, and for the rest
what was there before. -/
structure Delivers (disk : Disk) (options : BuildOptions) (later : Disk) : Prop where
  directories : disk.SameDirectories later
  outputs : ∀ {input : String} {place : Location} {code : String}, input ∈ options.inputs →
    Builds disk options input place code → later.bytes? place = some code.toUTF8
  others : ∀ {place : Location},
    (∀ input ∈ options.inputs, ∀ code, ¬ Builds disk options input place code) →
    later.bytes? place = disk.bytes? place

/-- What a unit returns when its code has been written, or not. -/
def written (options : BuildOptions) (input : String) : Except WriteFailure Unit → Option String
  | .ok () => none
  | .error failure => some (failure.message (options.outputPath input))

/-- A unit that has code to write. -/
def writing (options : BuildOptions) (input code : String) : BuildUnit :=
  .write (options.outputPath input) code fun answer => .done (written options input answer)

variable {disk : Disk} {options : BuildOptions} {colors : Bool} {input : String}

/-- **A unit as a program**: a read, and a write if that leads to code. -/
lemma buildOne_eq (options : BuildOptions) (colors : Bool) (input : String) :
    buildOne FileProgram.store options colors input =
      .read input fun source =>
        match prepare options colors input source with
        | .error message => .done (some message)
        | .ok code => writing options input code := by
  have hwriting (code : String) : writing options input code =
      .write (options.outputPath input) code fun answer =>
        match answer with
        | .ok () => .done none
        | .error failure => .done (some (failure.message (options.outputPath input))) := by
    rw [writing]
    congr 1
    funext answer
    cases answer <;> rfl
  simp only [hwriting]
  rfl

lemma run_buildOne_of_error {message : String}
    (h : prepare options colors input (disk.read input) = .error message) :
    (buildOne Disk.store options colors input).run disk = (some message, disk) := by
  have hrun : (buildOne Disk.store options colors input).run disk =
      (match prepare options colors input (disk.read input) with
        | .error message => pure (some message)
        | .ok code => _ : StateM Disk (Option String)).run disk := rfl
  rw [hrun, h]
  rfl

lemma run_buildOne_of_ok {code : String}
    (h : prepare options colors input (disk.read input) = .ok code) :
    (buildOne Disk.store options colors input).run disk =
      (written options input (disk.write (options.outputPath input) code).1,
        (disk.write (options.outputPath input) code).2) := by
  have hrun : (buildOne Disk.store options colors input).run disk =
      (match prepare options colors input (disk.read input) with
        | .error message => pure (some message)
        | .ok code => do
          match ← Disk.store.write (options.outputPath input) code with
          | .ok () => return none
          | .error failure => return some (failure.message (options.outputPath input)) :
        StateM Disk (Option String)).run disk := rfl
  rw [hrun, h]
  simp only [StateT.run_bind, Disk.run_store_write]
  rcases disk.write (options.outputPath input) code with ⟨failure | _, later⟩
  · rfl
  · rfl

/-- **Two steps of a unit by itself are its run.** -/
lemma step_step_buildOne (disk : Disk) (options : BuildOptions) (colors : Bool) (input : String) :
    ((buildOne FileProgram.store options colors input).step disk).1.step
        ((buildOne FileProgram.store options colors input).step disk).2 =
      (.done ((buildOne Disk.store options colors input).run disk).1,
        ((buildOne Disk.store options colors input).run disk).2) := by
  rw [buildOne_eq, FileProgram.step]
  cases h : prepare options colors input (disk.read input) with
  | error message =>
    rw [run_buildOne_of_error h]
    rfl
  | ok code =>
    rw [run_buildOne_of_ok h]
    rfl

lemma endsWithin_buildOne (options : BuildOptions) (colors : Bool) (input : String) :
    (buildOne FileProgram.store options colors input).EndsWithin 2 := by
  rw [buildOne_eq]
  refine ⟨Nat.two_pos, ?_⟩
  intro source
  beta_reduce
  split
  · trivial
  · exact ⟨Nat.one_pos, fun _ => trivial⟩

lemma prepare_eq_ok_iff {code : String} :
    prepare options colors input (disk.read input) = .ok code ↔
      ∃ source, disk.read input = .ok source ∧
        compile source (.ofPath input options.target) = .ok code := by
  cases disk.read input with
  | error failure => simp [prepare]
  | ok source =>
    cases hcompile : compile source (.ofPath input options.target) with
    | error e => simp [prepare, hcompile, Except.mapError]
    | ok code' => simp [prepare, hcompile, Except.mapError]

lemma builds_iff (colors : Bool) {place : Location} {code : String} :
    Builds disk options input place code ↔
      prepare options colors input (disk.read input) = .ok code ∧
        disk.locateOutput (options.outputPath input) = .ok place := by
  rw [prepare_eq_ok_iff, Builds]
  constructor
  · rintro ⟨source, hread, hcompile, hlocate⟩
    exact ⟨⟨source, hread, hcompile⟩, hlocate⟩
  · rintro ⟨⟨source, hread, hcompile⟩, hlocate⟩
    exact ⟨source, hread, hcompile, hlocate⟩

lemma failure?_of_prepare_error {message : String}
    (h : prepare options colors input (disk.read input) = .error message) :
    failure? disk options colors input = some message := by
  rw [failure?, run_buildOne_of_error h]

lemma failure?_of_prepare_ok {code : String}
    (h : prepare options colors input (disk.read input) = .ok code) :
    failure? disk options colors input =
      written options input (disk.write (options.outputPath input) code).1 := by
  rw [failure?, run_buildOne_of_ok h]

/-- A unit by itself succeeds exactly if its input is built to some file. -/
lemma failure?_eq_none_iff :
    failure? disk options colors input = none ↔ IsBuilt disk options input := by
  simp only [IsBuilt, builds_iff colors]
  cases hprepare : prepare options colors input (disk.read input) with
  | error message => simp [failure?_of_prepare_error hprepare]
  | ok code =>
    rw [failure?_of_prepare_ok hprepare, Disk.write]
    cases hlocate : disk.locateOutput (options.outputPath input) with
    | error failure => simp [written]
    | ok place => simp [written]

instance (disk : Disk) (options : BuildOptions) (input : String) :
    Decidable (IsBuilt disk options input) :=
  decidable_of_iff (failure? disk options false input = none) failure?_eq_none_iff

/-! ### What is printed -/

/-- **Why an input is not built**, in the words of its message: it is not there, it is no text, it
does not compile, or its code cannot be written. -/
inductive FailsWith (disk : Disk) (options : BuildOptions) (colors : Bool) (input : String) :
    String → Prop
  | missing (h : disk.read input = .error .missing) :
    FailsWith disk options colors input ("uwuc: '" ++ input ++ "' does not exist.")
  | invalidText (h : disk.read input = .error .invalidText) :
    FailsWith disk options colors input ("uwuc: '" ++ input ++ "' contains invalid UTF-8 data")
  | refused {source : String} {e : CompileError} (hread : disk.read input = .ok source)
      (hcompile : compile source (.ofPath input options.target) = .error e) :
    FailsWith disk options colors input (e.report source (.ofPath input options.target) colors)
  | unwritten {source code : String} {failure : WriteFailure} (hread : disk.read input = .ok source)
      (hcompile : compile source (.ofPath input options.target) = .ok code)
      (hlocate : disk.locateOutput (options.outputPath input) = .error failure) :
    FailsWith disk options colors input
      ("uwuc: cannot write '" ++ options.outputPath input ++ "': " ++ failure.reason)

/-- **The text is the message without the white space at its end.** -/
structure Trims (message text : String) : Prop where
  rest : ∃ blank : List Char, message.toList = text.toList ++ blank ∧
    ∀ c ∈ blank, Text.isWhiteSpace c
  last : ∀ c ∈ text.toList.getLast?, ¬ Text.isWhiteSpace c

/-- The inputs that are not built, in order. -/
def failed (disk : Disk) (options : BuildOptions) : List String :=
  options.inputs.filter fun input => ¬ IsBuilt disk options input

/-- **The last line of a build** that has some inputs, of which some are not built: nothing with one
input or if all are built, else how many are not. -/
def lastLine (colors : Bool) (inputs failures : Nat) : String :=
  if inputs ≤ 1 ∨ failures = 0 then ""
  else
    (if colors then "\x1b[1;31merror\x1b[0m" else "error") ++
      (if failures = 1 then ": aborting due to previous error\n"
      else ": aborting due to " ++ toString failures ++ " previous errors\n")

/-- **What a build reports**: the message of each input that is not built, trimmed and closed by a
newline, in the order of the inputs, and then how many these are if there was more than one input.
-/
structure Reports (disk : Disk) (options : BuildOptions) (colors : Bool) (outcome : Outcome) :
    Prop where
  code : outcome.code = 0 ↔ ∀ input ∈ options.inputs, IsBuilt disk options input
  stdout : outcome.stdout = ""
  stderr : ∃ messages texts,
    List.Forall₂ (FailsWith disk options colors) (failed disk options) messages ∧
    List.Forall₂ Trims messages texts ∧
    outcome.stderr =
      unlines texts ++ lastLine colors options.inputs.length (failed disk options).length

/-- A message says why its input is not built. -/
lemma failsWith_of_failure? {message : String}
    (h : failure? disk options colors input = some message) :
    FailsWith disk options colors input message := by
  cases hread : disk.read input with
  | error failure =>
    have hprepare : prepare options colors input (disk.read input) =
        .error (failure.message input) := by rw [hread, prepare]
    rw [failure?_of_prepare_error hprepare, Option.some.injEq] at h
    subst h
    obtain rfl | rfl := Disk.eq_of_read_eq_error hread
    · exact .missing hread
    · exact .invalidText hread
  | ok source =>
    cases hcompile : compile source (.ofPath input options.target) with
    | error e =>
      have hprepare : prepare options colors input (disk.read input) =
          .error (e.report source (.ofPath input options.target) colors) := by
        rw [hread, prepare, hcompile, Except.mapError]
      rw [failure?_of_prepare_error hprepare, Option.some.injEq] at h
      subst h
      exact .refused hread hcompile
    | ok code =>
      rw [failure?_of_prepare_ok (prepare_eq_ok_iff.2 ⟨source, hread, hcompile⟩), Disk.write] at h
      cases hlocate : disk.locateOutput (options.outputPath input) with
      | error failure =>
        rw [hlocate, written, Option.some.injEq] at h
        subst h
        exact .unwritten hread hcompile hlocate
      | ok place =>
        rw [hlocate] at h
        cases h

/-- The messages are those of the inputs that are not built, in order. -/
lemma forall₂_failsWith_failed (disk : Disk) (options : BuildOptions) (colors : Bool) :
    List.Forall₂ (FailsWith disk options colors) (failed disk options)
      (options.inputs.filterMap (failure? disk options colors)) := by
  have hnone (input : String) :
      failure? disk options colors input = none ↔ IsBuilt disk options input := failure?_eq_none_iff
  rw [failed]
  induction options.inputs with
  | nil => exact .nil
  | cons input rest ih =>
    cases hfailure : failure? disk options colors input with
    | none =>
      have hbuilt := (hnone input).1 hfailure
      rw [List.filterMap_cons_none hfailure, List.filter_cons_of_neg (by simpa using hbuilt)]
      exact ih
    | some message =>
      have hbuilt : ¬ IsBuilt disk options input := by
        rw [← hnone, hfailure]
        exact Option.some_ne_none message
      rw [List.filterMap_cons_some hfailure, List.filter_cons_of_pos (by simpa using hbuilt)]
      exact .cons (failsWith_of_failure? hfailure) ih

lemma trims_trimEnd (message : String) :
    Trims message (String.ofList (Text.trimEnd message.toList)) where
  rest := by
    refine ⟨message.toList.rtakeWhile Text.isWhiteSpace, ?_, fun c => List.mem_rtakeWhile_imp⟩
    rw [String.toList_ofList]
    -- what is trimmed off and what is kept are the library's two parts of a list from its end
    exact List.rdropWhile_append_rtakeWhile.symm
  last := by
    intro c hc
    rw [String.toList_ofList] at hc
    obtain ⟨hne, rfl⟩ := List.mem_getLast?_eq_getLast hc
    exact List.rdropWhile_last_not _ _ hne

lemma lastLine_eq_summary (colors : Bool) (inputs failures : Nat) :
    lastLine colors inputs failures =
      if 1 < inputs then Reporter.summary ⟨colors, none, none⟩ failures else "" := by
  have hword : (if colors then "\x1b[1;31merror\x1b[0m" else "error") =
      Segment.paint colors (.styled .error "error") := by
    cases colors <;> rfl
  by_cases hinputs : 1 < inputs
  · rw [lastLine, if_pos hinputs, hword, Reporter.summary]
    match failures with
    | 0 => exact if_pos (Or.inr rfl)
    | 1 =>
      rw [if_neg (by omega), if_pos rfl]
      rfl
    | count + 2 =>
      rw [if_neg (by omega), if_neg (by omega), paint, Reporter.summarySegments]
      · simp only [List.map_cons, List.map_nil, String.join_cons, String.join_nil,
          String.append_empty]
        rfl
      · omega
      · omega
  · rw [lastLine, if_neg hinputs, if_pos (Or.inl (Nat.le_of_not_lt hinputs))]

lemma reports_conclude (disk : Disk) (options : BuildOptions) (colors : Bool) :
    Reports disk options colors
      (conclude options colors (options.inputs.filterMap (failure? disk options colors))) := by
  have hmessages := forall₂_failsWith_failed disk options colors
  have hnil : options.inputs.filterMap (failure? disk options colors) = [] ↔
      ∀ input ∈ options.inputs, IsBuilt disk options input := by
    simp only [List.filterMap_eq_nil_iff, failure?_eq_none_iff]
  generalize options.inputs.filterMap (failure? disk options colors) = messages at hmessages hnil
  let texts := messages.map fun message => String.ofList (Text.trimEnd message.toList)
  have htexts : List.Forall₂ Trims messages texts := by
    rw [List.forall₂_map_right_iff, List.forall₂_same]
    exact fun message _ => trims_trimEnd message
  have hprinted : String.join (messages.map printed) = unlines texts := by
    rw [unlines, List.map_map]
    rfl
  rw [conclude]
  split
  · rename_i hempty
    rw [List.isEmpty_iff] at hempty
    refine ⟨⟨fun _ => hnil.1 hempty, fun _ => rfl⟩, rfl, messages, texts, hmessages, htexts, ?_⟩
    rw [← hprinted, hmessages.length_eq, hempty]
    simp [lastLine]
  · rename_i hempty
    rw [List.isEmpty_iff] at hempty
    refine ⟨⟨fun hcode => absurd hcode Nat.one_ne_zero, fun hall => absurd (hnil.2 hall) hempty⟩,
      rfl, messages, texts, hmessages, htexts, ?_⟩
    rw [← hprinted, hmessages.length_eq, lastLine_eq_summary]

/-- Different inputs have different outputs. -/
lemma OutputsApart.index_eq (h : OutputsApart disk options) {i j : Nat} {input' : String}
    {place : Location} (hi : options.inputs[i]? = some input)
    (hj : options.inputs[j]? = some input')
    (hplace : disk.locateOutput (options.outputPath input) = .ok place)
    (hplace' : disk.locateOutput (options.outputPath input') = .ok place) : i = j := by
  have hpairwise := List.pairwise_iff_getElem.1 (List.pairwise_filterMap.1 h.nodup)
  obtain ⟨hi', rfl⟩ := List.getElem?_eq_some_iff.1 hi
  obtain ⟨hj', rfl⟩ := List.getElem?_eq_some_iff.1 hj
  have hsome : ∀ {i : Nat} (hi : i < options.inputs.length),
      disk.locateOutput (options.outputPath options.inputs[i]) = .ok place →
      place ∈ (disk.locateOutput (options.outputPath options.inputs[i])).toOption := by
    intro i hi hplace
    rw [hplace]
    rfl
  by_contra hne
  obtain hlt | hlt := Nat.lt_or_gt_of_ne hne
  · exact hpairwise i j hi' hj' hlt place (hsome hi' hplace) place (hsome hj' hplace') rfl
  · exact hpairwise j i hj' hi' hlt place (hsome hj' hplace') place (hsome hi' hplace) rfl

/-- No output is where an input leads to. -/
lemma OutputsApart.locate_ne (h : OutputsApart disk options) {input' : String}
    (hinput : input ∈ options.inputs) (hinput' : input' ∈ options.inputs) {place : Location}
    (hplace : disk.locateOutput (options.outputPath input) = .ok place) :
    disk.locate input' ≠ .ok place := by
  intro hlocate
  apply h.notMem place
  · exact List.mem_filterMap.2 ⟨input, hinput, by rw [hplace]; rfl⟩
  · exact List.mem_filterMap.2 ⟨input', hinput', by rw [hlocate]; rfl⟩

end Build

/-! ## All units -/

namespace ParallelBuild

open Build

/-- **How far a unit can have come**, with what it reads taken from the disk at the beginning. -/
inductive Stage (disk : Disk) (options : BuildOptions) (colors : Bool) (input : String) :
    BuildUnit → Prop
  | waiting : Stage disk options colors input (buildOne FileProgram.store options colors input)
  | prepared {code : String} (h : prepare options colors input (disk.read input) = .ok code) :
    Stage disk options colors input (writing options input code)
  | finished : Stage disk options colors input (.done (failure? disk options colors input))

/-- **What holds along a schedule**: each unit is at one of its stages, and the disk has the outputs
of those that are done and is otherwise as it was. -/
structure Progress (disk : Disk) (options : BuildOptions) (colors : Bool) (build : ParallelBuild) :
    Prop where
  length : build.units.length = options.inputs.length
  stage : ∀ {i : Nat} {input : String} {unit : BuildUnit}, options.inputs[i]? = some input →
    build.units[i]? = some unit → Stage disk options colors input unit
  directories : disk.SameDirectories build.disk
  delivered : ∀ {i : Nat} {input : String} {result : Option String} {place : Location}
    {code : String}, options.inputs[i]? = some input → build.units[i]? = some (.done result) →
    Builds disk options input place code → build.disk.bytes? place = some code.toUTF8
  kept : ∀ {place : Location}, (∀ (i : Nat) (input : String) (result : Option String)
    (code : String), options.inputs[i]? = some input → build.units[i]? = some (.done result) →
    ¬ Builds disk options input place code) → build.disk.bytes? place = disk.bytes? place

variable {disk : Disk} {options : BuildOptions} {colors : Bool} {build : ParallelBuild}

lemma progress_start (disk : Disk) (options : BuildOptions) (colors : Bool) :
    Progress disk options colors (start disk options colors) := by
  have hunits (i : Nat) : (start disk options colors).units[i]? =
      options.inputs[i]?.map (buildOne FileProgram.store options colors) := List.getElem?_map
  refine ⟨List.length_map _, ?_, ⟨rfl, fun _ => rfl⟩, ?_, fun _ => rfl⟩
  · intro i input unit hinput hunit
    rw [hunits, hinput, Option.map_some, Option.some.injEq] at hunit
    rw [← hunit]
    exact .waiting
  · intro i input result place code hinput hunit
    rw [hunits, hinput, Option.map_some, Option.some.injEq, buildOne_eq] at hunit
    cases hunit

namespace Progress

/-- What a unit reads is what it would have read at the beginning. -/
lemma read_eq (h : Progress disk options colors build) (hapart : OutputsApart disk options)
    {input : String} (hinput : input ∈ options.inputs) :
    build.disk.read input = disk.read input := by
  apply Disk.read_congr h.directories
  intro place hlocate
  apply h.kept
  intro i input' result code hinput' _ hbuilds
  obtain ⟨source, -, -, hplace⟩ := hbuilds
  exact hapart.locate_ne (List.mem_of_getElem? hinput') hinput hplace hlocate

/-- Where a unit writes is where it would have written at the beginning. -/
lemma locateOutput_eq (h : Progress disk options colors build) (htree : disk.IsTree)
    {input source : String} (hread : disk.read input = .ok source) :
    build.disk.locateOutput (options.outputPath input) =
      disk.locateOutput (options.outputPath input) := by
  cases houtput : options.output with
  | none =>
    have hslash : '/' ∉ options.target.fileEnding.toList := by
      cases options.target <;> decide
    obtain ⟨place, hfollow⟩ := Disk.exists_follow_withExtension htree hread hslash
    have hpath : options.outputPath input =
        Path.withExtension input options.target.fileEnding := by
      rw [BuildOptions.outputPath, houtput, Option.getD_none]
    rw [hpath]
    exact Disk.locateOutput_congr_of_followed h.directories hfollow
  | some output =>
    have hpath (input : String) : options.outputPath input = output := by
      rw [BuildOptions.outputPath, houtput, Option.getD_some]
    rw [hpath]
    cases hlocate : disk.locateOutput output with
    | ok place => exact Disk.locateOutput_congr h.directories hlocate
    | error failure =>
      -- no unit can write, so no file has changed
      rw [← hlocate]
      apply Disk.locateOutput_congr_of_bytes? h.directories
      intro place
      apply h.kept
      rintro i input' result code _ _ ⟨source', -, -, hplace⟩
      rw [hpath, hlocate] at hplace
      cases hplace

/-- A unit that was not done goes on to its next stage. -/
lemma update (h : Progress disk options colors build) (hapart : OutputsApart disk options) {i : Nat}
    {input : String} {unit unit' : BuildUnit} {later : Disk}
    (hinput : options.inputs[i]? = some input) (hunit : build.units[i]? = some unit)
    (hunfinished : ∀ result, unit ≠ .done result)
    (hstage : Stage disk options colors input unit') (hdirectories : disk.SameDirectories later)
    (hdelivered : ∀ result place code, unit' = .done result →
      Builds disk options input place code → later.bytes? place = some code.toUTF8)
    (hkept : ∀ place, (∀ result code, unit' = .done result →
      ¬ Builds disk options input place code) → later.bytes? place = build.disk.bytes? place) :
    Progress disk options colors ⟨later, build.units.set i unit'⟩ := by
  obtain ⟨hlt, -⟩ := List.getElem?_eq_some_iff.1 hunit
  refine ⟨List.length_set.trans h.length, ?_, hdirectories, ?_, ?_⟩
  · intro j input' unit'' hinput' hunit''
    by_cases hij : i = j
    · subst hij
      rw [List.getElem?_set_self hlt, Option.some.injEq] at hunit''
      rw [hinput, Option.some.injEq] at hinput'
      rwa [← hinput', ← hunit'']
    · rw [List.getElem?_set_ne hij] at hunit''
      exact h.stage hinput' hunit''
  · intro j input' result place code hinput' hdone hbuilds
    by_cases hij : i = j
    · subst hij
      rw [List.getElem?_set_self hlt, Option.some.injEq] at hdone
      rw [hinput, Option.some.injEq] at hinput'
      subst hinput'
      exact hdelivered result place code hdone hbuilds
    · rw [List.getElem?_set_ne hij] at hdone
      rw [hkept place]
      · exact h.delivered hinput' hdone hbuilds
      · rintro result' code' - ⟨source, -, -, hplace⟩
        obtain ⟨source', -, -, hplace'⟩ := hbuilds
        exact hij (hapart.index_eq hinput hinput' hplace hplace')
  · intro place hnone
    rw [hkept place]
    · apply h.kept
      intro j input' result code hinput' hdone
      have hij : i ≠ j := by
        rintro rfl
        rw [hunit, Option.some.injEq] at hdone
        exact hunfinished result hdone
      exact hnone j input' result code hinput' (by rwa [List.getElem?_set_ne hij])
    · intro result code hdone
      exact hnone i input result code hinput (by rw [List.getElem?_set_self hlt, hdone])

/-- A unit that cannot build its input ends and writes nothing. -/
lemma update_of_not_isBuilt (h : Progress disk options colors build)
    (hapart : OutputsApart disk options) {i : Nat} {input : String} {unit : BuildUnit}
    (hinput : options.inputs[i]? = some input) (hunit : build.units[i]? = some unit)
    (hunfinished : ∀ result, unit ≠ .done result) (hnot : ¬ IsBuilt disk options input) :
    Progress disk options colors
      ⟨build.disk, build.units.set i (.done (failure? disk options colors input))⟩ := by
  apply h.update hapart hinput hunit hunfinished .finished h.directories
  · intro result place code _ hbuilds
    exact absurd ⟨place, code, hbuilds⟩ hnot
  · intro place _
    rfl

/-- A unit reads its source. -/
lemma turn_waiting (h : Progress disk options colors build) (hapart : OutputsApart disk options)
    {i : Nat} {input : String} (hinput : options.inputs[i]? = some input)
    (hunit : build.units[i]? = some (buildOne FileProgram.store options colors input)) :
    Progress disk options colors (build.turn i) := by
  have hunfinished : ∀ result, buildOne FileProgram.store options colors input ≠ .done result := by
    intro result hresult
    rw [buildOne_eq] at hresult
    cases hresult
  have hread := h.read_eq hapart (List.mem_of_getElem? hinput)
  rw [turn_of_some hunit]
  cases hprepare : prepare options colors input (disk.read input) with
  | error message =>
    have hstep : (buildOne FileProgram.store options colors input).step build.disk =
        (.done (failure? disk options colors input), build.disk) := by
      rw [buildOne_eq, FileProgram.step, hread, hprepare, failure?_of_prepare_error hprepare]
    rw [hstep]
    apply h.update_of_not_isBuilt hapart hinput hunit hunfinished
    rintro ⟨place, code, hbuilds⟩
    rw [builds_iff colors, hprepare] at hbuilds
    cases hbuilds.1
  | ok code =>
    have hstep : (buildOne FileProgram.store options colors input).step build.disk =
        (writing options input code, build.disk) := by
      rw [buildOne_eq, FileProgram.step, hread, hprepare]
    rw [hstep]
    apply h.update hapart hinput hunit hunfinished (.prepared hprepare) h.directories
    · intro result place code' hdone
      cases hdone
    · intro place _
      rfl

/-- A file that could be written at the beginning adds no directories now. -/
lemma sameDirectories_addFile (h : Progress disk options colors build) (htree : disk.IsTree)
    {path : String} {place : Location} (hlocate : disk.locateOutput path = .ok place)
    (content : ByteArray) : disk.SameDirectories (build.disk.addFile place content) := by
  apply h.directories.trans
  apply Disk.sameDirectories_addFile
  · intro place' hplace'
    rw [h.directories.isDirectory] at hplace' ⊢
    exact htree.isDirectory_dropLast hplace'
  · rw [h.directories.isDirectory]
    exact Disk.isDirectory_dropLast_of_locateOutput hlocate

/-- A unit writes its code. -/
lemma turn_prepared (h : Progress disk options colors build) (htree : disk.IsTree)
    (hapart : OutputsApart disk options) {i : Nat} {input code : String}
    (hinput : options.inputs[i]? = some input)
    (hprepare : prepare options colors input (disk.read input) = .ok code)
    (hunit : build.units[i]? = some (writing options input code)) :
    Progress disk options colors (build.turn i) := by
  have hunfinished : ∀ result, writing options input code ≠ .done result := by
    intro result hresult
    cases hresult
  obtain ⟨source, hread, -⟩ := prepare_eq_ok_iff.1 hprepare
  have hsame := h.locateOutput_eq htree hread
  rw [turn_of_some hunit]
  cases hlocate : disk.locateOutput (options.outputPath input) with
  | error failure =>
    have hstep : (writing options input code).step build.disk =
        (.done (failure? disk options colors input), build.disk) := by
      rw [failure?_of_prepare_ok hprepare, writing, FileProgram.step, Disk.write, Disk.write, hsame,
        hlocate]
    rw [hstep]
    apply h.update_of_not_isBuilt hapart hinput hunit hunfinished
    rintro ⟨place, code', hbuilds⟩
    rw [builds_iff colors, hlocate] at hbuilds
    cases hbuilds.2
  | ok place =>
    have hstep : (writing options input code).step build.disk =
        (.done (failure? disk options colors input), build.disk.addFile place code.toUTF8) := by
      rw [failure?_of_prepare_ok hprepare, writing, FileProgram.step, Disk.write, Disk.write, hsame,
        hlocate]
    rw [hstep]
    apply h.update hapart hinput hunit hunfinished .finished
      (h.sameDirectories_addFile htree hlocate _)
    · intro result place' code' _ hbuilds
      rw [builds_iff colors, hprepare, hlocate] at hbuilds
      obtain ⟨hcode, hplace⟩ := hbuilds
      cases hcode
      cases hplace
      exact Disk.bytes?_addFile_self _ _ _
    · intro place' hnone
      apply Disk.bytes?_addFile_of_ne
      rintro rfl
      exact hnone _ code rfl ((builds_iff colors).2 ⟨hprepare, hlocate⟩)

/-- **One step of any unit keeps the progress.** -/
lemma turn (h : Progress disk options colors build) (htree : disk.IsTree)
    (hapart : OutputsApart disk options) (i : Nat) :
    Progress disk options colors (build.turn i) := by
  cases hunit : build.units[i]? with
  | none =>
    have hturn : build.turn i = build := by rw [ParallelBuild.turn, hunit]
    rwa [hturn]
  | some unit =>
    obtain ⟨hlt, -⟩ := List.getElem?_eq_some_iff.1 hunit
    rw [h.length] at hlt
    have hinput := List.getElem?_eq_getElem hlt
    cases h.stage hinput hunit with
    | waiting => exact h.turn_waiting hapart hinput hunit
    | prepared hprepare => exact h.turn_prepared htree hapart hinput hprepare hunit
    | finished =>
      have hturn : build.turn i = build := by
        obtain ⟨hlt', hunit'⟩ := List.getElem?_eq_some_iff.1 hunit
        rw [turn_of_some hunit, FileProgram.step, ← hunit', List.set_getElem_self]
      rwa [hturn]

/-- **All steps of a schedule keep the progress.** -/
lemma run (h : Progress disk options colors build) (htree : disk.IsTree)
    (hapart : OutputsApart disk options) (schedule : List Nat) :
    Progress disk options colors (build.run schedule) := by
  induction schedule generalizing build with
  | nil => exact h
  | cons i rest ih => exact ih (h.turn htree hapart i)

end Progress

/-- The result of a unit that is done is that of its input built alone. -/
lemma Stage.result_eq {input : String} {result : Option String}
    (h : Stage disk options colors input (.done result)) :
    result = failure? disk options colors input := by
  generalize hunit : FileProgram.done result = unit at h
  cases h with
  | waiting =>
    rw [buildOne_eq] at hunit
    cases hunit
  | prepared _ => cases hunit
  | finished =>
    cases hunit
    rfl

namespace Progress

variable {results : List (Option String)}

/-- **The results are in the order of the inputs**, whichever unit was done first. -/
lemma results_eq (h : Progress disk options colors build)
    (hended : build.Ended results) :
    results = options.inputs.map (failure? disk options colors) := by
  have hlength : results.length = options.inputs.length := by
    rw [← h.length, hended, List.length_map]
  apply List.ext_getElem
  · rw [List.length_map, hlength]
  · intro i hi _
    have hi' : i < options.inputs.length := hlength ▸ hi
    have hunit : build.units[i]? = some (.done results[i]) := by
      rw [hended, List.getElem?_map, List.getElem?_eq_getElem hi, Option.map_some]
    rw [List.getElem_map]
    exact (h.stage (List.getElem?_eq_getElem hi') hunit).result_eq

/-- When all units are done, everything is delivered. -/
lemma delivers (h : Progress disk options colors build)
    (hended : build.Ended results) : Delivers disk options build.disk := by
  have hdone (i : Nat) : build.units[i]? = results[i]?.map .done := by
    rw [hended, List.getElem?_map]
  refine ⟨h.directories, ?_, ?_⟩
  · intro input place code hinput hbuilds
    obtain ⟨i, hi, rfl⟩ := List.getElem_of_mem hinput
    have hi' : i < results.length := by
      rwa [← List.length_map (f := FileProgram.done), ← hended, h.length]
    apply h.delivered (List.getElem?_eq_getElem hi) _ hbuilds
    · exact results[i]
    · rw [hdone, List.getElem?_eq_getElem hi', Option.map_some]
  · intro place hnone
    apply h.kept
    intro i input result code hinput _
    exact hnone input (List.mem_of_getElem? hinput) code

end Progress

/-! ## One after the other -/

/-- The schedule that lets units from one on run to their ends, one after the other. -/
def oneByOne (first count : Nat) : List Nat := (List.range' first count).flatMap fun i => [i, i]

lemma oneByOne_succ (first count : Nat) :
    oneByOne first (count + 1) = first :: first :: oneByOne (first + 1) count := by
  rw [oneByOne, List.range'_succ, List.flatMap_cons]
  rfl

lemma turn_append (disk : Disk) (front rest : List BuildUnit) (unit : BuildUnit) :
    turn ⟨disk, front ++ unit :: rest⟩ front.length =
      ⟨(unit.step disk).2, front ++ (unit.step disk).1 :: rest⟩ := by
  have hunit : (front ++ unit :: rest)[front.length]? = some unit := by simp
  rw [turn_of_some hunit]
  simp

lemma run_mapM_cons (disk : Disk) (options : BuildOptions) (colors : Bool) (input : String)
    (rest : List String) :
    ((input :: rest).mapM (buildOne Disk.store options colors)).run disk =
      let built := (buildOne Disk.store options colors input).run disk
      let others := (rest.mapM (buildOne Disk.store options colors)).run built.2
      (built.1 :: others.1, others.2) := by
  rw [List.mapM_cons]
  rfl

/-- **Building one after the other is a schedule.** -/
lemma run_oneByOne (disk : Disk) (options : BuildOptions) (colors : Bool) (front : List BuildUnit)
    (inputs : List String) :
    run ⟨disk, front ++ inputs.map (buildOne FileProgram.store options colors)⟩
        (oneByOne front.length inputs.length) =
      ⟨((inputs.mapM (buildOne Disk.store options colors)).run disk).2,
        front ++ ((inputs.mapM (buildOne Disk.store options colors)).run disk).1.map .done⟩ := by
  induction inputs generalizing disk front with
  | nil => rfl
  | cons input rest ih =>
    have hrest := ih ((buildOne Disk.store options colors input).run disk).2
      (front ++ [.done ((buildOne Disk.store options colors input).run disk).1])
    rw [List.append_assoc, List.singleton_append, List.length_append, List.length_singleton,
      List.append_assoc, List.singleton_append] at hrest
    rw [List.length_cons, oneByOne_succ, List.map_cons, run, List.foldl_cons, List.foldl_cons,
      turn_append, turn_append, step_step_buildOne, run_mapM_cons]
    exact hrest

/-- A sequential build is what its schedule leaves behind. -/
lemma exists_schedule_of_run (disk : Disk) (options : BuildOptions) (terminal : Bool) :
    ∃ schedule results,
      ((start disk options (options.color.useColors terminal)).run schedule).Ended results ∧
      (Build.run Disk.store terminal options).run disk =
        (conclude options (options.color.useColors terminal) (results.filterMap id),
          ((start disk options (options.color.useColors terminal)).run schedule).disk) := by
  have hrun := run_oneByOne disk options (options.color.useColors terminal) [] options.inputs
  refine ⟨oneByOne 0 options.inputs.length,
    ((options.inputs.mapM (buildOne Disk.store options (options.color.useColors terminal))).run
      disk).1, ?_, ?_⟩
  · exact congrArg ParallelBuild.units hrun
  · exact Prod.ext rfl (congrArg ParallelBuild.disk hrun).symm

/-- Two turns are enough for each unit. -/
lemma exists_results_of_two_le (disk : Disk) (options : BuildOptions) (colors : Bool)
    {schedule : List Nat} (h : ∀ i < options.inputs.length, 2 ≤ schedule.count i) :
    ∃ results, ((start disk options colors).run schedule).Ended results := by
  have hbound : ∀ (i : Nat) (unit : BuildUnit),
      (start disk options colors).units[i]? = some unit → unit.EndsWithin 2 := by
    intro i unit hunit
    rw [start, List.getElem?_map] at hunit
    obtain ⟨input, -, rfl⟩ := Option.map_eq_some_iff.1 hunit
    exact endsWithin_buildOne options colors input
  have hdone : ∀ unit ∈ ((start disk options colors).run schedule).units,
      unit ∈ Set.range FileProgram.done := by
    intro unit hunit
    obtain ⟨i, hi, rfl⟩ := List.getElem_of_mem hunit
    have hends := endsWithin_run hbound schedule i _ (List.getElem?_eq_getElem hi)
    rw [length_units_run, start, List.length_map] at hi
    rw [Nat.sub_eq_zero_of_le (h i hi)] at hends
    obtain ⟨result, hresult⟩ := hends.exists_eq_done
    exact ⟨result, hresult.symm⟩
  obtain ⟨results, hresults⟩ := (Set.range_list_map FileProgram.done).ge hdone
  exact ⟨results, hresults.symm⟩

end ParallelBuild

/-! ## The whole build -/

namespace Build

open ParallelBuild

/-- What a build leaves on the disk is determined. -/
lemma Delivers.same {disk : Disk} {options : BuildOptions} {later later' : Disk}
    (h : Delivers disk options later) (h' : Delivers disk options later') : later.Same later' := by
  refine ⟨h.directories.symm.trans h'.directories, ?_⟩
  intro place
  by_cases hplace : ∃ input ∈ options.inputs, ∃ code, Builds disk options input place code
  · obtain ⟨input, hinput, code, hbuilds⟩ := hplace
    rw [h.outputs hinput hbuilds, h'.outputs hinput hbuilds]
  · have hnone : ∀ input ∈ options.inputs, ∀ code, ¬ Builds disk options input place code := by
      intro input hinput code hbuilds
      exact hplace ⟨input, hinput, code, hbuilds⟩
    rw [h.others hnone, h'.others hnone]

/-- **Parallel builds.**  Let the outputs of a build be different files, none of which is an input.
Units that take steps in any order come to an end when each has had two turns, and however they came
there, the build has the outcome, and leaves the disk, of building one input after the other: all
that can be built is delivered and nothing else is touched, and what failed is reported. -/
theorem parallel_eq_sequential {disk : Disk} {options : BuildOptions} (htree : disk.IsTree)
    (hapart : OutputsApart disk options) (terminal : Bool) :
    let colors := options.color.useColors terminal
    let sequential := (run Disk.store terminal options).run disk
    (∀ schedule : List Nat, (∀ i < options.inputs.length, 2 ≤ schedule.count i) →
      ∃ results, ((start disk options colors).run schedule).Ended results) ∧
    ∀ schedule results, ((start disk options colors).run schedule).Ended results →
      conclude options colors (results.filterMap id) = sequential.1 ∧
      sequential.2.Same ((start disk options colors).run schedule).disk ∧
      Delivers disk options ((start disk options colors).run schedule).disk ∧
      Reports disk options colors (conclude options colors (results.filterMap id)) := by
  intro colors sequential
  refine ⟨fun schedule => exists_results_of_two_le disk options colors, ?_⟩
  intro schedule results hended
  have hprogress := (progress_start disk options colors).run htree hapart
  obtain ⟨schedule', results', hended', hsequential⟩ :=
    exists_schedule_of_run disk options terminal
  have hresults := (hprogress schedule).results_eq hended
  have hresults' := (hprogress schedule').results_eq hended'
  have hdelivers := (hprogress schedule).delivers hended
  have hdelivers' := (hprogress schedule').delivers hended'
  have hmessages : results.filterMap id =
      options.inputs.filterMap (failure? disk options colors) := by
    rw [hresults, List.filterMap_map, Function.id_comp]
  refine ⟨?_, ?_, hdelivers, ?_⟩
  · rw [show sequential = _ from hsequential, hresults, hresults']
  · rw [show sequential = _ from hsequential]
    exact hdelivers'.same hdelivers
  · rw [hmessages]
    exact reports_conclude disk options colors

/-- A disk with a source that compiles, one that no longer does but was built before, one whose
output is a directory, and one that is no text. -/
def rebuildDisk : Disk where
  workingDirectory := ["work"]
  directories := [["work"], ["work", "d.py"]]
  files := [(["work", "a.uwu"], "O.O x\n".toUTF8), (["work", "b.uwu"], "O.O\n".toUTF8),
    (["work", "b.py"], "y = 0\n".toUTF8), (["work", "d.uwu"], "UwU 1\n".toUTF8),
    (["work", "e.uwu"], ⟨#[0xff]⟩)]

/-- A build of these sources, and of one that is missing. -/
def rebuildOptions : BuildOptions :=
  ⟨.python, none, ["a.uwu", "b.uwu", "c.uwu", "d.uwu", "e.uwu"], .never⟩

/-- The source that compiles is read before most others but written after all of them; the messages
come in the order of the inputs, which is not that in which the inputs failed. -/
theorem parallel_eq_sequential_crossed :
    ∃ results,
      ((start rebuildDisk rebuildOptions false).run [4, 2, 0, 3, 1, 3, 2, 1, 4, 0]).Ended results ∧
      conclude rebuildOptions false (results.filterMap id) =
        { code := 1
          stdout := ""
          stderr :=
            "error[E2003]: declaration expects exactly one identifier, found 0 arguments\n" ++
            "  --> b.uwu:1:1\n" ++
            "   |\n" ++
            " 1 | O.O\n" ++
            "   | ^ declared here\n" ++
            "uwuc: 'c.uwu' does not exist.\n" ++
            "uwuc: cannot write 'd.py': Is a directory (os error 21)\n" ++
            "uwuc: 'e.uwu' contains invalid UTF-8 data\n" ++
            "error: aborting due to 4 previous errors\n" } ∧
      ((start rebuildDisk rebuildOptions false).run [4, 2, 0, 3, 1, 3, 2, 1, 4, 0]).disk.bytes?
        ["work", "a.py"] = some "x = 0\n".toUTF8 ∧
      ((start rebuildDisk rebuildOptions false).run [4, 2, 0, 3, 1, 3, 2, 1, 4, 0]).disk.bytes?
        ["work", "b.py"] = some "y = 0\n".toUTF8 := by
  have htree : rebuildDisk.IsTree := by decide +kernel
  have hapart : OutputsApart rebuildDisk rebuildOptions := by decide +kernel
  have hcolors : rebuildOptions.color.useColors false = false := rfl
  have hparallel := parallel_eq_sequential htree hapart false
  simp only [hcolors] at hparallel
  obtain ⟨hends, hall⟩ := hparallel
  obtain ⟨results, hended⟩ := hends [4, 2, 0, 3, 1, 3, 2, 1, 4, 0] (by decide)
  obtain ⟨hconclude, hsame, -, -⟩ := hall [4, 2, 0, 3, 1, 3, 2, 1, 4, 0] results hended
  refine ⟨results, hended, ?_, ?_, ?_⟩
  · exact hconclude.trans (by decide +kernel)
  · exact (hsame.bytes?_eq _).trans (by decide +kernel)
  · exact (hsame.bytes?_eq _).trans (by decide +kernel)

end Build

end Kaomoji

