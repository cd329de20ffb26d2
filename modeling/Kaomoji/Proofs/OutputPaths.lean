import Kaomoji.Command.Options
import Kaomoji.Proofs.DiskPaths
import Mathlib.Data.List.Basic
import Mathlib.Data.List.TakeWhile

/-!
# Which files a build overwrites

A build asks of its arguments no more than that one output goes with one input, so it may write over
a source, its own or another, and write two sources to one file.  This module says exactly when.

Two spellings of a path are the same path if they take the same steps (`Path.Same`), as `a//b/.` and
`a/b` do.  What another extension leaves of a path is its *outline*, the directories and the stem of
the file name: `Path.steps_withExtension` gives the steps of the new path, and
`Path.steps_eq_spelled_iff` says which paths have them.  One kind of name is in the way: a name such
as `..x`, whose stem is a single dot, becomes `..` and names a directory; `Path.kept` has the case.
Behind the name there may be slashes and dots that say nothing, a *trail*, and then the name is
safe, because taking off the extension shortens the trail in its place.
-/

namespace Kaomoji

namespace Path

/-! ## Steps -/

/-- What the parts of a path begin with: the root, or the place where the path is followed. -/
def lead : List (List Char) → List (List Char)
  | [] :: _ :: _ => [['/']]
  | ['.'] :: _ => [['.']]
  | _ => []

/-- Whether a part leads on. -/
def leadsOn (part : List Char) : Bool := part ≠ [] && part ≠ ['.']

/-- **The steps that a path takes.** -/
def steps (path : List Char) : List (List Char) :=
  lead (path.splitOn '/') ++ (path.splitOn '/').filter leadsOn

/-- **Two spellings of one path.** -/
def Same (path path' : String) : Prop := steps path.toList = steps path'.toList

instance (path path' : String) : Decidable (Same path path') :=
  inferInstanceAs (Decidable (steps path.toList = steps path'.toList))

variable {path folder name trail stem extension : List Char}

lemma splitOn_ne_singleton_nil (h : path ≠ []) : path.splitOn '/' ≠ [[]] := by
  intro hsplit
  have hjoin : ['/'].intercalate (path.splitOn '/') = path := List.intercalate_splitOn '/'
  rw [hsplit] at hjoin
  exact h hjoin.symm

lemma lead_concat {parts : List (List Char)} (hne : parts ≠ []) (hsingle : parts ≠ [[]])
    (part : List Char) : lead (parts ++ [part]) = lead parts := by
  match parts with
  | [] => exact absurd rfl hne
  | [[]] => exact absurd rfl hsingle
  | [c :: rest] => by_cases h : c :: rest = ['.'] <;> simp [lead, h]
  | [] :: _ :: _ => rfl
  | (c :: rest) :: second :: more => by_cases h : c :: rest = ['.'] <;> simp [lead, h]

lemma splitOn_append_slash (path rest : List Char) (h : '/' ∉ rest) :
    (path ++ '/' :: rest).splitOn '/' = path.splitOn '/' ++ [rest] := by
  rw [List.splitOn_append_cons_self, List.splitOn_eq_singleton h]

/-- A part that does not lead on is no step, unless the path begins with it. -/
lemma steps_append_slash (hpath : path ≠ []) {part : List Char} (hslash : '/' ∉ part)
    (hpart : leadsOn part = false) : steps (path ++ '/' :: part) = steps path := by
  rw [steps, steps, splitOn_append_slash _ _ hslash,
    lead_concat (List.splitOn_ne_nil _ _) (splitOn_ne_singleton_nil hpath), List.filter_append,
    List.filter_singleton, hpart]
  simp

/-- The steps of a folder and the one behind it. -/
lemma steps_append (hfolder : IsFolder folder) (hslash : '/' ∉ name) (hname : leadsOn name) :
    steps (folder ++ name) = steps folder ++ [name] := by
  obtain rfl | ⟨front, rfl⟩ := hfolder
  · obtain ⟨hne, hdot⟩ : name ≠ [] ∧ name ≠ ['.'] := by simpa [leadsOn] using hname
    simp [steps, List.splitOn_eq_singleton hslash, lead, hne, hdot, leadsOn]
  · have hlead : lead (front.splitOn '/' ++ [name]) = lead (front.splitOn '/' ++ [[]]) := by
      match hparts : front.splitOn '/' with
      | [] => exact absurd hparts (List.splitOn_ne_nil _ _)
      | [[]] => rfl
      | (c :: rest) :: more =>
        rw [lead_concat (by simp) (by simp), lead_concat (by simp) (by simp)]
      | [] :: _ :: _ => rfl
    rw [List.append_assoc, List.singleton_append, steps, steps, splitOn_append_slash _ _ hslash,
      splitOn_append_slash _ _ (by simp), hlead, List.filter_append, List.filter_append,
      List.filter_singleton, hname]
    simp [leadsOn]

/-! ## Trails -/

/-- **What may stand behind a path and says nothing**: slashes, and single dots between them. -/
inductive IsTrail : List Char → Prop where
  | nil : IsTrail []
  | slash {trail : List Char} : IsTrail trail → IsTrail ('/' :: trail)
  | dot {trail : List Char} : IsTrail trail → IsTrail ('/' :: '.' :: trail)

lemma IsTrail.append {trail' : List Char} (h : IsTrail trail) (h' : IsTrail trail') :
    IsTrail (trail ++ trail') := by
  induction h with
  | nil => exact h'
  | slash _ ih => exact ih.slash
  | dot _ ih => exact ih.dot

lemma IsTrail.take (h : IsTrail trail) (n : Nat) : IsTrail (trail.take n) := by
  induction h generalizing n with
  | nil =>
    rw [List.take_nil]
    exact .nil
  | slash _ ih =>
    match n with
    | 0 => exact .nil
    | n + 1 => exact (ih n).slash
  | dot _ ih =>
    match n with
    | 0 => exact .nil
    | 1 => exact IsTrail.nil.slash
    | n + 2 => exact (ih n).dot

lemma IsTrail.steps_append (h : IsTrail trail) {path : List Char} (hpath : path ≠ []) :
    steps (path ++ trail) = steps path := by
  induction h generalizing path with
  | nil => rw [List.append_nil]
  | @slash trail _ ih =>
    rw [List.append_cons, ih (by simp)]
    exact steps_append_slash hpath (by simp) rfl
  | @dot trail _ ih =>
    rw [List.append_cons, List.append_cons, ih (by simp), List.append_assoc]
    exact steps_append_slash hpath (by simp) rfl

lemma IsTrail.trimmed_append (h : IsTrail trail) (path : List Char) :
    trimmed (path ++ trail) = trimmed path := by
  induction h generalizing path with
  | nil => rw [List.append_nil]
  | slash _ ih =>
    rw [List.append_cons, ih, trimmed, List.reverse_concat, trimReversed]
    rfl
  | dot _ ih =>
    rw [List.append_cons, List.append_cons, ih, trimmed, List.reverse_concat, List.reverse_concat,
      trimReversed]
    rfl

/-- **A path that ends in a part that leads on**, with a folder before it and a trail behind. -/
structure EndsIn (path folder name trail : List Char) : Prop where
  eq : path = folder ++ name ++ trail
  isFolder : IsFolder folder
  noSlash : '/' ∉ name
  leadsOn : leadsOn name
  isTrail : IsTrail trail

/-- Every path ends in such a part, or it says nothing but where it begins. -/
lemma exists_endsIn (path : List Char) :
    (∃ trail, IsTrail trail ∧ (path = trail ∨ path = '.' :: trail)) ∨
      ∃ folder name trail, EndsIn path folder name trail := by
  obtain ⟨folder, name, hpath, hfolder, hslash⟩ := exists_folder path
  by_cases hname : leadsOn name
  · exact Or.inr ⟨folder, name, [], by simpa using hpath, hfolder, hslash, hname, .nil⟩
  obtain rfl | ⟨front, rfl⟩ := hfolder
  · refine Or.inl ⟨[], .nil, ?_⟩
    simpa [leadsOn, hpath, Decidable.or_iff_not_imp_left] using hname
  · -- the part joins the trail of what stands before it
    have htrail : IsTrail ('/' :: name) := by
      obtain rfl | rfl : name = [] ∨ name = ['.'] := by
        simpa [leadsOn, Decidable.or_iff_not_imp_left] using hname
      · exact IsTrail.nil.slash
      · exact IsTrail.nil.dot
    have hshorter : front.length < path.length := by
      rw [hpath]
      simp
    rw [List.append_assoc, List.singleton_append] at hpath
    obtain ⟨trail, htrail', hfront⟩ | ⟨folder, name', trail, hends⟩ := exists_endsIn front
    · refine Or.inl ⟨trail ++ '/' :: name, htrail'.append htrail, ?_⟩
      obtain rfl | rfl := hfront
      · exact Or.inl hpath
      · exact Or.inr hpath
    · refine Or.inr ⟨folder, name', trail ++ '/' :: name, ?_, hends.isFolder, hends.noSlash,
        hends.leadsOn, hends.isTrail.append htrail⟩
      rw [hpath, hends.eq, List.append_assoc]
termination_by path.length

namespace EndsIn

lemma ne_nil (h : EndsIn path folder name trail) : name ≠ [] := by
  have hname := h.leadsOn
  rintro rfl
  exact absurd hname (by decide)

lemma ne_dot (h : EndsIn path folder name trail) : name ≠ ['.'] := by
  have hname := h.leadsOn
  rintro rfl
  exact absurd hname (by decide)

lemma steps_eq (h : EndsIn path folder name trail) : steps path = steps folder ++ [name] := by
  rw [h.eq, h.isTrail.steps_append (by simp [h.ne_nil]),
    steps_append h.isFolder h.noSlash h.leadsOn]

lemma trimmed_eq (h : EndsIn path folder name trail) : trimmed path = folder ++ name := by
  rw [h.eq, h.isTrail.trimmed_append, trimmed_append h.noSlash h.ne_nil h.ne_dot]

lemma trimmed_eq_self_iff (h : EndsIn path folder name trail) :
    trimmed path = path ↔ trail = [] := by
  rw [h.trimmed_eq, h.eq]
  simp

lemma fileNameChars?_eq (h : EndsIn path folder name trail) :
    fileNameChars? path = if name = ['.', '.'] then none else some name := by
  rw [fileNameChars?, h.trimmed_eq, lastPart_append h.isFolder h.noSlash]
  simp [h.ne_nil]

end EndsIn

/-! ## Names and their extensions -/

lemma takeWhile_reverse_of_notMem {c : Char} (h : c ∉ name) :
    name.reverse.takeWhile (· ≠ c) = name.reverse := by
  rw [List.takeWhile_eq_self_iff]
  intro d hd
  rw [decide_eq_true_eq]
  rintro rfl
  exact h (List.mem_reverse.1 hd)

/-- A name without a dot has no extension. -/
lemma splitName_of_notMem (h : '.' ∉ name) : splitName name = (name, none) := by
  rw [splitName, takeWhile_reverse_of_notMem h]
  simp

lemma splitName_append_dot (stem : List Char) (h : '.' ∉ extension) :
    splitName (stem ++ '.' :: extension) =
      if stem = [] then ('.' :: extension, none) else (stem, some extension) := by
  have htake : (stem ++ '.' :: extension).reverse.takeWhile (· ≠ '.') = extension.reverse := by
    rw [List.reverse_append, List.reverse_cons, List.append_assoc, List.takeWhile_append,
      takeWhile_reverse_of_notMem h]
    simp
  have hlength : (stem ++ '.' :: extension).length - extension.length - 1 = stem.length := by
    simp only [List.length_append, List.length_cons]
    omega
  rw [splitName, htake, List.reverse_reverse, hlength, List.take_left]
  by_cases hstem : stem = []
  · simp [hstem]
  · simp [hstem]

/-- A name has no extension, or a stem and an extension with the last dot between them. -/
lemma splitName_cases (name : List Char) :
    splitName name = (name, none) ∨
      ∃ stem extension, splitName name = (stem, some extension) ∧
        name = stem ++ '.' :: extension ∧ stem ≠ [] ∧ '.' ∉ extension := by
  by_cases hdot : '.' ∈ name
  · obtain ⟨back, front, hreverse, hback⟩ :=
      List.eq_append_cons_of_mem (List.mem_reverse.2 hdot)
    have hname : name = front.reverse ++ '.' :: back.reverse := by
      simpa using congrArg List.reverse hreverse
    have hextension : '.' ∉ back.reverse := by simpa using hback
    have hsplit := splitName_append_dot front.reverse hextension
    rw [← hname] at hsplit
    split at hsplit
    · rename_i hstem
      exact Or.inl (by rw [hsplit, hname, hstem]; rfl)
    · rename_i hstem
      exact Or.inr ⟨_, _, hsplit, hname, hstem, hextension⟩
  · exact Or.inl (splitName_of_notMem hdot)

/-! ## Other extensions -/

namespace EndsIn

lemma setExtension_eq (h : EndsIn path folder name trail) (hdots : name ≠ ['.', '.'])
    (extension : List Char) :
    setExtension path extension = folder ++ ((splitName name).1 ++ '.' :: extension) := by
  rw [setExtension, h.fileNameChars?_eq, if_neg hdots]
  dsimp only
  rw [h.trimmed_eq, List.length_append, Nat.add_sub_cancel, List.take_left, List.append_assoc]

/-- Without a file name nothing is extended. -/
lemma setExtension_dots (h : EndsIn path folder ['.', '.'] trail) (extension : List Char) :
    setExtension path extension = path := by
  rw [setExtension, h.fileNameChars?_eq, if_pos rfl]

/-- **What is left when the extension is taken off**, from the end of the path: a trail loses as
many characters as the extension has, or else the extension keeps as many as the trail had. -/
lemma take_extension (h : EndsIn path folder (stem ++ '.' :: extension) trail) (hstem : stem ≠ []) :
    EndsIn (path.take (path.length - extension.length)) folder
      (stem ++ '.' :: extension.take trail.length)
      (trail.take (trail.length - extension.length)) where
  eq := by
    have hpath : path = (folder ++ (stem ++ ['.'])) ++ (extension ++ trail) := by
      rw [h.eq]
      simp
    have hlength : path.length - extension.length =
        (folder ++ (stem ++ ['.'])).length + trail.length := by
      rw [hpath]
      simp only [List.length_append]
      omega
    rw [hlength, hpath, List.take_length_add_append, List.take_append]
    simp
  isFolder := h.isFolder
  noSlash := by
    have hslash := h.noSlash
    simp only [List.mem_append, List.mem_cons, not_or] at hslash ⊢
    exact ⟨hslash.1, hslash.2.1, fun hmem => hslash.2.2 (List.mem_of_mem_take hmem)⟩
  leadsOn := by simp [Path.leadsOn, List.append_eq_cons_iff, hstem]
  isTrail := h.isTrail.take _

/-- **A path with another extension.**  Two dots are left of a name like `..x`, unless there is a
trail. -/
lemma withExtension_eq {path : String} (h : EndsIn path.toList folder name trail)
    (hdots : name ≠ ['.', '.']) (extension : String) :
    (withExtension path extension).toList =
      if (splitName name).1 = ['.'] ∧ trail = [] then folder ++ ['.', '.']
      else folder ++ ((splitName name).1 ++ '.' :: extension.toList) := by
  rw [withExtension, String.toList_ofList, extensionLength, h.fileNameChars?_eq, if_neg hdots]
  dsimp only
  obtain hsplit | ⟨stem, old, hsplit, rfl, hstem, hold⟩ := splitName_cases name
  · rw [hsplit, if_neg fun hdot => h.ne_dot hdot.1, Option.getD_none, List.length_nil, Nat.sub_zero,
      List.take_length, h.setExtension_eq hdots, hsplit]
  · have hends := h.take_extension hstem
    rw [hsplit, Option.getD_some]
    by_cases hlost : stem = ['.'] ∧ trail = []
    · obtain ⟨rfl, rfl⟩ := hlost
      simp only [List.length_nil, List.take_zero, List.take_nil] at hends
      rw [if_pos ⟨rfl, rfl⟩, hends.setExtension_dots, hends.eq]
      simp
    · have hrest : '.' ∉ old.take trail.length := fun hmem => hold (List.mem_of_mem_take hmem)
      have hdots' : stem ++ '.' :: old.take trail.length ≠ ['.', '.'] := by
        intro heq
        obtain ⟨rfl, htrail | hold⟩ : stem = ['.'] ∧ (trail = [] ∨ old = []) := by
          obtain ⟨c, more, rfl⟩ := List.exists_cons_of_ne_nil hstem
          simpa [List.append_eq_singleton_iff, and_assoc] using heq
        · exact hlost ⟨rfl, htrail⟩
        · exact hdots (by rw [hold]; rfl)
      rw [if_neg hlost, hends.setExtension_eq hdots', splitName_append_dot stem hrest, if_neg hstem]

end EndsIn

/-! ## Outlines -/

/-- **A path but for the extension**: its directories and the stem of its file name.  Of a path
without file name all steps are directories. -/
structure Outline where
  directories : List (List Char)
  stem : Option (List Char)
deriving DecidableEq

namespace Outline

/-- The steps of the path with an outline and an extension. -/
def spelled (outline : Outline) (extension : List Char) : List (List Char) :=
  match outline.stem with
  | none => outline.directories
  | some stem => outline.directories ++ [stem ++ '.' :: extension]

/-- **An outline that paths have.**  A stem is not empty and has no slash, and where there is none
the directories end in no file name. -/
def IsProper (outline : Outline) : Prop :=
  match outline.stem with
  | none => ∀ name, IsFileName name → outline.directories.getLast? ≠ some name
  | some stem => stem ≠ [] ∧ '/' ∉ stem

end Outline

/-- The outline of a path. -/
def outline (path : List Char) : Outline :=
  match fileNameChars? path with
  | none => ⟨steps path, none⟩
  | some name => ⟨(steps path).dropLast, some (splitName name).1⟩

lemma EndsIn.outline_eq (h : EndsIn path folder name trail) (hdots : name ≠ ['.', '.']) :
    outline path = ⟨steps folder, some (splitName name).1⟩ := by
  rw [outline, h.fileNameChars?_eq, if_neg hdots, h.steps_eq]
  simp

/-- **The outline that another extension keeps.**  It is that of the path, except that a path ending
in a name like `..x` is left with two dots, which lead back. -/
def kept (path : List Char) : Outline :=
  if (outline path).stem = some ['.'] ∧ trimmed path = path then
    ⟨(outline path).directories ++ [['.', '.']], none⟩
  else outline path

lemma EndsIn.kept_eq (h : EndsIn path folder name trail) (hdots : name ≠ ['.', '.']) :
    kept path =
      if (splitName name).1 = ['.'] ∧ trail = [] then ⟨steps folder ++ [['.', '.']], none⟩
      else ⟨steps folder, some (splitName name).1⟩ := by
  simp only [kept, h.outline_eq hdots, h.trimmed_eq_self_iff, Option.some.injEq]

/-! ## Paths with an outline -/

/-- A path that says nothing but where it begins has no file name and at most one step. -/
lemma IsTrail.silent (h : IsTrail trail) (hpath : path = trail ∨ path = '.' :: trail) :
    fileNameChars? path = none ∧
      (steps path = [] ∨ steps path = [['/']] ∨ steps path = [['.']]) := by
  have hnone (htrimmed : trimmed path = []) : fileNameChars? path = none := by
    rw [fileNameChars?, htrimmed]
    rfl
  obtain rfl | rfl := hpath
  · refine ⟨hnone (h.trimmed_append []), ?_⟩
    cases h with
    | nil => exact Or.inl rfl
    | slash h => exact Or.inr (Or.inl (h.steps_append (show ['/'] ≠ [] by simp)))
    | dot h => exact Or.inr (Or.inl (h.steps_append (show ['/', '.'] ≠ [] by simp)))
  · refine ⟨hnone (h.trimmed_append ['.']), Or.inr (Or.inr ?_)⟩
    exact h.steps_append (show ['.'] ≠ [] by simp)

/-- **The file name of a path is its last step**, if that is the name of a file. -/
lemma fileNameChars?_eq_some_iff :
    fileNameChars? path = some name ↔ IsFileName name ∧ (steps path).getLast? = some name := by
  obtain ⟨trail, htrail, hpath⟩ | ⟨folder, last, trail, h⟩ := exists_endsIn path
  · obtain ⟨hnone, hsteps⟩ := htrail.silent hpath
    rw [hnone]
    refine ⟨nofun, ?_⟩
    rintro ⟨⟨hslash, -, hdot, -⟩, hlast⟩
    obtain hsteps | hsteps | hsteps := hsteps
    · simp [hsteps] at hlast
    · obtain rfl : ['/'] = name := by simpa [hsteps] using hlast
      exact absurd List.mem_cons_self hslash
    · exact absurd (by simpa [hsteps, eq_comm] using hlast) hdot
  · rw [h.fileNameChars?_eq, h.steps_eq, List.getLast?_concat, Option.some.injEq]
    constructor
    · intro hlast
      split at hlast
      · cases hlast
      · rename_i hdots
        obtain rfl := Option.some.inj hlast
        exact ⟨⟨h.noSlash, h.ne_nil, h.ne_dot, hdots⟩, rfl⟩
    · rintro ⟨hname, rfl⟩
      rw [if_neg hname.2.2.2]

lemma stem_ne_nil (h : name ≠ []) : (splitName name).1 ≠ [] := by
  obtain hsplit | ⟨stem, extension, hsplit, -, hstem, -⟩ := splitName_cases name
  · rwa [hsplit]
  · rwa [hsplit]

lemma isProper_outline (path : List Char) : (outline path).IsProper := by
  rw [outline]
  match hname : fileNameChars? path with
  | none =>
    intro name hfile hlast
    rw [fileNameChars?_eq_some_iff.2 ⟨hfile, hlast⟩] at hname
    cases hname
  | some name =>
    have hfile := (fileNameChars?_eq_some_iff.1 hname).1
    exact ⟨stem_ne_nil hfile.2.1, fun hslash => hfile.1 (mem_of_mem_stem hslash)⟩

lemma isProper_kept (path : List Char) : (kept path).IsProper := by
  rw [kept]
  split
  · rintro name ⟨-, -, -, hdots⟩ hlast
    rw [List.getLast?_concat, Option.some.injEq] at hlast
    exact hdots hlast.symm
  · exact isProper_outline path

/-- An extension as targets have it: not empty, and neither a dot nor a slash in it. -/
structure IsExtension (extension : List Char) : Prop where
  ne_nil : extension ≠ []
  noDot : '.' ∉ extension
  noSlash : '/' ∉ extension

lemma IsExtension.isFileName (h : IsExtension extension) (hstem : stem ≠ []) (hslash : '/' ∉ stem) :
    IsFileName (stem ++ '.' :: extension) := by
  obtain ⟨c, more, rfl⟩ := List.exists_cons_of_ne_nil hstem
  refine ⟨?_, by simp, by simp, by simp [List.append_eq_singleton_iff, h.ne_nil]⟩
  intro hmem
  obtain hmem | hmem := List.mem_append.1 hmem
  · exact hslash hmem
  · exact h.noSlash (List.mem_of_ne_of_mem (by decide) hmem)

/-- **With one extension, different outlines make different paths.** -/
lemma Outline.IsProper.spelled_inj {o o' : Outline} (h : o.IsProper) (h' : o'.IsProper)
    (hextension : IsExtension extension) (hspelled : o.spelled extension = o'.spelled extension) :
    o = o' := by
  match o, o' with
  | ⟨directories, none⟩, ⟨directories', none⟩ => exact congrArg (Outline.mk · none) hspelled
  | ⟨directories, none⟩, ⟨directories', some stem⟩ =>
    obtain rfl : directories = directories' ++ [stem ++ '.' :: extension] := hspelled
    exact absurd List.getLast?_concat (h _ (hextension.isFileName h'.1 h'.2))
  | ⟨directories, some stem⟩, ⟨directories', none⟩ =>
    obtain rfl : directories ++ [stem ++ '.' :: extension] = directories' := hspelled
    exact absurd List.getLast?_concat (h' _ (hextension.isFileName h.1 h.2))
  | ⟨directories, some stem⟩, ⟨directories', some stem'⟩ =>
    obtain ⟨rfl, hlast⟩ := List.append_inj' hspelled rfl
    obtain rfl : stem = stem' := List.append_cancel_right (List.singleton_inj.1 hlast)
    rfl

lemma withExtension_eq_self {path : String} (h : fileNameChars? path.toList = none)
    (extension : String) : withExtension path extension = path := by
  rw [withExtension, extensionLength, h]
  dsimp only
  rw [Nat.sub_zero, List.take_length, setExtension, h, String.ofList_toList]

/-- **The steps of a path with another extension.** -/
lemma steps_withExtension (path : String) {extension : String}
    (hextension : IsExtension extension.toList) :
    steps (withExtension path extension).toList = (kept path.toList).spelled extension.toList := by
  match hname : fileNameChars? path.toList with
  | none => rw [withExtension_eq_self hname, kept, outline, hname]; rfl
  | some name =>
    obtain ⟨trail, htrail, hpath⟩ | ⟨folder, last, trail, h⟩ := exists_endsIn path.toList
    · rw [(htrail.silent hpath).1] at hname
      cases hname
    · have hdots : last ≠ ['.', '.'] := by
        rintro rfl
        rw [h.fileNameChars?_eq, if_pos rfl] at hname
        cases hname
      rw [h.withExtension_eq hdots, h.kept_eq hdots]
      split
      · exact steps_append h.isFolder (by decide) (by decide)
      · have hstem := isProper_outline path.toList
        rw [h.outline_eq hdots] at hstem
        have hfile := hextension.isFileName hstem.1 hstem.2
        exact steps_append h.isFolder hfile.1 (by simp [leadsOn, hfile.2.1, hfile.2.2.1])

lemma extension?_eq_some_iff {path extension : String} :
    extension? path = some extension ↔
      ∃ name, fileNameChars? path.toList = some name ∧
        (splitName name).2 = some extension.toList := by
  rw [extension?, Option.bind_eq_bind, Option.bind_eq_some_iff]
  refine exists_congr fun name => and_congr_right fun _ => ?_
  constructor
  · intro h
    obtain ⟨chars, hchars, rfl⟩ :
        ∃ chars, (splitName name).2 = some chars ∧ String.ofList chars = extension :=
      Option.map_eq_some_iff.1 h
    rw [hchars, String.toList_ofList]
  · intro h
    simp [h]

/-- A path with the steps of an outline has this outline, and the extension where there is a file
name. -/
lemma Outline.IsProper.eq_outline {path extension : String} {o : Outline} (h : o.IsProper)
    (hextension : IsExtension extension.toList)
    (hsteps : o.spelled extension.toList = steps path.toList) :
    o = outline path.toList ∧ (fileName? path = none ∨ extension? path = some extension) := by
  match o with
  | ⟨directories, none⟩ =>
    obtain rfl : directories = steps path.toList := hsteps
    have hnone : fileNameChars? path.toList = none := by
      rw [Option.eq_none_iff_forall_ne_some]
      intro name hname
      obtain ⟨hfile, hlast⟩ := fileNameChars?_eq_some_iff.1 hname
      exact h name hfile hlast
    exact ⟨by rw [outline, hnone], Or.inl (by rw [fileName?, hnone]; rfl)⟩
  | ⟨directories, some stem⟩ =>
    replace hsteps :
        directories ++ [stem ++ '.' :: extension.toList] = steps path.toList := hsteps
    have hname : fileNameChars? path.toList = some (stem ++ '.' :: extension.toList) := by
      rw [fileNameChars?_eq_some_iff, ← hsteps]
      exact ⟨hextension.isFileName h.1 h.2, List.getLast?_concat⟩
    have hsplit := splitName_append_dot stem hextension.noDot
    rw [if_neg h.1] at hsplit
    refine ⟨?_, Or.inr ?_⟩
    · rw [outline, hname]
      dsimp only
      rw [hsplit, ← hsteps, List.dropLast_concat]
    · exact extension?_eq_some_iff.2 ⟨_, hname, by rw [hsplit]⟩

/-- The outline of a path with its extension spells the path. -/
lemma spelled_outline {path extension : String} (h : extension? path = some extension) :
    (outline path.toList).spelled extension.toList = steps path.toList := by
  obtain ⟨name, hname, hextension⟩ := extension?_eq_some_iff.1 h
  obtain ⟨front, hfront⟩ := List.getLast?_eq_some_iff.1 (fileNameChars?_eq_some_iff.1 hname).2
  obtain hsplit | ⟨stem, extension', hsplit, rfl, -, -⟩ := splitName_cases name
  · rw [hsplit] at hextension
    cases hextension
  · rw [hsplit] at hextension
    obtain rfl := Option.some.inj hextension
    rw [outline, hname, hfront]
    dsimp only
    rw [hsplit, List.dropLast_concat]
    rfl

/-- **The paths with given steps**: those with the outline that have the extension, unless they have
no file name. -/
lemma steps_eq_spelled_iff {path extension : String} {o : Outline} (h : o.IsProper)
    (hextension : IsExtension extension.toList) :
    o.spelled extension.toList = steps path.toList ↔
      o = outline path.toList ∧ (fileName? path = none ∨ extension? path = some extension) := by
  refine ⟨h.eq_outline hextension, ?_⟩
  rintro ⟨rfl, hnone | hsome⟩
  · have hnone : fileNameChars? path.toList = none := by simpa [fileName?] using hnone
    rw [outline, hnone]
    rfl
  · exact spelled_outline hsome

end Path

lemma Target.isExtension_fileEnding (target : Target) :
    Path.IsExtension target.fileEnding.toList := by
  cases target <;> exact ⟨by decide, by decide, by decide⟩

namespace BuildOptions

open Kaomoji.Path

/-- An output is named for one input only. -/
lemma Draft.exists_inputs_eq {draft : Draft} {options : BuildOptions}
    (h : draft.finish = .ok options) {output : String} (houtput : options.output = some output) :
    ∃ input, options.inputs = [input] := by
  rw [Draft.finish] at h
  split_ifs at h with hempty hseveral
  obtain rfl := Except.ok.inj h
  dsimp only at houtput ⊢
  rw [← List.length_eq_one_iff]
  rw [List.isEmpty_iff_length_eq_zero] at hempty
  have hlength : ¬draft.inputs.length > 1 := by simpa [houtput] using hseveral
  omega

lemma exists_finish_of_ofArguments {args : List String} {options : BuildOptions}
    (h : ofArguments args = .ok options) : ∃ draft : Draft, draft.finish = .ok options := by
  rw [ofArguments, ofItems] at h
  match hdraft : (BuildItem.ofArguments args).foldlM Draft.add {} with
  | .error e =>
    rw [hdraft] at h
    cases h
  | .ok draft =>
    rw [hdraft] at h
    exact ⟨draft, h⟩

/-- **Which outputs of a build meet.**  A named output belongs to one input.  Otherwise the output
of an input is another input, or itself, exactly if that has the kept outline and the ending of the
target already; and two inputs are built to one file exactly if they have one kept outline. -/
theorem same_outputPath_iff {args : List String} {options : BuildOptions}
    (h : ofArguments args = .ok options) :
    match options.output with
    | some output => ∃ input, options.inputs = [input] ∧ options.outputPath input = output
    | none =>
      ∀ input ∈ options.inputs, ∀ other ∈ options.inputs,
        (Same (options.outputPath input) other ↔
          kept input.toList = outline other.toList ∧
            (fileName? other = none ∨ extension? other = some options.target.fileEnding)) ∧
        (Same (options.outputPath input) (options.outputPath other) ↔
          kept input.toList = kept other.toList) := by
  have hending := options.target.isExtension_fileEnding
  match houtput : options.output with
  | some output =>
    obtain ⟨draft, hdraft⟩ := exists_finish_of_ofArguments h
    obtain ⟨input, hinput⟩ := Draft.exists_inputs_eq hdraft houtput
    exact ⟨input, hinput, by rw [outputPath, houtput]; rfl⟩
  | none =>
    have hpath (path : String) :
        options.outputPath path = withExtension path options.target.fileEnding := by
      rw [outputPath, houtput]
      rfl
    intro input _ other _
    rw [Same, Same, hpath, hpath, steps_withExtension input hending,
      steps_withExtension other hending]
    refine ⟨steps_eq_spelled_iff (isProper_kept _) hending, ?_, ?_⟩
    · exact (isProper_kept _).spelled_inj (isProper_kept _) hending
    · intro hkept
      rw [hkept]

/-- Three sources, one of them written over: `src//a.c` is what `src/a.uwu` is built to. -/
theorem same_outputPath_over_source :
    ∃ options, ofArguments ["--c", "src/a.uwu", "src//a.c", "a.uwu"] = .ok options ∧
      Same (options.outputPath "src/a.uwu") "src//a.c" ∧
      Same (options.outputPath "src/a.uwu") (options.outputPath "src//a.c") ∧
      ¬Same (options.outputPath "src/a.uwu") (options.outputPath "a.uwu") := by
  have h : ofArguments ["--c", "src/a.uwu", "src//a.c", "a.uwu"] =
      .ok ⟨.c, none, ["src/a.uwu", "src//a.c", "a.uwu"], .auto⟩ := by decide +kernel
  have hfirst := same_outputPath_iff h "src/a.uwu" (by simp)
  obtain ⟨hover, hmeet⟩ := hfirst "src//a.c" (by simp)
  obtain ⟨-, hapart⟩ := hfirst "a.uwu" (by simp)
  exact ⟨_, h, hover.2 (by decide +kernel), hmeet.2 (by decide +kernel),
    fun hsame => absurd (hapart.1 hsame) (by decide +kernel)⟩

/-- **A build may write over its sources**: an input can be its own output, and two inputs can have
one output. -/
theorem outputs_not_apart :
    (∃ options, ofArguments ["a.py"] = .ok options ∧ "a.py" ∈ options.inputs ∧
      Same (options.outputPath "a.py") "a.py") ∧
    ∃ options, ofArguments ["a.uwu", "a.txt"] = .ok options ∧ "a.uwu" ∈ options.inputs ∧
      "a.txt" ∈ options.inputs ∧ ¬Same "a.uwu" "a.txt" ∧
      Same (options.outputPath "a.uwu") (options.outputPath "a.txt") := by
  refine ⟨⟨⟨.python, none, ["a.py"], .auto⟩, ?_⟩,
    ⟨⟨.python, none, ["a.uwu", "a.txt"], .auto⟩, ?_⟩⟩
  · decide +kernel
  · decide +kernel

end BuildOptions

end Kaomoji
