import Kaomoji.Command.Disk
import Kaomoji.Path
import Mathlib.Data.List.Basic

/-!
# Paths on a disk that is written to

Writing a file makes no path lead elsewhere.  On a disk that is a tree, the file lands in a
directory that is there already (`Disk.sameDirectories_addFile`), and following a path looks at
nothing but directories, unless it fails.  So wherever a path leads, it leads there still when other
files have been written (`Disk.locate_congr`, `Disk.locateOutput_congr`), and what is read there
changes only if it was written to (`Disk.read_congr`).

A path that leads nowhere may come to fail for another reason, when there is a file now where there
was nothing.  The path that a source is built to is safe from that: it has the directories of the
source's path (`Disk.exists_follow_withExtension`).
-/

namespace Kaomoji

namespace Disk

/-! ## Trees -/

/-- **A disk that is a tree**: what leads to a directory is a directory, and no file is one. -/
structure IsTree (disk : Disk) : Prop where
  parents : ∀ place ∈ disk.directories, disk.isDirectory place.dropLast
  files : ∀ entry ∈ disk.files, disk.isDirectory entry.1 = false

instance (disk : Disk) : Decidable disk.IsTree :=
  decidable_of_iff ((∀ place ∈ disk.directories, disk.isDirectory place.dropLast) ∧
      ∀ entry ∈ disk.files, disk.isDirectory entry.1 = false)
    ⟨fun h => ⟨h.1, h.2⟩, fun h => ⟨h.1, h.2⟩⟩

/-- The second disk has the directories of the first. -/
structure SameDirectories (disk disk' : Disk) : Prop where
  workingDirectory : disk'.workingDirectory = disk.workingDirectory
  isDirectory : ∀ place, disk'.isDirectory place = disk.isDirectory place

lemma SameDirectories.symm {disk disk' : Disk} (h : disk.SameDirectories disk') :
    disk'.SameDirectories disk :=
  ⟨h.workingDirectory.symm, fun place => (h.isDirectory place).symm⟩

lemma SameDirectories.trans {disk disk' disk'' : Disk} (h : disk.SameDirectories disk')
    (h' : disk'.SameDirectories disk'') : disk.SameDirectories disk'' :=
  ⟨h'.workingDirectory.trans h.workingDirectory,
    fun place => (h'.isDirectory place).trans (h.isDirectory place)⟩

/-- Disks that no path tells apart: they have the same directories, and the same files with the same
content. -/
structure Same (disk disk' : Disk) : Prop extends SameDirectories disk disk' where
  bytes?_eq : ∀ place, disk'.bytes? place = disk.bytes? place

variable {disk disk' : Disk} {path : String} {place : Location}

lemma IsTree.isDirectory_dropLast (h : disk.IsTree) (hplace : disk.isDirectory place) :
    disk.isDirectory place.dropLast := by
  rw [isDirectory, Bool.or_eq_true, List.isEmpty_iff, List.contains_iff_mem] at hplace
  obtain rfl | hmem := hplace
  · rfl
  · exact h.parents place hmem

/-- All that leads to a directory are directories. -/
lemma isDirectory_take (h : ∀ place, disk.isDirectory place → disk.isDirectory place.dropLast)
    (hplace : disk.isDirectory place) (n : Nat) : disk.isDirectory (place.take n) := by
  induction hk : place.length - n generalizing n with
  | zero =>
    rw [List.take_of_length_le (by omega)]
    exact hplace
  | succ k ih =>
    have hnext := h _ (ih (n + 1) (by omega))
    have hlength : min ((place.take (n + 1)).length - 1) (n + 1) = n := by
      rw [List.length_take]
      omega
    rwa [List.dropLast_eq_take, List.take_take, hlength] at hnext

/-- No file is a directory. -/
lemma IsTree.bytes?_eq_none (h : disk.IsTree) (hplace : disk.isDirectory place) :
    disk.bytes? place = none := by
  rw [bytes?, List.lookup_eq_none_iff]
  intro entry hentry
  rw [bne_iff_ne]
  rintro rfl
  rw [h.files entry hentry] at hplace
  cases hplace

/-- A file in a directory adds no directories. -/
lemma sameDirectories_addFile
    (h : ∀ place, disk.isDirectory place → disk.isDirectory place.dropLast)
    (hparent : disk.isDirectory place.dropLast) (content : ByteArray) :
    disk.SameDirectories (disk.addFile place content) := by
  refine ⟨rfl, ?_⟩
  intro other
  have habove : other ∈ above place → disk.isDirectory other := by
    intro hmem
    obtain ⟨n, hn, rfl⟩ := List.mem_map.1 hmem
    rw [List.mem_range] at hn
    have htake := isDirectory_take h hparent (n + 1)
    rwa [List.dropLast_eq_take, List.take_take, Nat.min_eq_left (by omega)] at htake
  rw [Bool.eq_iff_iff]
  simp only [isDirectory, addFile, Bool.or_eq_true, List.contains_iff_mem, List.mem_append]
    at habove ⊢
  constructor
  · rintro (hempty | habove' | hmem)
    · exact Or.inl hempty
    · exact habove habove'
    · exact Or.inr hmem
  · rintro (hempty | hmem)
    · exact Or.inl hempty
    · exact Or.inr (Or.inr hmem)

lemma bytes?_addFile_self (disk : Disk) (place : Location) (content : ByteArray) :
    (disk.addFile place content).bytes? place = some content := by
  simp [bytes?, addFile]

/-- **A written file leaves the others as they were.** -/
lemma bytes?_addFile_of_ne {other : Location} (h : other ≠ place) (content : ByteArray) :
    (disk.addFile place content).bytes? other = disk.bytes? other := by
  have hfilter (files : List (Location × ByteArray)) :
      (files.filter fun entry => entry.1 ≠ place).lookup other = files.lookup other := by
    induction files with
    | nil => rfl
    | cons entry rest ih =>
      by_cases hentry : entry.1 = place
      · rw [List.filter_cons_of_neg (by simpa using hentry), List.lookup_cons,
          beq_false_of_ne (by rw [hentry]; exact h), ih]
      · rw [List.filter_cons_of_pos (by simpa using hentry), List.lookup_cons, List.lookup_cons, ih]
  rw [bytes?, addFile, List.lookup_cons, beq_false_of_ne h]
  exact hfilter disk.files

lemma run_store_write (disk : Disk) (path text : String) :
    (store.write path text).run disk = disk.write path text := by
  -- stated for any function, so that nothing looks into `write`
  have hmodify (f : Disk → Except WriteFailure Unit × Disk) :
      (modifyGet f : StateM Disk (Except WriteFailure Unit)).run disk = f disk := rfl
  exact hmodify _

/-! ## Following paths -/

lemma follow_congr (h : disk.SameDirectories disk') {part : String} {next : Location}
    (hfollow : disk.follow place part = .ok next) : disk'.follow place part = .ok next := by
  rw [follow] at hfollow ⊢
  rw [h.isDirectory]
  by_cases hplace : disk.isDirectory place
  · rwa [if_pos hplace] at hfollow ⊢
  · rw [if_neg hplace] at hfollow
    split at hfollow
    · cases hfollow
    · cases hfollow

/-- **A path through directories leads where it led.** -/
lemma foldlM_follow_congr (h : disk.SameDirectories disk') {names : List String}
    {start : Location} (hfollow : names.foldlM disk.follow start = .ok place) :
    names.foldlM disk'.follow start = .ok place := by
  induction names generalizing start with
  | nil => exact hfollow
  | cons name rest ih =>
    rw [List.foldlM_cons] at hfollow ⊢
    cases hnext : disk.follow start name with
    | error e =>
      rw [hnext] at hfollow
      cases hfollow
    | ok next =>
      rw [hnext] at hfollow
      rw [follow_congr h hnext]
      exact ih hfollow

lemma foldlM_follow_concat {dirs : List String} {last : String} {start : Location} :
    (dirs ++ [last]).foldlM disk.follow start = .ok place ↔
      ∃ directory, dirs.foldlM disk.follow start = .ok directory ∧
        disk.follow directory last = .ok place := by
  rw [List.foldlM_append]
  cases dirs.foldlM disk.follow start with
  | error e =>
    constructor
    · intro h
      cases h
    · rintro ⟨_, ⟨⟩, -⟩
  | ok directory =>
    have hlast : [last].foldlM disk.follow directory = disk.follow directory last := by
      cases h : disk.follow directory last <;> simp [h]
    constructor
    · intro h
      exact ⟨directory, rfl, hlast ▸ h⟩
    · rintro ⟨_, ⟨⟩, h⟩
      exact hlast.trans h

lemma origin_congr (h : disk.SameDirectories disk') (path : String) :
    disk'.origin path = disk.origin path := by
  rw [origin, origin, h.workingDirectory]

lemma locate_congr (h : disk.SameDirectories disk') (hlocate : disk.locate path = .ok place) :
    disk'.locate path = .ok place := by
  rw [locate] at hlocate ⊢
  by_cases hpath : path = ""
  · rw [if_pos hpath] at hlocate
    cases hlocate
  · rw [if_neg hpath] at hlocate ⊢
    rw [origin_congr h]
    exact foldlM_follow_congr h hlocate

/-- A disk refuses to read for two reasons only. -/
lemma eq_of_read_eq_error {disk : Disk} {path : String} {failure : ReadFailure}
    (h : disk.read path = .error failure) : failure = .missing ∨ failure = .invalidText := by
  rw [read] at h
  split at h
  · cases h
    exact Or.inl rfl
  · split at h
    · cases h
      exact Or.inl rfl
    · split at h
      · cases h
      · cases h
        exact Or.inr rfl

/-- **What is read stays as it was** where nothing is written. -/
lemma read_congr (h : disk.SameDirectories disk')
    (hbytes : ∀ place, disk.locate path = .ok place → disk'.bytes? place = disk.bytes? place) :
    disk'.read path = disk.read path := by
  rw [read, read]
  cases hlocate : disk.locate path with
  | ok place =>
    rw [locate_congr h hlocate]
    dsimp only
    rw [hbytes place hlocate]
  | error e =>
    cases hlocate' : disk'.locate path with
    | ok place =>
      rw [locate_congr h.symm hlocate'] at hlocate
      cases hlocate
    | error e' => rfl

/-! ## Where files are written -/

/-- The parts of a path up to the last that is not empty. -/
def outputParts (path : String) : List String := ((parts path).reverse.dropWhile (· = "")).reverse

/-- Whether a path can only name a directory. -/
def namesDirectory (path : String) : Bool :=
  (parts path).getLast? = some "" || (outputParts path).getLast? = some "." ||
    (outputParts path).getLast? = some ".."

lemma locateOutput_eq (disk : Disk) (path : String) :
    disk.locateOutput path =
      ((outputParts path).foldlM disk.follow (disk.origin path)).bind fun place =>
        if path = "" then .error .missing
        else if namesDirectory path || disk.isDirectory place then .error .isDirectory
        else .ok place := by
  rw [locateOutput, namesDirectory, outputParts, List.getLast?_reverse]
  rfl

lemma parts_ne_nil (path : String) : parts path ≠ [] := by
  rw [parts, ne_eq, List.map_eq_nil_iff]
  exact List.splitOn_ne_nil _ _

lemma outputParts_eq (h : (parts path).getLast? ≠ some "") : outputParts path = parts path := by
  rw [outputParts]
  rw [← List.head?_reverse] at h
  rcases hparts : (parts path).reverse with _ | ⟨last, rest⟩
  · rw [List.dropWhile_nil, List.reverse_nil, ← List.reverse_eq_nil_iff.1 hparts]
  · rw [hparts] at h
    rw [List.dropWhile_cons_of_neg (by simpa using h), ← hparts, List.reverse_reverse]

/-- A path whose directories are there is written alike, or refused alike. -/
lemma locateOutput_congr_of_followed (h : disk.SameDirectories disk')
    (hfollow : (outputParts path).foldlM disk.follow (disk.origin path) = .ok place) :
    disk'.locateOutput path = disk.locateOutput path := by
  rw [locateOutput_eq, locateOutput_eq, origin_congr h, hfollow, foldlM_follow_congr h hfollow]
  simp only [Except.bind, h.isDirectory]

/-- **Where a file can be written, it can be still.** -/
lemma locateOutput_congr (h : disk.SameDirectories disk')
    (hlocate : disk.locateOutput path = .ok place) : disk'.locateOutput path = .ok place := by
  cases hfollow : (outputParts path).foldlM disk.follow (disk.origin path) with
  | error e =>
    rw [locateOutput_eq, hfollow] at hlocate
    cases hlocate
  | ok place' => rw [locateOutput_congr_of_followed h hfollow, hlocate]

/-- Where no file has changed, a path is refused for the same reason as well. -/
lemma locateOutput_congr_of_bytes? (h : disk.SameDirectories disk')
    (hbytes : ∀ place, disk'.bytes? place = disk.bytes? place) (path : String) :
    disk'.locateOutput path = disk.locateOutput path := by
  have hfollow : disk'.follow = disk.follow := by
    funext place part
    rw [follow, follow, h.isDirectory, hbytes]
  rw [locateOutput_eq, locateOutput_eq, origin_congr h, hfollow]
  simp only [h.isDirectory]

lemma follow_eq_ok {part : String} {next : Location} (h : disk.follow place part = .ok next) :
    disk.isDirectory place ∧
      ((part = "" ∨ part = ".") ∧ next = place ∨ part = ".." ∧ next = place.dropLast ∨
        (part ≠ "" ∧ part ≠ "." ∧ part ≠ "..") ∧ next = place ++ [part]) := by
  rw [follow] at h
  split_ifs at h with hplace hstay hback
  · cases h
    exact ⟨hplace, Or.inl ⟨by simpa using hstay, rfl⟩⟩
  · cases h
    exact ⟨hplace, Or.inr (Or.inl ⟨hback, rfl⟩)⟩
  · cases h
    rw [Bool.not_eq_true, Bool.or_eq_false_iff, decide_eq_false_iff_not, decide_eq_false_iff_not]
      at hstay
    exact ⟨hplace, Or.inr (Or.inr ⟨⟨hstay.1, hstay.2, hback⟩, rfl⟩)⟩

lemma exists_follow (h : disk.isDirectory place) (part : String) :
    ∃ next, disk.follow place part = .ok next := by
  rw [follow, if_pos h]
  split_ifs
  · exact ⟨_, rfl⟩
  · exact ⟨_, rfl⟩
  · exact ⟨_, rfl⟩

/-- A file is written into a directory. -/
lemma isDirectory_dropLast_of_locateOutput (h : disk.locateOutput path = .ok place) :
    disk.isDirectory place.dropLast := by
  rw [locateOutput_eq] at h
  cases hfollow : (outputParts path).foldlM disk.follow (disk.origin path) with
  | error e =>
    rw [hfollow] at h
    cases h
  | ok place' =>
    rw [hfollow, Except.bind] at h
    split_ifs at h with hempty hdirectory
    cases h
    simp only [namesDirectory, Bool.or_eq_true, decide_eq_true_eq, not_or] at hdirectory
    obtain ⟨⟨⟨hslash, hdot⟩, hdots⟩, -⟩ := hdirectory
    rw [outputParts_eq hslash] at hfollow hdot hdots
    obtain hnil | ⟨dirs, last, hparts⟩ := List.eq_nil_or_concat' (parts path)
    · exact absurd hnil (parts_ne_nil path)
    · rw [hparts, List.getLast?_concat, Option.some.injEq] at hslash hdot hdots
      rw [hparts] at hfollow
      obtain ⟨directory, -, hlast⟩ := foldlM_follow_concat.1 hfollow
      obtain ⟨hplace, ⟨h | h, -⟩ | ⟨h, -⟩ | ⟨-, rfl⟩⟩ := follow_eq_ok hlast
      · exact absurd h hslash
      · exact absurd h hdot
      · exact absurd h hdots
      · rwa [List.dropLast_concat]

end Disk

/-! ## The path of an output -/

namespace Path

/-- A file name: not empty, and no part that stays or goes back. -/
def IsFileName (name : List Char) : Prop :=
  '/' ∉ name ∧ name ≠ [] ∧ name ≠ ['.'] ∧ name ≠ ['.', '.']

/-- The directory part of a path: nothing, or up to a slash. -/
def IsFolder (folder : List Char) : Prop := folder = [] ∨ ∃ front, folder = front ++ ['/']

variable {folder name : List Char}

lemma trimmed_append (hslash : '/' ∉ name) (hne : name ≠ []) (hdot : name ≠ ['.'])
    (folder : List Char) : trimmed (folder ++ name) = folder ++ name := by
  have htrim : trimReversed (folder ++ name).reverse = (folder ++ name).reverse := by
    obtain ⟨front, last, rfl⟩ := (List.eq_nil_or_concat' name).resolve_left hne
    have hlast : last ≠ '/' := by
      rintro rfl
      simp at hslash
    have hfront : front.reverse = [] → last ≠ '.' := by
      rintro hnil rfl
      rw [List.reverse_eq_nil_iff.1 hnil] at hdot
      exact hdot rfl
    rw [List.reverse_append, List.reverse_concat, List.cons_append, trimReversed.eq_def]
    split
    · rename_i heq
      exact absurd (List.cons.inj heq).1 hlast
    · rename_i heq
      obtain ⟨hpoint, hnil⟩ := List.cons.inj heq
      exact absurd hpoint (hfront (List.append_eq_nil_iff.1 hnil).1)
    · rename_i rest heq
      obtain ⟨hpoint, hrest⟩ := List.cons.inj heq
      rcases hreverse : front.reverse with _ | ⟨c, more⟩
      · exact absurd hpoint (hfront hreverse)
      · rw [hreverse] at hrest
        have hmem : '/' ∈ front := by
          rw [← List.mem_reverse, hreverse, (List.cons.inj hrest).1]
          exact List.mem_cons_self
        exact absurd (List.mem_append_left _ hmem) hslash
    · rfl
  rw [trimmed, htrim, List.reverse_reverse]

lemma lastPart_append (hfolder : IsFolder folder) (hname : '/' ∉ name) :
    lastPart (folder ++ name) = name := by
  rw [lastPart, List.reverse_append, List.takeWhile_append_of_pos]
  · have hfront : folder.reverse.takeWhile (· ≠ '/') = [] := by
      obtain rfl | ⟨front, rfl⟩ := hfolder
      · rfl
      · rw [List.reverse_concat, List.takeWhile_cons_of_neg (by simp)]
    rw [hfront, List.append_nil, List.reverse_reverse]
  · intro c hc
    rw [decide_eq_true_eq]
    rintro rfl
    exact hname (List.mem_reverse.1 hc)

lemma fileNameChars?_append (hfolder : IsFolder folder) (hname : IsFileName name) :
    fileNameChars? (folder ++ name) = some name := by
  obtain ⟨hslash, hne, hdot, hdots⟩ := hname
  rw [fileNameChars?, trimmed_append hslash hne hdot, lastPart_append hfolder hslash]
  simp [hne, hdots]

/-- Two dots are no file name. -/
lemma fileNameChars?_append_dots (hfolder : IsFolder folder) :
    fileNameChars? (folder ++ ['.', '.']) = none := by
  rw [fileNameChars?, trimmed_append (by decide) (by decide) (by decide),
    lastPart_append hfolder (by decide)]
  rfl

lemma mem_of_mem_stem {c : Char} (h : c ∈ (splitName name).1) : c ∈ name := by
  rw [splitName] at h
  split at h
  · exact h
  · exact List.mem_of_mem_take h

/-- Before an extension there are a stem and a dot. -/
lemma length_extension_add_two_le {extension : List Char}
    (h : (splitName name).2 = some extension) : extension.length + 2 ≤ name.length := by
  rw [splitName] at h
  split at h
  · cases h
  · rename_i hstem
    rw [← Option.some.inj h]
    have hpos := List.length_pos_of_ne_nil hstem
    rw [List.length_take] at hpos
    omega

lemma setExtension_append (hfolder : IsFolder folder) (hname : IsFileName name)
    (extension : List Char) :
    setExtension (folder ++ name) extension =
      folder ++ ((splitName name).1 ++ '.' :: extension) := by
  rw [setExtension, fileNameChars?_append hfolder hname]
  dsimp only
  rw [trimmed_append hname.1 hname.2.1 hname.2.2.1, List.length_append, Nat.add_sub_cancel,
    List.take_left, List.append_assoc]

/-- **Another extension leaves the directories of a path as they are.** -/
lemma exists_withExtension_eq {path extension : String} (hpath : path.toList = folder ++ name)
    (hfolder : IsFolder folder) (hname : IsFileName name) (hextension : '/' ∉ extension.toList) :
    ∃ name', (withExtension path extension).toList = folder ++ name' ∧ '/' ∉ name' ∧
      name' ≠ [] := by
  have hset {kept : List Char} (hkept : IsFileName kept) :
      ∃ name', setExtension (folder ++ kept) extension.toList = folder ++ name' ∧ '/' ∉ name' ∧
        name' ≠ [] := by
    refine ⟨_, setExtension_append hfolder hkept _, ?_, by simp⟩
    intro hslash
    rw [List.mem_append, List.mem_cons] at hslash
    obtain hstem | hpoint | hslash := hslash
    · exact hkept.1 (mem_of_mem_stem hstem)
    · exact absurd hpoint (by decide)
    · exact hextension hslash
  rw [withExtension, hpath, String.toList_ofList, extensionLength,
    fileNameChars?_append hfolder hname]
  dsimp only
  cases hsplit : (splitName name).2 with
  | none =>
    rw [Option.getD_none, List.length_nil, Nat.sub_zero, List.take_length]
    exact hset hname
  | some old =>
    have hlength := length_extension_add_two_le hsplit
    rw [Option.getD_some, List.length_append, Nat.add_sub_assoc (by omega),
      List.take_length_add_append]
    -- what is left of the name has two characters at least, one of the stem and the dot
    have hkept : 2 ≤ (name.take (name.length - old.length)).length := by
      rw [List.length_take]
      omega
    have hslash : '/' ∉ name.take (name.length - old.length) :=
      fun hmem => hname.1 (List.mem_of_mem_take hmem)
    generalize name.take (name.length - old.length) = kept at hkept hslash
    by_cases hdots : kept = ['.', '.']
    · subst hdots
      refine ⟨['.', '.'], ?_, by decide, by decide⟩
      rw [setExtension, fileNameChars?_append_dots hfolder]
    · apply hset
      refine ⟨hslash, ?_, ?_, hdots⟩
      · rintro rfl
        simp at hkept
      · rintro rfl
        simp at hkept

/-- Every path has a folder and a part behind it. -/
lemma exists_folder (path : List Char) :
    ∃ folder name, path = folder ++ name ∧ IsFolder folder ∧ '/' ∉ name := by
  induction path with
  | nil => exact ⟨[], [], rfl, Or.inl rfl, by simp⟩
  | cons c rest ih =>
    obtain ⟨folder, name, rfl, rfl | ⟨front, rfl⟩, hname⟩ := ih
    · by_cases hc : c = '/'
      · exact ⟨[c], name, rfl, Or.inr ⟨[], by rw [hc]; rfl⟩, hname⟩
      · exact ⟨[], c :: name, rfl, Or.inl rfl, by simp [Ne.symm hc, hname]⟩
    · exact ⟨c :: front ++ ['/'], name, rfl, Or.inr ⟨c :: front, rfl⟩, hname⟩

end Path

namespace Disk

open Kaomoji.Path

variable {disk : Disk} {path : String}

/-- The parts of a path are those of its folder and the part behind it. -/
lemma exists_parts_eq {folder : List Char} (hfolder : IsFolder folder) :
    ∃ dirs, ∀ {path : String} {name : List Char}, path.toList = folder ++ name → '/' ∉ name →
      parts path = dirs ++ [String.ofList name] := by
  obtain rfl | ⟨front, rfl⟩ := hfolder
  · refine ⟨[], ?_⟩
    intro path name hpath hname
    rw [parts, hpath, List.nil_append, List.splitOn_eq_singleton hname]
    rfl
  · refine ⟨(front.splitOn '/').map String.ofList, ?_⟩
    intro path name hpath hname
    rw [parts, hpath, List.append_assoc, List.singleton_append, List.splitOn_append_cons_self,
      List.splitOn_eq_singleton hname, List.map_append]
    rfl

/-- Where a path begins is seen from its folder. -/
lemma origin_eq_of_folder {path' : String} {folder name name' : List Char}
    (hpath : path.toList = folder ++ name) (hpath' : path'.toList = folder ++ name')
    (hname : '/' ∉ name) (hname' : '/' ∉ name') : disk.origin path' = disk.origin path := by
  have hnone {name : List Char} (hname : '/' ∉ name) : ['/'].isPrefixOf name = false := by
    rcases name with _ | ⟨c, rest⟩
    · rfl
    · rw [List.mem_cons, not_or] at hname
      simp [List.isPrefixOf, hname.1]
  rw [origin, origin, hpath, hpath']
  rcases folder with _ | ⟨c, rest⟩
  · rw [List.nil_append, List.nil_append, hnone hname, hnone hname']
  · simp [List.isPrefixOf]

/-- A file has a file name, and the folder before it leads to a directory. -/
lemma exists_folder_of_read (htree : disk.IsTree) {source : String}
    (hread : disk.read path = .ok source) :
    ∃ folder name dirs directory, path.toList = folder ++ name ∧ IsFolder folder ∧
      IsFileName name ∧ parts path = dirs ++ [String.ofList name] ∧
      dirs.foldlM disk.follow (disk.origin path) = .ok directory ∧ disk.isDirectory directory := by
  obtain ⟨place, hlocate, hbytes⟩ :
      ∃ place, disk.locate path = .ok place ∧ disk.bytes? place ≠ none := by
    rw [read] at hread
    split at hread
    · cases hread
    · rename_i place hlocate
      refine ⟨place, hlocate, ?_⟩
      intro hnone
      rw [hnone] at hread
      cases hread
  obtain ⟨folder, name, hpath, hfolder, hslash⟩ := exists_folder path.toList
  obtain ⟨dirs, hdirs⟩ := exists_parts_eq hfolder
  have hparts := hdirs hpath hslash
  have hfollow : (dirs ++ [String.ofList name]).foldlM disk.follow (disk.origin path) =
      .ok place := by
    rw [locate] at hlocate
    split at hlocate
    · cases hlocate
    · rwa [hparts] at hlocate
  obtain ⟨directory, hdirectory, hlast⟩ := foldlM_follow_concat.1 hfollow
  obtain ⟨hplace, hcases⟩ := follow_eq_ok hlast
  refine ⟨folder, name, dirs, directory, hpath, hfolder, ?_, hparts, hdirectory, hplace⟩
  -- a part that stays or goes back leads to a directory, and no directory has bytes
  obtain ⟨-, rfl⟩ | ⟨-, rfl⟩ | ⟨⟨hempty, hdot, hdots⟩, -⟩ := hcases
  · exact absurd (htree.bytes?_eq_none hplace) hbytes
  · exact absurd (htree.bytes?_eq_none (htree.isDirectory_dropLast hplace)) hbytes
  · refine ⟨hslash, ?_, ?_, ?_⟩
    · rintro rfl
      exact hempty rfl
    · rintro rfl
      exact hdot rfl
    · rintro rfl
      exact hdots rfl

/-- **The directories of an output are there** if its source is. -/
lemma exists_follow_withExtension (htree : disk.IsTree) {source : String}
    (hread : disk.read path = .ok source) {extension : String}
    (hextension : '/' ∉ extension.toList) :
    ∃ place, (outputParts (withExtension path extension)).foldlM disk.follow
      (disk.origin (withExtension path extension)) = .ok place := by
  obtain ⟨folder, name, dirs, directory, hpath, hfolder, hname, hparts, hdirectory, hplace⟩ :=
    exists_folder_of_read htree hread
  obtain ⟨name', hpath', hslash', hne'⟩ := exists_withExtension_eq hpath hfolder hname hextension
  obtain ⟨dirs', hdirs⟩ := exists_parts_eq hfolder
  obtain rfl : dirs = dirs' :=
    List.append_cancel_right (hparts.symm.trans (hdirs hpath hname.1))
  have hparts' := hdirs hpath' hslash'
  have hlast : (parts (withExtension path extension)).getLast? ≠ some "" := by
    rw [hparts', List.getLast?_concat, ne_eq, Option.some.injEq]
    simpa using hne'
  obtain ⟨place, hfollow⟩ := exists_follow hplace (String.ofList name')
  refine ⟨place, ?_⟩
  rw [outputParts_eq hlast, hparts', origin_eq_of_folder hpath hpath' hname.1 hslash',
    foldlM_follow_concat]
  exact ⟨directory, hdirectory, hfollow⟩

end Disk

end Kaomoji
