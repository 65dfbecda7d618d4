import Phrasebook.Proofs.Binding.FileNames
import Phrasebook.Proofs.Delivery.Placements
import Phrasebook.Proofs.Generation.TargetLists

/-!
# The files of a written report

Several targets may have one output directory, and several paths may lead to it.  Still no file of
a report is written over another one as long as the tags of its languages have different identifiers:
the names of all files are different then (`Tree.nodup_fileNames_iff`), and the place that a
path leads to ends with the name of the file (`Config.map_lastName_placements`).  The name says it
all, since names of generated files are names of files (`Tree.isName_of_mem_files`).

The main result is `Report.written_spec`.  Tags with one identifier give one path twice.
-/

namespace Phrasebook

open Unicode

/-! ## Names of generated files -/

lemma Path.isName_of_extension {target : Target} {name front : String}
    (h : asciiLowercase name = front ++ ("." ++ target.extension))
    (hfront : '/' ∉ front.toList) : Path.IsName name := by
  have hchars : name.toList.map asciiLower =
      front.toList ++ ("." ++ target.extension).toList := by
    rw [← String.toList_append, ← h, asciiLowercase, String.toList_map]
  have hextension : 3 ≤ ("." ++ target.extension).toList.length := by
    cases target <;> decide
  have hlong : 3 ≤ name.toList.length := by
    have hlength := congrArg List.length hchars
    rw [List.length_map, List.length_append] at hlength
    omega
  constructor
  · intro hslash
    have hmem : asciiLower '/' ∈ name.toList.map asciiLower := List.mem_map_of_mem hslash
    rw [hchars, List.mem_append] at hmem
    refine hmem.elim hfront fun hmem => ?_
    cases target <;> exact absurd hmem (by decide)
  · intro hidle
    rcases (by simpa [isIdle] using hidle : name = "" ∨ name = ".") with rfl | rfl
    · exact absurd hlong (by decide)
    · exact absurd hlong (by decide)
  · rintro rfl
    exact absurd hlong (by decide)

namespace Tree

variable {t : Tree} {c : Config} {targets : List Target}

lemma isName_of_mem_files (t : Tree) (c : Config) (target : Target) :
    ∀ f ∈ (target.dialect.generate t c).sources.files, Path.IsName f.name := by
  intro f hf
  have hmem := List.mem_map_of_mem (f := fun f => asciiLowercase f.name) hf
  rw [map_asciiLowercase_files] at hmem
  obtain ⟨front, hfront, heq⟩ := List.mem_map.1 hmem
  refine Path.isName_of_extension heq.symm fun hslash => ?_
  rcases List.mem_append.1 hfront with hfront | hfront
  · obtain ⟨l, -, rfl⟩ := List.mem_map.1 hfront
    exact absurd (Target.isNameChar_tableFunction .rust l _ hslash) (by decide)
  · rw [List.mem_singleton.1 hfront] at hslash
    exact absurd hslash (by decide)

/-- The targets of a report with their files, in the order of the targets. -/
lemma toList_outputs_report (t : Tree) (c : Config) (targets : List Target) :
    (t.report c targets).outputs.toList = (Target.all.filter (· ∈ targets)).map fun target =>
      (target, (target.dialect.generate t c).sources) := by
  rw [PerTarget.toList, ← List.filterMap_eq_map, List.filterMap_filter]
  refine List.filterMap_congr fun target _ => ?_
  rw [get?_outputs_report]
  by_cases h : target ∈ targets <;> simp [h]

/-- The names of all files of a report are different, unless two tags have one identifier. -/
lemma nodup_map_name_report (hcheck : checkTree t c = .ok ()) (h : t.IdentifiersApart) :
    (((t.report c targets).outputs.toList.flatMap (·.2.files)).map (·.name)).Nodup := by
  rw [toList_outputs_report, List.flatMap_map]
  have hsublist := (List.filter_sublist (p := (· ∈ targets)) (l := Target.all)).flatMap
    fun target => (target.dialect.generate t c).sources.files
  refine List.Nodup.sublist (hsublist.map _) (List.Nodup.of_map asciiLowercase ?_)
  rw [List.map_map]
  exact (nodup_fileNames_iff hcheck).2 h

end Tree

/-! ## Places of files -/

namespace Config

variable {c : Config} {t : FileTree}

/-- The place of a file ends with its name. -/
lemma map_lastName_placements {outputs : List (Target × Sources)}
    (hnames : ∀ e ∈ outputs, ∀ f ∈ e.2.files, Path.IsName f.name)
    (hdirectories : ∀ e ∈ outputs, c.hasDirectory t.isDirectory e.1)
    (hhold : ∀ p ∈ c.placements outputs, t.CanHold p.path) :
    ((c.placements outputs).map fun p =>
      (t.place? p.path).bind fun k => (Path.parts k).getLast?) =
      (outputs.flatMap (·.2.files)).map fun f => some f.name := by
  induction outputs with
  | nil => rfl
  | cons e rest ih =>
    obtain ⟨hname, hnames⟩ := List.forall_mem_cons.1 hnames
    obtain ⟨hdirectory, hdirectories⟩ := List.forall_mem_cons.1 hdirectories
    rw [placements_cons, List.forall_mem_append] at hhold
    rw [placements_cons, List.map_append, List.flatMap_cons, List.map_append,
      ih hnames hdirectories hhold.2]
    refine congrArg (· ++ _) ?_
    obtain ⟨directory, hdirectory⟩ := Option.isSome_iff_exists.1 hdirectory
    obtain ⟨hget, hdirectory⟩ := directory?_eq_some_iff.1 hdirectory
    have hhold := hhold.1
    rw [placementsOf_eq hget, List.forall_mem_map] at hhold
    rw [placementsOf_eq hget, List.map_map]
    exact List.map_congr_left fun f hf =>
      FileTree.getLast?_parts_place?_join (hname f hf) hdirectory (hhold f hf)

end Config

/-! ## Written reports -/

namespace Report

variable {t : Tree} {c : Config} {targets : List Target} {r : Report} {s s' : Session}
  {paths : List String}

/-- What is there when the files of a report have been written to `paths`. -/
structure Written (t : Tree) (c : Config) (targets : List Target) (r : Report) (s s' : Session)
    (paths : List String) : Prop where
  /-- Every target has an output directory. -/
  directories : ∀ e ∈ r.outputs.toList, ∃ directory,
    c.outputs.get? e.1 = some directory ∧ s.files.isDirectory directory
  /-- There is one path for each of its files, in this directory. -/
  paths_eq : paths = (c.placements r.outputs.toList).map (·.path)
  /-- No path is missing. -/
  length_eq : paths.length = (r.outputs.toList.map fun e => e.2.files.length).sum
  /-- The paths are different exactly if tags have different identifiers. -/
  nodup_iff : targets ≠ [] → (paths.Nodup ↔ t.IdentifiersApart)
  /-- Plain tags have. -/
  apart_of_plain : (∀ l ∈ t.filedLanguages, IsPlainTag l) → t.IdentifiersApart
  /-- Then no two of them lead to one place, -/
  places_nodup : t.IdentifiersApart → (paths.map s'.files.place?).Nodup
  /-- and each file holds its text. -/
  contents : t.IdentifiersApart → ∀ p ∈ c.placements r.outputs.toList,
    s'.files.read p.path = .ok p.contents
  /-- In any case, each place holds the text of a file whose path leads there. -/
  last : ∀ p ∈ c.placements r.outputs.toList, ∃ q ∈ c.placements r.outputs.toList,
    s'.files.place? q.path = s'.files.place? p.path ∧ s'.files.read p.path = .ok q.contents
  /-- Nothing is made, changed or removed where no path leads to. -/
  frame : ∀ k, some k ∉ paths.map s'.files.place? →
    s'.files.items.get? k = s.files.items.get? k
  /-- The directories are the same. -/
  sameDirectories : s.files.SameDirectories s'.files
  /-- Nothing is printed. -/
  quiet : s'.output = s.output ∧ s'.warnings = s.warnings

lemma isName_of_mem_report (t : Tree) (c : Config) (targets : List Target) :
    ∀ e ∈ (t.report c targets).outputs.toList, ∀ f ∈ e.2.files, Path.IsName f.name := by
  rw [Tree.toList_outputs_report, List.forall_mem_map]
  exact fun target _ => t.isName_of_mem_files c target

/-- All targets can be written to one empty directory. -/
lemma exists_run_write (directory : String) (hdirectory : Path.IsFileName directory)
    (houtputs : ∀ target ∈ targets, c.outputs.get? target = some directory)
    (hnames : ∀ target ∈ targets, ∀ name ∈
      (target.dialect.generate t c).sources.files.map (·.name), Path.IsFileName name) :
    ∃ paths s', (Session.start (.emptyDirectory directory)).run
      ((t.report c targets).write c) = (.ok paths, s') := by
  have htargets : ∀ e ∈ (t.report c targets).outputs.toList, ∃ target ∈ targets,
      e = (target, (target.dialect.generate t c).sources) := by
    rw [Tree.toList_outputs_report, List.forall_mem_map]
    exact fun target htarget => ⟨target, of_decide_eq_true (List.mem_filter.1 htarget).2, rfl⟩
  refine ⟨_, _, run_write_eq_ok_iff.2 ⟨fun e he => ?_, fun p hp => ?_, rfl, rfl⟩⟩
  · obtain ⟨target, htarget, rfl⟩ := htargets e he
    exact Config.hasDirectory_of_isDirectory (houtputs target htarget)
      (FileTree.isDirectory_emptyDirectory hdirectory)
  · obtain ⟨e, he, hp⟩ := List.mem_flatMap.1 hp
    obtain ⟨target, htarget, rfl⟩ := htargets e he
    exact Config.canHold_placementsOf (houtputs target htarget) hdirectory
      (hnames target htarget) p hp

/-- Different paths in the directory of one target are enough for different identifiers. -/
lemma identifiersApart_of_nodup {isDirectory : String → Bool} (hcheck : checkTree t c = .ok ())
    (htargets : targets ≠ [])
    (hdirectories : ∀ e ∈ (t.report c targets).outputs.toList, c.hasDirectory isDirectory e.1)
    (h : ((c.placements (t.report c targets).outputs.toList).map (·.path)).Nodup) :
    t.IdentifiersApart := by
  obtain ⟨target, htarget⟩ := List.exists_mem_of_ne_nil targets htargets
  have he : (target, (target.dialect.generate t c).sources) ∈
      (t.report c targets).outputs.toList :=
    PerTarget.mem_toList_iff.2 ((t.get?_outputs_report c targets target).trans (if_pos htarget))
  obtain ⟨directory, hdirectory⟩ := Option.isSome_iff_exists.1 (hdirectories _ he)
  have hfiles := Config.placementsOf_eq (Config.directory?_eq_some_iff.1 hdirectory).1
  have hsublist := List.sublist_flatten_of_mem (List.mem_map_of_mem (f := c.placementsOf) he)
  have hpaths := h.sublist (hsublist.map (·.path))
  rw [hfiles, List.map_map] at hpaths
  refine (Tree.nodup_map_name_iff hcheck target).1 (List.Nodup.of_map (Path.join directory) ?_)
  rwa [List.map_map]

/-- **Written reports.**  When a report has been written, there is one path for each of its files,
and nothing but these files has changed.  The paths are different, and each file holds its text,
unless two tags have one identifier. -/
theorem written_spec (hr : generateSources t c targets = .ok r)
    (hrun : s.run (r.write c) = (.ok paths, s')) : r.Written t c targets s s' paths := by
  obtain ⟨⟨hcheck, -⟩, rfl⟩ := Tree.generateSources_eq_ok_iff.1 hr
  obtain ⟨hdirectories, hhold, rfl, rfl⟩ := run_write_eq_ok_iff.1 hrun
  have hsame := s.files.sameDirectories_writeAll
    (c.placements (t.report c targets).outputs.toList)
  have hplace : (s.written (c.placements (t.report c targets).outputs.toList)).files.place? =
      s.files.place? := funext fun path => hsame.place?_eq
  have hnone := FileTree.writeAll_fst_eq_none_iff.2 hhold
  have hlast := Config.map_lastName_placements (isName_of_mem_report t c targets)
    hdirectories hhold
  have hplaces (h : t.IdentifiersApart) :
      ((c.placements (t.report c targets).outputs.toList).map
        fun p => s.files.place? p.path).Nodup := by
    have hnames : (((t.report c targets).outputs.toList.flatMap
        (·.2.files)).map (·.name)).Nodup := Tree.nodup_map_name_report hcheck h
    refine List.Nodup.of_map (fun k? => k?.bind fun k => (Path.parts k).getLast?) ?_
    rw [List.map_map]
    refine (congrArg List.Nodup hlast).mpr ?_
    have hsome := hnames.map (Option.some_injective String)
    rwa [List.map_map] at hsome
  constructor
  case directories =>
    intro e he
    obtain ⟨directory, hdirectory⟩ := Option.isSome_iff_exists.1 (hdirectories e he)
    exact ⟨directory, Config.directory?_eq_some_iff.1 hdirectory⟩
  case paths_eq => rfl
  case length_eq =>
    have hlength := congrArg List.length hlast
    rwa [List.length_map, List.length_map, List.length_flatMap, ← List.length_map] at hlength
  case nodup_iff =>
    intro htargets
    refine ⟨identifiersApart_of_nodup hcheck htargets hdirectories, fun h => ?_⟩
    refine List.Nodup.of_map s.files.place? ?_
    rw [List.map_map]
    exact hplaces h
  case apart_of_plain => exact Tree.identifiersApart_of_plain
  case places_nodup =>
    intro h
    rw [hplace, List.map_map]
    exact hplaces h
  case contents =>
    intro h p hp
    obtain ⟨q, hq, hqplace, hread⟩ := FileTree.exists_read_writeAll hnone p hp
    rwa [List.inj_on_of_nodup_map (hplaces h) hq hp hqplace] at hread
  case last =>
    rw [hplace]
    exact FileTree.exists_read_writeAll hnone
  case frame =>
    intro k hk
    rw [hplace, List.map_map] at hk
    exact FileTree.get?_items_writeAll fun p hp heq => hk (List.mem_map.2 ⟨p, hp, heq⟩)
  case sameDirectories => exact hsame
  case quiet => exact ⟨rfl, rfl⟩

/-- Settings with one output directory for two targets. -/
def sharedDirectory : Config := ⟨none, "nl", ⟨some "out", none, some "out"⟩⟩

theorem written_spec_shared :
    ∃ t r paths s', Tree.ofDocument "nl" (.object
        [("title", .object [("nl", .string "x"), ("en", .string "y")])]) = .ok t ∧
      generateSources t sharedDirectory [.js, .rust] = .ok r ∧
      (Session.start (.emptyDirectory "out")).run (r.write sharedDirectory) = (.ok paths, s') ∧
      paths.length = 6 ∧ paths.Nodup ∧
      ∀ p ∈ sharedDirectory.placements r.outputs.toList, s'.files.read p.path = .ok p.contents := by
  obtain ⟨t, ht, hvet, hplain, hcount, hnames⟩ : ∃ t, Tree.ofDocument "nl" (.object
        [("title", .object [("nl", .string "x"), ("en", .string "y")])]) = .ok t ∧
      t.vet sharedDirectory = .ok () ∧
      (∀ l ∈ t.filedLanguages, IsPlainTag l) ∧
      ((t.report sharedDirectory [.js, .rust]).outputs.toList.map
        fun e => e.2.files.length).sum = 6 ∧
      ∀ target ∈ [Target.js, Target.rust], ∀ name ∈
        (target.dialect.generate t sharedDirectory).sources.files.map (·.name),
        Path.IsFileName name :=
    ⟨_, rfl, Tree.vet_of_values (by decide +kernel) (by decide +kernel), by decide +kernel,
      by decide +kernel, by decide +kernel⟩
  have hr : generateSources t sharedDirectory [.js, .rust] = .ok _ :=
    Tree.generateSources_eq_report hvet
  obtain ⟨paths, s', hrun⟩ := exists_run_write "out" (by decide) (by decide) hnames
  have hwritten := written_spec hr hrun
  have hapart := hwritten.apart_of_plain hplain
  exact ⟨t, _, paths, s', ht, hr, hrun, hwritten.length_eq.trans hcount,
    (hwritten.nodup_iff (List.cons_ne_nil _ _)).2 hapart, hwritten.contents hapart⟩

/-- Two tags with one identifier, which differ in a punctuation mark: their tables go to one path,
where the second takes the place of the first. -/
theorem exists_written_not_nodup :
    ∃ t r paths s', Tree.ofDocument "nl" (.object [("title", .object
        [("nl", .string "x"), ("en-1ab.", .string "y"), ("en-1ab!", .string "z")])]) = .ok t ∧
      generateSources t (.jsOnly "out") [.js] = .ok r ∧
      (Session.start (.emptyDirectory "out")).run (r.write (.jsOnly "out")) = (.ok paths, s') ∧
      ¬paths.Nodup := by
  obtain ⟨t, ht, hvet, hfiled, hfiled', hnames⟩ : ∃ t,
      Tree.ofDocument "nl" (.object [("title", .object
        [("nl", .string "x"), ("en-1ab.", .string "y"), ("en-1ab!", .string "z")])]) = .ok t ∧
      t.vet (.jsOnly "out") = .ok () ∧
      "en-1ab." ∈ t.filedLanguages ∧ "en-1ab!" ∈ t.filedLanguages ∧
      ∀ target ∈ [Target.js], ∀ name ∈
        (target.dialect.generate t (.jsOnly "out")).sources.files.map (·.name),
        Path.IsFileName name :=
    ⟨_, rfl, Tree.vet_of_values (by decide +kernel) (by decide +kernel), by decide +kernel,
      by decide +kernel, by decide +kernel⟩
  have hr : generateSources t (.jsOnly "out") [.js] = .ok _ := Tree.generateSources_eq_report hvet
  obtain ⟨paths, s', hrun⟩ := exists_run_write "out" (by decide) (by decide) hnames
  refine ⟨t, _, paths, s', ht, hr, hrun, fun hnodup => ?_⟩
  obtain ⟨hdirectories, -, rfl, -⟩ := run_write_eq_ok_iff.1 hrun
  have hcheck := Tree.checkTree_of_vet hvet
  have hapart := identifiersApart_of_nodup hcheck (List.cons_ne_nil _ _) hdirectories hnodup
  exact absurd (hapart _ hfiled _ hfiled' Tree.languageIdentifier_of_marks) (by decide)

end Report

end Phrasebook
