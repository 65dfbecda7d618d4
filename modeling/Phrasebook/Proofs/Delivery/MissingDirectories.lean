import Phrasebook.Proofs.Delivery.Placements
import Phrasebook.Proofs.Generation.TargetLists

/-!
# Reports with a missing directory

`Report.write` looks for the output directory of a target when the files of all targets in front of
it are written.  So a report that cannot be written as a whole may be written in part
(`Report.StopsAt`): nothing is written if the first target is the one without a directory, and
otherwise all files of the targets in front of it are there when the error comes
(`Report.noDirectory_spec`).
-/

namespace Phrasebook

namespace Report

variable {r : Report} {c : Config} {s s' : Session} {before : List (Target × Sources)}
  {target : Target} {path : Option String}

/-- The writing of a report has come to a target without an output directory, when it had written
the files of the targets `before` it. -/
structure StopsAt (r : Report) (c : Config) (s : Session) (before : List (Target × Sources))
    (target : Target) (path : Option String) (s' : Session) : Prop where
  /-- These targets are in front of it. -/
  split : ∃ sources after, r.outputs.toList = before ++ (target, sources) :: after
  /-- They have output directories, -/
  directories : ∀ e ∈ before, c.hasDirectory s.files.isDirectory e.1
  /-- and it has none. -/
  missing : ¬c.hasDirectory s.files.isDirectory target
  /-- The error has the path that is set for it. -/
  path_eq : path = c.outputs.get? target
  /-- All files of these targets can be written, -/
  canHold : ∀ p ∈ c.placements before, s.files.CanHold p.path
  /-- and have been written, and nothing else has happened. -/
  written : s' = s.written (c.placements before)

/-- A missing directory stops the writing where it is noticed. -/
lemma run_write_eq_noDirectory_iff :
    s.run (r.write c) = (.error (.noDirectory target path), s') ↔
      ∃ before, r.StopsAt c s before target path s' := by
  rw [run_write, Prod.mk.injEq]
  constructor
  · rintro ⟨houtcome, hwritten⟩
    rcases c.outcome_cases s r.outputs.toList with ⟨e, he⟩ | ⟨hhold, hmissing⟩
    · rw [he] at houtcome
      cases houtcome
    · rw [hmissing] at houtcome
      cases hblocked : c.blocked? s.files.isDirectory r.outputs.toList with
      | none =>
        rw [hblocked] at houtcome
        cases houtcome
      | some target' =>
        rw [hblocked] at houtcome
        cases houtcome
        obtain ⟨hsplit, hdirectories, hnone⟩ := Config.blocked?_eq_some_iff.1 ⟨hblocked, rfl⟩
        exact ⟨_, hsplit, hdirectories, hnone, rfl, hhold, hwritten.symm⟩
  · rintro ⟨before, h⟩
    obtain ⟨hblocked, hready⟩ :=
      Config.blocked?_eq_some_iff.2 ⟨h.split, h.directories, h.missing⟩
    rw [Config.outcome, hblocked, hready, FileTree.writeAll_fst_eq_none_iff.2 h.canHold, h.written,
      h.path_eq]
    exact ⟨rfl, rfl⟩

lemma StopsAt.exists_placements (h : r.StopsAt c s before target path s')
    {e : Target × Sources} (he : e ∈ before) :
    ∃ directory, c.outputs.get? e.1 = some directory ∧
      ∀ f ∈ e.2.files, f.placement directory ∈ c.placements before := by
  obtain ⟨directory, hdirectory⟩ := Option.isSome_iff_exists.1 (h.directories e he)
  have hget := (Config.directory?_eq_some_iff.1 hdirectory).1
  refine ⟨directory, hget, fun f hf => List.mem_flatMap.2 ⟨e, he, ?_⟩⟩
  rw [Config.placementsOf_eq hget]
  exact List.mem_map_of_mem hf

/-- The files are not what they were if one of those in front was not there. -/
lemma StopsAt.files_ne (h : r.StopsAt c s before target path s') {e : Target × Sources}
    (he : e ∈ before) {f : SourceFile} (hf : f ∈ e.2.files)
    (hnew : ∀ directory text, s.files.read (Path.join directory f.name) ≠ .ok text) :
    s'.files ≠ s.files := by
  obtain ⟨directory, -, hplacements⟩ := h.exists_placements he
  obtain ⟨p, -, -, hread⟩ := FileTree.exists_read_writeAll
    (FileTree.writeAll_fst_eq_none_iff.2 h.canHold) _ (hplacements f hf)
  rw [h.written]
  intro heq
  exact hnew directory p.contents (heq ▸ hread)

/-- **A missing directory is noticed when its turn comes.**  The error for it says that the files of
all targets in front of it are written.  So nothing is written if there are none, nothing changes if
the files are there already, and otherwise the files are there afterwards. -/
theorem noDirectory_spec (r : Report) (c : Config) (s : Session) :
    (∀ target path s', s.run (r.write c) = (.error (.noDirectory target path), s') ↔
      ∃ before, r.StopsAt c s before target path s') ∧
    ∀ before target path s', r.StopsAt c s before target path s' →
      (before = [] → s' = s) ∧
      ((∀ p ∈ c.placements before, s.files.read p.path = .ok p.contents) → s' = s) ∧
      ∀ e ∈ before, ∃ directory, c.outputs.get? e.1 = some directory ∧ ∀ f ∈ e.2.files,
        ∃ p ∈ c.placements before,
          s.files.place? p.path = s.files.place? (Path.join directory f.name) ∧
          s'.files.read (Path.join directory f.name) = .ok p.contents := by
  refine ⟨fun _ _ _ => run_write_eq_noDirectory_iff, fun before target path s' h => ?_⟩
  refine ⟨?_, fun hread => ?_, fun e he => ?_⟩
  · rintro rfl
    exact h.written
  · rw [h.written, Session.written, FileTree.writeAll_eq_self hread]
  · obtain ⟨directory, hget, hplacements⟩ := h.exists_placements he
    refine ⟨directory, hget, fun f hf => ?_⟩
    obtain ⟨p, hp, hplace, hread⟩ := FileTree.exists_read_writeAll
      (FileTree.writeAll_fst_eq_none_iff.2 h.canHold) _ (hplacements f hf)
    refine ⟨p, hp, hplace, ?_⟩
    rw [h.written]
    exact hread

/-- A text goes to two targets, of which only the first one has an output directory. -/
lemma exists_stopsAt :
    ∃ t r s', Tree.ofDocument "nl" (.object [("title", .string "x")]) = .ok t ∧
      generateSources t (.jsOnly "a") [.js, .rust] = .ok r ∧
      r.StopsAt (.jsOnly "a") (.start (.emptyDirectory "a"))
        [(.js, (Target.js.dialect.generate t (.jsOnly "a")).sources)] .rust none s' := by
  obtain ⟨t, ht, hvet, hnames⟩ : ∃ t,
      Tree.ofDocument "nl" (.object [("title", .string "x")]) = .ok t ∧
      t.vet (.jsOnly "a") = .ok () ∧
      ∀ name ∈ (Target.js.dialect.generate t (.jsOnly "a")).sources.files.map (·.name),
        Path.IsFileName name :=
    ⟨_, rfl, Tree.vet_of_values (by decide +kernel) (by decide +kernel), by decide +kernel⟩
  refine ⟨t, _, _, ht, Tree.generateSources_eq_report hvet, ⟨_, [], rfl⟩, ?_, nofun, rfl, ?_, rfl⟩
  · rw [List.forall_mem_singleton]
    exact Config.hasDirectory_of_isDirectory rfl (FileTree.isDirectory_emptyDirectory (by decide))
  · rw [Config.placements, List.flatMap_singleton]
    exact Config.canHold_placementsOf rfl (by decide) hnames

theorem noDirectory_spec_late :
    ∃ t r s', generateSources t (.jsOnly "a") [.js, .rust] = .ok r ∧
      (Session.start (.emptyDirectory "a")).run (r.write (.jsOnly "a")) =
        (.error (.noDirectory .rust none), s') ∧
      ∀ f ∈ (Target.js.dialect.generate t (.jsOnly "a")).sources.files,
        ∃ text, s'.files.read (Path.join "a" f.name) = .ok text := by
  obtain ⟨t, r, s', -, hr, hstops⟩ := exists_stopsAt
  obtain ⟨hiff, hspec⟩ := noDirectory_spec r (.jsOnly "a") (.start (.emptyDirectory "a"))
  obtain ⟨-, -, hthere⟩ := hspec _ _ _ _ hstops
  obtain ⟨directory, hdirectory, hfiles⟩ := hthere _ List.mem_cons_self
  cases hdirectory
  refine ⟨t, r, s', hr, (hiff _ _ _).2 ⟨_, hstops⟩, fun f hf => ?_⟩
  obtain ⟨p, -, -, hread⟩ := hfiles f hf
  exact ⟨p.contents, hread⟩

/-- A report whose second target has no output directory fails for it, and leaves the files of the
first target behind. -/
theorem exists_noDirectory_files_ne :
    ∃ t r s', Tree.ofDocument "nl" (.object [("title", .string "x")]) = .ok t ∧
      generateSources t (.jsOnly "a") [.js, .rust] = .ok r ∧
      (Session.start (.emptyDirectory "a")).run (r.write (.jsOnly "a")) =
        (.error (.noDirectory .rust none), s') ∧
      s'.files ≠ .emptyDirectory "a" := by
  obtain ⟨t, r, s', ht, hr, hstops⟩ := exists_stopsAt
  refine ⟨t, r, s', ht, hr, run_write_eq_noDirectory_iff.2 ⟨_, hstops⟩, ?_⟩
  exact hstops.files_ne List.mem_cons_self (List.mem_append_right _ List.mem_cons_self)
    fun directory text => FileTree.read_emptyDirectory_ne "a" _ text

end Report

end Phrasebook
