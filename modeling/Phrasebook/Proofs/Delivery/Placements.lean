import Mathlib.Data.List.TakeWhile
import Phrasebook.Proofs.Command.Sessions
import Phrasebook.Proofs.Files.Writing

/-!
# What the writing of a report comes to

The files of a report have their paths before anything is written: they are *placed* in the output
directories of their targets (`Config.placements`).  `Report.write` goes through the targets, looks
for the directory of each when its turn has come, and puts its files there.  No file that it writes
makes or removes a directory, so the directories may as well be looked for at the beginning: what is
written are the files of the targets in front of the first one that has none (`Report.ready`,
`Report.blocked?`), as far as they can be written (`Report.run_write`).

So a missing directory is noticed late: the files of the targets in front of it are there when its
turn comes, and they stay.
-/

namespace Phrasebook

/-- A text and the path of the file that it goes to. -/
structure Placement where
  /-- The path. -/
  path : String
  /-- The text. -/
  contents : String
  deriving DecidableEq

/-- The file in a directory. -/
def SourceFile.placement (directory : String) (f : SourceFile) : Placement :=
  ⟨Path.join directory f.name, f.contents⟩

namespace Config

/-- Settings with an output directory for one target. -/
def jsOnly (directory : String) : Config := ⟨none, "nl", ⟨some directory, none, none⟩⟩

/-- The output directory of a target, if `isDirectory` says that it is one. -/
def directory? (c : Config) (isDirectory : String → Bool) (target : Target) : Option String :=
  (c.outputs.get? target).filter isDirectory

/-- Whether a target has an output directory. -/
def hasDirectory (c : Config) (isDirectory : String → Bool) (target : Target) : Bool :=
  (c.directory? isDirectory target).isSome

/-- The files of a target in its output directory. -/
def placementsOf (c : Config) (e : Target × Sources) : List Placement :=
  match c.outputs.get? e.1 with
  | none => []
  | some directory => e.2.files.map (SourceFile.placement directory)

/-- The files of several targets. -/
def placements (c : Config) (outputs : List (Target × Sources)) : List Placement :=
  outputs.flatMap c.placementsOf

variable {c : Config} {isDirectory : String → Bool} {target : Target} {directory : String}

lemma directory?_eq_some_iff : c.directory? isDirectory target = some directory ↔
    c.outputs.get? target = some directory ∧ isDirectory directory :=
  Option.filter_eq_some_iff

lemma placementsOf_eq {e : Target × Sources} (h : c.outputs.get? e.1 = some directory) :
    c.placementsOf e = e.2.files.map (SourceFile.placement directory) := by
  rw [placementsOf, h]

/-- All files of a target can be made in an empty directory. -/
lemma canHold_placementsOf {e : Target × Sources} (h : c.outputs.get? e.1 = some directory)
    (hdirectory : Path.IsFileName directory)
    (hnames : ∀ name ∈ e.2.files.map (·.name), Path.IsFileName name) :
    ∀ p ∈ c.placementsOf e, (FileTree.emptyDirectory directory).CanHold p.path := by
  rw [placementsOf_eq h, List.forall_mem_map]
  exact fun f hf => FileTree.canHold_emptyDirectory hdirectory (hnames _ (List.mem_map_of_mem hf))

lemma hasDirectory_of_isDirectory (h : c.outputs.get? target = some directory)
    (hdirectory : isDirectory directory) : c.hasDirectory isDirectory target := by
  rw [hasDirectory, directory?_eq_some_iff.2 ⟨h, hdirectory⟩]
  rfl

lemma placements_cons (e : Target × Sources) (rest : List (Target × Sources)) :
    c.placements (e :: rest) = c.placementsOf e ++ c.placements rest :=
  List.flatMap_cons

end Config

/-! ## Writing one file after the other -/

namespace FileTree

/-- Writes texts to their files, up to the first one that cannot be written: what is wrong with it,
and the tree that is left. -/
def writeAll (t : FileTree) : List Placement → Option FileError × FileTree
  | [] => (none, t)
  | p :: rest =>
    match t.write p.path p.contents with
    | .ok t' => t'.writeAll rest
    | .error e => (some e, t)

variable {t t' : FileTree}

lemma writeAll_append (t : FileTree) (ps qs : List Placement) :
    t.writeAll (ps ++ qs) =
      match (t.writeAll ps).1 with
      | none => (t.writeAll ps).2.writeAll qs
      | some _ => t.writeAll ps := by
  induction ps generalizing t with
  | nil => rfl
  | cons p rest ih =>
    rw [List.cons_append, writeAll, writeAll]
    cases t.write p.path p.contents with
    | error e => rfl
    | ok t' => exact ih t'

lemma sameDirectories_writeAll (t : FileTree) (ps : List Placement) :
    t.SameDirectories (t.writeAll ps).2 := by
  induction ps generalizing t with
  | nil => exact .refl t
  | cons p rest ih =>
    rw [writeAll]
    cases h : t.write p.path p.contents with
    | error e => exact .refl t
    | ok t' => exact (sameDirectories_of_write h).trans (ih t')

lemma isDirectory_writeAll (t : FileTree) (ps : List Placement) :
    (t.writeAll ps).2.isDirectory = t.isDirectory :=
  (t.sameDirectories_writeAll ps).isDirectory_eq

/-- All texts can be written if each of them can be. -/
lemma writeAll_fst_eq_none_iff {ps : List Placement} :
    (t.writeAll ps).1 = none ↔ ∀ p ∈ ps, t.CanHold p.path := by
  induction ps generalizing t with
  | nil => exact iff_of_true rfl nofun
  | cons p rest ih =>
    rw [List.forall_mem_cons, writeAll]
    cases hwrite : t.write p.path p.contents with
    | error e =>
      refine iff_of_false nofun fun h => ?_
      obtain ⟨k, hk, -⟩ := h.1.exists_place
      rw [write_eq_ok_iff.2 ⟨h.1, k, hk, rfl⟩] at hwrite
      exact nomatch hwrite
    | ok t' =>
      have hsame := sameDirectories_of_write hwrite
      rw [and_iff_right (write_eq_ok_iff.1 hwrite).1]
      exact ih.trans (forall₂_congr fun _ _ => hsame.canHold_iff.symm)

/-- Nothing changes where no text goes to. -/
lemma get?_items_writeAll {ps : List Placement} {k : String}
    (h : ∀ p ∈ ps, t.place? p.path ≠ some k) :
    (t.writeAll ps).2.items.get? k = t.items.get? k := by
  induction ps generalizing t with
  | nil => rfl
  | cons p rest ih =>
    obtain ⟨hp, hrest⟩ := List.forall_mem_cons.1 h
    rw [writeAll]
    cases hwrite : t.write p.path p.contents with
    | error e => rfl
    | ok t' =>
      have hsame := sameDirectories_of_write hwrite
      obtain ⟨-, k', hk', rfl⟩ := write_eq_ok_iff.1 hwrite
      have hne : k ≠ k' := fun heq => hp (heq ▸ hk')
      exact (ih fun p' hp' => hsame.place?_eq ▸ hrest p' hp').trans (get?_items_put hne _)

/-- Afterwards, each place holds the last text that has gone to it. -/
lemma exists_read_writeAll {ps : List Placement} (h : (t.writeAll ps).1 = none) :
    ∀ p ∈ ps, ∃ q ∈ ps, t.place? q.path = t.place? p.path ∧
      (t.writeAll ps).2.read p.path = .ok q.contents := by
  induction ps generalizing t with
  | nil => exact nofun
  | cons first rest ih =>
    have hhold := writeAll_fst_eq_none_iff.1 h
    rw [writeAll] at h ⊢
    cases hwrite : t.write first.path first.contents with
    | error e =>
      rw [hwrite] at h
      exact nomatch h
    | ok t' =>
      rw [hwrite] at h
      dsimp only at h ⊢
      have hfirst := sameDirectories_of_write hwrite
      have hsame := hfirst.trans (t'.sameDirectories_writeAll rest)
      have hrest := ih h
      simp only [hfirst.place?_eq] at hrest
      intro p hp
      -- A text for the same place that comes later replaces this one.
      by_cases hlater : ∃ p' ∈ rest, t.place? p'.path = t.place? p.path
      · obtain ⟨p', hp', heq⟩ := hlater
        obtain ⟨q, hq, hqplace, hread⟩ := hrest p' hp'
        refine ⟨q, List.mem_cons_of_mem _ hq, hqplace.trans heq, ?_⟩
        rw [← hread]
        refine read_congr (hsame.canHold_iff.1 (hhold p hp))
          (hsame.canHold_iff.1 (hhold p' (List.mem_cons_of_mem _ hp'))) ?_
        rw [hsame.place?_eq, hsame.place?_eq, heq]
      · obtain rfl : p = first :=
          (List.mem_cons.1 hp).resolve_right fun hp => hlater ⟨p, hp, rfl⟩
        refine ⟨p, List.mem_cons_self, rfl, ?_⟩
        obtain ⟨k, hk, -⟩ := (hhold p hp).exists_place
        have hitem : (t'.writeAll rest).2.items.get? k = t'.items.get? k :=
          get?_items_writeAll fun p' hp' hk' =>
            hlater ⟨p', hp', (hfirst.place?_eq.symm.trans hk').trans hk.symm⟩
        rw [(t'.sameDirectories_writeAll rest).read_eq (hfirst.canHold_iff.1 (hhold p hp))
          (hfirst.place?_eq.trans hk) hitem]
        exact read_of_write hwrite

lemma writeAll_eq_self {ps : List Placement} (h : ∀ p ∈ ps, t.read p.path = .ok p.contents) :
    t.writeAll ps = (none, t) := by
  induction ps with
  | nil => rfl
  | cons p rest ih =>
    obtain ⟨hp, hrest⟩ := List.forall_mem_cons.1 h
    rw [writeAll, write_eq_self hp]
    exact ih hrest

end FileTree

/-! ## Runs -/

section Runs

variable {c : Config} {s : Session} {directory : String}

/-- What the writing of files comes to in a session. -/
def Session.written (s : Session) (ps : List Placement) : Session :=
  { s with files := (s.files.writeAll ps).2 }

lemma SourceFile.run_write (directory : String) (f : SourceFile) (s : Session) :
    s.run (f.write directory) =
      match s.files.write (f.placement directory).path (f.placement directory).contents with
      | .ok files => (.ok (f.placement directory).path, { s with files := files })
      | .error e => (.error (.file e), s) := by
  have hhost : s.run (liftM (Host.writeText (f.placement directory).path
      (f.placement directory).contents : StateM Session _) : ExceptT WriteError _ _) =
      (.ok (Session.write (f.placement directory).path (f.placement directory).contents s).1,
        (Session.write (f.placement directory).path (f.placement directory).contents s).2) := rfl
  rw [SourceFile.write]
  change s.run (liftM (Host.writeText (f.placement directory).path
      (f.placement directory).contents : StateM Session _) >>= _) = _
  rw [Session.run_bind_of_ok hhost, Session.write]
  cases s.files.write (f.placement directory).path (f.placement directory).contents <;> rfl

/-- Files are written to a directory up to the first one that cannot be written. -/
lemma SourceFile.run_mapM_write (directory : String) (files : List SourceFile) (s : Session) :
    s.run (files.mapM (SourceFile.write directory)) =
      (match (s.files.writeAll (files.map (SourceFile.placement directory))).1 with
      | none => .ok ((files.map (SourceFile.placement directory)).map (·.path))
      | some e => .error (.file e),
      s.written (files.map (SourceFile.placement directory))) := by
  induction files generalizing s with
  | nil => rfl
  | cons f rest ih =>
    have hrun := f.run_write directory s
    rw [List.mapM_cons, List.map_cons, Session.written, FileTree.writeAll]
    cases hwrite : s.files.write (f.placement directory).path
        (f.placement directory).contents with
    | error e =>
      rw [hwrite] at hrun
      exact Session.run_bind_of_error hrun
    | ok files =>
      rw [hwrite] at hrun
      rw [Session.run_bind_of_ok hrun, Session.run_bind, ih]
      dsimp only [Session.written]
      cases (files.writeAll (rest.map (SourceFile.placement directory))).1 <;> rfl

lemma Sources.run_write_of_none {target : Target} (sources : Sources)
    (h : c.directory? s.files.isDirectory target = none) :
    s.run (Sources.write c target sources) =
      (.error (.noDirectory target (c.outputs.get? target)), s) := by
  rw [Sources.write]
  cases hget : c.outputs.get? target with
  | none => rfl
  | some directory =>
    rw [Config.directory?, hget, Option.filter_eq_none_iff] at h
    have hhost : s.run (liftM (Host.isDirectory directory : StateM Session _) :
        ExceptT WriteError _ _) = (.ok (s.files.isDirectory directory), s) := rfl
    dsimp only
    rw [Session.run_bind_of_ok hhost, if_neg (h directory rfl)]
    rfl

lemma Sources.run_write_of_some {target : Target} (sources : Sources)
    (h : c.directory? s.files.isDirectory target = some directory) :
    s.run (Sources.write c target sources) =
      s.run (sources.files.mapM (SourceFile.write directory)) := by
  obtain ⟨hget, hdirectory⟩ := Config.directory?_eq_some_iff.1 h
  have hhost : s.run (liftM (Host.isDirectory directory : StateM Session _) :
      ExceptT WriteError _ _) = (.ok (s.files.isDirectory directory), s) := rfl
  rw [Sources.write, hget]
  dsimp only
  rw [Session.run_bind_of_ok hhost, if_pos hdirectory]

end Runs

/-! ## Reports -/

/-- The targets in front of the first one that has no output directory. -/
def Config.ready (c : Config) (isDirectory : String → Bool) (outputs : List (Target × Sources)) :
    List (Target × Sources) :=
  outputs.takeWhile fun e => c.hasDirectory isDirectory e.1

/-- The first target that has no output directory. -/
def Config.blocked? (c : Config) (isDirectory : String → Bool)
    (outputs : List (Target × Sources)) : Option Target :=
  (outputs.map (·.1)).find? fun target => !c.hasDirectory isDirectory target

section

variable {c : Config} {isDirectory : String → Bool} {e : Target × Sources}
  {rest outputs before : List (Target × Sources)} {target : Target}

lemma Config.ready_cons_of_pos (h : c.hasDirectory isDirectory e.1) :
    c.ready isDirectory (e :: rest) = e :: c.ready isDirectory rest :=
  List.takeWhile_cons.trans (if_pos h)

lemma Config.ready_cons_of_neg (h : ¬c.hasDirectory isDirectory e.1) :
    c.ready isDirectory (e :: rest) = [] :=
  List.takeWhile_cons.trans (if_neg h)

lemma Config.blocked?_cons_of_pos (h : c.hasDirectory isDirectory e.1) :
    c.blocked? isDirectory (e :: rest) = c.blocked? isDirectory rest :=
  List.find?_cons_of_neg (by simpa using h)

lemma Config.blocked?_cons_of_neg (h : ¬c.hasDirectory isDirectory e.1) :
    c.blocked? isDirectory (e :: rest) = some e.1 :=
  List.find?_cons_of_pos (by simpa using h)

/-- The targets are cut in front of the first one that has no output directory. -/
lemma Config.blocked?_eq_some_iff :
    c.blocked? isDirectory outputs = some target ∧ c.ready isDirectory outputs = before ↔
      (∃ sources after, outputs = before ++ (target, sources) :: after) ∧
        (∀ e ∈ before, c.hasDirectory isDirectory e.1) ∧ ¬c.hasDirectory isDirectory target := by
  constructor
  · intro ⟨hblocked, hready⟩
    induction outputs generalizing before with
    | nil => exact nomatch hblocked
    | cons e rest ih =>
      by_cases hdirectory : c.hasDirectory isDirectory e.1
      · rw [blocked?_cons_of_pos hdirectory] at hblocked
        rw [ready_cons_of_pos hdirectory] at hready
        obtain ⟨⟨sources, after, hrest⟩, hbefore, hnone⟩ := ih hblocked rfl
        rw [← hready]
        exact ⟨⟨sources, after, congrArg (e :: ·) hrest⟩,
          List.forall_mem_cons.2 ⟨hdirectory, hbefore⟩, hnone⟩
      · rw [blocked?_cons_of_neg hdirectory] at hblocked
        rw [ready_cons_of_neg hdirectory] at hready
        cases hblocked
        rw [← hready]
        exact ⟨⟨e.2, rest, rfl⟩, nofun, hdirectory⟩
  · rintro ⟨⟨sources, after, rfl⟩, hbefore, hnone⟩
    induction before with
    | nil => exact ⟨blocked?_cons_of_neg hnone, ready_cons_of_neg hnone⟩
    | cons e rest ih =>
      obtain ⟨hdirectory, hbefore⟩ := List.forall_mem_cons.1 hbefore
      obtain ⟨hblocked, hready⟩ := ih hbefore
      rw [List.cons_append, blocked?_cons_of_pos hdirectory, ready_cons_of_pos hdirectory]
      exact ⟨hblocked, congrArg (e :: ·) hready⟩

lemma Config.blocked?_eq_none_iff :
    c.blocked? isDirectory outputs = none ↔ ∀ e ∈ outputs, c.hasDirectory isDirectory e.1 := by
  simp [blocked?]

lemma Config.ready_eq_self (h : ∀ e ∈ outputs, c.hasDirectory isDirectory e.1) :
    c.ready isDirectory outputs = outputs :=
  List.takeWhile_eq_self_iff.2 h

end

/-- The outcome of writing the files of some targets. -/
def Config.outcome (c : Config) (s : Session) (outputs : List (Target × Sources)) :
    Except WriteError (List (List String)) :=
  match (s.files.writeAll (c.placements (c.ready s.files.isDirectory outputs))).1,
    c.blocked? s.files.isDirectory outputs with
  | some e, _ => .error (.file e)
  | none, some target => .error (.noDirectory target (c.outputs.get? target))
  | none, none => .ok (outputs.map fun e => (c.placementsOf e).map (·.path))

/-- Either a file is in the way, or everything up to the missing directory is written. -/
lemma Config.outcome_cases (c : Config) (s : Session) (outputs : List (Target × Sources)) :
    (∃ e, c.outcome s outputs = .error (.file e)) ∨
      (∀ p ∈ c.placements (c.ready s.files.isDirectory outputs), s.files.CanHold p.path) ∧
      c.outcome s outputs = match c.blocked? s.files.isDirectory outputs with
        | some target => .error (.noDirectory target (c.outputs.get? target))
        | none => .ok (outputs.map fun e => (c.placementsOf e).map (·.path)) := by
  rw [outcome]
  cases h : (s.files.writeAll (c.placements (c.ready s.files.isDirectory outputs))).1 with
  | some e => exact .inl ⟨e, rfl⟩
  | none =>
    refine .inr ⟨FileTree.writeAll_fst_eq_none_iff.1 h, ?_⟩
    cases c.blocked? s.files.isDirectory outputs <;> rfl

section

variable {c : Config} {s : Session}

lemma run_mapM_write (c : Config) (outputs : List (Target × Sources)) (s : Session) :
    s.run (outputs.mapM fun e => Sources.write c e.1 e.2) =
      (c.outcome s outputs, s.written (c.placements (c.ready s.files.isDirectory outputs))) := by
  induction outputs generalizing s with
  | nil => rfl
  | cons e rest ih =>
    rw [List.mapM_cons]
    cases hdirectory : c.directory? s.files.isDirectory e.1 with
    | none =>
      have hnone : ¬c.hasDirectory s.files.isDirectory e.1 := by
        simp [Config.hasDirectory, hdirectory]
      rw [Session.run_bind_of_error (Sources.run_write_of_none e.2 hdirectory), Config.outcome,
        Config.ready_cons_of_neg hnone, Config.blocked?_cons_of_neg hnone]
      rfl
    | some directory =>
      have hsome : c.hasDirectory s.files.isDirectory e.1 := by
        simp [Config.hasDirectory, hdirectory]
      have hplacements := Config.placementsOf_eq (Config.directory?_eq_some_iff.1 hdirectory).1
      have hrun := (Sources.run_write_of_some e.2 hdirectory).trans
        (SourceFile.run_mapM_write directory e.2.files s)
      have hsame : (s.written (c.placementsOf e)).files.isDirectory = s.files.isDirectory :=
        s.files.isDirectory_writeAll _
      rw [← hplacements] at hrun
      rw [Config.outcome, Config.ready_cons_of_pos hsome, Config.blocked?_cons_of_pos hsome,
        Config.placements_cons, Session.written, FileTree.writeAll_append]
      cases hwrite : (s.files.writeAll (c.placementsOf e)).1 with
      | some error =>
        rw [hwrite] at hrun
        rw [Session.run_bind_of_error hrun]
        dsimp only
        rw [hwrite]
        rfl
      | none =>
        rw [hwrite] at hrun
        rw [Session.run_bind_of_ok hrun, Session.run_bind, ih, Config.outcome, hsame]
        dsimp only [Session.written]
        cases ((s.files.writeAll (c.placementsOf e)).2.writeAll
          (c.placements (c.ready s.files.isDirectory rest))).1 with
        | some error => rfl
        | none => cases c.blocked? s.files.isDirectory rest <;> rfl

end

namespace Report

lemma run_write (r : Report) (c : Config) (s : Session) :
    s.run (r.write c) =
      ((c.outcome s r.outputs.toList).map List.flatten,
        s.written (c.placements (c.ready s.files.isDirectory r.outputs.toList))) := by
  rw [write, Session.run_bind, run_mapM_write]
  cases c.outcome s r.outputs.toList <;> rfl

/-- A report is written if every target has an output directory and every file can be made. -/
lemma run_write_eq_ok_iff {r : Report} {c : Config} {s s' : Session} {paths : List String} :
    s.run (r.write c) = (.ok paths, s') ↔
      (∀ e ∈ r.outputs.toList, c.hasDirectory s.files.isDirectory e.1) ∧
      (∀ p ∈ c.placements r.outputs.toList, s.files.CanHold p.path) ∧
      paths = (c.placements r.outputs.toList).map (·.path) ∧
      s' = s.written (c.placements r.outputs.toList) := by
  have hflatten : (r.outputs.toList.map fun e => (c.placementsOf e).map (·.path)).flatten =
      (c.placements r.outputs.toList).map (·.path) := by
    rw [Config.placements, List.map_flatMap, List.flatMap]
  rw [run_write, Prod.mk.injEq]
  constructor
  · rintro ⟨houtcome, hwritten⟩
    rcases c.outcome_cases s r.outputs.toList with ⟨e, he⟩ | ⟨hhold, hok⟩
    · rw [he] at houtcome
      exact nomatch houtcome
    · rw [hok] at houtcome
      cases hblocked : c.blocked? s.files.isDirectory r.outputs.toList with
      | some target =>
        rw [hblocked] at houtcome
        exact nomatch houtcome
      | none =>
        rw [hblocked] at houtcome
        have hdirectories := Config.blocked?_eq_none_iff.1 hblocked
        rw [Config.ready_eq_self hdirectories] at hhold hwritten
        exact ⟨hdirectories, hhold, (Except.ok.inj houtcome).symm.trans hflatten, hwritten.symm⟩
  · rintro ⟨hdirectories, hhold, rfl, rfl⟩
    rw [Config.outcome, Config.blocked?_eq_none_iff.2 hdirectories, Config.ready_eq_self hdirectories,
      FileTree.writeAll_fst_eq_none_iff.2 hhold]
    exact ⟨congrArg Except.ok hflatten, rfl⟩

end Report

end Phrasebook
