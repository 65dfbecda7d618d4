import Phrasebook.Proofs.Command.Agreement
import Phrasebook.Proofs.Files.Writing
import Phrasebook.Proofs.Generation.TargetLists

/-!
# Failed generations

A generation that fails leaves the disk as it was, unless it was writing files.  That does not depend
on what a disk is: `Disk` says what a host does to it, whatever else its state holds.  Reading and
printing change no file, and writing a file makes or removes no directory.

`Ends` says what an action comes to, as a value or as an error.  Everything in front of the writing
keeps the files (`Disk.Keeps`).  The writing itself looks for the output directories once more, but
they have been seen before (`Disk.ends_generateFiles`), so it can only fail for a file
(`Disk.ends_write`).
-/

namespace Phrasebook

variable {σ φ ε ε' α β : Type}

/-! ## Outcomes of actions -/

/-- What an action comes to in a state of the host, and the state behind it. -/
def runFrom (s : σ) (x : ExceptT ε (StateM σ) α) : Except ε α × σ :=
  StateT.run (m := Id) (ExceptT.run x) s

/-- What an action comes to in a state of the host: a value and a state with `Q`, or an error and a
state with `E`. -/
def Ends (s : σ) (x : ExceptT ε (StateM σ) α) (Q : α → σ → Prop) (E : ε → σ → Prop) : Prop :=
  match runFrom s x with
  | (.ok a, s') => Q a s'
  | (.error e, s') => E e s'

section

variable {s : σ} {x : ExceptT ε (StateM σ) α} {f : α → ExceptT ε (StateM σ) β}
  {Q Q' : α → σ → Prop} {R : β → σ → Prop} {E E' : ε → σ → Prop}

lemma Ends.mono (h : Ends s x Q E) (hQ : ∀ a s', Q a s' → Q' a s')
    (hE : ∀ e s', E e s' → E' e s') : Ends s x Q' E' := by
  unfold Ends at h ⊢
  split
  · rename_i hrun
    rw [hrun] at h
    exact hQ _ _ h
  · rename_i hrun
    rw [hrun] at h
    exact hE _ _ h

lemma Ends.bind (h : Ends s x Q E) (hf : ∀ a s', Q a s' → Ends s' (f a) R E) :
    Ends s (x >>= f) R E := by
  unfold Ends at h
  change match (ExceptT.bindCont f (runFrom s x).1).run (runFrom s x).2 with
    | (.ok a, s') => R a s'
    | (.error e, s') => E e s'
  rcases hrun : runFrom s x with ⟨_ | a, s'⟩
  · rw [hrun] at h
    exact h
  · rw [hrun] at h
    exact hf a s' h

lemma Ends.lift {x : StateM σ α} (h : Q (x s).1 (x s).2) :
    Ends s (liftM x : ExceptT ε (StateM σ) α) Q E := h

lemma Ends.adapt {E : ε' → σ → Prop} {g : ε → ε'} (h : Ends s x Q fun e s' => E (g e) s') :
    Ends s (x.adapt g) Q E := by
  unfold Ends at h
  change match ((runFrom s x).1.mapError g, (runFrom s x).2) with
    | (.ok a, s') => Q a s'
    | (.error e, s') => E e s'
  rcases hrun : runFrom s x with ⟨_ | a, s'⟩
  · rw [hrun] at h
    exact h
  · rw [hrun] at h
    exact h

/-- What every action of a list keeps, the list of them keeps. -/
lemma Ends.mapM {I : σ → Prop} {as : List α} {f : α → ExceptT ε (StateM σ) β}
    (h : ∀ a ∈ as, ∀ s, I s → Ends s (f a) (fun _ => I) E) (hs : I s) :
    Ends s (as.mapM f) (fun _ => I) E := by
  induction as generalizing s with
  | nil => exact hs
  | cons a rest ih =>
    obtain ⟨ha, hrest⟩ := List.forall_mem_cons.1 h
    rw [List.mapM_cons]
    exact (ha s hs).bind fun _ s' hs' => (ih hrest hs').bind fun _ _ hs'' => hs''

lemma Ends.forM {I : σ → Prop} {as : List α} {f : α → ExceptT ε (StateM σ) Unit}
    (h : ∀ a ∈ as, ∀ s, I s → Ends s (f a) (fun _ => I) E) (hs : I s) :
    Ends s (as.forM f) (fun _ => I) E := by
  induction as generalizing s with
  | nil => exact hs
  | cons a rest ih =>
    obtain ⟨ha, hrest⟩ := List.forall_mem_cons.1 h
    exact (ha s hs).bind fun _ s' hs' => ih hrest hs'

/-- A list is filtered by a test, if the test keeps what its answer depends on. -/
lemma Ends.filterM {I : σ → Prop} {p : α → Bool} {as : List α}
    {f : α → ExceptT ε (StateM σ) Bool}
    (h : ∀ a s, I s → Ends s (f a) (fun b s' => b = p a ∧ I s') E) (hs : I s) :
    Ends s (as.filterM f) (fun bs s' => bs = as.filter p ∧ I s') E := by
  suffices haux : ∀ acc, Ends s (as.filterAuxM f acc)
      (fun bs s' => bs = (as.filter p).reverse ++ acc ∧ I s') E by
    refine (haux []).bind fun bs s' hbs => ⟨?_, hbs.2⟩
    rw [hbs.1, List.append_nil, List.reverse_reverse]
  induction as generalizing s with
  | nil => exact fun acc => ⟨rfl, hs⟩
  | cons a rest ih =>
    intro acc
    rw [List.filterAuxM]
    refine (h a s hs).bind ?_
    rintro b s' ⟨rfl, hs'⟩
    refine (ih hs' _).mono ?_ fun _ _ he => he
    rintro bs s'' ⟨rfl, hs''⟩
    refine ⟨?_, hs''⟩
    cases ha : p a <;> simp [ha]

end

/-! ## Disks -/

/-- What a host does to its disk, where `content` is what a state has on it. -/
structure Disk (σ φ : Type) [Host (StateM σ)] where
  /-- What is on the disk. -/
  content : σ → φ
  /-- Whether a directory is at a path. -/
  isDirectory : φ → String → Bool
  /-- Looking at a directory says what is on the disk. -/
  isDirectory_eq : ∀ path s,
    ((Host.isDirectory path : StateM σ Bool) s).1 = isDirectory (content s) path
  /-- It changes nothing, -/
  content_isDirectory : ∀ path s,
    content ((Host.isDirectory path : StateM σ Bool) s).2 = content s
  /-- nor does reading, -/
  content_readText : ∀ path s,
    content ((Host.readText path : StateM σ (Except FileError String)) s).2 = content s
  /-- nor does printing. -/
  content_print : ∀ text s, content ((Host.print text : StateM σ Unit) s).2 = content s
  /-- The same goes for warnings. -/
  content_warn : ∀ text s, content ((Host.warn text : StateM σ Unit) s).2 = content s
  /-- A file that is written makes or removes no directory. -/
  isDirectory_writeText : ∀ path text s,
    ((Host.writeText path text : StateM σ (Except FileError Unit)) s).1 = .ok () →
      isDirectory (content ((Host.writeText path text : StateM σ (Except FileError Unit)) s).2) =
        isDirectory (content s)

/-- The disk of a session is its tree of files. -/
def Session.disk : Disk Session FileTree where
  content := Session.files
  isDirectory := FileTree.isDirectory
  isDirectory_eq _ _ := rfl
  content_isDirectory _ _ := rfl
  content_readText _ _ := rfl
  content_print _ _ := rfl
  content_warn _ _ := rfl
  isDirectory_writeText path text s h := by
    change (Session.write path text s).1 = _ at h
    change FileTree.isDirectory (Session.write path text s).2.files = _
    rw [Session.write] at h ⊢
    cases hwrite : s.files.write path text with
    | error e => rfl
    | ok files => exact (FileTree.sameDirectories_of_write hwrite).isDirectory_eq

/-- What is left of a generation once the project file is there. -/
def Command.generateFrom {m : Type → Type} [Monad m] [Host m] (file : ProjectFile)
    (overrides : Overrides) (strict : Bool) : Action m Unit := do
  let settings ← match Settings.resolve file overrides with
    | .ok settings => pure settings
    | .error e => throw (.settings e)
  if settings.targets.isEmpty then throw .noTargets
  generateWith settings strict

namespace Disk

open Command

variable [Host (StateM σ)] (disk : Disk σ φ) {s : σ} {files : φ}

/-- An action leaves these files on the disk, and fails for another reason than the writing if it
fails. -/
def Keeps (files : φ) (x : Action (StateM σ) α) : Prop :=
  ∀ s, disk.content s = files → Ends s x (fun _ s' => disk.content s' = files)
    fun e s' => (∀ e', e ≠ .write e') ∧ disk.content s' = files

/-! ## In front of the writing -/

lemma keeps_loadProject (files : φ) (path : String) : disk.Keeps files (loadProject path) := by
  intro s hs
  unfold loadProject
  refine (Ends.lift (Q := fun _ s' => disk.content s' = files)
    ((disk.content_readText path s).trans hs)).bind fun text? s' hs' => ?_
  cases text? with
  | error e => exact ⟨nofun, hs'⟩
  | ok text =>
    simp only [pure_bind]
    cases ProjectFile.parse? text with
    | none => exact ⟨nofun, hs'⟩
    | some file => exact hs'

lemma keeps_loadTree (files : φ) (path default : String) :
    disk.Keeps files (loadTree path default) := by
  intro s hs
  unfold loadTree
  refine (Ends.lift (Q := fun _ s' => disk.content s' = files)
    ((disk.content_readText path s).trans hs)).bind fun text? s' hs' => ?_
  cases text? with
  | error e => exact ⟨nofun, hs'⟩
  | ok text =>
    simp only [pure_bind]
    cases (Format.ofPath path).parse? text with
    | none => exact ⟨nofun, hs'⟩
    | some document =>
      dsimp only
      cases Tree.ofDocument default document with
      | error e => exact ⟨nofun, hs'⟩
      | ok tree => exact hs'

lemma keeps_warnAll (files : φ) (errors : List KeyError) : disk.Keeps files (warnAll errors) :=
  fun _ hs => Ends.forM (fun _ _ s hs => Ends.lift ((disk.content_warn _ s).trans hs)) hs

/-- The output directories that are found are those on the disk. -/
lemma ends_existing (c : Config) (hs : disk.content s = files) :
    Ends s (existing c) (fun directories s' =>
        directories = (c.outputs.toList.map (·.2)).filter (disk.isDirectory files) ∧
          disk.content s' = files)
      fun e s' => (∀ e', e ≠ .write e') ∧ disk.content s' = files := by
  refine Ends.filterM (I := fun s => disk.content s = files) (fun path s hs => Ends.lift ⟨?_, ?_⟩) hs
  · rw [disk.isDirectory_eq, hs]
  · exact (disk.content_isDirectory path s).trans hs

/-- These targets have output directories on the disk. -/
def Ready (files : φ) (c : Config) (outputs : List (Target × Sources)) : Prop :=
  ∀ e ∈ outputs, ∃ directory, c.outputs.get? e.1 = some directory ∧ disk.isDirectory files directory

/-- What is generated has output directories. -/
lemma ends_generateFiles (settings : Settings) (t : Tree) (hs : disk.content s = files) :
    Ends s (generateFiles settings t) (fun report s' =>
        disk.Ready files settings.config report.outputs.toList ∧ disk.content s' = files)
      fun e s' => (∀ e', e ≠ .write e') ∧ disk.content s' = files := by
  unfold generateFiles
  refine (disk.ends_existing settings.config hs).bind ?_
  rintro directories s' ⟨rfl, hs'⟩
  cases hreport : generateEach (fun path => path ∈ (settings.config.outputs.toList.map (·.2)).filter
      (disk.isDirectory files)) t settings.config settings.targets with
  | error e => exact ⟨nofun, hs'⟩
  | ok report =>
    obtain ⟨hdirectories, rfl⟩ := Tree.eq_of_generateEach_eq_ok hreport
    refine ⟨fun e he => ?_, hs'⟩
    have hget := PerTarget.mem_toList_iff.1 he
    rw [Tree.get?_outputs_report, Option.ite_none_right_eq_some] at hget
    obtain ⟨directory, hdirectory, hmem⟩ :=
      Config.exists_directory_of_checkDirectories hdirectories e.1 hget.1
    exact ⟨directory, hdirectory, (List.mem_filter.1 (of_decide_eq_true hmem)).2⟩

/-! ## Writing -/

variable {c : Config}

/-- The directories are those of `files`. -/
def SameDirectories (files : φ) (s : σ) : Prop :=
  disk.isDirectory (disk.content s) = disk.isDirectory files

lemma ends_write_file (directory : String) (f : SourceFile) (hs : disk.SameDirectories files s) :
    Ends s (f.write directory) (fun _ => disk.SameDirectories files) fun e _ => ∃ e', e = .file e' := by
  unfold SourceFile.write
  refine (Ends.lift (Q := fun outcome s' => outcome = .ok () → disk.SameDirectories files s')
    fun h => (disk.isDirectory_writeText _ _ s h).trans hs).bind fun outcome s' hs' => ?_
  cases outcome with
  | error e => exact ⟨e, rfl⟩
  | ok u => exact hs' rfl

/-- With an output directory, only a file can be in the way. -/
lemma ends_write_sources {e : Target × Sources} {directory : String}
    (hget : c.outputs.get? e.1 = some directory) (hdirectory : disk.isDirectory files directory)
    (hs : disk.SameDirectories files s) :
    Ends s (Sources.write c e.1 e.2) (fun _ => disk.SameDirectories files)
      fun e _ => ∃ e', e = .file e' := by
  unfold Sources.write
  rw [hget]
  refine (Ends.lift (Q := fun found s' => found = true ∧ disk.SameDirectories files s')
    ⟨?_, ?_⟩).bind ?_
  · rw [disk.isDirectory_eq, hs, hdirectory]
  · rw [SameDirectories, disk.content_isDirectory]
    exact hs
  · rintro _ s' ⟨rfl, hs'⟩
    exact Ends.mapM (fun f _ _ => disk.ends_write_file directory f) hs'

lemma ends_write {r : Report} (hready : disk.Ready files c r.outputs.toList)
    (hs : disk.content s = files) :
    Ends s (r.write c) (fun _ _ => True) fun e _ => ∃ e', e = .file e' := by
  have hsame : disk.SameDirectories files s := congrArg disk.isDirectory hs
  refine (Ends.mapM (fun e he s hs => ?_) hsame).bind fun _ _ _ => trivial
  obtain ⟨directory, hget, hdirectory⟩ := hready e he
  exact disk.ends_write_sources hget hdirectory hs

/-! ## Generations -/

/-- A failure that has changed nothing, unless it is a file that cannot be written. -/
def Harmless (files : φ) (e : CommandError) (s : σ) : Prop :=
  (∃ e', e = .write (.file e')) ∨ (∀ e', e ≠ .write e') ∧ disk.content s = files

lemma Keeps.bind {disk : Disk σ φ} {x : Action (StateM σ) α} {f : α → Action (StateM σ) β}
    {Q : β → σ → Prop} (hx : disk.Keeps files x) (hs : disk.content s = files)
    (hf : ∀ a s', disk.content s' = files → Ends s' (f a) Q (disk.Harmless files)) :
    Ends s (x >>= f) Q (disk.Harmless files) :=
  ((hx s hs).mono (fun _ _ h => h) fun _ _ h => .inr h).bind hf

/-- Once the report is there, only a file can be in the way of its writing. -/
lemma ends_deliver {settings : Settings} {report : Report} (strict : Bool)
    (hready : disk.Ready files settings.config report.outputs.toList)
    (hs : disk.content s = files) :
    Ends s (deliver settings strict report) (fun _ _ => True) (disk.Harmless files) := by
  unfold deliver
  split
  · exact .inr ⟨nofun, hs⟩
  · have hwrite := disk.ends_write hready hs
    refine ((Ends.adapt (hwrite.mono (fun _ _ h => h) ?_)).bind fun _ _ _ => ?_)
    · rintro _ s' ⟨e', rfl⟩
      exact .inl ⟨e', rfl⟩
    · exact Ends.forM (I := fun _ => True) (fun _ _ _ _ => trivial) trivial

lemma ends_generateWith (settings : Settings) (strict : Bool) (hs : disk.content s = files) :
    Ends s (generateWith settings strict) (fun _ _ => True) (disk.Harmless files) := by
  refine (disk.keeps_loadTree files _ _).bind hs fun t s' hs' => ?_
  refine Ends.bind ((disk.ends_generateFiles settings t hs').mono (fun _ _ h => h)
    fun _ _ h => .inr h) ?_
  rintro report s'' ⟨hready, hs''⟩
  exact (disk.keeps_warnAll files _).bind hs'' fun _ _ => disk.ends_deliver strict hready

lemma ends_generateFrom (file : ProjectFile) (overrides : Overrides) (strict : Bool)
    (hs : disk.content s = files) :
    Ends s (generateFrom file overrides strict) (fun _ _ => True) (disk.Harmless files) := by
  unfold generateFrom
  cases Settings.resolve file overrides with
  | error e => exact .inr ⟨nofun, hs⟩
  | ok settings =>
    dsimp only
    rw [pure_bind]
    split
    · exact .inr ⟨nofun, hs⟩
    · exact disk.ends_generateWith settings strict hs

lemma ends_runGenerate (config : Option String) (overrides : Overrides) (strict : Bool)
    (hs : disk.content s = files) :
    Ends s (runGenerate config overrides strict) (fun _ _ => True) (disk.Harmless files) := by
  cases config with
  | none => exact disk.ends_generateFrom .empty overrides strict hs
  | some path =>
    exact (disk.keeps_loadProject files path).bind hs fun file _ =>
      disk.ends_generateFrom file overrides strict

end Disk

namespace Command

variable [Host (StateM σ)] {s s' : σ} {config : Option String} {overrides : Overrides}
  {strict : Bool} {e : CommandError}

/-- **Failed generations.**  A generation never fails for a missing output directory once it writes,
and when it fails for anything but a file that cannot be written, the disk is as it was. -/
theorem runGenerate_failed (disk : Disk σ φ)
    (h : runFrom s (runGenerate config overrides strict) = (.error e, s')) :
    (∀ target path, e ≠ .write (.noDirectory target path)) ∧
      ((∀ e', e ≠ .write (.file e')) → disk.content s' = disk.content s) := by
  have hends := disk.ends_runGenerate config overrides strict (s := s) rfl
  rw [Ends, h] at hends
  rcases hends with ⟨e', rfl⟩ | ⟨hne, hsame⟩
  · exact ⟨nofun, fun hne => absurd rfl (hne e')⟩
  · exact ⟨fun target path => hne _, fun _ => hsame⟩

/-- The settings of a run for two targets on the session of `StrictRun.greeting`, where the second
one has no output directory. -/
def oneDirectoryOfTwo : Settings := ⟨"texts.json", ⟨none, "nl", ⟨some "web", none, some "missing"⟩⟩⟩

lemma run_existing_oneDirectoryOfTwo :
    StrictRun.greeting.session.run (existing oneDirectoryOfTwo.config) =
      (.ok ["web"], StrictRun.greeting.session) := by
  have hmissing : StrictRun.greeting.session.files.isDirectory "missing" = false := by cbv
  have hweb := StrictRun.greeting.directories (.js, "web") (List.mem_singleton_self _)
  rw [run_existing]
  change (Except.ok (["web", "missing"].filter StrictRun.greeting.session.files.isDirectory), _) = _
  rw [List.filter_cons_of_pos hweb, List.filter_cons_of_neg (by rw [hmissing]; decide)]
  rfl

lemma run_generateWith_oneDirectoryOfTwo :
    StrictRun.greeting.session.run (generateWith oneDirectoryOfTwo false) =
      (.error (.generation (.missingDirectory .rust (some "missing"))),
        StrictRun.greeting.session) := by
  unfold generateWith
  change StrictRun.greeting.session.run (loadTree "texts.json" "nl" >>= _) = _
  rw [Session.run_bind_of_ok (run_loadTree_of_tree? tree?_greeting)]
  refine Session.run_bind_of_error ?_
  unfold generateFiles
  rw [Session.run_bind_of_ok run_existing_oneDirectoryOfTwo]
  rfl

theorem runGenerate_failed_missing :
    ∃ s', runFrom StrictRun.greeting.session (runGenerate none
        ⟨some "texts.json", some "nl", none, [(.js, "web"), (.rust, "missing")]⟩ false) =
          (.error (.generation (.missingDirectory .rust (some "missing"))), s') ∧
      s'.files = StrictRun.greeting.session.files := by
  have hsettings : Settings.resolve .empty
      ⟨some "texts.json", some "nl", none, [(.js, "web"), (.rust, "missing")]⟩ =
        .ok oneDirectoryOfTwo := by decide +kernel
  have hfailed := (run_runGenerate StrictRun.greeting.readable hsettings (by decide)).trans
    run_generateWith_oneDirectoryOfTwo
  exact ⟨_, hfailed, (runGenerate_failed Session.disk hfailed).2 nofun⟩

end Command

end Phrasebook
