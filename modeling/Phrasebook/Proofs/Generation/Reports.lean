import Phrasebook.Proofs.Generation.Overflow

/-!
# Reports

What stands in the way of a tree stands in the way of every target (`Tree.vet`).  If nothing does,
then nothing can fail any more: both ways to generate give the report `Tree.report`, whose errors
are those of the plan whatever the targets are (`Tree.isClean_report_iff`).  Otherwise there is one
error everywhere.  Without targets only `generateSources` looks at the tree, and only at whether it
passes `checkTree`.
-/

namespace Phrasebook

lemma PerTarget.mem_toList_iff {α : Type*} {p : PerTarget α} {target : Target} {a : α} :
    (target, a) ∈ p.toList ↔ p.get? target = some a := by
  rw [toList, List.mem_filterMap]
  constructor
  · rintro ⟨target', -, h⟩
    obtain ⟨_, hget, h⟩ := Option.map_eq_some_iff.1 h
    cases h
    exact hget
  · intro h
    exact ⟨target, by cases target <;> decide, by rw [h, Option.map_some]⟩

namespace Report

lemma addErrors_eq_nil_iff {errors more : List KeyError} :
    addErrors errors more = [] ↔ errors = [] ∧ more = [] := by
  induction more generalizing errors with
  | nil => exact (and_iff_left rfl).symm
  | cons e rest ih =>
    rw [addErrors, ih]
    refine iff_of_false (fun h => ?_) fun h => nomatch h.2
    split at h
    · rename_i he
      rw [h.1] at he
      exact nomatch he
    · exact List.cons_ne_nil _ _ (List.append_eq_nil_iff.1 h.1).2

lemma isClean_iff {r : Report} : r.isClean ↔ r.errors = [] := List.isEmpty_iff

lemma isClean_foldl_add {r : Report} {outputs : List TargetOutput} :
    (outputs.foldl add r).isClean ↔ r.isClean ∧ ∀ o ∈ outputs, o.errors = [] := by
  induction outputs generalizing r with
  | nil => exact (and_iff_left nofun).symm
  | cons o rest ih =>
    rw [List.foldl_cons, ih, List.forall_mem_cons, isClean_iff, isClean_iff, add,
      addErrors_eq_nil_iff, and_assoc]

end Report

/-! ## Trees that are generated -/

namespace Tree

variable {t : Tree} {c : Config} {targets : List Target}

/-- The report of a tree that is generated. -/
def report (t : Tree) (c : Config) (targets : List Target) : Report :=
  (targets.map fun target => target.dialect.generate t c).foldl Report.add .empty

/-- The report has no errors exactly if the plan has none, for whichever targets. -/
lemma isClean_report_iff (h : targets ≠ []) :
    (t.report c targets).isClean ↔ t.plan.errors = [] := by
  obtain ⟨target, htarget⟩ := List.exists_mem_of_ne_nil targets h
  rw [report, Report.isClean_foldl_add, List.forall_mem_map]
  exact ⟨fun h => h.2 target htarget, fun h => ⟨rfl, fun _ _ => h⟩⟩

lemma generateTarget_eq_ok (h : t.vet c = .ok ()) (target : Target) :
    generateTarget t c target = .ok (target.dialect.generate t c) :=
  (generateTarget_eq_ok_iff t c target _).2 ⟨h, rfl⟩

lemma generateSources_eq_report (h : t.vet c = .ok ()) :
    generateSources t c targets = .ok (t.report c targets) := by
  suffices hfold : ∀ r : Report,
      targets.foldlM (fun r target => return r.add (← generateTarget t c target)) r =
        (.ok ((targets.map fun target => target.dialect.generate t c).foldl Report.add r) :
          Except GenerationError Report) by
    rw [generateSources, (vet_eq_ok_iff.1 h).1]
    exact hfold .empty
  induction targets with
  | nil => exact fun r => rfl
  | cons target rest ih =>
    intro r
    rw [List.foldlM_cons, generateTarget_eq_ok h]
    exact ih (r.add _)

lemma mapM_generateTarget (h : t.vet c = .ok ()) (targets : List Target) :
    targets.mapM (generateTarget t c) = .ok (targets.map fun target =>
      target.dialect.generate t c) := by
  induction targets with
  | nil => rfl
  | cons target rest ih =>
    rw [List.mapM_cons, generateTarget_eq_ok h, ih]
    rfl

lemma generateEach_eq_report {isDirectory : String → Bool} (h : t.vet c = .ok ())
    (hdirectories : c.checkDirectories isDirectory targets = .ok ()) :
    generateEach isDirectory t c targets = .ok (t.report c targets) := by
  rw [generateEach, hdirectories, mapM_generateTarget h]
  rfl

/-! ## Trees that are not generated -/

/-- A tree that is not generated fails in the same way for every target. -/
lemma generateTarget_eq_error {e : GenerationError} (h : t.vet c = .error e)
    (target : Target) : generateTarget t c target = .error e := by
  rw [generateTarget_eq, h]
  rfl

lemma generateSources_nil (t : Tree) (c : Config) :
    generateSources t c [] = (checkTree t c).map fun _ => .empty := by
  rw [generateSources]
  cases checkTree t c <;> rfl

lemma generateSources_of_checkTree_eq_error {e : GenerationError} (h : checkTree t c = .error e) :
    generateSources t c targets = .error e := by
  rw [generateSources, h]
  rfl

lemma generateSources_eq_error {e : GenerationError} (h : t.vet c = .error e)
    (hne : targets ≠ []) : generateSources t c targets = .error e := by
  obtain ⟨target, rest, rfl⟩ := List.exists_cons_of_ne_nil hne
  cases hcheck : checkTree t c with
  | error e' =>
    cases (vet_of_checkTree_eq_error hcheck).symm.trans h
    exact generateSources_of_checkTree_eq_error hcheck
  | ok u =>
    rw [generateSources, hcheck, List.foldlM_cons, generateTarget_eq_error h]
    rfl

lemma generateEach_eq_error {isDirectory : String → Bool} {e : GenerationError}
    (h : t.vet c = .error e)
    (hdirectories : c.checkDirectories isDirectory targets = .ok ()) (hne : targets ≠ []) :
    generateEach isDirectory t c targets = .error e := by
  obtain ⟨target, rest, rfl⟩ := List.exists_cons_of_ne_nil hne
  rw [generateEach, hdirectories, List.mapM_cons, generateTarget_eq_error h]
  rfl

end Tree

/-! ## Output directories -/

lemma Config.checkDirectories_eq_ok {c : Config} {isDirectory : String → Bool}
    {targets : List Target}
    (h : ∀ target ∈ targets, ∃ path, c.outputs.get? target = some path ∧ isDirectory path) :
    c.checkDirectories isDirectory targets = .ok () := by
  induction targets with
  | nil => rfl
  | cons target rest ih =>
    obtain ⟨⟨path, hpath, hdirectory⟩, hrest⟩ := List.forall_mem_cons.1 h
    rw [checkDirectories, hpath]
    dsimp only
    rw [if_pos hdirectory, ih hrest]

lemma Config.exists_directory_of_checkDirectories {c : Config} {isDirectory : String → Bool}
    {targets : List Target} (h : c.checkDirectories isDirectory targets = .ok ()) :
    ∀ target ∈ targets, ∃ path, c.outputs.get? target = some path ∧ isDirectory path := by
  induction targets with
  | nil => exact nofun
  | cons target rest ih =>
    rw [checkDirectories] at h
    split at h
    · rename_i path hpath
      split at h
      · rename_i hdirectory
        exact List.forall_mem_cons.2 ⟨⟨path, hpath, hdirectory⟩, ih h⟩
      · exact nomatch h
    · exact nomatch h

/-- Whatever is generated is the report of the tree, with an output directory for each target. -/
lemma Tree.eq_of_generateEach_eq_ok {t : Tree} {c : Config} {targets : List Target}
    {isDirectory : String → Bool} {r : Report} (h : generateEach isDirectory t c targets = .ok r) :
    c.checkDirectories isDirectory targets = .ok () ∧ r = t.report c targets := by
  cases hdirectories : c.checkDirectories isDirectory targets with
  | error e =>
    rw [generateEach, hdirectories] at h
    exact nomatch h
  | ok u =>
    refine ⟨rfl, ?_⟩
    cases hvet : t.vet c with
    | ok u =>
      rw [generateEach_eq_report hvet hdirectories] at h
      exact (Except.ok.inj h).symm
    | error e =>
      by_cases hne : targets = []
      · subst hne
        exact (Except.ok.inj h).symm
      · rw [generateEach_eq_error hvet hdirectories hne] at h
        exact nomatch h

end Phrasebook
