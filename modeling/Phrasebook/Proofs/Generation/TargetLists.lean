import Phrasebook.Proofs.Generation.Reports
import Phrasebook.Proofs.Plan.Pruning

/-!
# Which targets are asked for

A list of targets may name them in any order and more than once.  A report does not show it: it has
one place for each target, and lists each error once (`Report.addErrors_eq`).

* The output of a target is what the target comes to when it is generated alone.
* The errors are those of the plan, which knows no target, without repetitions
  (`Tree.errors_report`).

The main result is `generateSources_of_targets`: only the set of the targets matters, and for the
errors only whether there is any target.
-/

namespace Phrasebook

lemma PerTarget.ext_get? {α : Type*} {p q : PerTarget α}
    (h : ∀ target, p.get? target = q.get? target) : p = q := by
  obtain ⟨pjs, pkotlin, prust⟩ := p
  obtain ⟨qjs, qkotlin, qrust⟩ := q
  obtain rfl : pjs = qjs := h .js
  obtain rfl : pkotlin = qkotlin := h .kotlin
  obtain rfl : prust = qrust := h .rust
  rfl

/-- The targets with a value are listed once each, in their order. -/
lemma PerTarget.map_fst_toList {α : Type*} (p : PerTarget α) :
    p.toList.map (·.1) = Target.all.filter fun target => (p.get? target).isSome := by
  rw [toList]
  induction Target.all with
  | nil => rfl
  | cons target rest ih =>
    rw [List.filterMap_cons, List.filter_cons]
    cases p.get? target with
    | none => exact ih
    | some a => exact congrArg (target :: ·) ih

/-! ## Adding to a report -/

namespace Report

variable {errors more : List KeyError} {r : Report} {outputs : List TargetOutput}

/-- Of the errors that come in, those that are new are added, each of them once. -/
lemma addErrors_eq (errors more : List KeyError) :
    addErrors errors more = errors ++ (more.filter (· ∉ errors)).eraseDups := by
  induction more generalizing errors with
  | nil => simp [addErrors]
  | cons e rest ih =>
    rw [addErrors, ih]
    by_cases he : e ∈ errors
    · rw [if_pos he, List.filter_cons_of_neg (by simpa using he)]
    · rw [if_neg he, List.filter_cons_of_pos (by simpa using he), List.eraseDups_cons,
        List.append_assoc, List.singleton_append, List.filter_filter]
      congr 4
      funext e'
      by_cases h : e' = e <;> simp [h]

lemma addErrors_nil (more : List KeyError) : addErrors [] more = more.eraseDups := by
  simp [addErrors_eq]

lemma addErrors_of_subset (h : more ⊆ errors) : addErrors errors more = errors := by
  have hnone : more.filter (· ∉ errors) = [] :=
    List.filter_eq_nil_iff.2 fun e he => by simpa using h he
  rw [addErrors_eq, hnone, List.eraseDups_nil, List.append_nil]

/-- Outputs without a new error leave the errors as they are. -/
lemma errors_foldl_add (h : ∀ o ∈ outputs, o.errors ⊆ r.errors) :
    (outputs.foldl add r).errors = r.errors := by
  induction outputs generalizing r with
  | nil => rfl
  | cons o rest ih =>
    obtain ⟨ho, hrest⟩ := List.forall_mem_cons.1 h
    have herrors : (r.add o).errors = r.errors := addErrors_of_subset ho
    rw [List.foldl_cons, ih (by rwa [herrors]), herrors]

end Report

/-! ## The report of a tree -/

lemma Dialect.target_generate (target : Target) (t : Tree) (c : Config) :
    (target.dialect.generate t c).sources.target = target := by
  cases target <;> rfl

namespace Tree

variable {t : Tree} {c : Config} {targets : List Target}

/-- The report has the files of the targets that are asked for. -/
lemma get?_outputs_report (t : Tree) (c : Config) (targets : List Target) (target : Target) :
    (t.report c targets).outputs.get? target =
      if target ∈ targets then some (target.dialect.generate t c).sources else none := by
  suffices hfold : ∀ r : Report,
      ((targets.map fun target => target.dialect.generate t c).foldl Report.add r).outputs.get?
          target =
        if target ∈ targets then some (target.dialect.generate t c).sources
        else r.outputs.get? target by
    rw [report, hfold]
    cases target <;> rfl
  induction targets with
  | nil => exact fun r => (if_neg List.not_mem_nil).symm
  | cons first rest ih =>
    intro r
    rw [List.map_cons, List.foldl_cons, ih, Report.add, Dialect.target_generate]
    dsimp only
    rw [PerTarget.get?_set]
    by_cases hrest : target ∈ rest
    · rw [if_pos hrest, if_pos (List.mem_cons_of_mem _ hrest)]
    · by_cases hfirst : target = first
      · simp [hfirst]
      · simp [hfirst, hrest]

/-- The report has the errors of the plan, each of them once. -/
lemma errors_report (h : targets ≠ []) :
    (t.report c targets).errors = t.plan.errors.eraseDups := by
  obtain ⟨target, rest, rfl⟩ := List.exists_cons_of_ne_nil h
  have hfirst : (Report.empty.add (target.dialect.generate t c)).errors =
      t.plan.errors.eraseDups := Report.addErrors_nil _
  rw [report, List.map_cons, List.foldl_cons, Report.errors_foldl_add, hfirst]
  rw [hfirst, List.forall_mem_map]
  exact fun _ _ _ he => List.mem_eraseDups.2 he

lemma eq_nil_iff_of_mem_iff {targets' : List Target}
    (h : ∀ target, target ∈ targets ↔ target ∈ targets') : targets = [] ↔ targets' = [] := by
  rw [List.eq_nil_iff_forall_not_mem, List.eq_nil_iff_forall_not_mem]
  exact forall_congr' fun target => not_congr (h target)

lemma report_congr {targets' : List Target} (h : ∀ target, target ∈ targets ↔ target ∈ targets') :
    t.report c targets = t.report c targets' := by
  have houtputs : (t.report c targets).outputs = (t.report c targets').outputs :=
    PerTarget.ext_get? fun target => by simp only [get?_outputs_report, h]
  have herrors : (t.report c targets).errors = (t.report c targets').errors := by
    by_cases hnone : targets = []
    · rw [hnone, (eq_nil_iff_of_mem_iff h).1 hnone]
    · rw [errors_report hnone, errors_report (mt (eq_nil_iff_of_mem_iff h).2 hnone)]
  rw [Report.mk.injEq]
  exact ⟨houtputs, herrors⟩

/-- Generating for some targets gives the report of the tree, unless something is in its way. -/
lemma generateSources_eq (t : Tree) (c : Config) (hne : targets ≠ []) :
    generateSources t c targets = (t.vet c).map fun _ => t.report c targets := by
  cases h : t.vet c with
  | error e => exact generateSources_eq_error h hne
  | ok u => exact generateSources_eq_report h

/-- There is a report if the tree passes, and fits where there are targets. -/
lemma generateSources_eq_ok_iff {r : Report} :
    generateSources t c targets = .ok r ↔
      (checkTree t c = .ok () ∧ (targets ≠ [] → t.vet c = .ok ())) ∧
        t.report c targets = r := by
  by_cases hne : targets = []
  · subst hne
    rw [generateSources_nil]
    cases checkTree t c with
    | error e => exact ⟨nofun, fun h => nomatch h.1.1⟩
    | ok u =>
      exact ⟨fun h => ⟨⟨rfl, fun hne => absurd rfl hne⟩, Except.ok.inj h⟩,
        fun h => congrArg Except.ok h.2⟩
  · rw [generateSources_eq t c hne]
    cases hvet : t.vet c with
    | error e => exact ⟨nofun, fun h => nomatch h.1.2 hne⟩
    | ok u =>
      exact ⟨fun h => ⟨⟨checkTree_of_vet hvet, fun _ => rfl⟩, Except.ok.inj h⟩,
        fun h => congrArg Except.ok h.2⟩

end Tree

/-! ## What a report holds -/

/-- The report holds what the targets come to when each of them is generated alone. -/
structure Report.Gathers (t : Tree) (c : Config) (targets : List Target) (r : Report) : Prop where
  /-- The targets that are asked for, and no others, have an output, once each. -/
  listed : r.outputs.toList.map (·.1) = Target.all.filter (· ∈ targets)
  /-- The output of a target is the one that it has alone. -/
  output : ∀ target sources, r.outputs.get? target = some sources ↔
    target ∈ targets ∧ ∃ errors, generateTarget t c target = .ok ⟨sources, errors⟩
  /-- The files stand under the target they are written in. -/
  placed : ∀ target sources, r.outputs.get? target = some sources → sources.target = target
  /-- The errors are those of any target that is asked for, each of them once. -/
  errors : ∀ target ∈ targets, ∀ out, generateTarget t c target = .ok out →
    r.errors = out.errors.eraseDups
  /-- No error is listed twice. -/
  nodup : r.errors.Nodup

lemma Tree.gathers_report {t : Tree} {c : Config} {targets : List Target}
    (h : targets ≠ [] → t.vet c = .ok ()) : (t.report c targets).Gathers t c targets := by
  constructor
  case listed =>
    rw [PerTarget.map_fst_toList]
    refine List.filter_congr fun target _ => ?_
    rw [get?_outputs_report]
    by_cases ht : target ∈ targets <;> simp [ht]
  case output =>
    intro target sources
    rw [get?_outputs_report, Option.ite_none_right_eq_some]
    refine and_congr_right fun ht => ?_
    rw [generateTarget_eq_ok (h (List.ne_nil_of_mem ht))]
    refine ⟨?_, ?_⟩
    · rintro ⟨⟩
      exact ⟨_, rfl⟩
    · rintro ⟨_, hout⟩
      rw [Except.ok.inj hout]
  case placed =>
    intro target sources hget
    rw [get?_outputs_report, Option.ite_none_right_eq_some] at hget
    obtain ⟨-, ⟨⟩⟩ := hget
    exact Dialect.target_generate target t c
  case errors =>
    intro target ht out hout
    obtain ⟨-, rfl⟩ := (generateTarget_eq_ok_iff t c target out).1 hout
    exact errors_report (List.ne_nil_of_mem ht)
  case nodup =>
    by_cases hnone : targets = []
    · rw [hnone]
      exact .nil
    · rw [errors_report hnone]
      exact nodup_eraseDups _

/-- **Only the set of the targets matters.**  Lists with the same targets give the same report or
the same error.  A report holds one output for each target, the one that it has alone, and lists no
error twice; whichever targets are asked for, its errors are the same. -/
theorem generateSources_of_targets (t : Tree) (c : Config) :
    (∀ targets targets' : List Target, (∀ target, target ∈ targets ↔ target ∈ targets') →
      generateSources t c targets = generateSources t c targets') ∧
    (∀ targets r, generateSources t c targets = .ok r → r.Gathers t c targets) ∧
    ∀ targets targets' r r', targets ≠ [] → targets' ≠ [] →
      generateSources t c targets = .ok r → generateSources t c targets' = .ok r' →
        r.errors = r'.errors := by
  refine ⟨fun targets targets' h => ?_, fun targets r hr => ?_, ?_⟩
  · by_cases hnone : targets = []
    · rw [hnone, (Tree.eq_nil_iff_of_mem_iff h).1 hnone]
    · have hsome : targets' ≠ [] := mt (Tree.eq_nil_iff_of_mem_iff h).2 hnone
      rw [Tree.generateSources_eq t c hnone, Tree.generateSources_eq t c hsome,
        Tree.report_congr h]
  · obtain ⟨⟨-, hvet⟩, rfl⟩ := Tree.generateSources_eq_ok_iff.1 hr
    exact Tree.gathers_report hvet
  · intro targets targets' r r' hne hne' hr hr'
    obtain ⟨-, rfl⟩ := Tree.generateSources_eq_ok_iff.1 hr
    obtain ⟨-, rfl⟩ := Tree.generateSources_eq_ok_iff.1 hr'
    rw [Tree.errors_report hne, Tree.errors_report hne']

theorem generateSources_of_targets_gappy :
    ∃ r r', generateSources .gappy (.ofLanguage "nl") [.rust, .js, .rust] = .ok r ∧
      generateSources .gappy (.ofLanguage "nl") [.js, .rust] = .ok r ∧
      r.Gathers .gappy (.ofLanguage "nl") [.rust, .js, .rust] ∧
      generateSources .gappy (.ofLanguage "nl") [.kotlin] = .ok r' ∧ r.errors = r'.errors := by
  obtain ⟨hset, hgathers, herrors⟩ := generateSources_of_targets .gappy (.ofLanguage "nl")
  have hr : generateSources .gappy (.ofLanguage "nl") [.rust, .js, .rust] = .ok _ :=
    Tree.generateSources_eq_report Tree.vet_gappy
  have hr' : generateSources .gappy (.ofLanguage "nl") [.kotlin] = .ok _ :=
    Tree.generateSources_eq_report Tree.vet_gappy
  have htargets := hset [.rust, .js, .rust] [.js, .rust] fun target => by cases target <;> decide
  exact ⟨_, _, hr, htargets.symm.trans hr, hgathers _ _ hr, hr',
    herrors _ _ _ _ (List.cons_ne_nil _ _) (List.cons_ne_nil _ _) hr hr'⟩

end Phrasebook
