import Phrasebook.Proofs.Generation.Reports

/-!
# Generating targets side by side

`generateEach` makes each target for itself, so the targets can be made at the same time.  What is
gathered in the end then depends on which of them fails first: `Gathered` leaves that open, and
`GeneratedSideBySide` is what a generation may come to.

* It comes to one thing only, the outcome of `generateEach`: if one target fails, all of them fail
  with the error of the tree (`Tree.generateTarget_eq_error`).
* `generate` checks the tree before it looks at the targets.  So the two differ where there is no
  target and the tree does not pass, and nowhere else.

Both are in the main result, `generateEach_spec`.
-/

namespace Phrasebook

/-! ## Gathering -/

/-- What results that are made at the same time may be gathered to: all of them in their places, or
the error of any one that failed. -/
inductive Gathered {ε α : Type*} : List (Except ε α) → Except ε (List α) → Prop
  /-- No result is an error. -/
  | all (as : List α) : Gathered (as.map .ok) (.ok as)
  /-- Some result is this error. -/
  | failed {results : List (Except ε α)} {e : ε} (h : .error e ∈ results) :
      Gathered results (.error e)

section Gathered

variable {ε α β : Type*} {e : ε} {gathered : Except ε (List β)}

lemma gathered_map_ok_iff {as : List β} :
    Gathered (as.map (.ok : β → Except ε β)) gathered ↔ gathered = .ok as := by
  constructor
  · intro h
    generalize hresults : as.map (.ok : β → Except ε β) = results at h
    cases h with
    | all as' =>
      have hinj : Function.Injective (Except.ok : β → Except ε β) := fun _ _ h => Except.ok.inj h
      rw [List.map_injective_iff.2 hinj hresults]
    | failed he =>
      rw [← hresults] at he
      obtain ⟨_, -, he⟩ := List.mem_map.1 he
      exact nomatch he
  · rintro rfl
    exact .all as

lemma gathered_map_error_iff {as : List α} (h : as ≠ []) :
    Gathered (as.map fun _ => (.error e : Except ε β)) gathered ↔ gathered = .error e := by
  obtain ⟨a, rest, rfl⟩ := List.exists_cons_of_ne_nil h
  constructor
  · intro hg
    generalize hresults : (a :: rest).map (fun _ => (.error e : Except ε β)) = results at hg
    cases hg with
    | all as' =>
      cases as' with
      | nil => exact nomatch hresults
      | cons b bs => exact nomatch (List.cons.inj hresults).1
    | failed he =>
      rw [← hresults] at he
      obtain ⟨_, -, he⟩ := List.mem_map.1 he
      rw [Except.error.inj he]
  · rintro rfl
    exact .failed List.mem_cons_self

end Gathered

/-- What generating targets at the same time may come to: the directories are checked first. -/
def GeneratedSideBySide (isDirectory : String → Bool) (t : Tree) (c : Config)
    (targets : List Target) (outcome : Except GenerationError Report) : Prop :=
  match c.checkDirectories isDirectory targets with
  | .error e => outcome = .error e
  | .ok () => ∃ gathered, Gathered (targets.map (generateTarget t c)) gathered ∧
      outcome = gathered.map fun outputs => outputs.foldl Report.add .empty

/-! ## The two ways to generate -/

variable {isDirectory : String → Bool} {t : Tree} {c : Config} {targets : List Target}

/-- Whichever target fails first, the outcome is the same. -/
lemma generatedSideBySide_iff {outcome : Except GenerationError Report} :
    GeneratedSideBySide isDirectory t c targets outcome ↔
      outcome = generateEach isDirectory t c targets := by
  unfold GeneratedSideBySide
  cases hdirectories : c.checkDirectories isDirectory targets with
  | error e =>
    rw [generateEach, hdirectories]
    rfl
  | ok u =>
    cases hvet : t.vet c with
    | ok u =>
      have hresults : targets.map (generateTarget t c) =
          (targets.map fun target => target.dialect.generate t c).map .ok := by
        rw [List.map_map]
        exact List.map_congr_left fun target _ => Tree.generateTarget_eq_ok hvet target
      rw [Tree.generateEach_eq_report hvet hdirectories, hresults]
      simp only [gathered_map_ok_iff, exists_eq_left]
      rfl
    | error e =>
      have hresults : targets.map (generateTarget t c) = targets.map fun _ => .error e :=
        List.map_congr_left fun target _ => Tree.generateTarget_eq_error hvet target
      by_cases hnone : targets = []
      · subst hnone
        have hempty : ∀ gathered,
            Gathered ([] : List (Except GenerationError TargetOutput)) gathered ↔
              gathered = .ok [] := fun gathered => @gathered_map_ok_iff _ _ gathered []
        simp only [List.map_nil, hempty, exists_eq_left]
        rfl
      · rw [Tree.generateEach_eq_error hvet hdirectories hnone, hresults]
        simp only [gathered_map_error_iff hnone, exists_eq_left]
        rfl

lemma generate_eq_generateSources (h : c.checkDirectories isDirectory targets = .ok ()) :
    generate isDirectory t c targets = generateSources t c targets := by
  rw [generate, h]
  rfl

lemma generateEach_eq_generate_iff : generateEach isDirectory t c targets =
    generate isDirectory t c targets ↔ targets ≠ [] ∨ checkTree t c = .ok () := by
  cases hdirectories : c.checkDirectories isDirectory targets with
  | error e =>
    refine iff_of_true ?_ (.inl fun hnone => ?_)
    · rw [generateEach, generate, hdirectories]
      rfl
    · have hok : c.checkDirectories isDirectory [] = .ok () := rfl
      rw [hnone, hok] at hdirectories
      cases hdirectories
  | ok u =>
    rw [generate_eq_generateSources hdirectories]
    by_cases hnone : targets = []
    · subst hnone
      have hempty : generateEach isDirectory t c [] = .ok .empty := rfl
      rw [hempty, t.generateSources_nil]
      cases checkTree t c with
      | ok u => exact iff_of_true rfl (.inr rfl)
      | error e => exact iff_of_false (by rintro ⟨⟩) (by rintro (h | ⟨⟨⟩⟩); exact h rfl)
    · refine iff_of_true ?_ (.inl hnone)
      cases hvet : t.vet c with
      | ok u =>
        rw [Tree.generateEach_eq_report hvet hdirectories, Tree.generateSources_eq_report hvet]
      | error e =>
        rw [Tree.generateEach_eq_error hvet hdirectories hnone,
          Tree.generateSources_eq_error hvet hnone]

/-- **Generating side by side and in turn.**  Whatever is made first, targets that are generated
side by side come to one outcome.  It is the outcome of generating them in turn, except where there
are no targets and the tree does not pass: there only the second way refuses the tree. -/
theorem generateEach_spec (isDirectory : String → Bool) (t : Tree) (c : Config)
    (targets : List Target) :
    (∀ outcome, GeneratedSideBySide isDirectory t c targets outcome ↔
      outcome = generateEach isDirectory t c targets) ∧
    (generateEach isDirectory t c targets = generate isDirectory t c targets ↔
      targets ≠ [] ∨ checkTree t c = .ok ()) :=
  ⟨fun _ => generatedSideBySide_iff, generateEach_eq_generate_iff⟩

/-- Without targets, a tree whose default language is not the one that is set goes through where
the targets are generated side by side, and is refused where they are generated in turn. -/
theorem generateEach_ne_generate_empty :
    generateEach (fun _ => true) (.empty "nl") (.ofLanguage "en") [] = .ok .empty ∧
      generate (fun _ => true) (.empty "nl") (.ofLanguage "en") [] =
        .error (.languageMismatch "nl" "en") ∧
      generateEach (fun _ => true) (.empty "nl") (.ofLanguage "en") [] ≠
        generate (fun _ => true) (.empty "nl") (.ofLanguage "en") [] := by
  have hcheck : checkTree (.empty "nl") (.ofLanguage "en") =
      .error (.languageMismatch "nl" "en") := by decide +kernel
  have hgenerate : generate (fun _ => true) (.empty "nl") (.ofLanguage "en") [] =
      .error (.languageMismatch "nl" "en") := by
    rw [generate_eq_generateSources rfl, Tree.generateSources_nil, hcheck]
    rfl
  refine ⟨rfl, hgenerate, ?_⟩
  rw [hgenerate]
  exact nofun

end Phrasebook
