import Phrasebook.Proofs.Binding.FileNames
import Phrasebook.Proofs.Generation.Reports
import Phrasebook.Proofs.Plan.Translating

/-!
# A translation only touches its own language

When a value gets a translation, the steps of the plan are the same but for texts in the language of
the translation (`Tree.Translated.plan`).  What is read off the steps for another purpose than this
language is the same, therefore.

* The tables of other languages have the same entries, and there are the same of them.
* The binding declares the same, with the same texts (`Step.Extended.declaredAll_eq`).
* Only its epilogue, which names all tables, may have two lines more: one that brings in the table
  of the language, and one that calls its function.

The main result is `Tree.translation_spec`.
-/

namespace Phrasebook

/-! ## What other steps say -/

namespace Step.Extended

variable {language l : String} {steps steps' : List Step}

/-- The texts in another language are the same. -/
lemma filter_filings_eq (h : Extended language steps steps') (hl : l ≠ language) :
    (steps'.filterMap Step.filing?).filter (·.language = l) =
      (steps.filterMap Step.filing?).filter (·.language = l) := by
  induction h with
  | nil => rfl
  | text key text _ ih =>
    have hfiling : (Step.text key text language).filing? = some ⟨language, key, text⟩ := rfl
    rw [List.filterMap_cons_some hfiling, List.filter_cons_of_neg (by simpa using hl.symm), ih]
  | cons s _ ih =>
    rw [List.filterMap_cons, List.filterMap_cons]
    cases s.filing? with
    | none => exact ih
    | some f =>
      rw [List.filter_cons, List.filter_cons, ih]
  | list function a default hlength _ ih => exact ih

lemma filings_sublist (h : Extended language steps steps') :
    (steps.filterMap Step.filing?).Sublist (steps'.filterMap Step.filing?) := by
  induction h with
  | nil => exact .slnil
  | text key text _ ih => exact ih.cons _
  | cons s _ ih =>
    rw [List.filterMap_cons, List.filterMap_cons]
    cases s.filing? with
    | none => exact ih
    | some f => exact ih.cons_cons f
  | list function a default hlength _ ih => exact ih

/-- The same is declared, in the same words. -/
lemma declaredAll_eq (h : Extended language steps steps') (target : Target) (seen : List String) :
    declaredAll target seen steps' = declaredAll target seen steps := by
  induction h generalizing seen with
  | nil => rfl
  | text key text _ ih => exact ih seen
  | cons s _ ih => rw [declaredAll, declaredAll, ih]
  | list function a default hlength _ ih =>
    simp only [declaredAll, declared, seenAfter, hlength, ih]

end Step.Extended

/-! ## Sorted lists with one element more -/

section Sorted

variable {ls ls' : List String}

/-- An element more stands between the others. -/
lemma exists_split_of_sorted {x : String} (h : ls.Pairwise (· < ·)) (h' : ls'.Pairwise (· < ·))
    (hx : x ∉ ls) (hmem : ∀ l, l ∈ ls' ↔ l = x ∨ l ∈ ls) :
    ∃ before after, ls = before ++ after ∧ ls' = before ++ x :: after := by
  obtain ⟨before, after, rfl⟩ := List.append_of_mem ((hmem x).2 (.inl rfl))
  refine ⟨before, after, ?_, rfl⟩
  have hsub : (before ++ after).Sublist (before ++ x :: after) :=
    (List.Sublist.refl before).append (List.sublist_cons_self x after)
  have hx' : x ∉ before ++ after := by
    intro hx'
    have hnodup := (h'.imp fun hlt => ne_of_text_lt hlt).perm List.perm_middle Ne.symm
    exact (List.nodup_cons.1 hnodup).1 hx'
  refine (eq_of_sorted h (h'.sublist hsub) fun l => ?_).symm
  have hl := hmem l
  rw [List.perm_middle.mem_iff, List.mem_cons] at hl
  constructor
  · intro hmem
    exact (hl.1 (.inr hmem)).resolve_left fun e => hx' (e ▸ hmem)
  · intro hmem
    exact (hl.2 (.inr hmem)).resolve_left fun e => hx (e ▸ hmem)

end Sorted

/-! ## Naming one table more -/

/-- The line that brings in the table of a language, where the target needs one. -/
def Target.linkOf? (target : Target) (language : String) : Option String :=
  target.tableLink? (target.tableFunction language) (target.dialect.tableFile language)

/-- The line that calls the function of the table of a language. -/
def Target.callOf (target : Target) (language : String) : String :=
  target.tableCall language (target.tableFunction language)

/-- For a language more, an epilogue has the lines that name its table and no others. -/
lemma Target.exists_epilogue_insert (target : Target) (before after : List String)
    (language : String) :
    ∃ front middle behind : List String,
      target.epilogue (before ++ after) = Spelling.lines (front ++ middle ++ behind) ∧
        target.epilogue (before ++ language :: after) = Spelling.lines
          (front ++ (target.linkOf? language).toList ++ middle ++
            target.callOf language :: behind) := by
  have hlinks : (language :: after).filterMap target.linkOf? =
      (target.linkOf? language).toList ++ after.filterMap target.linkOf? := by
    rw [List.filterMap_cons]
    cases target.linkOf? language <;> rfl
  have hepilogue : ∀ ls, target.epilogue ls = Spelling.lines (ls.filterMap target.linkOf? ++
      target.callsOpening ++ ls.map target.callOf ++ target.callsClosing) := target.epilogue_eq
  refine ⟨before.filterMap target.linkOf?,
    after.filterMap target.linkOf? ++ target.callsOpening ++ before.map target.callOf,
    after.map target.callOf ++ target.callsClosing, ?_, ?_⟩
  · rw [hepilogue]
    simp [List.filterMap_append]
  · rw [hepilogue, List.filterMap_append, hlinks]
    simp

/-! ## Checking the languages -/

lemma checkLanguages_append_of_canonical {language : String} (h : LanguageTag.isCanonical language)
    (before after : List String) :
    checkLanguages (before ++ language :: after) = checkLanguages (before ++ after) := by
  induction before with
  | nil =>
    rw [List.nil_append, checkLanguages, checkLanguage, if_pos h]
    rfl
  | cons l rest ih => rw [List.cons_append, List.cons_append, checkLanguages, checkLanguages, ih]

namespace Tree

variable {t t' : Tree} {c : Config} {target : Target} {language text l : String}

/-- The language of the translation is one of the tree, and no other is new. -/
lemma Translated.mem_languages_iff (h : t.Translated language text t') :
    l ∈ t'.languages ↔ l = language ∨ l ∈ t.languages := by
  obtain ⟨before, v, v', after, hvalues, hvalues', hv⟩ := h.exists_values
  have hkeys : l ∈ v'.overrides.keys ↔ l = language ∨ l ∈ v.overrides.keys := by
    rw [hv.eq]
    exact SortedMap.mem_keys_insert_iff ..
  rw [Tree.mem_languages_iff, Tree.mem_languages_iff, h.defaultLanguage, hvalues, hvalues']
  simp only [List.mem_append, List.mem_cons, or_and_right, exists_or, exists_eq_left, hkeys,
    or_assoc]
  exact ⟨by grind, by grind⟩

/-- A tree with a translation into a well-formed language passes, or is refused, as before. -/
lemma Translated.checkTree_eq (h : t.Translated language text t')
    (hlanguage : LanguageTag.isCanonical language) : checkTree t' c = checkTree t c := by
  have hlanguages : checkLanguages t'.languages = checkLanguages t.languages := by
    have hsorted : ∀ t : Tree, t.languages.Pairwise (· < ·) := fun t => SortedMap.keys_pairwise _
    by_cases hold : language ∈ t.languages
    · rw [eq_of_sorted (hsorted t) (hsorted t') fun l => ?_]
      rw [h.mem_languages_iff]
      exact or_iff_right_of_imp fun e => e ▸ hold
    · obtain ⟨before, after, hsplit, hsplit'⟩ :=
        exists_split_of_sorted (hsorted t) (hsorted t') hold fun l => h.mem_languages_iff
      rw [hsplit, hsplit', checkLanguages_append_of_canonical hlanguage]
  rw [checkTree, checkTree, h.defaultLanguage, hlanguages]

/-- What stands in the way of the tree is what stood in its way before. -/
lemma Translated.vet_eq (h : t.Translated language text t')
    (hlanguage : LanguageTag.isCanonical language)
    (hsteps : Step.Extended language t.plan.steps t'.plan.steps) : t'.vet c = t.vet c := by
  have hfits : t'.Fits ↔ t.Fits := hsteps.fits_iff
  rw [vet, vet, h.checkTree_eq hlanguage]
  simp only [hfits]

/-! ## Tables -/

/-- The table file of a language, if a text is filed in it. -/
lemma get?_tables (t : Tree) (c : Config) (target : Target) (l : String) :
    (target.dialect.generate t c).sources.tables.get? l =
      if l ∈ t.filedLanguages then
        some ⟨target.dialect.tableFile l, target.dialect.tableHeader c.packageName l ++
          String.join (target.dialect.tableEntries l t.filings) ++ target.dialect.tableClosing⟩
      else none := by
  have hmem : l ∈ (target.dialect.generate t c).sources.tables.keys ↔ l ∈ t.filedLanguages :=
    mem_tables_iff
  rw [SortedMap.mem_keys_iff] at hmem
  cases hget : (target.dialect.generate t c).sources.tables.get? l with
  | none =>
    rw [hget] at hmem
    exact (if_neg fun h => by simpa using hmem.2 h).symm
  | some file =>
    rw [hget] at hmem
    have hfile := table_eq ((SortedMap.get?_eq_some_iff ..).1 hget)
    rw [if_pos (hmem.1 rfl), ← hfile]

section Extended

variable (h : Step.Extended language t.plan.steps t'.plan.steps)

include h

lemma tableEntries_eq_of_extended (hl : l ≠ language) :
    target.dialect.tableEntries l t'.filings = target.dialect.tableEntries l t.filings := by
  rw [Dialect.tableEntries, filings, h.filter_filings_eq hl]
  rfl

lemma mem_filedLanguages_iff_of_extended (hl : l ≠ language) :
    l ∈ t'.filedLanguages ↔ l ∈ t.filedLanguages := by
  have hfilter : ∀ fs : List Filing, l ∈ fs.map (·.language) ↔
      fs.filter (·.language = l) ≠ [] := by
    intro fs
    simp [List.filter_eq_nil_iff]
  rw [filedLanguages, filedLanguages, hfilter, hfilter, filings, h.filter_filings_eq hl]
  rfl

/-- There are tables for the same languages, or for the one language more. -/
lemma keys_cases_of_extended (c : Config) (target : Target) :
    (target.dialect.generate t' c).sources.tables.keys =
        (target.dialect.generate t c).sources.tables.keys ∨
      ∃ before after, (target.dialect.generate t c).sources.tables.keys = before ++ after ∧
        (target.dialect.generate t' c).sources.tables.keys = before ++ language :: after := by
  have hsorted := (target.dialect.generate t c).sources.tables.keys_pairwise
  have hsorted' := (target.dialect.generate t' c).sources.tables.keys_pairwise
  have hmem : ∀ l, l ∈ (target.dialect.generate t c).sources.tables.keys ↔ l ∈ t.filedLanguages :=
    fun l => mem_tables_iff
  have hmem' : ∀ l,
      l ∈ (target.dialect.generate t' c).sources.tables.keys ↔ l ∈ t'.filedLanguages :=
    fun l => mem_tables_iff
  have hold : language ∈ t.filedLanguages → language ∈ t'.filedLanguages := fun hl =>
    (h.filings_sublist.map _).subset hl
  have hother := fun l (hl : l ≠ language) => @mem_filedLanguages_iff_of_extended _ _ _ l h hl
  by_cases hnew : language ∈ t'.filedLanguages ∧ language ∉ t.filedLanguages
  · refine .inr (exists_split_of_sorted hsorted hsorted' ?_ fun l => ?_)
    · rw [hmem]
      exact hnew.2
    · rw [hmem, hmem']
      by_cases hl : l = language
      · subst hl
        exact iff_of_true hnew.1 (.inl rfl)
      · rw [hother l hl, or_iff_right hl]
  · refine .inl (eq_of_sorted hsorted hsorted' fun l => ?_)
    rw [hmem, hmem']
    by_cases hl : l = language
    · subst hl
      tauto
    · exact hother l hl

end Extended

/-! ## All files of a target -/

/-- The second output, that of `t` with a translation into `language` more, has nothing new but what
belongs to this language. -/
structure OnlyTouches (t t' : Tree) (c : Config) (target : Target) (language : String)
    (out out' : TargetOutput) : Prop where
  /-- The errors are the same. -/
  errors : out'.errors = out.errors
  /-- The table files of other languages are the same, and there are no others. -/
  tables : ∀ l ≠ language, out'.sources.tables.get? l = out.sources.tables.get? l
  /-- The binding file has the same name. -/
  bindingName : out'.sources.binding.name = out.sources.binding.name
  /-- The binding declares the same, -/
  declarations : t'.declarations target = t.declarations target
  /-- in the same words. -/
  declarationTexts : t'.declarationTexts target = t.declarationTexts target
  /-- Behind its declarations, the binding has the same lines, or it has two lines more: one that
  brings in the table file of the language, where the target needs one, and one that calls the
  function in it. -/
  binding : ∃ before middle after : List String,
    let front := target.opening c.packageName ++
      Spelling.lines (target.runtime c.defaultLanguage) ++ String.join (t.declarationTexts target)
    out.sources.binding.contents = front ++ Spelling.lines (before ++ middle ++ after) ∧
      (out'.sources.binding.contents = front ++ Spelling.lines (before ++ middle ++ after) ∨
        out'.sources.binding.contents = front ++ Spelling.lines
          (before ++ (target.linkOf? language).toList ++ middle ++
            target.callOf language :: after))

lemma onlyTouches_of_extended (h : Step.Extended language t.plan.steps t'.plan.steps)
    (herrors : t'.plan.errors = t.plan.errors) (c : Config) (target : Target) :
    t.OnlyTouches t' c target language (target.dialect.generate t c)
      (target.dialect.generate t' c) := by
  have hdeclared := h.declaredAll_eq target []
  have htexts : t'.declarationTexts target = t.declarationTexts target := by
    rw [declarationTexts, hdeclared]
    rfl
  constructor
  case errors => exact herrors
  case tables =>
    intro l hl
    rw [get?_tables, get?_tables, tableEntries_eq_of_extended h hl]
    simp only [mem_filedLanguages_iff_of_extended h hl]
  case bindingName => rfl
  case declarations =>
    rw [declarations, hdeclared]
    rfl
  case declarationTexts => exact htexts
  case binding =>
    rw [binding_contents, binding_contents, htexts]
    rcases keys_cases_of_extended h c target with hkeys | ⟨before, after, hkeys, hkeys'⟩
    · rw [hkeys, Target.epilogue_eq]
      exact ⟨[], [], _, rfl, .inl rfl⟩
    · obtain ⟨front, middle, behind, hold, hnew⟩ :=
        target.exists_epilogue_insert before after language
      rw [hkeys, hkeys', hold, hnew]
      exact ⟨front, middle, behind, rfl, .inr rfl⟩

/-- **A translation only touches its own language.**  Every value can be given a translation into a
well-formed language other than the default one.  If the text fits, the errors stay as they are, the
same targets can be generated, and of their files only the table of the language changes, and the
lines of the binding that name this table. -/
theorem translation_spec (hlanguage : LanguageTag.isCanonical language)
    (hne : language ≠ t.defaultLanguage) :
    (∀ v ∈ t.values, v.overrides.get? language = none →
      Placeholder.firstUnaddressed? text v.argumentCount = none →
      ∃ t', t.Translated language text t' ∧ v.setOverride language text ∈ t'.values) ∧
    ∀ t', t.Translated language text t' →
      t'.plan.errors = t.plan.errors ∧
      ∀ (c : Config) (target : Target),
        (∀ e, generateTarget t c target = .error e → generateTarget t' c target = .error e) ∧
        ∀ out, generateTarget t c target = .ok out → ∃ out',
          generateTarget t' c target = .ok out' ∧ t.OnlyTouches t' c target language out out' := by
  refine ⟨fun v hv hfresh hfits => exists_translated hv ⟨hfresh, hfits, rfl⟩, fun t' h => ?_⟩
  obtain ⟨herrors, hsteps⟩ := h.plan hne
  refine ⟨herrors, fun c target => ⟨fun e he => ?_, fun out hout => ?_⟩⟩
  · have hvet' : t'.vet c = t.vet c := h.vet_eq hlanguage hsteps
    cases hvet : t.vet c with
    | ok u => exact nomatch (generateTarget_eq_ok hvet target).symm.trans he
    | error e' =>
      rw [← he, generateTarget_eq_error hvet, generateTarget_eq_error (hvet'.trans hvet)]
  · obtain ⟨hvet, rfl⟩ := (generateTarget_eq_ok_iff ..).1 hout
    exact ⟨_, generateTarget_eq_ok ((h.vet_eq hlanguage hsteps).trans hvet) target,
      onlyTouches_of_extended hsteps herrors c target⟩

/-- A tree with a key that is left out, where `greeting` is translated into some languages. -/
def patchy (greetings : SortedMap String) : Tree where
  defaultLanguage := "nl"
  nodes :=
    [.group ⟨[], "home"⟩
      [.entry ⟨⟨["home"], "broken"⟩, .text ⟨"Dag %2$@", 1, .empty⟩⟩,
        .entry ⟨⟨["home"], "greeting"⟩, .text ⟨"Hallo %1$@", 1, greetings⟩⟩],
      .entry ⟨⟨[], "days"⟩, .list [⟨"ma", 0, .ofList [("en", "Mo")]⟩, ⟨"di", 0, .empty⟩]⟩]

theorem translation_spec_patchy :
    LanguageTag.isCanonical "fr" ∧ "fr" ≠ (patchy .empty).defaultLanguage ∧
      (patchy .empty).Translated "fr" "Bonjour %1$@" (patchy (.ofList [("fr", "Bonjour %1$@")])) ∧
      (patchy .empty).plan.errors = [.unaddressed "home.broken" "nl" 2 1] ∧
      (patchy (.ofList [("fr", "Bonjour %1$@")])).plan.errors =
        [.unaddressed "home.broken" "nl" 2 1] ∧
      ∃ out out', generateTarget (patchy .empty) (.ofLanguage "nl") .rust = .ok out ∧
        generateTarget (patchy (.ofList [("fr", "Bonjour %1$@")])) (.ofLanguage "nl") .rust =
          .ok out' ∧
        (patchy .empty).OnlyTouches (patchy (.ofList [("fr", "Bonjour %1$@")]))
          (.ofLanguage "nl") .rust "fr" out out' := by
  have hlanguage : LanguageTag.isCanonical "fr" := by decide
  have hne : "fr" ≠ (patchy .empty).defaultLanguage := by decide
  have htranslated : (patchy .empty).Translated "fr" "Bonjour %1$@"
      (patchy (.ofList [("fr", "Bonjour %1$@")])) := by
    have hfits : Placeholder.firstUnaddressed? "Bonjour %1$@" 1 = none := by decide +kernel
    exact ⟨rfl, @Node.Translated.inside _ _ [] _ _ _ _
      (@Node.Translated.entry _ _ [_] [] _ _ _ (.text ⟨rfl, hfits, rfl⟩))⟩
  have herrors : (patchy .empty).plan.errors = [.unaddressed "home.broken" "nl" 2 1] := by
    decide +kernel
  have hvet : (patchy .empty).vet (.ofLanguage "nl") = .ok () :=
    vet_of_values (by decide) (by decide)
  have hout := generateTarget_eq_ok hvet .rust
  obtain ⟨herrors', hfiles⟩ := (translation_spec hlanguage hne).2 _ htranslated
  obtain ⟨out', hout', htouches⟩ := (hfiles (.ofLanguage "nl") .rust).2 _ hout
  exact ⟨hlanguage, hne, htranslated, herrors, herrors'.trans herrors, _, out', hout, hout',
    htouches⟩

end Tree

end Phrasebook
