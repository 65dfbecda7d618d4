import Phrasebook.Proofs.Binding.NamesApart
import Phrasebook.Proofs.LanguageTag.Grammar

/-!
# The names of a JavaScript module

A module may declare a name only once, whether it imports it or declares a variable, a function or a
class.  A binding imports the function of every table, and declares its runtime, a function for each
accessor and a class for each list of records.

Of these, two kinds can meet a name of their own kind or of another one.

* The functions of two tables have one name if their tags differ in characters for which the name
  has an underscore.
* A function and a class have one name if an accessor in camel case is spelled like a type.  The
  first may not begin with an ASCII capital and the second not with a small letter, so that the name
  begins with an underscore or with a character beyond ASCII (`Naming.not_isLetter_of_eq`).

Nothing else is declared twice (`Tree.moduleNames_spec`).
-/

namespace Phrasebook

open Naming Unicode LanguageTag

/-! ## Tags -/

namespace Naming

/-- A plain tag is read back from its identifier. -/
lemma map_languageIdentifier {language : String} (h : IsPlainTag language) :
    (languageIdentifier language).toList.map (fun c => if c = '_' then '-' else c) =
      language.toList := by
  rw [languageIdentifier, String.toList_map, List.map_map]
  refine (List.map_congr_left fun c hc => ?_).trans (List.map_id _)
  rcases h c hc with halphanumeric | rfl
  · have hne : c ≠ '_' := by
      rintro rfl
      exact absurd halphanumeric (by decide)
    simp [halphanumeric, hne]
  · rfl

lemma languageIdentifier_inj {language language' : String} (h : IsPlainTag language)
    (h' : IsPlainTag language') (heq : languageIdentifier language = languageIdentifier language') :
    language = language' := by
  rw [← String.toList_inj, ← map_languageIdentifier h, ← map_languageIdentifier h', heq]

example : isCanonical "en-1ab." ∧ isCanonical "en-1ab!" ∧
    languageIdentifier "en-1ab." = languageIdentifier "en-1ab!" := by
  refine ⟨by decide, by decide, String.toList_inj.1 ?_⟩
  rw [languageIdentifier, languageIdentifier, String.toList_map, String.toList_map]
  decide

/-- An accessor that is spelled like a type does not begin with an ASCII letter. -/
lemma not_isLetter_of_eq {segments segments' : List String} {x : Char}
    (h : lowerCamel segments = typeName segments')
    (hx : (lowerCamel segments).toList.head? = some x) : isLetter x = false := by
  have hcapital := not_capital_head_lowerCamel hx
  have hsmall := not_small_head_typeName (h ▸ hx)
  rw [isLetter, Bool.or_eq_false_iff, Bool.and_eq_false_imp, Bool.and_eq_false_imp]
  simp only [decide_eq_true_eq, decide_eq_false_iff_not]
  exact ⟨fun hle hle' => hsmall ⟨hle, hle'⟩, fun hle hle' => hcapital ⟨hle, hle'⟩⟩

end Naming

/-! ## Declared names -/

namespace Target

/-- No function and no class has a name of the runtime or of the epilogue. -/
lemma identifier_notMem_js {name : String} {languages : List String} (hname : Jointless name)
    (h : ∀ l ∈ languages, l ≠ "") :
    Js.identifier name ∉ runtimeNames .js ∧ Js.identifier name ∉ epilogueNames .js languages := by
  have hreserved : ∀ r ∈ "localizations" :: runtimeNames .js, r ∈ Js.reserved := by
    decide
  have hfree := identifier_notMem_reservedNames .js name
  constructor
  · exact fun hmem => hfree (hreserved _ (List.mem_cons_of_mem _ hmem))
  · intro hmem
    rcases List.mem_append.1 hmem with hmem | hmem
    · obtain ⟨l, hl, heq⟩ := List.mem_map.1 hmem
      exact identifier_ne_tableFunction .js hname (h l hl) heq.symm
    · exact hfree (hreserved _ (List.mem_singleton.1 hmem ▸ List.mem_cons_self))

/-- The runtime and the epilogue have no name in common, and of the names of the epilogue only those
of tables can meet. -/
lemma nodup_epilogueNames_js_iff {languages : List String} (h : ∀ l ∈ languages, l ≠ "") :
    (runtimeNames .js ++ epilogueNames .js languages).Nodup ↔
      (languages.map Js.tableFunction).Nodup := by
  have hown : ∀ name ∈ "localizations" :: runtimeNames .js,
      ¬Rust.tableMark.toList <+: name.toList := by
    decide
  have htable : ∀ name ∈ "localizations" :: runtimeNames .js,
      name ∉ languages.map Js.tableFunction := by
    intro name hname hmem
    obtain ⟨l, hl, rfl⟩ := List.mem_map.1 hmem
    obtain ⟨cs, -, hcs⟩ := exists_tableFunction .js (h l hl)
    exact hown _ hname ⟨cs, hcs.symm⟩
  have hruntime : (runtimeNames .js).Nodup ∧ "localizations" ∉ runtimeNames .js := by
    decide
  rw [epilogueNames, List.nodup_append', List.nodup_append']
  constructor
  · exact fun hall => hall.2.1.1
  · intro hnodup
    refine ⟨hruntime.1, ⟨hnodup, List.nodup_singleton _, ?_⟩, ?_⟩
    · rw [List.disjoint_singleton]
      exact htable _ List.mem_cons_self
    · rw [List.disjoint_append_right, List.disjoint_singleton]
      exact ⟨fun name hname => htable name (List.mem_cons_of_mem _ hname), hruntime.2⟩

end Target

lemma nodup_append_append_iff {α : Type*} {l m r : List α} (h : ∀ x ∈ m, x ∉ l ∧ x ∉ r) :
    (l ++ m ++ r).Nodup ↔ (l ++ r).Nodup ∧ m.Nodup := by
  have hl : l.Disjoint m := fun x hx hm => (h x hm).1 hx
  have hr : m.Disjoint r := fun x hm hx => (h x hm).2 hx
  simp only [List.nodup_append', List.disjoint_append_left, hl, hr]
  tauto

namespace Tree

variable {t : Tree} {c : Config} {out : TargetOutput}

/-- The names that a JavaScript binding declares in its module: those of the runtime, the functions
of accessors, the classes of lists of records, and those of the epilogue with its imports. -/
def moduleNames (t : Tree) (c : Config) (out : TargetOutput) : List String :=
  Target.topLevelNames .js (Spelling.lines (Target.runtime .js c.defaultLanguage)) ++
    (t.functions .js ++ t.types .js) ++
    Target.topLevelNames .js (Target.epilogue .js out.sources.tables.keys)

/-- A function of `t` has the name of a class exactly if an accessor is spelled like a type. -/
lemma disjoint_functions_types_iff :
    (t.functions .js).Disjoint (t.types .js) ↔
      ∀ a ∈ t.accessorNodes, ∀ b ∈ t.listNodes, a.lowerCamel ≠ b.typeName := by
  rw [t.functions_eq_map]
  constructor
  · intro h a ha b hb heq
    refine h (List.mem_map_of_mem ha) (mem_types_iff.2 ⟨b, hb, ?_⟩)
    exact congrArg Js.identifier heq.symm
  · intro h name hfunction htype
    obtain ⟨a, ha, rfl⟩ := List.mem_map.1 hfunction
    obtain ⟨b, hb, heq⟩ := mem_types_iff.1 htype
    refine h a ha b hb (@Target.identifier_inj .js _ _ ?_ ?_ heq.symm)
    · exact (lowerCamel_jointless a.segments).unmarked
    · exact (typeName_jointless b.segments).unmarked

/-- Which names a module declares more than once, where `out` is what comes out of `t` and `c`. -/
structure ModuleNamesSpec (t : Tree) (c : Config) (out : TargetOutput) : Prop where
  /-- The binding is a runtime, the texts of its declarations, and an epilogue for its tables. -/
  contents : out.sources.binding.contents =
    Target.opening .js c.packageName ++ Spelling.lines (Target.runtime .js c.defaultLanguage) ++
      String.join (t.declarationTexts .js) ++ Target.epilogue .js out.sources.tables.keys
  /-- The text of a declaration begins with its heading, which has its name. -/
  headings : List.Forall₂ (fun d s => BeginsWith (Target.heading .js d) s) (t.declarations .js)
    (t.declarationTexts .js)
  /-- The names are different exactly if different tables have different functions and no accessor
  is spelled like a type. -/
  nodup_iff : (t.moduleNames c out).Nodup ↔
    (∀ l ∈ out.sources.tables.keys, ∀ l' ∈ out.sources.tables.keys,
      languageIdentifier l = languageIdentifier l' → l = l') ∧
    ∀ a ∈ t.accessorNodes, ∀ b ∈ t.listNodes, a.lowerCamel ≠ b.typeName
  /-- The names are different if all tags are plain and every accessor begins with a letter. -/
  plain : (∀ l ∈ out.sources.tables.keys, IsPlainTag l) →
    (∀ a ∈ t.accessorNodes, ∃ x, a.lowerCamel.toList.head? = some x ∧ isLetter x) →
      (t.moduleNames c out).Nodup

lemma nodup_moduleNames_iff (h : ∀ l ∈ out.sources.tables.keys, l ≠ "") :
    (t.moduleNames c out).Nodup ↔
      (∀ l ∈ out.sources.tables.keys, ∀ l' ∈ out.sources.tables.keys,
        languageIdentifier l = languageIdentifier l' → l = l') ∧
      ∀ a ∈ t.accessorNodes, ∀ b ∈ t.listNodes, a.lowerCamel ≠ b.typeName := by
  have hkeys : out.sources.tables.keys.Nodup :=
    out.sources.tables.keys_pairwise.imp fun hlt => ne_of_text_lt hlt
  have hidentifier : ∀ l l', Js.tableFunction l = Js.tableFunction l' ↔
      languageIdentifier l = languageIdentifier l' := fun l l' => String.append_right_inj _
  have htables := Target.nodup_epilogueNames_js_iff h
  rw [List.nodup_map_iff_inj_on hkeys] at htables
  simp only [hidentifier] at htables
  have hdeclared : (t.functions .js ++ t.types .js).Nodup ↔
      (t.functions .js).Disjoint (t.types .js) := by
    rw [List.nodup_append']
    exact ⟨fun hall => hall.2.2, fun hapart =>
      ⟨t.nodup_functions .js, Step.nodup_types, hapart⟩⟩
  rw [moduleNames, Target.topLevelNames_runtime, Target.topLevelNames_epilogue,
    nodup_append_append_iff, htables, hdeclared, disjoint_functions_types_iff]
  intro name hname
  rcases List.mem_append.1 hname with hname | hname
  · rw [t.functions_eq_map] at hname
    obtain ⟨a, -, rfl⟩ := List.mem_map.1 hname
    exact Target.identifier_notMem_js (lowerCamel_jointless a.segments) h
  · obtain ⟨b, -, rfl⟩ := mem_types_iff.1 hname
    exact Target.identifier_notMem_js (typeName_jointless b.segments) h

/-- **The names of a JavaScript module.**  They are different but for tables whose tags have one
spelling as identifiers, and for accessors that are spelled like a type. -/
theorem moduleNames_spec (h : generateTarget t c .js = .ok out) : t.ModuleNamesSpec c out := by
  obtain ⟨hvet, rfl⟩ := (generateTarget_eq_ok_iff ..).1 h
  have hnodup := nodup_moduleNames_iff (t := t) (c := c)
    (t.ne_empty_of_mem_tables (checkTree_of_vet hvet) .js)
  constructor
  case contents => exact t.binding_contents c .js
  case headings => exact t.forall₂_heading .js
  case nodup_iff => exact hnodup
  case plain =>
    intro htags hletters
    refine hnodup.2 ⟨?_, ?_⟩
    · exact fun l hl l' hl' => languageIdentifier_inj (htags l hl) (htags l' hl')
    · intro a ha b _ heq
      obtain ⟨x, hx, hletter⟩ := hletters a ha
      rw [not_isLetter_of_eq heq hx] at hletter
      exact nomatch hletter

theorem moduleNames_spec_marked :
    ∃ out, generateTarget marked (.ofLanguage "nl") .js = .ok out ∧
      marked.ModuleNamesSpec (.ofLanguage "nl") out ∧
      marked.functions .js = ["lookup_"] ∧ marked.types .js = ["Items"] := by
  have hout := (generateTarget_eq_ok_iff marked (.ofLanguage "nl") .js _).2 ⟨vet_marked, rfl⟩
  exact ⟨_, hout, moduleNames_spec hout, by decide +kernel, by decide +kernel⟩

/-- A document for which a function and a class have one name: both keys begin with a digit, so
that neither the first word of the accessor nor that of the type changes. -/
theorem exists_moduleNames_not_nodup :
    ∃ t out, Tree.ofDocument "nl" (.object
        [("2fa", .string "x"), ("2fa_", .array [.object [("t", .string "y")]])]) = .ok t ∧
      generateTarget t (.ofLanguage "nl") .js = .ok out ∧
      ¬(t.moduleNames (.ofLanguage "nl") out).Nodup := by
  refine ⟨_, _, rfl,
    (generateTarget_eq_ok_iff ..).2 ⟨vet_of_values (by decide) (by decide +kernel), rfl⟩,
    fun h => ?_⟩
  have hdeclared := h.of_append_left.of_append_right
  have hapart := List.disjoint_of_nodup_append hdeclared
  exact @hapart "_2fa" (by decide +kernel) (by decide +kernel)

end Tree

end Phrasebook
