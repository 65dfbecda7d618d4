import Phrasebook.Proofs.Binding.NamesApart
import Phrasebook.Proofs.Catalog.Completeness

/-!
# Sources hold what the catalog holds

The plan of a tree is carried out once for each target and once for the catalog.  Its steps come
mixed: texts of all languages, and accessors between them.  Every file is what is left of that one
list of steps when it is looked at for a single purpose.

* A table file has the texts that are filed in its language, in the order of the plan, between a
  header and a closing.
* A binding has one block of text for each accessor of the catalog, in the same order, between a
  prologue and an epilogue (`Target.blocks`).

Only one thing is written that no single step accounts for: the type of a list of records, which
goes in front of the first field.  A generator knows by the name of the type whether it has been
declared, while a field is the first one of its list by its address.  Both are the same, since the
lists that get to declare fields have different types (`Tree.eq_of_typeName_eq`).

The main result is `Tree.sources_carry_catalog`.
-/

namespace Phrasebook

/-! ## Blocks and entries -/

namespace Target

/-- The literal of a key in a table. -/
def keyLiteral : Target → String → String
  | .js => Literal.Js.quoted
  | .kotlin => Literal.Kotlin.quoted
  | .rust => Literal.Rust.quoted

/-- The literal of a text in a table. -/
def textLiteral : Target → String → String
  | .js => Literal.Js.text
  | .kotlin => Literal.Kotlin.text
  | .rust => Literal.Rust.text

/-- The entry of a table for the literals of a key and of a text. -/
def entry (target : Target) (key text : String) : String :=
  match target with
  | .js => "    localizations[" ++ key ++ "] = " ++ text ++ ";\n"
  | .kotlin => "    localizations[" ++ key ++ "] = " ++ text ++ "\n"
  | .rust => "    localizations.insert(" ++ key ++ ", " ++ text ++ ");\n"

/-- The text that declares the accessor of a step, which comes after the steps `before`.  The type
of a list of records goes in front of its first field. -/
def block (target : Target) (before : List Step) : Step → String
  | .accessor function a count _ => target.dialect.accessor function a count
  | .listAccessor function a values _ => target.dialect.listAccessor function a values.length
  | .fieldAccessor field a _ =>
    (if a ∈ before.filterMap Step.list? then ""
      else target.dialect.typeDeclaration (target.typeName a)) ++
    target.dialect.fieldAccessor a field
  | .text .. => ""
  | .finish => ""

/-- The accessors that steps declare, each with its block, where the steps come after `before`. -/
def blocks (target : Target) (before : List Step) : List Step → List (Accessor × String)
  | [] => []
  | s :: rest =>
    ((Catalog.accessorOf? s).map (·, target.block before s)).toList ++
      blocks target (before ++ [s]) rest

lemma tableEntry_eq (target : Target) (key text : String) :
    target.dialect.tableEntry key text =
      target.entry (target.keyLiteral key) (target.textLiteral text) := by
  cases target <;> rfl

lemma prologue_eq (target : Target) (package : Option String) (fallback : String) :
    target.dialect.prologue package fallback =
      target.opening package ++ Spelling.lines (target.runtime fallback) := by
  cases target with
  | js => exact (String.empty_append ..).symm
  | kotlin => exact Spelling.lines_append ..
  | rust => exact (String.empty_append ..).symm

/-- The accessors of blocks are those that the steps declare. -/
lemma map_fst_blocks (target : Target) (before steps : List Step) :
    (target.blocks before steps).map (·.1) = steps.filterMap Catalog.accessorOf? := by
  induction steps generalizing before with
  | nil => rfl
  | cons s rest ih =>
    rw [blocks, List.map_append, ih, List.filterMap_cons]
    cases Catalog.accessorOf? s <;> rfl

/-- The declarations of a step make up its block, if types are declared where fields are. -/
lemma join_declared {target : Target} {before : List Step} {seen : List String} {s : Step}
    (h : ∀ a ∈ s.list?, target.typeName a ∈ seen ↔ a ∈ before.filterMap Step.list?) :
    String.join ((s.declared target seen).map (·.2)) =
      String.join (((Catalog.accessorOf? s).map (·, target.block before s)).toList.map (·.2)) := by
  cases s with
  | accessor | listAccessor | text | finish => rfl
  | fieldAccessor field a text =>
    have hfirst := h a rfl
    by_cases hseen : target.typeName a ∈ seen
    · simp [Step.declared, Catalog.accessorOf?, block, hseen, hfirst.1 hseen]
    · simp [Step.declared, Catalog.accessorOf?, block, hseen, mt hfirst.2 hseen]

/-- The declarations of all steps make up the blocks, if the lists that declare fields have
different types. -/
lemma join_declaredAll {target : Target} {steps : List Step} (before : List Step)
    (seen : List String)
    (hinj : ∀ a ∈ steps.filterMap Step.list?, ∀ b ∈ steps.filterMap Step.list?,
      target.typeName a = target.typeName b → a = b)
    (hseen : ∀ a ∈ steps.filterMap Step.list?,
      target.typeName a ∈ seen ↔ a ∈ before.filterMap Step.list?) :
    String.join ((Step.declaredAll target seen steps).map (·.2)) =
      String.join ((target.blocks before steps).map (·.2)) := by
  induction steps generalizing before seen with
  | nil => rfl
  | cons s rest ih =>
    have hrest : ∀ a ∈ rest.filterMap Step.list?, a ∈ (s :: rest).filterMap Step.list? := by
      intro a ha
      rw [List.filterMap_cons]
      cases s.list? with
      | none => exact ha
      | some b => exact List.mem_cons_of_mem b ha
    have hself : ∀ a ∈ s.list?, a ∈ (s :: rest).filterMap Step.list? := by
      intro a ha
      rw [List.filterMap_cons_some ha]
      exact List.mem_cons_self
    -- one step more: the types that are declared are still those of the lists with a field
    have hnext : ∀ a ∈ rest.filterMap Step.list?,
        target.typeName a ∈ s.seenAfter target seen ↔ a ∈ (before ++ [s]).filterMap Step.list? := by
      intro a ha
      have hbefore := hseen a (hrest a ha)
      have hlist : a ∈ (before ++ [s]).filterMap Step.list? ↔
          a ∈ before.filterMap Step.list? ∨ s.list? = some a := by
        simp [List.mem_filterMap]
      rw [hlist, ← hbefore]
      cases s with
      | accessor | listAccessor | text | finish => simp [Step.seenAfter, Step.list?]
      | fieldAccessor field b text =>
        have hname : target.typeName a = target.typeName b ↔ b = a :=
          ⟨fun h => (hinj a (hrest a ha) b (hself b rfl) h).symm, fun h => h ▸ rfl⟩
        by_cases hb : target.typeName b ∈ seen
        · have hmem : b = a → target.typeName a ∈ seen := fun h => h ▸ hb
          simpa [Step.seenAfter, Step.list?, hb] using hmem
        · simp only [Step.seenAfter, hb, if_false, List.mem_cons, Step.list?, Option.some.injEq]
          rw [hname]
          tauto
    have hinjrest : ∀ a ∈ rest.filterMap Step.list?, ∀ b ∈ rest.filterMap Step.list?,
        target.typeName a = target.typeName b → a = b :=
      fun a ha b hb => hinj a (hrest a ha) b (hrest b hb)
    rw [Step.declaredAll, blocks, List.map_append, List.map_append, String.join_append,
      String.join_append, ih (before ++ [s]) _ hinjrest hnext,
      join_declared fun a ha => hseen a (hself a ha)]

end Target

/-! ## Languages of a catalog -/

namespace SortedMap

variable {α β : Type*}

/-- Two maps that have something under the same keys list the same keys. -/
lemma keys_eq_of_mem_iff {m : SortedMap α} {n : SortedMap β} (h : ∀ k, k ∈ m.keys ↔ k ∈ n.keys) :
    m.keys = n.keys :=
  eq_of_sorted n.keys_pairwise m.keys_pairwise h

end SortedMap

namespace Catalog

variable (c : Catalog)

lemma mem_languages_step (s : Step) (language : String) :
    language ∈ (c.step s).languages ↔
      (∃ f ∈ s.filing?, f.language = language) ∨ language ∈ c.languages := by
  cases s with
  | text key text language' =>
    have hfile : language ∈ (c.file key text language').languages ↔
        language = language' ∨ language ∈ c.languages := SortedMap.mem_keys_insert_iff ..
    simpa [step, Step.filing?, eq_comm] using hfile
  | accessor | listAccessor | fieldAccessor | finish =>
    simp [step, Step.filing?, languages]

/-- A catalog has tables for the languages that a text is filed in. -/
lemma mem_languages_run (steps : List Step) (language : String) :
    language ∈ (c.run steps).languages ↔
      language ∈ (steps.filterMap Step.filing?).map (·.language) ∨ language ∈ c.languages := by
  induction steps generalizing c with
  | nil => simp [run]
  | cons s rest ih =>
    have hrun : c.run (s :: rest) = (c.step s).run rest := rfl
    rw [hrun, ih, mem_languages_step, List.filterMap_cons]
    cases s.filing? with
    | none => simp
    | some f =>
      simp only [Option.mem_some_iff, exists_eq_left', List.map_cons, List.mem_cons, eq_comm]
      tauto

end Catalog

/-! ## Sources of a tree -/

namespace Tree

variable {t : Tree} {c : Config} {target : Target}

/-- The lists of records that declare fields have different types. -/
lemma eq_of_typeName_eq {a b : Address} (ha : a ∈ t.listNodes) (hb : b ∈ t.listNodes)
    (h : target.typeName a = target.typeName b) : a = b := by
  obtain ⟨_, _, htype⟩ := exists_getsType_of_mem_listNodes ha
  obtain ⟨_, _, htype'⟩ := exists_getsType_of_mem_listNodes hb
  exact (htype.eq htype' (Target.typeName_inj h)).2.1

/-- What comes out of `t` and `c` for `target` holds what the catalog of `t` holds. -/
structure CarriesCatalog (t : Tree) (c : Config) (target : Target) (out : TargetOutput) :
    Prop where
  /-- There are table files for the languages of the catalog, in the same order. -/
  languages : out.sources.tables.keys = t.catalog.languages
  /-- A table file is a header, an entry for each text that the plan files in its language, and a
  closing. -/
  tables : ∀ language file, out.sources.tables.get? language = some file →
    file.contents = target.dialect.tableHeader c.packageName language ++
      String.join ((t.filings.filter (·.language = language)).map fun f =>
        target.entry (target.keyLiteral f.key) (target.textLiteral f.text)) ++
      target.dialect.tableClosing
  /-- The blocks belong to the accessors of the catalog, one to each and in the same order. -/
  accessors : (target.blocks [] t.plan.steps).map (·.1) = t.catalog.accessors
  /-- A binding is a prologue, the blocks, and an epilogue. -/
  binding : out.sources.binding.contents =
    target.dialect.prologue c.packageName c.defaultLanguage ++
      String.join ((target.blocks [] t.plan.steps).map (·.2)) ++
      target.dialect.epilogue t.catalog.languages

lemma tables_keys_eq_languages (t : Tree) (c : Config) (target : Target) :
    (target.dialect.generate t c).sources.tables.keys = t.catalog.languages := by
  refine SortedMap.keys_eq_of_mem_iff fun language => ?_
  have hcatalog : language ∈ t.catalog.languages ↔ language ∈ t.filings.map (·.language) :=
    (Catalog.mem_languages_run ..).trans (or_iff_left List.not_mem_nil)
  exact mem_tables_iff.trans hcatalog.symm

/-- **Sources hold what the catalog holds.**  There is a table file for each language of the
catalog, with the texts that are filed in it, and the binding has a block for each of its
accessors. -/
theorem sources_carry_catalog {out : TargetOutput} (h : generateTarget t c target = .ok out) :
    t.CarriesCatalog c target out := by
  obtain ⟨-, rfl⟩ := (generateTarget_eq_ok_iff ..).1 h
  have hlanguages := t.tables_keys_eq_languages c target
  constructor
  case languages => exact hlanguages
  case tables =>
    intro language file hfile
    have hcontents := congrArg SourceFile.contents
      (table_eq ((SortedMap.get?_eq_some_iff ..).1 hfile))
    rw [hcontents, Dialect.tableEntries]
    simp only [Target.tableEntry_eq]
  case accessors =>
    rw [Target.map_fst_blocks]
    exact (Catalog.accessors_run (.empty t.defaultLanguage) t.plan.steps).symm
  case binding =>
    have hblocks : String.join (t.declarationTexts target) =
        String.join ((target.blocks [] t.plan.steps).map (·.2)) :=
      Target.join_declaredAll [] [] (fun a ha b hb => eq_of_typeName_eq ha hb) (by simp)
    rw [t.binding_contents c target, ← Target.prologue_eq, hblocks, hlanguages]
    rfl

/-- A tree with two languages and a list of records, the second of which lacks a field. -/
def bilingual : Tree where
  defaultLanguage := "nl"
  nodes :=
    [.entry ⟨⟨[], "title"⟩, .text ⟨"Titel", 0, .ofList [("en", "Title")]⟩⟩,
      .entry ⟨⟨[], "items"⟩,
        .records [⟨[("name", ⟨"Eerste", 0, .empty⟩), ("body", ⟨"Tekst", 0, .empty⟩)]⟩,
          ⟨[("name", ⟨"Tweede", 0, .ofList [("en", "Second")]⟩)]⟩]⟩]

theorem sources_carry_catalog_bilingual :
    ∃ out, generateTarget bilingual (.ofLanguage "nl") .kotlin = .ok out ∧
      bilingual.CarriesCatalog (.ofLanguage "nl") .kotlin out ∧
      out.sources.tables.keys = ["en", "nl"] ∧
      bilingual.catalog.accessors.map (·.ids) =
        [["title"], ["items.$index.name"], ["items.$index.body"]] := by
  have hvet : bilingual.vet (.ofLanguage "nl") = .ok () :=
    vet_of_values (by decide) (by decide)
  have hout := (generateTarget_eq_ok_iff bilingual (.ofLanguage "nl") .kotlin _).2 ⟨hvet, rfl⟩
  have hspec := sources_carry_catalog hout
  refine ⟨_, hout, hspec, ?_, ?_⟩
  · rw [hspec.languages]
    decide +kernel
  · decide +kernel

end Tree

end Phrasebook
