import Phrasebook.Proofs.Binding.ModuleNames
import Phrasebook.Proofs.LanguageTag.Recasing

/-!
# The files of all targets

The files of all targets may be written to one directory, on a file system that takes capitals and
small letters for the same.  Files of different targets differ in their extension.  Within a target,
the name of a table file is made from the tag of its language.

A table file holds one function, whose name is made from the tag as well, and the binding finds the
tables by these names: it brings in the function of every file and calls it.  All of these names
say no more about a tag than its identifier, and no less, although some of them are in lower case
(`Target.tableFunction_eq_iff`).  So the names of files and those of functions are different under
one condition, that the tags have different identifiers (`Tree.files_spec`).
-/

namespace Phrasebook

open Naming Unicode LanguageTag

namespace Target

/-! ## What is said of a table -/

/-- What the file of a table has in front of its function. -/
def tableOpening (target : Target) (package : Option String) (language : String) : String :=
  let comment := [s!"// Generated {language} localization file. Do not edit.", ""]
  match target with
  | .js => Spelling.lines comment
  | .kotlin => Spelling.lines (comment ++ Kotlin.packageDeclaration package)
  | .rust => Spelling.lines comment

/-- How the function of a table begins. -/
def tableHeading (target : Target) (function : String) : String :=
  match target with
  | .js => "export function " ++ function ++ "() \x7b"
  | .kotlin => "internal fun " ++ function ++ "(): Map<String, String> \x7b"
  | .rust => "fn " ++ function ++
      "() -> ::std::collections::HashMap<&'static str, &'static str> \x7b"

/-- The line that brings the function of the table in `file` into a binding; a package needs none,
since it sees all of its files. -/
def tableLink? (target : Target) (function file : String) : Option String :=
  match target with
  | .js => some ("import \x7b " ++ function ++ " \x7d from \"./" ++ file ++ "\";")
  | .kotlin => none
  | .rust => some ("include!(\"" ++ file ++ "\");")

/-- The line of a binding that calls the function of a table, and files the table under its
language. -/
def tableCall (target : Target) (language function : String) : String :=
  match target with
  | .js => "    localizations[" ++ Literal.Js.quoted language ++ "] = " ++ function ++ "();"
  | .kotlin => "    localizations[" ++ Literal.Kotlin.quoted language ++ "] = " ++ function ++ "()"
  | .rust => "            (" ++ Literal.Rust.quoted language ++ ", " ++ function ++ "()),"

/-- What stands in front of the calls. -/
def callsOpening : Target → List String
  | .js => ["", "const localizations = (() => \x7b",
      "    const localizations = Object.create(null);"]
  | .kotlin => ["private val localizations: Map<String, Map<String, String>> by lazy \x7b",
      "    val localizations = mutableMapOf<String, Map<String, String>>()"]
  | .rust => ["",
      "static LOCALIZATIONS: LazyLock<HashMap<&'static str, HashMap<&'static str, &'static str>>> =",
      "    LazyLock::new(|| \x7b",
      "        HashMap::from(["]

/-- What stands behind the calls. -/
def callsClosing : Target → List String
  | .js => ["    return localizations;", "\x7d)();"]
  | .kotlin => ["    localizations", "\x7d"]
  | .rust => ["        ])", "    \x7d);"]

lemma beginsWith_tableHeading (target : Target) (package : Option String) (language : String) :
    BeginsWith (target.tableOpening package language ++
        target.tableHeading (target.tableFunction language))
      (target.dialect.tableHeader package language) := by
  have hlines (ls : List String) (heading : String) (rest : List String) :
      BeginsWith (Spelling.lines ls ++ heading) (Spelling.lines (ls ++ heading :: rest)) := by
    rw [Spelling.lines_append]
    exact (Spelling.beginsWith_lines (.self _) _).behind _
  cases target with
  | js => exact hlines [_, _] _ _
  | kotlin => exact hlines (_ ++ _) _ _
  | rust => exact hlines [_, _] _ _

/-- An epilogue finds the tables by the names of their files and calls their functions. -/
lemma epilogue_eq (target : Target) (languages : List String) :
    target.epilogue languages = Spelling.lines (
      (languages.filterMap fun l =>
        target.tableLink? (target.tableFunction l) (target.dialect.tableFile l)) ++
      target.callsOpening ++
      (languages.map fun l => target.tableCall l (target.tableFunction l)) ++
      target.callsClosing) := by
  cases target with
  | js =>
    have hlink : Js.tableImport = fun l => "import \x7b " ++ Js.tableFunction l ++
        " \x7d from \"./" ++ (Js.tableFunction l ++ ".js") ++ "\";" := by
      funext l
      simp only [Js.tableImport, String.append_assoc]
      rfl
    simp only [tableLink?, List.filterMap_eq_map']
    change Spelling.lines (languages.map Js.tableImport ++ _ ++ _ ++ _) = _
    rw [hlink]
    rfl
  | kotlin =>
    simp only [tableLink?, List.filterMap_none]
    rfl
  | rust =>
    simp only [tableLink?, List.filterMap_eq_map']
    rfl

/-! ## Names in lower case -/

lemma asciiLowercase_tableFile (target : Target) (language : String) :
    asciiLowercase (target.dialect.tableFile language) =
      Rust.tableFunction language ++ ("." ++ target.extension) := by
  have hends : asciiLowercase "localizations_" = Rust.tableMark ∧
      asciiLowercase "Localizations_" = Rust.tableMark ∧
      asciiLowercase ".js" = "." ++ Target.extension .js ∧
      asciiLowercase ".kt" = "." ++ Target.extension .kotlin ∧
      asciiLowercase ".rs" = "." ++ Target.extension .rust := by
    simp only [← String.toList_inj, asciiLowercase, String.toList_map]
    decide
  obtain ⟨hmark, hmark', hjs, hkt, hrs⟩ := hends
  cases target with
  | js =>
    change asciiLowercase ("localizations_" ++ languageIdentifier language ++ ".js") = _
    rw [asciiLowercase_append, asciiLowercase_append, hmark, hjs]
    rfl
  | kotlin =>
    change asciiLowercase ("Localizations_" ++ languageIdentifier language ++ ".kt") = _
    rw [asciiLowercase_append, asciiLowercase_append, hmark', hkt]
    rfl
  | rust =>
    change asciiLowercase (Rust.tableFunction language ++ ".rs") = _
    rw [Rust.tableFunction]
    rw [asciiLowercase_append, asciiLowercase_append, asciiLowercase_asciiLowercase, hrs]
    exact congrArg (· ++ _ ++ _) hmark

lemma asciiLowercase_bindingFile (target : Target) :
    asciiLowercase target.dialect.bindingFile = "localizations" ++ ("." ++ target.extension) := by
  rw [← String.toList_inj, asciiLowercase, String.toList_map]
  cases target <;> decide

/-- The functions of two tables have one name exactly if their tags have one identifier. -/
lemma tableFunction_eq_iff (target : Target) {l l' : String} (hl : isCanonical l)
    (hl' : isCanonical l') :
    target.tableFunction l = target.tableFunction l' ↔
      languageIdentifier l = languageIdentifier l' := by
  have hmark (s s' : String) : "localizations_" ++ s = "localizations_" ++ s' ↔ s = s' :=
    String.append_right_inj _
  cases target with
  | js => exact hmark ..
  | kotlin => exact hmark ..
  | rust =>
    exact (hmark ..).trans ⟨languageIdentifier_eq_of_asciiLowercase_eq hl hl',
      fun h => congrArg asciiLowercase h⟩

/-- Names of different extensions are different. -/
lemma disjoint_of_extension {target target' : Target} (h : target ≠ target')
    (ls ls' : List String) :
    (ls.map (· ++ ("." ++ target.extension))).Disjoint
      (ls'.map (· ++ ("." ++ target'.extension))) := by
  have hsuffix : ∀ target target' : Target, target ≠ target' →
      ¬("." ++ target.extension).toList <:+ ("." ++ target'.extension).toList := by
    intro target target' h
    cases target <;> cases target' <;> first | exact absurd rfl h | decide
  intro name hname hname'
  obtain ⟨s, -, rfl⟩ := List.mem_map.1 hname
  obtain ⟨s', -, heq⟩ := List.mem_map.1 hname'
  have hend (s x : String) : x.toList <:+ (s ++ x).toList := by
    rw [String.toList_append]
    exact List.suffix_append ..
  have hend' : ("." ++ target'.extension).toList <:+ (s ++ ("." ++ target.extension)).toList := by
    rw [← heq]
    exact hend ..
  rcases List.suffix_or_suffix_of_suffix (hend ..) hend' with hself | hself
  · exact hsuffix _ _ h hself
  · exact hsuffix _ _ h.symm hself

end Target

/-! ## Files of a tree -/

namespace Tree

variable {t : Tree} {c : Config}

/-- The languages that a text of `t` is filed in. -/
def filedLanguages (t : Tree) : List String := t.filings.map (·.language)

/-- Different languages that a text is filed in have different identifiers. -/
def IdentifiersApart (t : Tree) : Prop :=
  ∀ l ∈ t.filedLanguages, ∀ l' ∈ t.filedLanguages,
    languageIdentifier l = languageIdentifier l' → l = l'

/-- Plain tags have different identifiers. -/
lemma identifiersApart_of_plain (h : ∀ l ∈ t.filedLanguages, IsPlainTag l) : t.IdentifiersApart :=
  fun l hl l' hl' => languageIdentifier_inj (h l hl) (h l' hl')

/-- The names of the files of a target. -/
lemma map_name_files (t : Tree) (c : Config) (target : Target) :
    (target.dialect.generate t c).sources.files.map (·.name) =
      (target.dialect.generate t c).sources.tables.keys.map target.dialect.tableFile ++
        [target.dialect.bindingFile] := by
  rw [Sources.files, List.map_append, SortedMap.values, SortedMap.keys, List.map_map, List.map_map]
  refine congrArg₂ _ (List.map_congr_left fun x hx => ?_) rfl
  rw [Function.comp_apply, table_eq hx]
  rfl

/-- The same in lower case. -/
lemma map_asciiLowercase_files (t : Tree) (c : Config) (target : Target) :
    (target.dialect.generate t c).sources.files.map (fun f => asciiLowercase f.name) =
      ((target.dialect.generate t c).sources.tables.keys.map Rust.tableFunction ++
        ["localizations"]).map (· ++ ("." ++ target.extension)) := by
  have hmap := congrArg (List.map asciiLowercase) (t.map_name_files c target)
  rw [List.map_map, List.map_append, List.map_map, List.map_singleton,
    target.asciiLowercase_bindingFile] at hmap
  rw [List.map_append, List.map_map, List.map_singleton]
  refine hmap.trans (congrArg (· ++ _) (List.map_congr_left fun l _ => ?_))
  exact target.asciiLowercase_tableFile l

section Checked

variable (hcheck : checkTree t c = .ok ())

include hcheck

/-- The functions of the tables of a target have different names exactly if the tags have different
identifiers. -/
lemma nodup_map_tableFunction_iff (target target' : Target) :
    ((target.dialect.generate t c).sources.tables.keys.map target'.tableFunction).Nodup ↔
      t.IdentifiersApart := by
  obtain ⟨-, -, hlanguages⟩ := (checkTree_eq_ok_iff ..).1 hcheck
  have hcanonical : ∀ l ∈ (target.dialect.generate t c).sources.tables.keys, isCanonical l :=
    fun l hl => hlanguages l (mem_languages_of_mem_tables hl)
  have hkeys := (target.dialect.generate t c).sources.tables.keys_pairwise.imp
    fun hlt => ne_of_text_lt hlt
  have hmem (l : String) : l ∈ (target.dialect.generate t c).sources.tables.keys ↔
      l ∈ t.filedLanguages := mem_tables_iff
  rw [List.nodup_map_iff_inj_on hkeys]
  constructor
  · intro h l hl l' hl' heq
    rw [← hmem] at hl hl'
    exact h l hl l' hl'
      ((target'.tableFunction_eq_iff (hcanonical l hl) (hcanonical l' hl')).2 heq)
  · intro h l hl l' hl' heq
    exact h l ((hmem l).1 hl) l' ((hmem l').1 hl')
      ((target'.tableFunction_eq_iff (hcanonical l hl) (hcanonical l' hl')).1 heq)

/-- The same goes for the files of a target, whose names are compared in lower case. -/
lemma nodup_map_asciiLowercase_iff (target : Target) :
    ((target.dialect.generate t c).sources.files.map fun f => asciiLowercase f.name).Nodup ↔
      t.IdentifiersApart := by
  have hextension : Function.Injective (· ++ ("." ++ target.extension)) :=
    fun _ _ h => String.append_left_inj _ |>.1 h
  have hbinding : "localizations" ∉
      (target.dialect.generate t c).sources.tables.keys.map Rust.tableFunction := by
    intro hmem
    obtain ⟨l, hl, heq⟩ := List.mem_map.1 hmem
    obtain ⟨cs, -, hcs⟩ :=
      Target.exists_tableFunction .rust (t.ne_empty_of_mem_tables hcheck target l hl)
    have hprefix : Rust.tableMark.toList <+: "localizations".toList := by
      rw [← heq]
      exact ⟨cs, hcs.symm⟩
    exact absurd hprefix (by decide)
  have htables := nodup_map_tableFunction_iff hcheck target .rust
  rw [Target.tableFunction] at htables
  rw [map_asciiLowercase_files, List.nodup_map_iff hextension, List.nodup_append', htables,
    List.disjoint_singleton]
  exact ⟨fun h => h.1, fun h => ⟨h, List.nodup_singleton _, hbinding⟩⟩

/-- Files of different targets have different names in any case. -/
lemma nodup_fileNames_iff :
    ((Target.all.flatMap fun target => (target.dialect.generate t c).sources.files).map
      fun f => asciiLowercase f.name).Nodup ↔ t.IdentifiersApart := by
  rw [List.map_flatMap, List.nodup_flatMap]
  constructor
  · exact fun h => (nodup_map_asciiLowercase_iff hcheck .js).1 (h.1 .js List.mem_cons_self)
  · intro h
    refine ⟨fun target _ => (nodup_map_asciiLowercase_iff hcheck target).2 h, ?_⟩
    have htargets : Target.all.Nodup := by decide
    refine htargets.imp fun hne => ?_
    simp only [Function.onFun, map_asciiLowercase_files]
    exact Target.disjoint_of_extension hne _ _

/-- The names of the files of a target need no lower case to be the same. -/
lemma nodup_map_name_iff (target : Target) :
    ((target.dialect.generate t c).sources.files.map (·.name)).Nodup ↔ t.IdentifiersApart := by
  constructor
  · intro h l hl l' hl' heq
    rw [map_name_files] at h
    have hkeys (l : String) (hl : l ∈ t.filedLanguages) :
        l ∈ (target.dialect.generate t c).sources.tables.keys := mem_tables_iff.2 hl
    refine List.inj_on_of_nodup_map (List.nodup_append.1 h).1 (hkeys l hl) (hkeys l' hl') ?_
    have hfile : target.dialect.tableFile l = target.dialect.tableFile l' := by
      cases target with
      | js => exact congrArg (fun i => "localizations_" ++ i ++ ".js") heq
      | kotlin => exact congrArg (fun i => "Localizations_" ++ i ++ ".kt") heq
      | rust => exact congrArg (fun i => Rust.tableMark ++ asciiLowercase i ++ ".rs") heq
    exact hfile
  · intro h
    refine List.Nodup.of_map asciiLowercase ?_
    rw [List.map_map]
    exact (nodup_map_asciiLowercase_iff hcheck target).2 h

end Checked

/-- The files that come out of `t` and `c`, for all targets. -/
structure FilesSpec (t : Tree) (c : Config) (outs : Target → TargetOutput) : Prop where
  /-- Every target is generated. -/
  generated : ∀ target, generateTarget t c target = .ok (outs target)
  /-- Each target has tables for the same languages, -/
  languages_iff : ∀ target l, l ∈ (outs target).sources.tables.keys ↔ l ∈ t.filedLanguages
  /-- all of which pass the check. -/
  checked : ∀ l ∈ t.filedLanguages, checkLanguage l = .ok ()
  /-- The files of all targets have different names, whatever their case, exactly if the tags have
  different identifiers, -/
  files_nodup_iff : ((Target.all.flatMap fun target => (outs target).sources.files).map
    fun f => asciiLowercase f.name).Nodup ↔ t.IdentifiersApart
  /-- and so have the functions of the tables of a target. -/
  functions_nodup_iff : ∀ target,
    ((outs target).sources.tables.keys.map target.tableFunction).Nodup ↔ t.IdentifiersApart
  /-- Plain tags have different identifiers. -/
  apart_of_plain : (∀ l ∈ t.filedLanguages, IsPlainTag l) → t.IdentifiersApart
  /-- The file of a language is a header, an entry for each of its texts, and a closing. -/
  tables : ∀ target, ∀ x ∈ (outs target).sources.tables.toList,
    x.2.contents = target.dialect.tableHeader c.packageName x.1 ++
      String.join (target.dialect.tableEntries x.1 t.filings) ++ target.dialect.tableClosing
  /-- The header ends with the heading of the function. -/
  headings : ∀ target, ∀ x ∈ (outs target).sources.tables.toList,
    BeginsWith (target.tableOpening c.packageName x.1 ++
      target.tableHeading (target.tableFunction x.1)) x.2.contents
  /-- The binding ends with a line for each table file that names it, and one for each table that
  calls its function, in the order of the tags. -/
  binding : ∀ target, (outs target).sources.binding.contents =
    target.opening c.packageName ++ Spelling.lines (target.runtime c.defaultLanguage) ++
      String.join (t.declarationTexts target) ++
      Spelling.lines (
        ((outs target).sources.tables.toList.filterMap fun x =>
          target.tableLink? (target.tableFunction x.1) x.2.name) ++
        target.callsOpening ++
        ((outs target).sources.tables.toList.map fun x =>
          target.tableCall x.1 (target.tableFunction x.1)) ++
        target.callsClosing)

/-- **The files of all targets.**  They and the functions in them have different names unless two
tags have one identifier, and a binding brings in the functions of its tables from their files. -/
theorem files_spec {target : Target} {out : TargetOutput}
    (h : generateTarget t c target = .ok out) :
    ∃ outs : Target → TargetOutput, outs target = out ∧ t.FilesSpec c outs := by
  obtain ⟨hvet, hout⟩ := (generateTarget_eq_ok_iff ..).1 h
  have hcheck := checkTree_of_vet hvet
  refine ⟨fun target => target.dialect.generate t c, hout, ?_⟩
  constructor
  case generated => exact fun target => (generateTarget_eq_ok_iff ..).2 ⟨hvet, rfl⟩
  case languages_iff => exact fun target l => mem_tables_iff
  case checked =>
    intro l hl
    obtain ⟨f, hf, rfl⟩ := List.mem_map.1 hl
    obtain ⟨-, -, hlanguages⟩ := (checkTree_eq_ok_iff ..).1 hcheck
    exact if_pos (hlanguages _ (mem_languages_of_mem_filings hf))
  case files_nodup_iff => exact nodup_fileNames_iff hcheck
  case functions_nodup_iff => exact fun target => nodup_map_tableFunction_iff hcheck target target
  case apart_of_plain => exact identifiersApart_of_plain
  case tables =>
    intro target x hx
    rw [table_eq hx]
  case headings =>
    intro target x hx
    obtain ⟨rest, hrest⟩ := beginsWith_tableHeader hx
    rw [hrest]
    exact (target.beginsWith_tableHeading c.packageName x.1).append rest
  case binding =>
    intro target
    have hlinks : ((target.dialect.generate t c).sources.tables.keys.filterMap fun l =>
          target.tableLink? (target.tableFunction l) (target.dialect.tableFile l)) =
        (target.dialect.generate t c).sources.tables.toList.filterMap fun x =>
          target.tableLink? (target.tableFunction x.1) x.2.name := by
      rw [SortedMap.keys, List.filterMap_map]
      refine List.filterMap_congr fun x hx => ?_
      rw [Function.comp_apply, table_eq hx]
    rw [t.binding_contents c target, Target.epilogue_eq, hlinks, SortedMap.keys, List.map_map]
    rfl

theorem files_spec_marked :
    ∃ outs, marked.FilesSpec (.ofLanguage "nl") outs ∧
      (∀ target, generateTarget marked (.ofLanguage "nl") target = .ok (outs target)) ∧
      marked.filedLanguages = ["nl", "nl"] ∧
      ((Target.all.flatMap fun target => (outs target).sources.files).map
        fun f => asciiLowercase f.name).Nodup := by
  have hfiled : marked.filedLanguages = ["nl", "nl"] := by decide +kernel
  obtain ⟨outs, -, hspec⟩ :=
    files_spec ((generateTarget_eq_ok_iff marked (.ofLanguage "nl") .rust _).2 ⟨vet_marked, rfl⟩)
  have hplain : IsPlainTag "nl" := by
    intro x hx
    rcases (by simpa using hx : x = 'n' ∨ x = 'l') with rfl | rfl
    · exact .inl (by decide)
    · exact .inl (by decide)
  refine ⟨outs, hspec, hspec.generated, hfiled, hspec.files_nodup_iff.2 ?_⟩
  apply hspec.apart_of_plain
  rw [hfiled]
  simpa using hplain

lemma languageIdentifier_of_marks :
    languageIdentifier "en-1ab." = languageIdentifier "en-1ab!" := by
  rw [← String.toList_inj, languageIdentifier, languageIdentifier, String.toList_map,
    String.toList_map]
  decide

/-- A document with two tags that differ in a punctuation mark, which no language tag has: both pass
the check, and their tables go to one file and come from one function. -/
theorem exists_files_not_nodup :
    ∃ t out, Tree.ofDocument "nl" (.object [("title", .object
        [("nl", .string "x"), ("en-1ab.", .string "y"), ("en-1ab!", .string "z")])]) = .ok t ∧
      generateTarget t (.ofLanguage "nl") .js = .ok out ∧
      ¬(out.sources.files.map fun f => asciiLowercase f.name).Nodup ∧
      ¬(out.sources.tables.keys.map (Target.tableFunction .js)).Nodup := by
  obtain ⟨t, ht, hvet, hfiled, hfiled'⟩ : ∃ t, Tree.ofDocument "nl" (.object [("title", .object
        [("nl", .string "x"), ("en-1ab.", .string "y"), ("en-1ab!", .string "z")])]) = .ok t ∧
      t.vet (.ofLanguage "nl") = .ok () ∧
      "en-1ab." ∈ t.filedLanguages ∧ "en-1ab!" ∈ t.filedLanguages :=
    ⟨_, rfl, vet_of_values (by decide +kernel) (by decide +kernel), by decide +kernel,
      by decide +kernel⟩
  have hcheck := checkTree_of_vet hvet
  have hapart : ¬t.IdentifiersApart := fun h =>
    absurd (h _ hfiled _ hfiled' languageIdentifier_of_marks) (by decide)
  refine ⟨t, _, ht, (generateTarget_eq_ok_iff ..).2 ⟨hvet, rfl⟩, ?_, ?_⟩
  · exact mt (nodup_map_asciiLowercase_iff hcheck .js).1 hapart
  · exact mt (nodup_map_tableFunction_iff hcheck .js .js).1 hapart

end Tree

end Phrasebook
