import Phrasebook.Proofs.Binding.Declarations
import Phrasebook.Proofs.Buffer.Projections
import Phrasebook.Proofs.Plan.Languages

/-!
# The table files of a target

Which files with tables there are, and what they hold.  A table is opened with the header of its
language when the first text in this language is filed, every text filed in it adds an entry, and in
the end it is closed.  So the file of a language is its header, the entries of its texts in the
order of the plan, and the closing (`Tree.table_eq`), and there is one for each language that
a text is filed in (`Tree.mem_tables_iff`).

Texts are filed in languages of the tree, so that the checks of a tree hold for the languages of its
tables (`Tree.mem_languages_of_mem_tables`).
-/

namespace Phrasebook

/-! ## Growing tables -/

namespace Buffers

variable {bs : Buffers} {language language' : String}

lemma get?_file (header text : String) :
    ((bs.enter language' header).push language' text).byLanguage.get? language =
      if language = language' then
        some (((bs.byLanguage.get? language').getD (.start header)).push text)
      else bs.byLanguage.get? language := by
  rw [get?_push, get?_enter, get?_enter, if_pos rfl]
  split <;> rfl

end Buffers

/-- The texts that are filed in a language, each as an entry of its table. -/
def Dialect.tableEntries (d : Dialect) (language : String) (fs : List Filing) : List String :=
  (fs.filter (·.language = language)).map fun f => d.tableEntry f.key f.text

namespace Dialect

variable {d : Dialect} {package : Option String} {fallback language : String}
  {steps : List Step}

lemma package_step (g : Draft) (s : Step) : (d.step g s).package = g.package := by
  cases s with
  | fieldAccessor field a text =>
    simp only [step, declareType]
    split <;> rfl
  | _ => rfl

lemma tables_step_of_filing?_eq_none {g : Draft} {s : Step} (hs : s ≠ .finish)
    (hfiling : s.filing? = none) : (d.step g s).tables = g.tables := by
  cases s with
  | text key text language => exact nomatch hfiling
  | accessor function a count text => rfl
  | listAccessor function a values default => rfl
  | fieldAccessor field a text =>
    simp only [step, declareType]
    split <;> rfl
  | finish => exact absurd rfl hs

lemma run_append_singleton (g : Draft) (steps : List Step) (s : Step) :
    d.run g (steps ++ [s]) = d.step (d.run g steps) s := by
  rw [run, List.foldl_append]
  rfl

lemma package_run (g : Draft) (steps : List Step) : (d.run g steps).package = g.package := by
  induction steps using List.reverseRecOn with
  | nil => rfl
  | append_singleton steps s ih => rw [run_append_singleton, package_step, ih]

lemma tableEntries_append_singleton (fs : List Filing) (f : Filing) :
    d.tableEntries language (fs ++ [f]) = d.tableEntries language fs ++
      if f.language = language then [d.tableEntry f.key f.text] else [] := by
  rw [tableEntries, tableEntries, List.filter_append, List.map_append]
  split
  · rename_i h
    rw [List.filter_singleton, decide_eq_true h]
    rfl
  · rename_i h
    rw [List.filter_singleton, decide_eq_false h]
    rfl

lemma tableEntries_eq_nil {fs : List Filing} (h : language ∉ fs.map (·.language)) :
    d.tableEntries language fs = [] := by
  rw [tableEntries, List.map_eq_nil_iff, List.filter_eq_nil_iff]
  intro f hf hlanguage
  exact h (of_decide_eq_true hlanguage ▸ List.mem_map_of_mem hf)

/-- The table of `language` with these texts, as long as it is not closed. -/
def openTable? (d : Dialect) (package : Option String) (language : String) (fs : List Filing) :
    Option Buffer :=
  if language ∈ fs.map (·.language) then
    some ⟨d.tableHeader package language ++ String.join (d.tableEntries language fs), false⟩
  else none

lemma openTable?_append_singleton (fs : List Filing) (f : Filing) :
    d.openTable? package language (fs ++ [f]) =
      if language = f.language then
        some (((d.openTable? package f.language fs).getD
          (.start (d.tableHeader package f.language))).push (d.tableEntry f.key f.text))
      else d.openTable? package language fs := by
  rw [openTable?, tableEntries_append_singleton]
  by_cases h : language = f.language
  · subst h
    rw [if_pos rfl, if_pos (by simp), if_pos rfl, String.join_append, ← String.append_assoc,
      openTable?]
    split
    · simp [Buffer.push]
    · rename_i hnew
      simp [tableEntries_eq_nil hnew, Buffer.push, Buffer.start]
  · rw [if_neg (Ne.symm h), if_neg h, List.append_nil, openTable?]
    simp [h]

/-- Before the end, the tables are those of the texts filed. -/
lemma get?_run (hfinish : .finish ∉ steps) (language : String) :
    (d.run (d.start package fallback) steps).tables.byLanguage.get? language =
      d.openTable? package language (steps.filterMap Step.filing?) := by
  induction steps using List.reverseRecOn generalizing language with
  | nil => rfl
  | append_singleton steps s ih =>
    rw [List.mem_append, not_or, List.mem_singleton] at hfinish
    have ih := ih hfinish.1
    rw [run_append_singleton]
    cases hfiling : s.filing? with
    | none =>
      rw [tables_step_of_filing?_eq_none (Ne.symm hfinish.2) hfiling, ih, List.filterMap_append,
        List.filterMap_cons_none hfiling, List.filterMap_nil, List.append_nil]
    | some f =>
      have hpackage : (d.run (d.start package fallback) steps).package = package :=
        package_run _ steps
      rw [List.filterMap_append, List.filterMap_cons_some hfiling, List.filterMap_nil,
        openTable?_append_singleton, ← ih, ← ih]
      cases s with
      | text key text language' =>
        cases hfiling
        rw [step, Buffers.get?_file, hpackage]
      | _ => cases hfiling

end Dialect

/-! ## Tables of a tree -/

namespace Tree

variable {t : Tree} {c : Config} {target : Target} {language : String}

/-- The last step closes the tables of the texts filed. -/
lemma exists_run_eq (t : Tree) (c : Config) (d : Dialect) :
    ∃ g : Draft, d.run (d.start c.packageName c.defaultLanguage) t.plan.steps = d.step g .finish ∧
      ∀ l, g.tables.byLanguage.get? l = d.openTable? c.packageName l t.filings := by
  obtain ⟨steps, hsteps, hfinish⟩ := t.exists_steps_eq
  have hfilings : t.filings = steps.filterMap Step.filing? := by
    rw [filings, hsteps, List.filterMap_append]
    exact List.append_nil _
  refine ⟨d.run (d.start c.packageName c.defaultLanguage) steps, ?_, ?_⟩
  · rw [hsteps, Dialect.run_append_singleton]
  · rw [hfilings]
    exact Dialect.get?_run hfinish

/-- A language has a table exactly if a text is filed in it. -/
lemma mem_tables_iff :
    language ∈ (target.dialect.generate t c).sources.tables.keys ↔
      language ∈ t.filings.map (·.language) := by
  obtain ⟨g, hrun, htables⟩ := t.exists_run_eq c target.dialect
  have hkeys : (target.dialect.step g .finish).tables.languages = g.tables.languages :=
    SortedMap.keys_map ..
  rw [Dialect.generate, Dialect.sources_keys, hrun, hkeys, Buffers.languages,
    SortedMap.mem_keys_iff, htables, Dialect.openTable?]
  split <;> simp [*]

/-- The file of a language is its header, the entries of its texts, and the closing. -/
lemma table_eq {x : String × SourceFile}
    (hx : x ∈ (target.dialect.generate t c).sources.tables.toList) :
    x.2 = ⟨target.dialect.tableFile x.1,
      target.dialect.tableHeader c.packageName x.1 ++
        String.join (target.dialect.tableEntries x.1 t.filings) ++
        target.dialect.tableClosing⟩ := by
  obtain ⟨g, hrun, htables⟩ := t.exists_run_eq c target.dialect
  rw [Dialect.generate, hrun] at hx
  obtain ⟨y, hy, rfl⟩ := List.mem_map.1 hx
  obtain ⟨⟨l, b⟩, hb, rfl⟩ := List.mem_map.1 hy
  have hopen := (SortedMap.get?_eq_some_iff ..).2 hb
  rw [htables, Dialect.openTable?] at hopen
  split at hopen
  · cases hopen
    rfl
  · cases hopen

/-- The file of a language begins with the header of its table. -/
lemma beginsWith_tableHeader {x : String × SourceFile}
    (hx : x ∈ (target.dialect.generate t c).sources.tables.toList) :
    BeginsWith (target.dialect.tableHeader c.packageName x.1) x.2.contents := by
  rw [table_eq hx]
  exact ((BeginsWith.self _).append _).append _

end Tree

/-! ## Languages with a table -/

namespace Tree

variable {t : Tree}

/-- Every table is that of a language of the tree. -/
lemma mem_languages_of_mem_tables {c : Config} {target : Target} {language : String}
    (h : language ∈ (target.dialect.generate t c).sources.tables.keys) :
    language ∈ t.languages := by
  obtain ⟨f, hf, rfl⟩ := List.mem_map.1 (mem_tables_iff.1 h)
  exact mem_languages_of_mem_filings hf

/-- The tag of a table has characters, if the languages of the tree pass the check. -/
lemma ne_empty_of_mem_tables {c : Config} (hcheck : checkTree t c = .ok ()) (target : Target) :
    ∀ l ∈ (target.dialect.generate t c).sources.tables.keys, l ≠ "" := by
  obtain ⟨-, -, hlanguages⟩ := (checkTree_eq_ok_iff ..).1 hcheck
  rintro l hl rfl
  exact absurd (hlanguages _ (mem_languages_of_mem_tables hl)) (by decide)

end Tree

end Phrasebook
