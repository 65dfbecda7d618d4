import Phrasebook.Catalog
import Phrasebook.Proofs.Plan.Readings
import Phrasebook.Proofs.Tree.Languages

/-!
# A catalog holds what its tree says

The tables of a catalog are filled by steps, one text at a time, and a later text replaces an
earlier one at the same place.  So a table answers with the last filing for its place
(`lastText?`, `Catalog.textIn?_run`).

A value files at most one text at a place, the one that `Value.textIn?` gives
(`Value.lastText?_filings`).  The filings of a plan are those of the values it serves, so the
tables of a tree answer with the last value that is served under the key and has a text in the
language (`Tree.textIn?_catalog`).  Which values are served is read off the entries of the tree
(`Tree.ServesEntries`).

The main result is `Tree.catalog_mirrors`, which puts this together with the order in which the
tables are consulted.
-/

namespace Phrasebook

/-! ## The last filing for a place -/

/-- The text of a filing, if it goes to the place of `key` in the table of `language`. -/
def Filing.textAt? (language key : String) (f : Filing) : Option String :=
  if f.language = language ∧ f.key = key then some f.text else none

/-- The text of the last filing that goes to the place of `key` in the table of `language`. -/
def lastText? (fs : List Filing) (language key : String) : Option String :=
  fs.reverse.findSome? (Filing.textAt? language key)

section LastText

variable {fs gs : List Filing} {language key text : String}

lemma Filing.textAt?_eq_some_iff {f : Filing} :
    f.textAt? language key = some text ↔ f = ⟨language, key, text⟩ := by
  obtain ⟨l, k, x⟩ := f
  simp [textAt?, and_assoc]

lemma lastText?_append :
    lastText? (fs ++ gs) language key =
      (lastText? gs language key).or (lastText? fs language key) := by
  rw [lastText?, List.reverse_append, List.findSome?_append]
  rfl

lemma mem_of_lastText? (h : lastText? fs language key = some text) :
    (⟨language, key, text⟩ : Filing) ∈ fs := by
  obtain ⟨f, hf, htext⟩ := List.exists_of_findSome?_eq_some h
  rw [← Filing.textAt?_eq_some_iff.1 htext]
  exact List.mem_reverse.1 hf

lemma lastText?_isSome_of_mem (h : (⟨language, key, text⟩ : Filing) ∈ fs) :
    (lastText? fs language key).isSome := by
  rw [lastText?, List.findSome?_isSome_iff]
  exact ⟨_, List.mem_reverse.2 h, by simp [Filing.textAt?]⟩

end LastText

/-! ## Tables -/

namespace Catalog

variable (c : Catalog) (language key : String)

lemma textIn?_file (key' text language' : String) :
    (c.file key' text language').textIn? key language =
      ((⟨language', key', text⟩ : Filing).textAt? language key).or (c.textIn? key language) := by
  simp only [textIn?, file, SortedMap.get?_insert, Filing.textAt?]
  by_cases hl : language = language'
  · subst hl
    by_cases hk : key = key'
    · simp [hk]
    · have hk' : key' ≠ key := fun h => hk h.symm
      cases c.tables.get? language <;> simp [hk, hk', SortedMap.get?_insert]
  · have hl' : language' ≠ language := fun h => hl h.symm
    simp [hl, hl']

lemma textIn?_step (s : Step) :
    (c.step s).textIn? key language =
      (lastText? s.filing?.toList language key).or (c.textIn? key language) := by
  cases s with
  | text key' text language' =>
    rw [step, textIn?_file]
    simp [Step.filing?, lastText?]
  | accessor | listAccessor | fieldAccessor | finish => rfl

/-- A table answers with the last text filed at a place, or with what was there before. -/
lemma textIn?_run (steps : List Step) :
    (c.run steps).textIn? key language =
      (lastText? (steps.filterMap Step.filing?) language key).or (c.textIn? key language) := by
  induction steps generalizing c with
  | nil => rfl
  | cons s rest ih =>
    have hcons : (s :: rest).filterMap Step.filing? =
        s.filing?.toList ++ rest.filterMap Step.filing? := by
      rw [List.filterMap_cons]
      cases s.filing? <;> rfl
    have hrun : c.run (s :: rest) = (c.step s).run rest := rfl
    rw [hrun, ih, textIn?_step, hcons, lastText?_append, Option.or_assoc]

end Catalog

/-! ## Values -/

namespace Value

variable (v : Value) (default language key : String)

/-- A value files at a place the one text that it has in the language. -/
lemma lastText?_filings (key' : String) :
    lastText? (v.filings default key') language key =
      if key' = key then v.textIn? language default else none := by
  have hmem : ∀ text, (⟨language, key, text⟩ : Filing) ∈ v.filings default key' ↔
      key' = key ∧ v.textIn? language default = some text := by
    intro text
    rw [← mem_texts_iff]
    simp [filings, and_comm]
  split
  · rename_i hkey
    cases htext : v.textIn? language default with
    | none =>
      refine Option.eq_none_iff_forall_ne_some.2 fun text h => ?_
      simp [(hmem text).1 (mem_of_lastText? h)] at htext
    | some text =>
      obtain ⟨text', h⟩ :=
        Option.isSome_iff_exists.1 (lastText?_isSome_of_mem ((hmem text).2 ⟨hkey, htext⟩))
      rw [h, ← htext, ((hmem text').1 (mem_of_lastText? h)).2]
  · rename_i hkey
    exact Option.eq_none_iff_forall_ne_some.2 fun text h =>
      hkey ((hmem text).1 (mem_of_lastText? h)).1

/-- A value has texts in the default language and in those of its translations. -/
lemma exists_textIn?_iff :
    (∃ text, v.textIn? language default = some text) ↔
      language = default ∨ language ∈ v.overrides.keys := by
  rw [SortedMap.mem_keys_iff, Option.isSome_iff_exists, textIn?]
  by_cases h : language = default <;> simp [h]

end Value

/-! ## Trees -/

/-- The tables of a tree answer with the last value served under the key that has a text in the
language. -/
lemma Tree.textIn?_catalog (t : Tree) (language key : String) :
    t.catalog.textIn? key language =
      t.served.reverse.findSome? fun (id, v) =>
        if id = key then v.textIn? language t.defaultLanguage else none := by
  have hempty : (Catalog.empty t.defaultLanguage).textIn? key language = none := rfl
  have hfilings : t.plan.steps.filterMap Step.filing? = t.filings := rfl
  rw [catalog, Catalog.textIn?_run, hempty, Option.or_none, hfilings, t.filings_eq]
  induction t.served with
  | nil => rfl
  | cons s rest ih =>
    rw [List.flatMap_cons, lastText?_append, ih, Value.lastText?_filings, List.reverse_cons,
      List.findSome?_append, List.findSome?_singleton]

/-- The table of `language` exists and has `text` under `key`. -/
def Catalog.Holds (c : Catalog) (language key text : String) : Prop :=
  ∃ table, c.tables.get? language = some table ∧ table.get? key = some text

lemma Catalog.holds_iff {c : Catalog} {language key text : String} :
    c.Holds language key text ↔ c.textIn? key language = some text :=
  Option.bind_eq_some_iff.symm

/-- The tables of `c` and the answers found in them are what the tree `t` says. -/
structure Catalog.Mirrors (c : Catalog) (t : Tree) : Prop where
  /-- The values that are served are read off the entries of the tree. -/
  served : t.ServesEntries
  /-- A table has a key exactly if a value served under the key has a text in the language. -/
  exists_iff : ∀ language key, (∃ text, c.Holds language key text) ↔
    ∃ v, (key, v) ∈ t.served ∧ (language = t.defaultLanguage ∨ language ∈ v.overrides.keys)
  /-- The text is that of the last such value. -/
  holds_iff : ∀ language key text, c.Holds language key text ↔
    ∃ before v after, t.served = before ++ (key, v) :: after ∧
      v.textIn? language t.defaultLanguage = some text ∧
      ∀ w, (key, w) ∈ after → w.textIn? language t.defaultLanguage = none
  /-- An answer comes from the first table that has the key. -/
  resolve_some_iff : ∀ requested key text, c.resolve? requested key = some text ↔
    ∃ before language after,
      [requested.getD t.defaultLanguage,
        LanguageTag.languageKey (requested.getD t.defaultLanguage), t.defaultLanguage] =
          before ++ language :: after ∧
      c.Holds language key text ∧ ∀ l ∈ before, ∀ text', ¬c.Holds l key text'
  /-- There is no answer only if none of the tables has the key. -/
  resolve_none_iff : ∀ requested key, c.resolve? requested key = none ↔
    ∀ language ∈ [requested.getD t.defaultLanguage,
      LanguageTag.languageKey (requested.getD t.defaultLanguage), t.defaultLanguage],
        ∀ text, ¬c.Holds language key text

section Trees

variable (t : Tree) (language key text : String)

/-- What a table holds was supplied by a value that no later one replaces. -/
lemma Tree.holds_catalog_iff :
    t.catalog.Holds language key text ↔
      ∃ before v after, t.served = before ++ (key, v) :: after ∧
        v.textIn? language t.defaultLanguage = some text ∧
        ∀ w, (key, w) ∈ after → w.textIn? language t.defaultLanguage = none := by
  rw [Catalog.holds_iff, t.textIn?_catalog, List.findSome?_eq_some_iff]
  constructor
  · rintro ⟨after, ⟨id, v⟩, before, hsplit, htext, hlater⟩
    obtain ⟨rfl, hv⟩ : id = key ∧ v.textIn? language t.defaultLanguage = some text := by
      simpa using htext
    refine ⟨before.reverse, v, after.reverse, ?_, hv, fun w hw => ?_⟩
    · simpa using congrArg List.reverse hsplit
    · simpa using hlater (id, w) (List.mem_reverse.1 hw)
  · rintro ⟨before, v, after, hsplit, htext, hlater⟩
    refine ⟨after.reverse, (key, v), before.reverse, by simp [hsplit], by simpa using htext, ?_⟩
    rintro ⟨id, w⟩ hw
    by_cases hid : id = key
    · subst hid
      simpa using hlater w (List.mem_reverse.1 hw)
    · exact if_neg hid

lemma Tree.exists_holds_catalog_iff :
    (∃ text, t.catalog.Holds language key text) ↔
      ∃ v, (key, v) ∈ t.served ∧
        (language = t.defaultLanguage ∨ language ∈ v.overrides.keys) := by
  simp only [Catalog.holds_iff, ← Option.isSome_iff_exists]
  rw [t.textIn?_catalog, List.findSome?_isSome_iff]
  constructor
  · rintro ⟨⟨id, v⟩, hmem, htext⟩
    obtain ⟨text, htext⟩ := Option.isSome_iff_exists.1 htext
    obtain ⟨rfl, hv⟩ : id = key ∧ v.textIn? language t.defaultLanguage = some text := by
      simpa using htext
    exact ⟨v, List.mem_reverse.1 hmem, (v.exists_textIn?_iff _ _).1 ⟨text, hv⟩⟩
  · rintro ⟨v, hmem, hlanguage⟩
    obtain ⟨text, htext⟩ := (v.exists_textIn?_iff _ _).2 hlanguage
    exact ⟨(key, v), List.mem_reverse.2 hmem, by simp [htext]⟩

/-- Carrying out steps leaves the language that is consulted last as it is. -/
lemma Catalog.fallback_run (c : Catalog) (steps : List Step) :
    (c.run steps).fallback = c.fallback := by
  induction steps generalizing c with
  | nil => rfl
  | cons s rest ih =>
    have hrun : c.run (s :: rest) = (c.step s).run rest := rfl
    rw [hrun, ih]
    cases s <;> rfl

/-- **A catalog holds what its tree says.** Each table has the texts of the values that are served,
of several under one key the last, and a text is looked up in the table of the requested tag, then
in that of its language key, then in that of the default language. -/
theorem Tree.catalog_mirrors : t.catalog.Mirrors t := by
  have horder : ∀ requested, LanguageTag.resolutionOrder requested t.catalog.fallback =
      [requested.getD t.defaultLanguage,
        LanguageTag.languageKey (requested.getD t.defaultLanguage), t.defaultLanguage] := by
    intro requested
    have hfallback : t.catalog.fallback = t.defaultLanguage := Catalog.fallback_run ..
    rw [hfallback]
    rfl
  have hnone : ∀ language key,
      t.catalog.textIn? key language = none ↔ ∀ text, ¬t.catalog.Holds language key text := by
    intro language key
    simp only [Catalog.holds_iff, Option.eq_none_iff_forall_ne_some, ne_eq]
  constructor
  case served => exact t.servesEntries
  case exists_iff => exact t.exists_holds_catalog_iff
  case holds_iff => exact t.holds_catalog_iff
  case resolve_some_iff =>
    intro requested key text
    rw [Catalog.resolve?, horder, List.findSome?_eq_some_iff]
    simp only [hnone, Catalog.holds_iff]
  case resolve_none_iff =>
    intro requested key
    rw [Catalog.resolve?, horder, List.findSome?_eq_none_iff]
    simp only [hnone]

end Trees

end Phrasebook
