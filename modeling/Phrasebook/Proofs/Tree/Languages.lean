import Mathlib.Data.List.Basic
import Phrasebook.Generation

/-!
# Which languages are checked

`checkTree` refuses a tree with an ill-formed language, and it finds the languages through
`Tree.languages`.  `Tree.mem_languages_iff` says which they are, and `checkTree_eq_ok_iff` what a
tree that passes has to satisfy.
-/

namespace Phrasebook

/-- Sorted lists with the same elements are equal. -/
lemma eq_of_sorted {ls ls' : List String} (h : ls.Pairwise (· < ·)) (h' : ls'.Pairwise (· < ·))
    (hmem : ∀ l, l ∈ ls' ↔ l ∈ ls) : ls' = ls := by
  have hperm : ls'.Perm ls := (List.perm_ext_iff_of_nodup (h'.imp fun hlt => ne_of_text_lt hlt)
    (h.imp fun hlt => ne_of_text_lt hlt)).2 hmem
  refine hperm.eq_of_pairwise (fun a b _ _ hab hba => ?_) h' h
  exact absurd (String.lt_trans hab hba) (String.lt_irrefl a)

namespace SortedMap

variable {α : Type*}

lemma mem_keys_iff (m : SortedMap α) (k : String) : k ∈ m.keys ↔ (m.get? k).isSome := by
  rw [Option.isSome_iff_exists, keys, List.mem_map]
  constructor
  · rintro ⟨⟨k', a⟩, he, rfl⟩
    exact ⟨a, (m.get?_eq_some_iff k' a).2 he⟩
  · rintro ⟨a, ha⟩
    exact ⟨(k, a), (m.get?_eq_some_iff k a).1 ha, rfl⟩

lemma mem_keys_insert_iff (m : SortedMap α) (k k' : String) (a : α) :
    k' ∈ (m.insert k a).keys ↔ k' = k ∨ k' ∈ m.keys := by
  rw [mem_keys_iff, mem_keys_iff, get?_insert]
  by_cases h : k' = k <;> simp [h]

/-- A map of a list has the keys of the list. -/
lemma mem_keys_ofList_iff (l : List (String × α)) (k : String) :
    k ∈ (ofList l).keys ↔ k ∈ l.map (·.1) := by
  suffices h : ∀ m : SortedMap α,
      k ∈ (l.foldl (fun m e => m.insert e.1 e.2) m).keys ↔ k ∈ m.keys ∨ k ∈ l.map (·.1) by
    have hempty : k ∉ (empty : SortedMap α).keys := List.not_mem_nil
    exact (h empty).trans (or_iff_right hempty)
  induction l with
  | nil => simp
  | cons e rest ih =>
    intro m
    rw [List.foldl_cons, ih, mem_keys_insert_iff, List.map_cons, List.mem_cons]
    tauto

end SortedMap

/-- The languages of a tree are the default language and those of all translations. -/
lemma Tree.mem_languages_iff (t : Tree) (language : String) :
    language ∈ t.languages ↔
      language = t.defaultLanguage ∨ ∃ v ∈ t.values, language ∈ v.overrides.keys := by
  simp [languages, SortedMap.mem_keys_ofList_iff]

lemma checkLanguages_eq_ok_iff (ls : List String) :
    checkLanguages ls = .ok () ↔ ∀ l ∈ ls, LanguageTag.isCanonical l := by
  induction ls with
  | nil => simp [checkLanguages]
  | cons l rest ih =>
    rw [List.forall_mem_cons, ← ih, checkLanguages, checkLanguage]
    split
    · rename_i h
      simp only [h, true_and]
      rfl
    · rename_i h
      simp only [h, Bool.false_eq_true, false_and, iff_false]
      exact fun h' => nomatch h'

/-- The trees that nothing is refused for. -/
lemma checkTree_eq_ok_iff (t : Tree) (c : Config) :
    checkTree t c = .ok () ↔
      c.check = .ok () ∧ t.defaultLanguage = c.defaultLanguage ∧
        ∀ l ∈ t.languages, LanguageTag.isCanonical l := by
  rw [← checkLanguages_eq_ok_iff, checkTree]
  cases hc : c.check with
  | error e => exact ⟨fun h => (nomatch h), fun h => (nomatch h.1)⟩
  | ok u =>
    by_cases hd : t.defaultLanguage = c.defaultLanguage
    · simp only [hd, ne_eq, not_true_eq_false, if_false, true_and]
      exact ⟨fun h => h, fun h => h⟩
    · simp only [hd, ne_eq, not_false_eq_true, if_true, false_and, and_false, iff_false]
      exact fun h => nomatch h

end Phrasebook
