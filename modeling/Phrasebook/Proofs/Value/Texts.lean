import Mathlib.Data.List.Nodup
import Mathlib.Data.List.Pairwise
import Phrasebook.Value

/-!
# The languages of a value

A value says in two ways which languages it has a text in: `Value.textIn?` answers for a single
language, and `Value.texts` lists all of them.  Both stand the default language in front of the
translations, so that a translation into the default language may be stored and must not be seen.
What is seen of the translations is the map without that key (`SortedMap.without`).

`Value.ListsLanguages` puts together what holds of the list, and `Value.listsLanguages` proves it
of every value.
-/

namespace Phrasebook

/-! ## Maps without a key -/

namespace SortedMap

variable {α : Type*}

/-- The map without what is filed under `k`. -/
def without (m : SortedMap α) (k : String) : SortedMap α :=
  ⟨m.toList.filter fun e => e.1 ≠ k, m.sorted.filter _⟩

/-- Leaving a key out takes its value away and changes no other. -/
lemma get?_without (m : SortedMap α) (k k' : String) :
    (m.without k).get? k' = if k' = k then none else m.get? k' := by
  ext a
  rw [get?_eq_some_iff, without, List.mem_filter, ← get?_eq_some_iff]
  by_cases h : k' = k <;> simp [h]

lemma notMem_keys_without (m : SortedMap α) (k : String) : k ∉ (m.without k).keys := by
  simp [keys, without]

end SortedMap

/-! ## The list of the texts -/

namespace Value

variable (v : Value) (default language : String)

lemma texts_eq :
    v.texts default = (default, v.defaultText) :: (v.overrides.without default).toList := rfl

/-- The text in a language is the one that is listed with it. -/
lemma mem_texts_iff (text : String) :
    (language, text) ∈ v.texts default ↔ v.textIn? language default = some text := by
  rw [texts_eq, textIn?, List.mem_cons, ← SortedMap.get?_eq_some_iff, SortedMap.get?_without,
    Prod.mk.injEq]
  by_cases h : language = default <;> simp [h, eq_comm]

lemma nodup_texts : ((v.texts default).map (·.1)).Nodup := by
  have hkeys : (v.overrides.without default).keys.Nodup :=
    (SortedMap.keys_pairwise _).imp fun h => ne_of_text_lt h
  exact List.nodup_cons.2 ⟨v.overrides.notMem_keys_without default, hkeys⟩

section

variable {v w : Value} {default : String}

/-- A language that is listed is the default language or that of a translation. -/
lemma mem_keys_of_mem_texts {x : String × String} (h : x ∈ v.texts default) :
    x.1 = default ∨ x.1 ∈ v.overrides.keys := by
  rcases List.mem_cons.1 h with rfl | h
  · exact .inl rfl
  · exact .inr (List.mem_map_of_mem (List.mem_of_mem_filter h))

/-- Values that differ only in a translation into the default language list the same texts. -/
lemma texts_congr (htext : w.defaultText = v.defaultText)
    (hoverrides : ∀ l, l ≠ default → w.overrides.get? l = v.overrides.get? l) :
    w.texts default = v.texts default := by
  have hwithout : w.overrides.without default = v.overrides.without default := by
    refine SortedMap.ext_get? fun l => ?_
    rw [SortedMap.get?_without, SortedMap.get?_without]
    split
    · rfl
    · rename_i hl
      exact hoverrides l hl
  rw [texts_eq, texts_eq, htext, hwithout]

end

/-- The texts of a value are listed by language: the list and the answers for single languages
agree, and neither sees a translation into the default language. -/
structure ListsLanguages (v : Value) (default : String) : Prop where
  /-- The default language comes first, with the default text. -/
  first : (v.texts default).head? = some (default, v.defaultText)
  /-- The other languages follow in strictly increasing order. -/
  increasing : ((v.texts default).tail.map (·.1)).Pairwise (· < ·)
  /-- No language is listed twice. -/
  nodup : ((v.texts default).map (·.1)).Nodup
  /-- The text in a language is the one that is listed with it. -/
  textIn?_iff : ∀ language text,
    v.textIn? language default = some text ↔ (language, text) ∈ v.texts default
  /-- A value with the same default text and the same translations into other languages lists the
  same texts and gives the same answers. -/
  ignored : ∀ w : Value, w.defaultText = v.defaultText →
    (∀ l, l ≠ default → w.overrides.get? l = v.overrides.get? l) →
    w.texts default = v.texts default ∧ ∀ l, w.textIn? l default = v.textIn? l default

lemma listsLanguages : v.ListsLanguages default where
  first := rfl
  increasing := SortedMap.keys_pairwise (v.overrides.without default)
  nodup := v.nodup_texts default
  textIn?_iff language text := (v.mem_texts_iff default language text).symm
  ignored w htext hoverrides := by
    have htexts := texts_congr htext hoverrides
    refine ⟨htexts, fun l => Option.ext fun text => ?_⟩
    rw [← mem_texts_iff, htexts, mem_texts_iff]

/-- A stored translation into the default language is not seen. -/
example :
    let v : Value := ⟨"Dag", 0, .ofList [("nl", "Hoi"), ("en", "Day"), ("de", "Tag")]⟩
    v.texts "nl" = [("nl", "Dag"), ("de", "Tag"), ("en", "Day")] ∧
      v.textIn? "nl" "nl" = some "Dag" := by decide

end Value

end Phrasebook
