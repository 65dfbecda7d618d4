import Phrasebook.Proofs.Catalog.Tables
import Phrasebook.Proofs.Plan.Accessors

/-!
# Every declared accessor finds its texts

A generated accessor has no way to report that a text is missing, so what it looks up should be
there in every language, also in one that nobody has heard of.

Two things meet in this.  A value is filed in the default language whenever it is filed at all,
and that table is always consulted last: a lookup key resolves for one requested language exactly
if it resolves for all of them (`Tree.resolve?_isSome_iff`).  And the keys that an accessor
records are made from the address of its node, while the keys that texts are filed under are made
from the values: they are the same keys (`Tree.ids_eq_keys`, `Tree.GetsType.fieldKey_served`).

The main result is `Tree.catalog_complete`.
-/

namespace Phrasebook

/-- Every accessor that the plan of `t` declares finds its texts in the catalog `c`. -/
structure Catalog.Complete (c : Catalog) (t : Tree) : Prop where
  /-- The accessors of the catalog are those that the plan declares. -/
  accessors_eq : c.accessors = t.plan.steps.filterMap Catalog.accessorOf?
  /-- All keys of an accessor of a text or of a list resolve. -/
  texts : ∀ s ∈ t.plan.steps, s.form? = some .text ∨ s.form? = some .list →
    ∀ a ∈ Catalog.accessorOf? s, ∀ id ∈ a.ids, ∀ requested, (c.resolve? requested id).isSome
  /-- A field is declared for the records that got their type only. -/
  typed : ∀ field a default, .fieldAccessor field a default ∈ t.plan.steps →
    ∃ before rs, t.GetsType before a rs ∧ field ∈ Record.fieldNames rs
  /-- The key of a declared field resolves for every record that has the field. -/
  fields : ∀ field a default, .fieldAccessor field a default ∈ t.plan.steps →
    ∀ before rs, t.GetsType before a rs → ∀ i r, rs[i]? = some r → (r.get? field).isSome →
      ∀ requested, (c.resolve? requested (fieldKey a.key i field)).isSome
  /-- Whether a key resolves does not depend on the language. -/
  uniform : ∀ key requested requested',
    (c.resolve? requested key).isSome = (c.resolve? requested' key).isSome

/-! ## Accessors of a catalog -/

lemma Catalog.accessors_run (c : Catalog) (steps : List Step) :
    (c.run steps).accessors = c.accessors ++ steps.filterMap accessorOf? := by
  induction steps generalizing c with
  | nil => simp [run]
  | cons s rest ih =>
    have hrun : c.run (s :: rest) = (c.step s).run rest := rfl
    have hstep : (c.step s).accessors = c.accessors ++ (accessorOf? s).toList := by
      cases s <;> simp [step, file, accessorOf?]
    rw [hrun, ih, hstep, List.append_assoc, List.filterMap_cons]
    cases accessorOf? s <;> rfl

namespace Tree

variable {t : Tree} {key : String}

/-! ## Keys that resolve -/

/-- A key resolves exactly if a value is served under it. -/
lemma resolve?_isSome_iff (requested : Option String) :
    (t.catalog.resolve? requested key).isSome ↔ ∃ v, (key, v) ∈ t.served := by
  have hfallback : t.catalog.fallback = t.defaultLanguage := Catalog.fallback_run ..
  have htable : ∀ language, (t.catalog.textIn? key language).isSome ↔
      ∃ v, (key, v) ∈ t.served ∧ (language = t.defaultLanguage ∨ language ∈ v.overrides.keys) := by
    intro language
    rw [Option.isSome_iff_exists, ← exists_holds_catalog_iff]
    simp only [Catalog.holds_iff]
  rw [Catalog.resolve?, List.findSome?_isSome_iff]
  simp only [htable]
  constructor
  · rintro ⟨language, -, v, hv, -⟩
    exact ⟨v, hv⟩
  · rintro ⟨v, hv⟩
    refine ⟨t.defaultLanguage, ?_, v, hv, .inl rfl⟩
    rw [hfallback]
    simp [LanguageTag.resolutionOrder]

lemma mem_served {u : Turn} {v : Value} (hu : u ∈ t.turns) (hd : u.declares)
    (hv : (key, v) ∈ u.request.values) : (key, v) ∈ t.served :=
  List.mem_flatMap.2 ⟨u, List.mem_filter.2 ⟨hu, hd⟩, hv⟩

/-- The keys that an accessor of a text or of a list records are the keys of its values. -/
lemma ids_eq_keys {u : Turn} {s : Step} {a : Accessor} (hu : u ∈ t.turns)
    (hs : u.request.accessor? = some s) (hform : s.form? = some .text ∨ s.form? = some .list)
    (ha : Catalog.accessorOf? s = some a) : a.ids = u.request.keys := by
  obtain ⟨_, e, _, -, hue⟩ := mem_turns_iff.1 hu
  rcases Entry.request_cases hue with ⟨v, hr⟩ | ⟨vs, hr⟩ | hr | ⟨-, -, rs, field, hr⟩ <;>
    rw [hr] at hs ⊢ <;> cases hs
  · cases ha
    rfl
  · cases ha
    rw [Request.keys_ofList, List.range_eq_range']
  · exact absurd hform (by simp [Block.ofField, Step.form?])

/-- A record that has a declared field is served under the key of its place. -/
lemma GetsType.fieldKey_served {before : List Entry} {a : Address} {rs : List Record} {i : ℕ}
    {r : Record} {field default : String} (h : t.GetsType before a rs)
    (hs : .fieldAccessor field a default ∈ t.plan.steps) (hi : rs[i]? = some r)
    (hfield : (r.get? field).isSome) : ∃ v, (fieldKey a.key i field, v) ∈ t.served := by
  obtain ⟨u, hu, hstep, hd, -⟩ := exists_turn_of_mem_steps hs nofun
  obtain ⟨v, hv⟩ := Option.isSome_iff_exists.1 hfield
  obtain ⟨-, -, hr⟩ := h.of_fieldAccessor hu hstep rfl
  refine ⟨v, mem_served hu hd ?_⟩
  rw [hr]
  exact List.mem_filterMap.2 ⟨(r, i), List.mem_zipIdx_iff_getElem?.2 hi, by simp [hv]⟩

/-! ## The result -/

/-- **Fallback is complete.** Whatever language is requested, an accessor of a text or of a list
finds a text for each of its keys, and a field finds one for each record that has it.  Whether a
key is found at all does not depend on the language. -/
theorem catalog_complete (t : Tree) : t.catalog.Complete t := by
  constructor
  case accessors_eq => exact Catalog.accessors_run ..
  case texts =>
    intro s hs hform a ha id hid requested
    obtain ⟨u, hu, -, hd, haccessor⟩ := exists_turn_of_mem_steps hs fun h => by simp [h] at hform
    rw [ids_eq_keys hu haccessor hform ha] at hid
    obtain ⟨⟨_, v⟩, hv, rfl⟩ := List.mem_map.1 hid
    exact (resolve?_isSome_iff requested).2 ⟨v, mem_served hu hd hv⟩
  case typed =>
    intro field a default hs
    obtain ⟨u, hu, hstep, -⟩ := exists_turn_of_mem_steps hs nofun
    obtain ⟨before, rs, htype, hfield, -⟩ := exists_getsType hu hstep
    exact ⟨before, rs, htype, hfield⟩
  case fields =>
    intro field a default hs before rs htype i r hi hfield requested
    exact (resolve?_isSome_iff requested).2 (htype.fieldKey_served hs hi hfield)
  case uniform =>
    intro key requested requested'
    rw [Bool.eq_iff_iff, resolve?_isSome_iff, resolve?_isSome_iff]

end Tree

end Phrasebook
