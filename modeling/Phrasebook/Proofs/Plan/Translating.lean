import Mathlib.Data.List.Forall2
import Phrasebook.Proofs.Plan.Pruning

/-!
# Adding a translation to a value

A value gets a translation into a language that it had none for (`Value.Translated`), wherever it
stands in a tree (`Tree.Translated`).  The plans of the two trees are compared turn by turn.

* A request for values of which some have a translation more asks for the same names and has the
  same faults (`Request.Extends`), so it meets the same clashes and is answered in the same way.
* It makes the same steps with some texts between them, all of them in the one language
  (`Step.Extended`).  Steps that declare a list carry its values; of these only the number is kept.

The result is `Tree.Translated.plan`: the errors are the same, and the steps are extended by texts
in the language.
-/

namespace Phrasebook

/-! ## Adding a translation -/

/-- The second value is the first with `text` as its translation into `language`.  There was none
before, and the text asks for no argument that the value has not. -/
structure Value.Translated (language text : String) (v v' : Value) : Prop where
  /-- The language is new to the value. -/
  fresh : v.overrides.get? language = none
  /-- All arguments that the text asks for are there. -/
  fits : Placeholder.firstUnaddressed? text v.argumentCount = none
  /-- Nothing else changes. -/
  eq : v' = v.setOverride language text

/-- One value of a content gets a translation. -/
inductive Content.Translated (language text : String) : Content → Content → Prop
  /-- The value of a single text. -/
  | text {v v' : Value} (h : v.Translated language text v') :
      Translated language text (.text v) (.text v')
  /-- An element of a list. -/
  | list {before after : List Value} {v v' : Value} (h : v.Translated language text v') :
      Translated language text (.list (before ++ v :: after)) (.list (before ++ v' :: after))
  /-- A field of a record. -/
  | records {before after : List Record} {fields fields' : List (String × Value)} {name : String}
      {v v' : Value} (h : v.Translated language text v') :
      Translated language text (.records (before ++ ⟨fields ++ (name, v) :: fields'⟩ :: after))
        (.records (before ++ ⟨fields ++ (name, v') :: fields'⟩ :: after))

/-- One value in some nodes gets a translation, at any depth. -/
inductive Node.Translated (language text : String) : List Node → List Node → Prop
  /-- A value of one of the nodes itself. -/
  | entry {before after : List Node} {a : Address} {c c' : Content}
      (h : c.Translated language text c') :
      Translated language text (before ++ .entry ⟨a, c⟩ :: after) (before ++ .entry ⟨a, c'⟩ :: after)
  /-- A value inside a group. -/
  | inside {before after children children' : List Node} {a : Address}
      (h : Translated language text children children') :
      Translated language text (before ++ .group a children :: after)
        (before ++ .group a children' :: after)

/-- One value of a tree gets `text` as its translation into `language`. -/
structure Tree.Translated (language text : String) (t t' : Tree) : Prop where
  /-- The trees are written in one language. -/
  defaultLanguage : t'.defaultLanguage = t.defaultLanguage
  /-- One value in the nodes gets the translation. -/
  nodes : Node.Translated language text t.nodes t'.nodes

/-! ## Lists of related elements -/

section Related

variable {α β γ : Type*} {R : α → β → Prop} {as : List α} {bs : List β}

lemma flatMap_eq_of_forall₂ {f : α → List γ} {g : β → List γ} (h : List.Forall₂ R as bs)
    (hfg : ∀ a b, R a b → g b = f a) : bs.flatMap g = as.flatMap f := by
  induction h with
  | nil => rfl
  | cons hab _ ih => rw [List.flatMap_cons, List.flatMap_cons, ih, hfg _ _ hab]

lemma forall₂_zipIdx (h : List.Forall₂ R as bs) (n : ℕ) :
    List.Forall₂ (fun x y => R x.1 y.1 ∧ y.2 = x.2) (as.zipIdx n) (bs.zipIdx n) := by
  induction h generalizing n with
  | nil => exact .nil
  | cons hab _ ih => exact .cons ⟨hab, rfl⟩ (ih (n + 1))

/-- Related elements at one place of two lists. -/
lemma forall₂_replace {R : α → α → Prop} (hrefl : ∀ a, R a a) (before after : List α) {a b : α}
    (h : R a b) : List.Forall₂ R (before ++ a :: after) (before ++ b :: after) :=
  List.rel_append (List.forall₂_same.2 fun x _ => hrefl x)
    (.cons h (List.forall₂_same.2 fun x _ => hrefl x))

end Related

/-! ## More steps -/

/-- The second steps are the first ones with texts in `language` between them.  A list may be
declared with other values, but not with another number of them. -/
inductive Step.Extended (language : String) : List Step → List Step → Prop
  /-- No steps. -/
  | nil : Extended language [] []
  /-- A text more. -/
  | text (key text : String) {steps steps' : List Step} (h : Extended language steps steps') :
      Extended language steps (.text key text language :: steps')
  /-- A step that is in both. -/
  | cons (s : Step) {steps steps' : List Step} (h : Extended language steps steps') :
      Extended language (s :: steps) (s :: steps')
  /-- The same list with other values. -/
  | list (function : String) (a : Address) (default : String) {vs vs' : List Value}
      (hlength : vs'.length = vs.length) {steps steps' : List Step}
      (h : Extended language steps steps') :
      Extended language (.listAccessor function a vs default :: steps)
        (.listAccessor function a vs' default :: steps')

namespace Step.Extended

variable {language : String} {steps steps' more more' : List Step}

lemma refl : ∀ steps : List Step, Extended language steps steps
  | [] => .nil
  | s :: rest => .cons s (refl rest)

lemma append (h : Extended language steps steps') (hmore : Extended language more more') :
    Extended language (steps ++ more) (steps' ++ more') := by
  induction h with
  | nil => exact hmore
  | text key text _ ih => exact .text key text ih
  | cons s _ ih => exact .cons s ih
  | list function a default hlength _ ih => exact .list function a default hlength ih

lemma flatMap {α β : Type*} {R : α → β → Prop} {as : List α} {bs : List β} {f : α → List Step}
    {g : β → List Step} (h : List.Forall₂ R as bs)
    (hfg : ∀ a b, R a b → Extended language (f a) (g b)) :
    Extended language (as.flatMap f) (bs.flatMap g) := by
  induction h with
  | nil => exact .nil
  | cons hab _ ih =>
    rw [List.flatMap_cons, List.flatMap_cons]
    exact (hfg _ _ hab).append ih

/-- A text more asks for no parameters. -/
lemma fits_iff (h : Extended language steps steps') :
    (∀ s ∈ steps', s.Fits) ↔ ∀ s ∈ steps, s.Fits := by
  induction h with
  | nil => exact Iff.rfl
  | text key text h ih =>
    rw [List.forall_mem_cons, ih]
    exact and_iff_right (Nat.zero_le _)
  | cons s h ih => rw [List.forall_mem_cons, List.forall_mem_cons, ih]
  | list function a default hlength h ih =>
    rw [List.forall_mem_cons, List.forall_mem_cons, ih]
    exact and_congr_left' (iff_of_true (Nat.zero_le _) (Nat.zero_le _))

end Step.Extended

/-! ## Values with more translations -/

/-- The second value has the texts of the first one and possibly one in `language` more, and is
refused for the same reasons. -/
structure Value.Extends (default language : String) (v v' : Value) : Prop where
  /-- The texts in the default language are the same. -/
  defaultText : v'.defaultText = v.defaultText
  /-- The values have the same number of arguments. -/
  argumentCount : v'.argumentCount = v.argumentCount
  /-- The errors are the same under any key. -/
  errors : ∀ key, v'.errors default key = v.errors default key
  /-- The texts of the first are filed, and possibly one in `language`. -/
  steps : ∀ key, Step.Extended language (v.steps default key) (v'.steps default key)

/-- A key that is not in a map is inserted between its entries. -/
lemma SortedMap.exists_insert_eq {α : Type*} (m : SortedMap α) {k : String} (a : α)
    (h : m.get? k = none) :
    ∃ before after, m.toList = before ++ after ∧
      (m.insert k a).toList = before ++ (k, a) :: after := by
  obtain ⟨l, hl⟩ := m
  change l.lookup k = none at h
  change ∃ before after, l = before ++ after ∧ insertEntry k a l = before ++ (k, a) :: after
  clear hl
  induction l with
  | nil => exact ⟨[], [], rfl, rfl⟩
  | cons e rest ih =>
    rw [lookup_cons_eq_ite] at h
    split at h
    · exact nomatch h
    · rename_i hk
      unfold insertEntry
      split
      · exact ⟨[], e :: rest, rfl, rfl⟩
      · obtain ⟨before, after, hrest, hinsert⟩ := ih h
        exact ⟨e :: before, after, by rw [hrest]; rfl, by rw [hinsert]; rfl⟩

namespace Value

variable {default language text : String} {v v' : Value}

lemma Extends.refl (default language : String) (v : Value) : v.Extends default language v :=
  ⟨rfl, rfl, fun _ => rfl, fun _ => .refl _⟩

/-- A translation into another language is listed between the texts there were. -/
lemma Translated.exists_texts (h : v.Translated language text v') (hne : language ≠ default) :
    ∃ before after, v.texts default = before ++ after ∧
      v'.texts default = before ++ (language, text) :: after := by
  obtain ⟨before, after, hlist, hinsert⟩ := v.overrides.exists_insert_eq text h.fresh
  refine ⟨(default, v.defaultText) :: before.filter (·.1 ≠ default),
    after.filter (·.1 ≠ default), ?_, ?_⟩
  · rw [texts, hlist, List.filter_append, List.cons_append]
  · rw [h.eq, texts]
    change _ :: List.filter _ (v.overrides.insert language text).toList = _
    rw [hinsert, List.filter_append, List.filter_cons_of_pos (by simpa using hne), List.cons_append]
    rfl

/-- A translation that fits adds its own text and no error. -/
lemma Translated.extends (h : v.Translated language text v') (hne : language ≠ default) :
    v.Extends default language v' := by
  obtain ⟨before, after, htexts, htexts'⟩ := h.exists_texts hne
  have hcount : v'.argumentCount = v.argumentCount := by
    rw [h.eq]
    rfl
  constructor
  case defaultText =>
    rw [h.eq]
    rfl
  case argumentCount => exact hcount
  case errors =>
    intro key
    rw [Value.errors, Value.errors, htexts, htexts', hcount]
    simp [List.filterMap_append, h.fits]
  case steps =>
    intro key
    rw [Value.steps, Value.steps, htexts, htexts', List.map_append, List.map_append, List.map_cons]
    exact (Step.Extended.refl _).append (.text key text (.refl _))

end Value

/-! ## Requests for values with more translations -/

/-- The second request asks for the same names, has the same faults, and makes the steps of the
first with texts in `language` between them. -/
structure Request.Extends (default language : String) (r r' : Request) : Prop where
  /-- The names compete with the same ones. -/
  scope : r'.scope = r.scope
  /-- The names are for the same key. -/
  key : r'.key = r.key
  /-- The names are the same. -/
  names : r'.names = r.names
  /-- The faults are the same. -/
  faults : r'.faults default = r.faults default
  /-- The steps are extended. -/
  steps : Step.Extended language (r.steps default) (r'.steps default)

/-- The second turn is that of the same names and came to the same errors; its steps are those of
the first with texts in `language` between them. -/
structure Turn.Extends (language : String) (u u' : Turn) : Prop where
  /-- The names compete with the same ones. -/
  scope : u'.request.scope = u.request.scope
  /-- The names are for the same key. -/
  key : u'.request.key = u.request.key
  /-- The names are the same. -/
  names : u'.request.names = u.request.names
  /-- The errors are the same. -/
  errors : u'.plan.errors = u.plan.errors
  /-- The steps are extended. -/
  steps : Step.Extended language u.plan.steps u'.plan.steps

namespace Turn.Extends

variable {language : String} {u u' : Turn} {past past' : List Turn}

lemma granted (h : u.Extends language u') : u'.granted = u.granted := by
  rw [Turn.granted, h.errors, Turn.granted]

lemma gives (h : u.Extends language u') (scope : Scope) (name : String) :
    u'.gives scope name = u.gives scope name := by
  rw [Turn.gives, h.granted, h.scope, h.names, Turn.gives]

/-- The same keys hold the same names. -/
lemma holder? (h : List.Forall₂ (Turn.Extends language) past past') (scope : Scope)
    (name : String) : holder? past' scope name = holder? past scope name := by
  induction h with
  | nil => rfl
  | cons hu _ ih =>
    unfold Phrasebook.holder? at ih ⊢
    rw [List.find?_cons, List.find?_cons, hu.gives]
    split
    · rw [Option.map_some, Option.map_some, hu.key]
    · exact ih

end Turn.Extends

namespace Request

variable {default language : String} {r r' : Request} {rs rs' : List Request}
  {past past' : List Turn}

lemma Extends.refl (default language : String) (r : Request) : r.Extends default language r :=
  ⟨rfl, rfl, rfl, rfl, .refl _⟩

/-- A request is extended if its values are. -/
lemma extends_of_values (hscope : r'.scope = r.scope) (hkey : r'.key = r.key)
    (hnames : r'.names = r.names)
    (hvalues : List.Forall₂ (fun x x' => x'.1 = x.1 ∧ x.2.Extends default language x'.2)
      r.values r'.values)
    (haccessor : Step.Extended language r.accessor?.toList r'.accessor?.toList) :
    r.Extends default language r' := by
  refine ⟨hscope, hkey, hnames, ?_, ?_⟩
  · refine flatMap_eq_of_forall₂ hvalues ?_
    rintro ⟨key, v⟩ ⟨_, v'⟩ ⟨rfl, hv⟩
    exact hv.errors _
  · refine Step.Extended.append (Step.Extended.flatMap hvalues ?_) haccessor
    rintro ⟨key, v⟩ ⟨_, v'⟩ ⟨rfl, hv⟩
    exact hv.steps _

/-- Requests that ask for the same are answered in the same way. -/
lemma Extends.turn (h : r.Extends default language r')
    (hpast : List.Forall₂ (Turn.Extends language) past past') :
    (r.turn default past).Extends language (r'.turn default past') := by
  have hclash : r'.clash? past' = r.clash? past := by
    rw [clash?, h.names, h.scope, clash?]
    simp only [Turn.Extends.holder? hpast]
  refine ⟨h.scope, h.key, h.names, ?_, ?_⟩
  all_goals
    simp only [Request.turn, outcome, h.faults, h.key, hclash]
    split
    · split
      · first | rfl | exact h.steps
      · first | rfl | exact .nil
    · first | rfl | exact .nil

lemma extends_turns (h : List.Forall₂ (Request.Extends default language) rs rs')
    (hpast : List.Forall₂ (Turn.Extends language) past past') :
    List.Forall₂ (Turn.Extends language) (turns default past rs) (turns default past' rs') := by
  induction h generalizing past past' with
  | nil => exact .nil
  | cons hr _ ih =>
    have hturn := hr.turn hpast
    exact .cons hturn (ih (List.rel_append hpast (.cons hturn .nil)))

end Request

/-! ## Entries with more translations -/

/-- The requests of the second entry extend those of the first. -/
structure Entry.Extends (default language : String) (e e' : Entry) : Prop where
  /-- What is asked for first. -/
  first : (e.first default).Extends default language (e'.first default)
  /-- What is asked for then. -/
  further : List.Forall₂ (Request.Extends default language) e.further e'.further

namespace Entry

variable {default language text : String} {e e' : Entry} {es es' : List Entry}
  {past past' : List Turn}

lemma Extends.refl (default language : String) (e : Entry) : e.Extends default language e :=
  ⟨.refl .., List.forall₂_same.2 fun _ _ => .refl ..⟩

lemma Extends.turns (h : e.Extends default language e')
    (hpast : List.Forall₂ (Turn.Extends language) past past') :
    List.Forall₂ (Turn.Extends language) (e.turns default past) (e'.turns default past') := by
  have hturn := h.first.turn hpast
  refine .cons hturn ?_
  rw [hturn.granted]
  split
  · exact Request.extends_turns h.further (List.rel_append hpast (.cons hturn .nil))
  · exact .nil

lemma extends_turnsAll (h : List.Forall₂ (Entry.Extends default language) es es')
    (hpast : List.Forall₂ (Turn.Extends language) past past') :
    List.Forall₂ (Turn.Extends language) (turnsAll default past es)
      (turnsAll default past' es') := by
  induction h generalizing past past' with
  | nil => exact .nil
  | cons he _ ih =>
    have hturns := he.turns hpast
    exact List.rel_append hturns (ih (List.rel_append hpast hturns))

end Entry

/-- Values with the same names in the same places, of which the second may have a translation
more. -/
abbrev Record.Extends (default language : String) (r r' : Record) : Prop :=
  List.Forall₂ (fun f f' => f'.1 = f.1 ∧ f.2.Extends default language f'.2) r.fields r'.fields

section Lists

variable {default language : String} {vs vs' : List Value} {rs rs' : List Record}

lemma extends_elements (key : String) (h : List.Forall₂ (Value.Extends default language) vs vs') :
    List.Forall₂ (fun x x' => x'.1 = x.1 ∧ Value.Extends default language x.2 x'.2)
      (vs.zipIdx.map fun (v, i) => (elementKey key i, v))
      (vs'.zipIdx.map fun (v, i) => (elementKey key i, v)) := by
  refine List.rel_map ?_ (forall₂_zipIdx h 0)
  rintro ⟨v, i⟩ ⟨v', _⟩ ⟨hv, rfl⟩
  exact ⟨rfl, hv⟩

/-- Both records have the field, or neither has. -/
lemma Record.Extends.get? {r r' : Record} (h : r.Extends default language r') (field : String) :
    Option.Rel (Value.Extends default language) (r.get? field) (r'.get? field) := by
  obtain ⟨fs⟩ := r
  obtain ⟨fs'⟩ := r'
  change List.Forall₂ _ fs fs' at h
  change Option.Rel _ (fs.lookup field) (fs'.lookup field)
  induction h with
  | nil => exact .none
  | cons hf _ ih =>
    rw [SortedMap.lookup_cons_eq_ite, SortedMap.lookup_cons_eq_ite, hf.1]
    split
    · exact .some hf.2
    · exact ih

lemma fieldNames_eq (h : List.Forall₂ (Record.Extends default language) rs rs') :
    Record.fieldNames rs' = Record.fieldNames rs := by
  have hnames : rs'.flatMap (fun r => r.fields.map (·.1)) =
      rs.flatMap fun r => r.fields.map (·.1) := by
    refine flatMap_eq_of_forall₂ h fun r r' hr => ?_
    rw [← List.forall₂_eq_eq_eq]
    exact List.rel_map (fun f f' hf => hf.1) (List.Forall₂.flip hr)
  rw [Record.fieldNames, hnames, Record.fieldNames]

lemma extends_fields (key field : String)
    (h : List.Forall₂ (Record.Extends default language) rs rs') :
    List.Forall₂ (fun x x' => x'.1 = x.1 ∧ Value.Extends default language x.2 x'.2)
      (rs.zipIdx.filterMap fun (r, i) => (r.get? field).map (fieldKey key i field, ·))
      (rs'.zipIdx.filterMap fun (r, i) => (r.get? field).map (fieldKey key i field, ·)) := by
  refine List.rel_filterMap ?_ (forall₂_zipIdx h 0)
  rintro ⟨r, i⟩ ⟨r', _⟩ ⟨hr, rfl⟩
  have hget := hr.get? field
  revert hget
  dsimp only
  generalize r.get? field = x
  generalize r'.get? field = x'
  rintro (⟨hv⟩ | _)
  · exact .some ⟨rfl, hv⟩
  · exact .none

/-- The text that stands for a field is that of the first record with the field. -/
lemma defaultText_head_eq (field : String)
    (h : List.Forall₂ (Record.Extends default language) rs rs') :
    (rs'.filterMap (·.get? field)).head?.map (·.defaultText) =
      (rs.filterMap (·.get? field)).head?.map (·.defaultText) := by
  have hvalues : List.Forall₂ (Value.Extends default language) (rs.filterMap (·.get? field))
      (rs'.filterMap (·.get? field)) := by
    refine List.rel_filterMap ?_ h
    exact fun r r' hr => Record.Extends.get? hr field
  generalize rs.filterMap (·.get? field) = vs at hvalues
  generalize rs'.filterMap (·.get? field) = vs' at hvalues
  cases hvalues with
  | nil => rfl
  | cons hv _ => exact congrArg some hv.defaultText

end Lists

/-- An entry in which a value gets a translation asks for the same. -/
lemma Content.Translated.extends {default language text : String} {c c' : Content}
    (h : c.Translated language text c') (hne : language ≠ default) (a : Address) :
    Entry.Extends default language ⟨a, c⟩ ⟨a, c'⟩ := by
  cases h with
  | @text v v' h =>
    have hv := h.extends hne
    refine ⟨?_, .nil⟩
    refine Request.extends_of_values rfl rfl rfl (.cons ⟨rfl, hv⟩ .nil) ?_
    simp only [Entry.first, Request.ofBlock, Block.ofText, hv.argumentCount, hv.defaultText]
    exact .refl _
  | @list before after v v' h =>
    have hvs := forall₂_replace (Value.Extends.refl default language) before after (h.extends hne)
    refine ⟨?_, .nil⟩
    refine Request.extends_of_values rfl rfl rfl (extends_elements a.key hvs) ?_
    exact .list _ _ _ hvs.length_eq.symm .nil
  | @records before after fields fields' name v v' h =>
    have hfields : Record.Extends default language ⟨fields ++ (name, v) :: fields'⟩
        ⟨fields ++ (name, v') :: fields'⟩ :=
      forall₂_replace (fun f => ⟨rfl, Value.Extends.refl ..⟩) fields fields' ⟨rfl, h.extends hne⟩
    have hrefl (r : Record) : r.Extends default language r :=
      List.forall₂_same.2 fun f _ => ⟨rfl, .refl ..⟩
    have hrs := forall₂_replace hrefl before after hfields
    refine ⟨.refl .., ?_⟩
    simp only [Entry.further, fieldNames_eq hrs, List.forall₂_map_left_iff,
      List.forall₂_map_right_iff, List.forall₂_same]
    intro field _
    refine Request.extends_of_values rfl rfl rfl (extends_fields a.key field hrs) ?_
    simp only [Request.ofBlock, Block.ofField, defaultText_head_eq field hrs]
    exact .refl _

/-! ## Trees with a translation more -/

namespace Content

variable {language text : String} {c c' : Content} {v v' : Value}

/-- One value of the content is another one. -/
lemma Translated.exists_values (h : c.Translated language text c') :
    ∃ before v v' after, c.values = before ++ v :: after ∧ c'.values = before ++ v' :: after ∧
      v.Translated language text v' := by
  cases h with
  | @text v v' h => exact ⟨[], v, v', [], rfl, rfl, h⟩
  | @list before after v v' h => exact ⟨before, v, v', after, rfl, rfl, h⟩
  | @records before after fields fields' name v v' h =>
    refine ⟨before.flatMap (fun r => r.fields.map (·.2)) ++ fields.map (·.2), v, v',
      fields'.map (·.2) ++ after.flatMap (fun r => r.fields.map (·.2)), ?_, ?_, h⟩ <;>
    simp [values]

/-- Each value of a content can be the one. -/
lemma exists_translated (hv : v ∈ c.values) (h : v.Translated language text v') :
    ∃ c', c.Translated language text c' ∧ v' ∈ c'.values := by
  cases c with
  | text v =>
    obtain rfl := List.mem_singleton.1 hv
    exact ⟨_, .text h, List.mem_singleton_self _⟩
  | list vs =>
    obtain ⟨before, after, rfl⟩ := List.append_of_mem hv
    exact ⟨_, .list h, by simp [values]⟩
  | records rs =>
    obtain ⟨⟨fs⟩, hr, hv⟩ := List.mem_flatMap.1 hv
    obtain ⟨⟨name, _⟩, hf, rfl⟩ := List.mem_map.1 hv
    obtain ⟨before, after, rfl⟩ := List.append_of_mem hr
    obtain ⟨fields, fields', hfs⟩ := List.append_of_mem hf
    change fs = _ at hfs
    subst hfs
    exact ⟨_, .records h, by simp [values]⟩

end Content

namespace Node

variable {language text : String} {ns ns' : List Node} {e : Entry} {c' : Content}

/-- One entry has another content. -/
lemma Translated.exists_entries (h : Translated language text ns ns') :
    ∃ before a c c' after, entriesOf ns = before ++ ⟨a, c⟩ :: after ∧
      entriesOf ns' = before ++ ⟨a, c'⟩ :: after ∧ c.Translated language text c' := by
  induction h with
  | @entry before after a c c' h =>
    exact ⟨entriesOf before, a, c, c', entriesOf after, by rw [entriesOf_append]; rfl,
      by rw [entriesOf_append]; rfl, h⟩
  | @inside before after children children' a _ ih =>
    obtain ⟨before', b, c, c', after', hchildren, hchildren', h⟩ := ih
    refine ⟨entriesOf before ++ before', b, c, c', after' ++ entriesOf after, ?_, ?_, h⟩
    · simp [entriesOf_append, entriesOf, entries, hchildren]
    · simp [entriesOf_append, entriesOf, entries, hchildren']

lemma Translated.within (h : Translated language text ns ns') (before after : List Node) :
    Translated language text (before ++ ns ++ after) (before ++ ns' ++ after) := by
  cases h with
  | @entry before' after' a c c' h =>
    simpa using @Translated.entry language text (before ++ before') (after' ++ after) a c c' h
  | @inside before' after' children children' a h =>
    simpa using
      @Translated.inside language text (before ++ before') (after' ++ after) children children' a h

mutual

/-- Each entry at or below a node can be the one. -/
lemma exists_translated (n : Node) (he : e ∈ n.entries)
    (h : e.content.Translated language text c') :
    ∃ n', Translated language text [n] [n'] ∧ ⟨e.address, c'⟩ ∈ n'.entries := by
  match n with
  | .entry e =>
    obtain rfl := List.mem_singleton.1 he
    exact ⟨_, @Translated.entry language text [] [] _ _ _ h, List.mem_singleton_self _⟩
  | .group a children =>
    obtain ⟨children', hchildren, hmem⟩ := exists_translated_children children he h
    exact ⟨.group a children', @Translated.inside language text [] [] _ _ a hchildren, hmem⟩

/-- Each entry at or below some nodes can be the one. -/
lemma exists_translated_children (ns : List Node) (he : e ∈ entriesOf ns)
    (h : e.content.Translated language text c') :
    ∃ ns', Translated language text ns ns' ∧ ⟨e.address, c'⟩ ∈ entriesOf ns' := by
  match ns with
  | [] => exact nomatch he
  | n :: rest =>
    rcases List.mem_append.1 he with he | he
    · obtain ⟨n', hn, hmem⟩ := exists_translated n he h
      exact ⟨n' :: rest, hn.within [] rest, List.mem_append_left _ hmem⟩
    · obtain ⟨rest', hrest, hmem⟩ := exists_translated_children rest he h
      refine ⟨n :: rest', ?_, List.mem_append_right _ hmem⟩
      simpa using hrest.within [n] []

end

end Node

namespace Tree

variable {t t' : Tree} {language text : String} {v v' : Value}

/-- One value of the tree is another one. -/
lemma Translated.exists_values (h : t.Translated language text t') :
    ∃ before v v' after, t.values = before ++ v :: after ∧ t'.values = before ++ v' :: after ∧
      v.Translated language text v' := by
  obtain ⟨before, a, c, c', after, hentries, hentries', hc⟩ := h.nodes.exists_entries
  obtain ⟨vs, v, v', ws, hvalues, hvalues', hv⟩ := hc.exists_values
  refine ⟨before.flatMap (fun e => e.content.values) ++ vs, v, v',
    ws ++ after.flatMap (fun e => e.content.values), ?_, ?_, hv⟩
  · simp [values, entries, hentries, hvalues]
  · simp [values, entries, hentries', hvalues']

/-- Each value of a tree can be the one. -/
lemma exists_translated (hv : v ∈ t.values) (h : v.Translated language text v') :
    ∃ t', t.Translated language text t' ∧ v' ∈ t'.values := by
  obtain ⟨e, he, hv⟩ := List.mem_flatMap.1 hv
  obtain ⟨c', hc, hv'⟩ := Content.exists_translated hv h
  obtain ⟨ns', hns, he'⟩ := Node.exists_translated_children t.nodes he hc
  exact ⟨⟨t.defaultLanguage, ns'⟩, ⟨rfl, hns⟩, List.mem_flatMap.2 ⟨_, he', hv'⟩⟩

/-- A translation into another language than the default one leaves the errors as they are, and
adds texts in its own language to the steps. -/
lemma Translated.plan (h : t.Translated language text t') (hne : language ≠ t.defaultLanguage) :
    t'.plan.errors = t.plan.errors ∧ Step.Extended language t.plan.steps t'.plan.steps := by
  have hentries : List.Forall₂ (Entry.Extends t.defaultLanguage language) t.entries t'.entries := by
    obtain ⟨before, a, c, c', after, hentries, hentries', hc⟩ := h.nodes.exists_entries
    rw [entries, entries, hentries, hentries']
    exact forall₂_replace (Entry.Extends.refl _ _) before after (hc.extends hne a)
  have hturns : List.Forall₂ (Turn.Extends language) t.turns t'.turns := by
    rw [turns, turns, h.defaultLanguage]
    exact Entry.extends_turnsAll hentries .nil
  rw [t.plan_eq_turns, t'.plan_eq_turns]
  constructor
  · exact flatMap_eq_of_forall₂ hturns fun _ _ hu => hu.errors
  · exact (Step.Extended.flatMap hturns fun _ _ hu => hu.steps).append (.refl _)

end Tree

end Phrasebook
