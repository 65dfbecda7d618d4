import Phrasebook.Proofs.Plan.Filing
import Phrasebook.Proofs.Tree.Languages
import Phrasebook.Proofs.Value.Texts

/-!
# Every language of a plan is checked

Names of tables and of files are made from language tags, so no tag must get into a plan that was
not checked.  The check of a tree looks at `Tree.languages`, which are collected from the values of
the tree; a plan gets its languages from the texts of the values that it serves.  These are two ways
through the tree, and here they are shown to meet.

* `Node.Holds` says where in a node a value is, with one rule for each kind of node, and
  `Tree.mem_values_iff` that all of these values, at any depth, are collected.
* `Step.languages` are the languages that a step hands on, and `Tree.mem_languages_of_mem_steps`
  says that they are languages of the tree.

The main result is `languages_agree`, which joins this to what holds of the texts of a single value.
-/

namespace Phrasebook

/-! ## Values at any depth -/

/-- The value `v` is at or below the node. -/
inductive Node.Holds (v : Value) : Node → Prop
  /-- It is the text of the node. -/
  | text {a : Address} : Holds v (.entry ⟨a, .text v⟩)
  /-- It is in the list of the node. -/
  | element {a : Address} {vs : List Value} (mem : v ∈ vs) : Holds v (.entry ⟨a, .list vs⟩)
  /-- It is a field of one of the records of the node. -/
  | field {a : Address} {rs : List Record} {r : Record} {name : String} (record : r ∈ rs)
      (mem : (name, v) ∈ r.fields) : Holds v (.entry ⟨a, .records rs⟩)
  /-- It is at or below a node of the group. -/
  | inside {a : Address} {children : List Node} {n : Node} (child : n ∈ children)
      (holds : Holds v n) : Holds v (.group a children)

/-- The value `v` is somewhere in the tree. -/
def Tree.Holds (t : Tree) (v : Value) : Prop := ∃ n ∈ t.nodes, n.Holds v

namespace Node

variable {v : Value}

lemma holds_entry_iff {e : Entry} : (entry e).Holds v ↔ v ∈ e.content.values := by
  obtain ⟨a, content⟩ := e
  constructor
  · rintro (_ | ⟨hmem⟩ | ⟨hrecord, hmem⟩)
    · exact List.mem_singleton.2 rfl
    · exact hmem
    · exact List.mem_flatMap.2 ⟨_, hrecord, List.mem_map_of_mem hmem⟩
  · intro h
    cases content with
    | text w =>
      obtain rfl := List.mem_singleton.1 h
      exact .text
    | list vs => exact .element h
    | records rs =>
      obtain ⟨r, hr, hv⟩ := List.mem_flatMap.1 h
      obtain ⟨⟨name, w⟩, hmem, rfl⟩ := List.mem_map.1 hv
      exact .field hr hmem

lemma holds_group_iff {a : Address} {children : List Node} :
    (group a children).Holds v ↔ ∃ n ∈ children, n.Holds v := by
  constructor
  · rintro (_ | _ | _ | ⟨hchild, hholds⟩)
    exact ⟨_, hchild, hholds⟩
  · rintro ⟨n, hchild, hholds⟩
    exact .inside hchild hholds

mutual

/-- The values at and below a node are those of its entries. -/
lemma holds_iff (v : Value) : ∀ n : Node, n.Holds v ↔ ∃ e ∈ n.entries, v ∈ e.content.values
  | entry e => by rw [holds_entry_iff, entries]; simp
  | group a children => by rw [holds_group_iff, entries, exists_holds_iff v children]

/-- The values at and below some nodes are those of their entries. -/
lemma exists_holds_iff (v : Value) :
    ∀ ns : List Node, (∃ n ∈ ns, n.Holds v) ↔ ∃ e ∈ entriesOf ns, v ∈ e.content.values
  | [] => by simp [entriesOf]
  | n :: rest => by
    rw [List.exists_mem_cons_iff, holds_iff v n, exists_holds_iff v rest, entriesOf]
    simp only [List.mem_append, or_and_right, exists_or]

end

end Node

lemma Tree.mem_values_iff (t : Tree) (v : Value) : v ∈ t.values ↔ t.Holds v := by
  rw [values, List.mem_flatMap]
  exact (Node.exists_holds_iff v t.nodes).symm

/-! ## Languages of steps -/

/-- The languages that a step hands on.  A list of texts is handed on as it is, with all of its
translations. -/
def Step.languages : Step → List String
  | .text _ _ language => [language]
  | .accessor .. => []
  | .listAccessor _ _ values default => default :: values.flatMap fun v => v.overrides.keys
  | .fieldAccessor .. => []
  | .finish => []

lemma Step.language_mem_languages {s : Step} {f : Filing} (h : s.filing? = some f) :
    f.language ∈ s.languages := by
  cases s with
  | text key text language =>
    obtain rfl := Option.some.inj h
    exact List.mem_singleton.2 rfl
  | accessor => exact nomatch h
  | listAccessor => exact nomatch h
  | fieldAccessor => exact nomatch h
  | finish => exact nomatch h

namespace Entry.MayAsk

variable {default language : String} {e : Entry} {r : Request} {s : Step}

/-- What is asked for are values of the entry. -/
lemma mem_values {x : String × Value} (h : e.MayAsk default r) (hx : x ∈ r.values) :
    x.2 ∈ e.content.values := by
  cases h with
  | text a v =>
    obtain rfl := List.mem_singleton.1 hx
    exact List.mem_singleton.2 rfl
  | list a vs =>
    obtain ⟨y, hy, rfl⟩ := List.mem_map.1 hx
    exact List.fst_mem_of_mem_zipIdx hy
  | type a rs => exact absurd hx List.not_mem_nil
  | field a rs field =>
    obtain ⟨⟨r, i⟩, hr, hx⟩ := List.mem_filterMap.1 hx
    obtain ⟨v, hv, rfl⟩ := Option.map_eq_some_iff.1 hx
    obtain ⟨before, after, hfields, -⟩ := List.lookup_eq_some_iff.1 hv
    refine List.mem_flatMap.2 ⟨r, List.fst_mem_of_mem_zipIdx hr, ?_⟩
    simp [hfields]

/-- The accessor that is asked for hands on the default language and languages of the entry. -/
lemma languages_of_accessor? (h : e.MayAsk default r) (hs : r.accessor? = some s)
    (hl : language ∈ s.languages) :
    language = default ∨ ∃ v ∈ e.content.values, language ∈ v.overrides.keys := by
  cases h with
  | text a v =>
    obtain rfl := Option.some.inj hs
    exact absurd hl List.not_mem_nil
  | list a vs =>
    obtain rfl := Option.some.inj hs
    exact (List.mem_cons.1 hl).imp_right List.mem_flatMap.1
  | type a rs => cases hs
  | field a rs field =>
    obtain rfl := Option.some.inj hs
    exact absurd hl List.not_mem_nil

/-- The steps that are asked for hand on the default language and languages of the entry. -/
lemma languages_of_steps (h : e.MayAsk default r) (hs : s ∈ r.steps default)
    (hl : language ∈ s.languages) :
    language = default ∨ ∃ v ∈ e.content.values, language ∈ v.overrides.keys := by
  rcases List.mem_append.1 hs with hs | hs
  · obtain ⟨x, hx, hs⟩ := List.mem_flatMap.1 hs
    obtain ⟨y, hy, rfl⟩ := List.mem_map.1 hs
    obtain rfl := List.mem_singleton.1 hl
    have hvalue := h.mem_values hx
    exact (Value.mem_keys_of_mem_texts hy).imp_right fun hkey => ⟨x.2, hvalue, hkey⟩
  · exact h.languages_of_accessor? (Option.mem_toList.1 hs) hl

end Entry.MayAsk

namespace Tree

variable {t : Tree}

/-- All languages that a plan hands on are languages of the tree. -/
lemma mem_languages_of_mem_steps {s : Step} {language : String} (hs : s ∈ t.plan.steps)
    (hl : language ∈ s.languages) : language ∈ t.languages := by
  rw [t.plan_eq_turns] at hs
  rcases List.mem_append.1 hs with hs | hs
  · obtain ⟨u, hu, hs⟩ := List.mem_flatMap.1 hs
    obtain ⟨e, he, hask⟩ := Entry.mayAsk_of_mem_turnsAll hu
    rw [mem_languages_iff]
    refine (hask.languages_of_steps (t.settled_turns.mem_steps_of_mem hu hs) hl).imp_right ?_
    rintro ⟨v, hv, hlv⟩
    exact ⟨v, List.mem_flatMap.2 ⟨e, he, hv⟩, hlv⟩
  · obtain rfl := List.mem_singleton.1 hs
    exact absurd hl List.not_mem_nil

/-- Texts are filed in languages of the tree only. -/
lemma mem_languages_of_mem_filings {f : Filing} (h : f ∈ t.filings) : f.language ∈ t.languages := by
  obtain ⟨s, hs, hf⟩ := List.mem_filterMap.1 h
  exact mem_languages_of_mem_steps hs (Step.language_mem_languages hf)

/-- The languages of a tree are those of its values, and all that its plan hands on are checked. -/
structure ChecksLanguages (t : Tree) : Prop where
  /-- The languages are listed in strictly increasing order. -/
  increasing : t.languages.Pairwise (· < ·)
  /-- They are the default language and the languages of all translations, at any depth. -/
  mem_iff : ∀ language, language ∈ t.languages ↔
    language = t.defaultLanguage ∨ ∃ v, t.Holds v ∧ language ∈ v.overrides.keys
  /-- The plan hands on no other languages. -/
  steps : ∀ s ∈ t.plan.steps, ∀ language ∈ s.languages, language ∈ t.languages
  /-- If the tree passes its check, then the plan hands on well-formed languages only. -/
  checked : ∀ c : Config, checkTree t c = .ok () →
    ∀ s ∈ t.plan.steps, ∀ language ∈ s.languages, checkLanguage language = .ok ()

lemma checksLanguages (t : Tree) : t.ChecksLanguages where
  increasing := SortedMap.keys_pairwise _
  mem_iff language := by simp only [mem_languages_iff, mem_values_iff]
  steps _ hs _ hl := mem_languages_of_mem_steps hs hl
  checked c hcheck s hs language hl := by
    obtain ⟨-, -, hlanguages⟩ := (checkTree_eq_ok_iff ..).1 hcheck
    exact if_pos (hlanguages language (mem_languages_of_mem_steps hs hl))

end Tree

/-- **Values, trees and plans agree on their languages.**  The texts of a value are listed by
language, the languages of a tree are those of the values in it, and no plan hands on a language
that the check of its tree has not seen. -/
theorem languages_agree :
    (∀ (v : Value) (default : String), v.ListsLanguages default) ∧
      ∀ t : Tree, t.ChecksLanguages :=
  ⟨Value.listsLanguages, Tree.checksLanguages⟩

end Phrasebook
