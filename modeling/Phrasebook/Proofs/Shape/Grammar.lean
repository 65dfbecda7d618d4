import Phrasebook.Proofs.Shape.LeafMapping

/-!
# The grammar of documents

Which documents stand for a tree, said without the reader: `IsDocument`.  What a mapping stands for
depends on all of its entries, and what a list stands for on all of its elements, so that the rules
for groups and for lists of records say what such a value must not be.

To say where a document is at fault, its values are listed in depth-first order, each with the names
that lead to it (`Json.sites`).  `Site.Blamed` says what is wrong with a single value, apart from
the values in it.  A value inside a mapping or a list that stands for nothing has no site.

`isDocument_iff` joins the two: the documents in the grammar are those in which no value is at
fault.
-/

namespace Phrasebook

namespace Json

lemma isObject_iff {j : Json} : j.isObject ↔ ∃ members, j = .object members := by
  cases j <;> simp [isObject]

end Json

namespace Shape

variable {default : String} {j : Json}

/-! ## Texts and lists -/

/-- The value is a text or a leaf mapping, whether or not anything is wrong in it. -/
def IsElement (default : String) (j : Json) : Prop :=
  (∃ text, j = .string text) ∨ ∃ members, j = .object members ∧ LeafMapping default members

/-- The value is a text or a leaf mapping in which nothing is wrong. -/
def IsText (default : String) (j : Json) : Prop :=
  (∃ text, j = .string text) ∨ ∃ members, j = .object members ∧ SoundLeaf default members

lemma isElement_iff : isElement default j ↔ IsElement default j := by
  cases j <;> simp [isElement, IsElement, isLeaf_iff]

instance : Decidable (IsElement default j) := decidable_of_iff _ isElement_iff

lemma IsText.isElement (h : IsText default j) : IsElement default j :=
  h.imp_right fun ⟨members, hj, hsound⟩ => ⟨members, hj, hsound.leaf⟩

end Shape

/-! ## The grammar -/

section Grammar

open Shape

/-- The value stands for a node. -/
inductive IsNode (default : String) : Json → Prop
  /-- A text. -/
  | text (text : String) : IsNode default (.string text)
  /-- A text in several languages. -/
  | leaf {members : List (String × Json)} (leaf : SoundLeaf default members) :
      IsNode default (.object members)
  /-- A group: any other mapping of nodes. -/
  | group {members : List (String × Json)} (other : ¬LeafMapping default members)
      (nodes : ∀ m ∈ members, IsNode default m.2) : IsNode default (.object members)
  /-- A list of texts. -/
  | list {items : List Json} (texts : ∀ j ∈ items, IsText default j) :
      IsNode default (.array items)
  /-- A list of records: mappings of texts, of which not all are leaf mappings. -/
  | records {items : List Json} (other : ∃ j ∈ items, ¬IsElement default j)
      (records : ∀ j ∈ items, ∃ members, j = .object members ∧ ∀ m ∈ members, IsText default m.2) :
      IsNode default (.array items)

/-- The value stands for a tree. -/
def IsDocument (default : String) (j : Json) : Prop :=
  j = .null ∨ ∃ members, j = .object members ∧ ∀ m ∈ members, IsNode default m.2

end Grammar

/-! ## The values of a document -/

/-- Where a value of a document stands. -/
inductive Place where
  /-- The value is the document. -/
  | root
  /-- The value stands for a node. -/
  | node
  /-- The value is an element of a list of texts. -/
  | element
  /-- The value is that of a field of a record. -/
  | field
  deriving DecidableEq

/-- A value of a document, with the names and places that lead to it. -/
structure Site where
  /-- Where the value stands. -/
  place : Place
  /-- The names of mappings and the places in lists that lead to the value. -/
  names : List String
  /-- The value. -/
  value : Json

namespace Shape

/-- The values of the fields of a record. -/
def fieldSites (names : List String) (record : Json) : List Site :=
  match record with
  | .object members => members.map fun m => ⟨.field, names ++ [m.1], m.2⟩
  | _ => []

/-- The values inside a list: the elements of a list of texts, the fields of a list of records, and
no value where the list is neither. -/
def itemSites (default : String) (names : List String) (items : List Json) : List Site :=
  if ∀ j ∈ items, IsElement default j then
    items.zipIdx.map fun (j, i) => ⟨.element, names ++ [toString i], j⟩
  else if ∀ j ∈ items, j.isObject then
    items.zipIdx.flatMap fun (j, i) => fieldSites (names ++ [toString i]) j
  else []

mutual

/-- A value that stands for a node, and the values inside it, in depth-first order. -/
def nodeSites (default : String) (names : List String) : Json → List Site
  | .object members => ⟨.node, names, .object members⟩ ::
      if LeafMapping default members then [] else memberSites default names members
  | .array items => ⟨.node, names, .array items⟩ :: itemSites default names items
  | j => [⟨.node, names, j⟩]
termination_by structural j => j

/-- The values of members that stand for nodes, and the values inside them. -/
def memberSites (default : String) (names : List String) : List (String × Json) → List Site
  | [] => []
  | (name, j) :: rest => nodeSites default (names ++ [name]) j ++ memberSites default names rest
termination_by structural members => members

end

end Shape

/-- The values of a document in depth-first order. -/
def Json.sites (default : String) : Json → List Site
  | .object members => ⟨.root, [], .object members⟩ :: Shape.memberSites default [] members
  | j => [⟨.root, [], j⟩]

namespace Site

open Shape

/-- The key that messages give for a value: the names that lead to it, joined by dots. -/
def key (s : Site) : String :=
  match s.place with
  | .root => "<root>"
  | _ => ".".intercalate s.names

/-- `e` says what is wrong with a value, apart from the values inside it. -/
inductive Blamed (default : String) : Site → ShapeError → Prop
  /-- The document is neither a mapping nor the null value. -/
  | root {names : List String} {j : Json} (null : j ≠ .null) (mapping : ¬j.isObject) :
      Blamed default ⟨.root, names, j⟩ (.unknownShape "<root>" (.rootNotMapping j.kindName))
  /-- A scalar that is no text does not stand for a node. -/
  | scalar {names : List String} {j : Json} (scalar : j.IsScalar) (text : ¬j.isString) :
      Blamed default ⟨.node, names, j⟩
        (.unknownShape (".".intercalate names) (.notLocalizable j.kindName))
  /-- The elements of a list are neither texts and leaf mappings alone nor mappings alone. -/
  | mixed {names : List String} {items : List Json} (elements : ¬∀ j ∈ items, IsElement default j)
      (records : ¬∀ j ∈ items, j.isObject) :
      Blamed default ⟨.node, names, .array items⟩
        (.unknownShape (".".intercalate names) .mixedList)
  /-- A field of a record is neither a text nor a leaf mapping. -/
  | field {names : List String} {j : Json} (element : ¬IsElement default j) :
      Blamed default ⟨.field, names, j⟩
        (.unknownShape (".".intercalate names) (.fieldNotText j.kindName))
  /-- Something is wrong in a leaf mapping. -/
  | leaf {place : Place} {names : List String} {members : List (String × Json)} {e : ShapeError}
      (inside : place ≠ .root) (leaf : LeafMapping default members)
      (fault : LeafFault default (".".intercalate names) members e) :
      Blamed default ⟨place, names, .object members⟩ e

/-- Something is wrong with the value, apart from the values inside it. -/
def AtFault (default : String) (s : Site) : Prop := ∃ e, s.Blamed default e

variable {default : String} {s : Site} {e : ShapeError} {names : List String} {j : Json}
  {members : List (String × Json)} {items : List Json} {place : Place}

lemma Blamed.key_eq (h : s.Blamed default e) : e.key = s.key := by
  cases h with
  | root | scalar | mixed | field => rfl
  | @leaf place names members e inside leaf fault =>
    rw [fault.key_eq]
    cases place with
    | root => exact absurd rfl inside
    | node | element | field => rfl

/-- What is missing is a default text, and it is missing in a leaf mapping. -/
lemma Blamed.missing_iff (h : s.Blamed default e) :
    (∃ key, e = .missingDefault key) ↔
      ∃ members, s.value = .object members ∧ LeafMapping default members ∧
        ¬HasDefaultText default members := by
  cases h with
  | root null mapping =>
    refine iff_of_false nofun ?_
    rintro ⟨members, rfl, -⟩
    exact mapping rfl
  | scalar scalar text =>
    refine iff_of_false nofun ?_
    rintro ⟨members, rfl, -⟩
    exact nomatch scalar.1
  | mixed => exact iff_of_false nofun nofun
  | field element =>
    refine iff_of_false nofun ?_
    rintro ⟨members, hj, hleaf, -⟩
    exact element (.inr ⟨members, hj, hleaf⟩)
  | leaf inside leaf fault =>
    simp only [Json.object.injEq, exists_eq_left', leaf, true_and]
    cases fault with
    | text text => exact iff_of_true ⟨_, rfl⟩ text
    | count text | name text => exact iff_of_false nofun (not_not.2 text)

/-! ## Faults of single values -/

lemma atFault_leaf_iff (hplace : place ≠ .root) (h : LeafMapping default members) :
    AtFault default ⟨place, names, .object members⟩ ↔ ¬SoundLeaf default members := by
  constructor
  · rintro ⟨e, he⟩
    cases he with
    | root => exact absurd rfl hplace
    | scalar scalar => exact nomatch scalar.1
    | field element => exact absurd (.inr ⟨members, rfl, h⟩) element
    | leaf inside leaf fault => exact fault.not_soundLeaf
  · intro hsound
    rcases leaf_cases (".".intercalate names) h with ⟨-, hok⟩ | ⟨e, -, hfault⟩
    · exact absurd hok hsound
    · exact ⟨e, .leaf hplace h hfault⟩

lemma not_atFault_string (hplace : place ≠ .root) (text : String) :
    ¬AtFault default ⟨place, names, .string text⟩ := by
  rintro ⟨e, he⟩
  cases he with
  | root => exact hplace rfl
  | scalar scalar text => exact text rfl
  | field element => exact element (.inl ⟨_, rfl⟩)

/-- An element of a list of texts is at fault if it is no text in which nothing is wrong. -/
lemma atFault_iff_of_isElement (hplace : place ≠ .root) (h : IsElement default j) :
    AtFault default ⟨place, names, j⟩ ↔ ¬IsText default j := by
  rcases h with ⟨text, rfl⟩ | ⟨members, rfl, hleaf⟩
  · exact iff_of_false (not_atFault_string hplace text) (not_not.2 (.inl ⟨text, rfl⟩))
  · rw [atFault_leaf_iff hplace hleaf]
    simp [IsText]

lemma atFault_field_iff : AtFault default ⟨.field, names, j⟩ ↔ ¬IsText default j := by
  by_cases h : IsElement default j
  · exact atFault_iff_of_isElement (by decide) h
  · exact iff_of_true ⟨_, .field h⟩ fun htext => h htext.isElement

lemma not_atFault_group (h : ¬LeafMapping default members) :
    ¬AtFault default ⟨.node, names, .object members⟩ := by
  rintro ⟨e, he⟩
  cases he with
  | scalar scalar => exact nomatch scalar.1
  | leaf inside leaf fault => exact h leaf

lemma atFault_array_iff : AtFault default ⟨.node, names, .array items⟩ ↔
    ¬(∀ j ∈ items, IsElement default j) ∧ ¬∀ j ∈ items, j.isObject := by
  constructor
  · rintro ⟨e, he⟩
    cases he with
    | scalar scalar => exact nomatch scalar.2
    | mixed elements records => exact ⟨elements, records⟩
  · exact fun h => ⟨_, .mixed h.1 h.2⟩

lemma atFault_root_iff : AtFault default ⟨.root, names, j⟩ ↔ j ≠ .null ∧ ¬j.isObject := by
  constructor
  · rintro ⟨e, he⟩
    cases he with
    | root null mapping => exact ⟨null, mapping⟩
    | leaf inside => exact absurd rfl inside
  · exact fun h => ⟨_, .root h.1 h.2⟩

end Site

/-! ## Sites and the grammar -/

namespace Shape

open Site

variable {default : String} {members : List (String × Json)} {items : List Json}

lemma exists_mem_zipIdx {α : Type*} {l : List α} {x : α} (h : x ∈ l) : ∃ i, (x, i) ∈ l.zipIdx := by
  obtain ⟨i, hi⟩ := List.mem_iff_getElem?.1 h
  exact ⟨i, List.mem_zipIdx_iff_getElem?.2 hi⟩

lemma forall_itemSites_iff_of_isElement (names : List String)
    (h : ∀ j ∈ items, IsElement default j) :
    (∀ s ∈ itemSites default names items, ¬s.AtFault default) ↔
      ∀ j ∈ items, IsText default j := by
  rw [itemSites, if_pos h, List.forall_mem_map]
  constructor
  · intro hsites j hj
    obtain ⟨i, hi⟩ := exists_mem_zipIdx hj
    exact not_not.1 (mt (atFault_iff_of_isElement (by decide) (h j hj)).2 (hsites _ hi))
  · rintro htexts ⟨j, i⟩ hji
    have hj := List.fst_mem_of_mem_zipIdx hji
    exact mt (atFault_iff_of_isElement (by decide) (h j hj)).1 (not_not.2 (htexts j hj))

lemma forall_itemSites_iff_of_isObject (names : List String)
    (h : ¬∀ j ∈ items, IsElement default j) (hobject : ∀ j ∈ items, j.isObject) :
    (∀ s ∈ itemSites default names items, ¬s.AtFault default) ↔
      ∀ j ∈ items, ∃ members, j = .object members ∧ ∀ m ∈ members, IsText default m.2 := by
  rw [itemSites, if_neg h, if_pos hobject]
  constructor
  · intro hsites j hj
    obtain ⟨i, hi⟩ := exists_mem_zipIdx hj
    obtain ⟨members, rfl⟩ := Json.isObject_iff.1 (hobject j hj)
    refine ⟨members, rfl, fun m hm => ?_⟩
    have hsite := hsites ⟨.field, names ++ [toString i] ++ [m.1], m.2⟩
      (List.mem_flatMap_of_mem hi (List.mem_map_of_mem hm))
    exact not_not.1 (mt atFault_field_iff.2 hsite)
  · intro hrecords s hs
    obtain ⟨⟨j, i⟩, hji, hs⟩ := List.mem_flatMap.1 hs
    obtain ⟨members, rfl, htexts⟩ := hrecords j (List.fst_mem_of_mem_zipIdx hji)
    obtain ⟨m, hm, rfl⟩ := List.mem_map.1 hs
    exact mt atFault_field_iff.1 (not_not.2 (htexts m hm))

lemma isNode_array_iff : IsNode default (.array items) ↔
    (∀ j ∈ items, IsText default j) ∨ (¬∀ j ∈ items, IsElement default j) ∧
      ∀ j ∈ items, ∃ members, j = .object members ∧ ∀ m ∈ members, IsText default m.2 := by
  constructor
  · rintro (_ | _ | _ | texts | ⟨⟨j, hj, hother⟩, records⟩)
    · exact .inl texts
    · exact .inr ⟨fun h => hother (h j hj), records⟩
  · rintro (htexts | ⟨hother, hrecords⟩)
    · exact .list htexts
    · push Not at hother
      exact .records hother hrecords

lemma isNode_scalar_iff_sites (names : List String) {j : Json} (h : j.IsScalar) :
    IsNode default j ↔ ∀ s ∈ nodeSites default names j, ¬s.AtFault default := by
  have hscalar : ¬j.isString → AtFault default ⟨.node, names, j⟩ := fun h' => ⟨_, .scalar h h'⟩
  cases j with
  | object => exact nomatch h.1
  | array => exact nomatch h.2
  | string text =>
    refine iff_of_true (.text text) (List.forall_mem_singleton.2 ?_)
    exact not_atFault_string (by decide) text
  | null | bool | number =>
    refine iff_of_false nofun fun hnone => ?_
    exact List.forall_mem_singleton.1 hnone (hscalar nofun)

lemma isNode_array_iff_sites (names : List String) : IsNode default (.array items) ↔
    ∀ s ∈ nodeSites default names (.array items), ¬s.AtFault default := by
  rw [nodeSites, List.forall_mem_cons, atFault_array_iff, isNode_array_iff]
  by_cases helements : ∀ j ∈ items, IsElement default j
  · rw [forall_itemSites_iff_of_isElement names helements, or_iff_left fun h => h.1 helements,
      and_iff_right fun h => h.1 helements]
  · have htexts : ¬∀ j ∈ items, IsText default j := fun h => helements fun j hj =>
      (h j hj).isElement
    simp only [htexts, helements, not_false_eq_true, true_and, false_or, not_not]
    by_cases hobject : ∀ j ∈ items, j.isObject
    · rw [forall_itemSites_iff_of_isObject names helements hobject]
      exact (and_iff_right hobject).symm
    · refine iff_of_false (fun h => hobject fun j hj => ?_) fun h => hobject h.1
      obtain ⟨members, rfl, -⟩ := h j hj
      rfl

mutual

/-- A value stands for a node if nothing is wrong with it or inside it. -/
lemma isNode_iff (default : String) : ∀ (names : List String) (j : Json),
    IsNode default j ↔ ∀ s ∈ nodeSites default names j, ¬s.AtFault default
  | names, .null => isNode_scalar_iff_sites names ⟨rfl, rfl⟩
  | names, .bool _ => isNode_scalar_iff_sites names ⟨rfl, rfl⟩
  | names, .number _ => isNode_scalar_iff_sites names ⟨rfl, rfl⟩
  | names, .string _ => isNode_scalar_iff_sites names ⟨rfl, rfl⟩
  | names, .array items => isNode_array_iff_sites names
  | names, .object members => by
    rw [nodeSites, List.forall_mem_cons]
    by_cases hleaf : LeafMapping default members
    · rw [if_pos hleaf, atFault_leaf_iff (by decide) hleaf, not_not]
      constructor
      · rintro (_ | leaf | ⟨other, -⟩)
        · exact ⟨leaf, nofun⟩
        · exact absurd hleaf other
      · exact fun h => .leaf h.1
    · rw [if_neg hleaf, ← areNodes_iff default names members]
      constructor
      · rintro (_ | leaf | ⟨-, nodes⟩)
        · exact absurd leaf.leaf hleaf
        · exact ⟨not_atFault_group hleaf, nodes⟩
      · exact fun h => .group hleaf h.2

lemma areNodes_iff (default : String) : ∀ (names : List String) (members : List (String × Json)),
    (∀ m ∈ members, IsNode default m.2) ↔
      ∀ s ∈ memberSites default names members, ¬s.AtFault default
  | names, [] => by
    rw [memberSites]
    exact iff_of_true nofun nofun
  | names, (name, j) :: rest => by
    rw [memberSites, List.forall_mem_append, List.forall_mem_cons,
      isNode_iff default (names ++ [name]) j, areNodes_iff default names rest]

end

end Shape

/-- A value stands for a tree if nothing is wrong with it or inside it. -/
lemma isDocument_iff {default : String} {j : Json} :
    IsDocument default j ↔ ∀ s ∈ j.sites default, ¬s.AtFault default := by
  cases j with
  | object members =>
    rw [Json.sites, List.forall_mem_cons, Site.atFault_root_iff, ← Shape.areNodes_iff]
    simp [IsDocument, Json.isObject]
  | null | bool | number | string | array =>
    simp [Json.sites, IsDocument, Json.isObject, Site.atFault_root_iff]

end Phrasebook
