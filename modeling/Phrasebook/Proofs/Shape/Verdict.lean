import Phrasebook.Proofs.Address.LookupKey
import Phrasebook.Proofs.Shape.Grammar

/-!
# What reading a document comes to

The reader goes through the values of a document in depth-first order and stops at the first with
which anything is wrong.  `Verdict` says this of any reader and the list of values it reads; since
readers are run one after the other, it is enough that verdicts can be joined (`Verdict.bind`), and
there is one verdict for each reader.

The main result is `Tree.ofDocument_spec`: a document is read exactly if it is in the grammar, and
refused for the first of its values with which anything is wrong.
-/

namespace Phrasebook

/-! ## Verdicts -/

/-- `x` reads the values `sites` as it should: it gives a result if nothing is wrong with any of
them, and otherwise says what is wrong with the first with which anything is wrong. -/
def Verdict (default : String) (sites : List Site) {α : Type} : Except ShapeError α → Prop
  | .ok _ => ∀ s ∈ sites, ¬s.AtFault default
  | .error e => ∃ before s after, sites = before ++ s :: after ∧
      (∀ x ∈ before, ¬x.AtFault default) ∧ s.Blamed default e

namespace Verdict

variable {default : String} {sites : List Site} {s : Site} {α β : Type}

/-- Values that are read one after the other. -/
lemma bind {x : Except ShapeError α} {f : α → Except ShapeError β} {more : List Site}
    (hx : Verdict default sites x) (hf : ∀ a, Verdict default more (f a)) :
    Verdict default (sites ++ more) (x >>= f) := by
  cases x with
  | error e =>
    obtain ⟨before, s, after, rfl, hbefore, hs⟩ := hx
    exact ⟨before, s, after ++ more, by simp, hbefore, hs⟩
  | ok a =>
    have hmore := hf a
    change Verdict default (sites ++ more) (f a)
    cases hfa : f a with
    | ok b =>
      rw [hfa] at hmore
      exact List.forall_mem_append.2 ⟨hx, hmore⟩
    | error e =>
      rw [hfa] at hmore
      obtain ⟨before, s, after, rfl, hbefore, hs⟩ := hmore
      exact ⟨sites ++ before, s, after, by simp, List.forall_mem_append.2 ⟨hx, hbefore⟩, hs⟩

lemma map {x : Except ShapeError α} (hx : Verdict default sites x) (f : α → β) :
    Verdict default sites (x >>= fun a => pure (f a)) := by
  rw [← List.append_nil sites]
  exact hx.bind fun a => (List.forall_mem_nil _ : Verdict default [] (pure (f a)))

/-- A value with which nothing is wrong, apart from the values inside it, comes first. -/
lemma cons {x : Except ShapeError α} (hs : ¬s.AtFault default) (hx : Verdict default sites x) :
    Verdict default (s :: sites) x := by
  cases x with
  | ok a => exact List.forall_mem_cons.2 ⟨hs, hx⟩
  | error e =>
    obtain ⟨before, t, after, rfl, hbefore, ht⟩ := hx
    exact ⟨s :: before, t, after, rfl, List.forall_mem_cons.2 ⟨hs, hbefore⟩, ht⟩

/-- The first value is refused. -/
lemma error {e : ShapeError} (hs : s.Blamed default e) :
    Verdict default (s :: sites) (.error e : Except ShapeError α) :=
  ⟨[], s, sites, rfl, List.forall_mem_nil _, hs⟩

end Verdict

namespace Shape

open Site

variable {default : String} {names : List String} {members : List (String × Json)}
  {items : List Json}

/-! ## Verdicts of the readers -/

lemma verdict_leaf {place : Place} (hplace : place ≠ .root) (names : List String)
    (h : LeafMapping default members) :
    Verdict default [⟨place, names, .object members⟩]
      (leaf default (".".intercalate names) members) := by
  rcases leaf_cases (".".intercalate names) h with ⟨⟨text, -, hok⟩, hsound⟩ | ⟨e, herror, hfault⟩
  · rw [hok]
    refine List.forall_mem_singleton.2 ?_
    rw [atFault_leaf_iff hplace h]
    exact not_not.2 hsound
  · rw [herror]
    exact .error (.leaf hplace h hfault)

lemma verdict_value {place : Place} (hplace : place ≠ .root) (names : List String)
    (fault : String → ShapeFault) {j : Json} (h : IsElement default j) :
    Verdict default [⟨place, names, j⟩] (value default (".".intercalate names) fault j) := by
  rcases h with ⟨text, rfl⟩ | ⟨members, rfl, hleaf⟩
  · exact List.forall_mem_singleton.2 (not_atFault_string hplace text)
  · rw [value, if_pos (isLeaf_iff.2 hleaf)]
    exact verdict_leaf hplace names hleaf

lemma value_of_not_isElement {key : String} {fault : String → ShapeFault} {j : Json}
    (h : ¬IsElement default j) :
    value default key fault j = .error (.unknownShape key (fault j.kindName)) := by
  cases j with
  | string text => exact absurd (.inl ⟨text, rfl⟩) h
  | object members =>
    rw [value, if_neg]
    exact fun hleaf => h (.inr ⟨members, rfl, isLeaf_iff.1 hleaf⟩)
  | null | bool | number | array => rfl

lemma verdict_elements (hnames : names ≠ []) (i : ℕ) (h : ∀ j ∈ items, IsElement default j) :
    Verdict default ((items.zipIdx i).map fun (j, i) => ⟨.element, names ++ [toString i], j⟩)
      (elements default (".".intercalate names) i items) := by
  induction items generalizing i with
  | nil => exact nofun
  | cons j rest ih =>
    obtain ⟨hj, hrest⟩ := List.forall_mem_cons.1 h
    rw [elements, elementKey_intercalate hnames]
    exact (verdict_value (by decide) _ _ hj).bind fun v => (ih (i + 1) hrest).map _

lemma verdict_fields (hnames : names ≠ []) (members : List (String × Json)) :
    Verdict default (fieldSites names (.object members))
      (fields default (".".intercalate names) members) := by
  induction members with
  | nil => exact nofun
  | cons m rest ih =>
    obtain ⟨name, j⟩ := m
    rw [fields, ← intercalate_dot_concat hnames]
    by_cases h : IsElement default j
    · exact (verdict_value (by decide) (names ++ [name]) _ h).bind fun v => ih.map _
    · rw [value_of_not_isElement h]
      exact .error (.field h)

lemma verdict_records (hnames : names ≠ []) (i : ℕ) (h : ∀ j ∈ items, j.isObject) :
    Verdict default ((items.zipIdx i).flatMap fun (j, i) => fieldSites (names ++ [toString i]) j)
      (records default (".".intercalate names) i items) := by
  induction items generalizing i with
  | nil => exact nofun
  | cons j rest ih =>
    obtain ⟨hj, hrest⟩ := List.forall_mem_cons.1 h
    obtain ⟨members, rfl⟩ := Json.isObject_iff.1 hj
    rw [records, elementKey_intercalate hnames]
    exact (verdict_fields (by simp) members).bind fun fs => (ih (i + 1) hrest).map _

lemma verdict_list (hnames : names ≠ []) (items : List Json) :
    Verdict default (⟨.node, names, .array items⟩ :: itemSites default names items)
      (list default (".".intercalate names) items) := by
  have hall : items.all (isElement default) ↔ ∀ j ∈ items, IsElement default j := by
    simp only [List.all_eq_true, isElement_iff]
  unfold list itemSites
  by_cases helements : ∀ j ∈ items, IsElement default j
  · rw [if_pos (hall.2 helements), if_pos helements]
    refine .cons ?_ ((verdict_elements hnames 0 helements).map _)
    exact fun h => (atFault_array_iff.1 h).1 helements
  · rw [if_neg (mt hall.1 helements), if_neg helements]
    by_cases hobject : ∀ j ∈ items, j.isObject
    · rw [if_pos (List.all_eq_true.2 hobject), if_pos hobject]
      refine .cons ?_ ((verdict_records hnames 0 hobject).map _)
      exact fun h => (atFault_array_iff.1 h).2 hobject
    · rw [if_neg (mt List.all_eq_true.1 hobject)]
      exact .error (.mixed helements hobject)

mutual

lemma verdict_node (default : String) : ∀ (j : Json) (a : Address),
    Verdict default (nodeSites default a.segments j) (node default a j)
  | .null, _ => .error (.scalar ⟨rfl, rfl⟩ nofun)
  | .bool _, _ => .error (.scalar ⟨rfl, rfl⟩ nofun)
  | .number _, _ => .error (.scalar ⟨rfl, rfl⟩ nofun)
  | .string text, _ => List.forall_mem_singleton.2 (not_atFault_string (by decide) text)
  | .array items, a => by
    rw [node, nodeSites]
    exact (verdict_list (by simp [Address.segments]) items).map _
  | .object members, a => by
    rw [node, nodeSites]
    by_cases hleaf : LeafMapping default members
    · rw [if_pos (isLeaf_iff.2 hleaf), if_pos hleaf]
      exact (verdict_leaf (by decide) a.segments hleaf).map _
    · rw [if_neg (mt isLeaf_iff.1 hleaf), if_neg hleaf]
      exact .cons (not_atFault_group hleaf) ((verdict_children default members a.childPath).map _)

lemma verdict_children (default : String) : ∀ (members : List (String × Json))
    (path : List String),
    Verdict default (memberSites default path members) (children default path members)
  | [], _ => nofun
  | (name, j) :: rest, path => by
    rw [children, memberSites]
    exact (verdict_node default j ⟨path, name⟩).bind fun n =>
      (verdict_children default rest path).map _

end

end Shape

namespace Tree

open Shape

lemma verdict_ofDocument (default : String) (j : Json) :
    Verdict default (j.sites default) (ofDocument default j) := by
  cases j with
  | object members =>
    refine .cons ?_ ((verdict_children default members []).map _)
    exact fun h => (Site.atFault_root_iff.1 h).2 rfl
  | null => exact List.forall_mem_singleton.2 fun h => (Site.atFault_root_iff.1 h).1 rfl
  | bool | number | string | array => exact .error (.root nofun nofun)

/-- What reading a document comes to. -/
structure ReadsDocument (default : String) (j : Json) : Prop where
  /-- A document in the grammar is read, and no other. -/
  accepted_iff : (∃ t, ofDocument default j = .ok t) ↔ IsDocument default j
  /-- A document is refused for the first of its values with which anything is wrong: the error
  says what that is, has the key of the value, and is about a default text exactly if the value is
  a leaf mapping that has none. -/
  refused : ∀ e, ofDocument default j = .error e → ∃ before s after,
    j.sites default = before ++ s :: after ∧ (∀ x ∈ before, ¬x.AtFault default) ∧
      s.Blamed default e ∧ e.key = s.key ∧
      ((∃ key, e = .missingDefault key) ↔ ∃ members, s.value = .object members ∧
        LeafMapping default members ∧ ¬HasDefaultText default members)

/-- **A document is read exactly if it is in the grammar, and refused for the first of its values
with which anything is wrong.** -/
theorem ofDocument_spec (default : String) (j : Json) : ReadsDocument default j := by
  have hverdict := verdict_ofDocument default j
  constructor
  · rw [isDocument_iff]
    cases h : ofDocument default j with
    | ok t =>
      rw [h] at hverdict
      exact iff_of_true ⟨t, rfl⟩ hverdict
    | error e =>
      rw [h] at hverdict
      obtain ⟨before, s, after, hsites, -, hs⟩ := hverdict
      refine iff_of_false nofun fun hnone => ?_
      exact hnone s (hsites ▸ List.mem_append_right _ List.mem_cons_self) ⟨e, hs⟩
  · intro e h
    rw [h] at hverdict
    obtain ⟨before, s, after, hsites, hbefore, hs⟩ := hverdict
    exact ⟨before, s, after, hsites, hbefore, hs, hs.key_eq, hs.missing_iff⟩

end Tree

end Phrasebook
