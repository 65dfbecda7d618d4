import Mathlib.Data.List.Perm.Basic
import Phrasebook.Generation
import Phrasebook.Proofs.Shape.Mirror
import Phrasebook.Proofs.Shape.Verdict

/-!
# The order of languages inside a text

In most mappings of a document the order of the entries is the order of what is generated.  A leaf
mapping is different: its entries are looked up by their names.  Only one thing in it is found by
going through the entries, the first name that is no language tag, and this shows in the wording
of an error.

Two documents are `Reordered` if they differ in the order of entries of leaf mappings alone,
wherever a leaf mapping is read as a text: in a group, in a list or in a field of a record.  A
mapping that looks like one is none where it is the document itself or a record, and there the order
of the entries counts.

The main result is `Tree.ofDocument_of_reordered`: such documents have the same tree, or they are
refused with the same kind of error for values of the same key.
-/

namespace Phrasebook

/-! ## Reordered documents -/

namespace Json

/-- Two members of one name, with values that are related. -/
inductive MemberRel (R : Json → Json → Prop) : String × Json → String × Json → Prop
  | mk (name : String) {j j' : Json} (value : R j j') : MemberRel R (name, j) (name, j')

/-- Two mappings with the same names in the same order, and values that are related. -/
inductive Entrywise (R : Json → Json → Prop) : Json → Json → Prop
  | mk {members members' : List (String × Json)}
      (kept : List.Forall₂ (MemberRel R) members members') :
      Entrywise R (.object members) (.object members')

open Shape

/-- The second value is the first one with the entries of leaf mappings in another order. -/
inductive Reordered (default : String) : Json → Json → Prop
  /-- Nothing is reordered. -/
  | same (j : Json) : Reordered default j j
  /-- The entries of a leaf mapping change places. -/
  | entries {members members' : List (String × Json)} (leaf : LeafMapping default members)
      (perm : members.Perm members') : Reordered default (.object members) (.object members')
  /-- The entries of any other mapping keep their places. -/
  | group {members members' : List (String × Json)} (other : ¬LeafMapping default members)
      (kept : List.Forall₂ (MemberRel (Reordered default)) members members') :
      Reordered default (.object members) (.object members')
  /-- So do the elements of a list, unless it is read as a list of records. -/
  | list {items items' : List Json}
      (place : (∀ j ∈ items, IsElement default j) ∨ ¬∀ j ∈ items, j.isObject)
      (elements : List.Forall₂ (Reordered default) items items') :
      Reordered default (.array items) (.array items')
  /-- The fields of records keep their places, even where a record looks like a leaf mapping. -/
  | records {items items' : List Json} (other : ¬∀ j ∈ items, IsElement default j)
      (records : List.Forall₂ (Entrywise (Reordered default)) items items') :
      Reordered default (.array items) (.array items')

/-- The second document is the first one with the entries of leaf mappings in another order; where
the document is a mapping, its own entries keep their places. -/
def ReorderedDocument (default : String) (j j' : Json) : Prop :=
  Entrywise (Reordered default) j j' ∨ ¬j.isObject ∧ j.Reordered default j'

end Json

namespace ShapeError

/-- The errors are of one variant and about values of one key. -/
structure Alike (e e' : ShapeError) : Prop where
  /-- The values have the same key. -/
  key : e.key = e'.key
  /-- Both are about a default text that is missing, or none is. -/
  variant : (∃ key, e = .missingDefault key) ↔ ∃ key, e' = .missingDefault key

lemma Alike.refl (e : ShapeError) : e.Alike e := ⟨rfl, Iff.rfl⟩

end ShapeError

namespace Shape

/-- Two readings come to the same: to one result, or to errors that are alike. -/
inductive Agree {α : Type} : Except ShapeError α → Except ShapeError α → Prop
  | ok (a : α) : Agree (.ok a) (.ok a)
  | error {e e' : ShapeError} (alike : e.Alike e') : Agree (.error e) (.error e')

namespace Agree

variable {α β : Type} {x x' : Except ShapeError α}

lemma refl (x : Except ShapeError α) : Agree x x := by
  cases x with
  | error e => exact .error (.refl e)
  | ok a => exact .ok a

lemma bind {f f' : α → Except ShapeError β} (hx : Agree x x') (hf : ∀ a, Agree (f a) (f' a)) :
    Agree (x >>= f) (x' >>= f') := by
  cases hx with
  | ok a => exact hf a
  | error alike => exact .error alike

lemma map (hx : Agree x x') (f : α → β) :
    Agree (x >>= fun a => pure (f a)) (x' >>= fun a => pure (f a)) :=
  hx.bind fun _ => .refl _

lemma toOption_eq (hx : Agree x x') : x.toOption = x'.toOption := by
  cases hx <;> rfl

lemma unknownShape (key : String) (fault fault' : ShapeFault) :
    Agree (.error (.unknownShape key fault) : Except ShapeError α)
      (.error (.unknownShape key fault')) :=
  .error ⟨rfl, iff_of_false nofun nofun⟩

end Agree

end Shape

/-! ## Leaf mappings -/

lemma lookup_perm {α : Type*} {l l' : List (String × α)} (hnames : (l.map (·.1)).Nodup)
    (hperm : l.Perm l') (k : String) : l.lookup k = l'.lookup k := by
  have hnames' : (l'.map (·.1)).Nodup := (hperm.map _).nodup_iff.1 hnames
  refine Option.ext fun a => ?_
  rw [SortedMap.lookup_eq_some_iff_mem hnames, SortedMap.lookup_eq_some_iff_mem hnames',
    hperm.mem_iff]

section Leaf

open Shape

variable {default key : String} {members members' : List (String × Json)} {v v' : Value}

/-- A translation is an entry of the leaf mapping. -/
lemma ValueOf.get?_eq_some_iff (h : ValueOf default (.object members) v)
    (hnames : (members.map (·.1)).Nodup) {language text : String} :
    v.overrides.get? language = some text ↔
      (language, .string text) ∈ members ∧ language ≠ default ∧ language ≠ argumentsEntry := by
  cases h with
  | leaf sound defaultText declared counted translations translated =>
    refine ⟨translations language text, fun ⟨hmem, hdefault, harguments⟩ => ?_⟩
    have hkey := translated _ hmem hdefault harguments
    obtain ⟨text', htext'⟩ := Option.isSome_iff_exists.1 ((SortedMap.mem_keys_iff _ _).1 hkey)
    have hsame : (Json.string text') = .string text := by
      have hlookup' := (SortedMap.lookup_eq_some_iff_mem hnames).2 (translations _ _ htext').1
      have hlookup := (SortedMap.lookup_eq_some_iff_mem hnames).2 hmem
      exact Option.some.inj (hlookup'.symm.trans hlookup)
    rw [htext', Json.string.inj hsame]

/-- Leaf mappings with the same entries say the same. -/
lemma ValueOf.eq_of_perm (h : ValueOf default (.object members) v)
    (h' : ValueOf default (.object members') v') (hnames : (members.map (·.1)).Nodup)
    (hperm : members.Perm members') : v = v' := by
  have hnames' : (members'.map (·.1)).Nodup := (hperm.map _).nodup_iff.1 hnames
  have hoverrides : v.overrides = v'.overrides := by
    refine SortedMap.ext_get? fun language => Option.ext fun text => ?_
    rw [h.get?_eq_some_iff hnames, h'.get?_eq_some_iff hnames', hperm.mem_iff]
  cases h with
  | leaf sound text declared counted =>
    cases h' with
    | leaf sound' text' declared' counted' =>
      rw [← lookup_perm hnames hperm] at text' declared' counted'
      have htext : v.defaultText = v'.defaultText := by
        rw [text] at text'
        exact Json.string.inj (Option.some.inj text')
      have hcount : v.argumentCount = v'.argumentCount := by
        cases hlookup : members.lookup argumentsEntry with
        | none => rw [counted hlookup, counted' hlookup, htext]
        | some j =>
          obtain ⟨n, rfl⟩ := sound.count j hlookup
          rw [declared n hlookup, declared' n hlookup]
      obtain ⟨_, _, _⟩ := v
      obtain ⟨_, _, _⟩ := v'
      cases htext
      cases hcount
      cases hoverrides
      rfl

namespace Shape

lemma LeafMapping.perm (h : LeafMapping default members) (hperm : members.Perm members') :
    LeafMapping default members' := by
  refine ⟨fun m hm => h.entries m (hperm.mem_iff.2 hm), h.named.imp ?_ ?_⟩
  · exact (hperm.map _).mem_iff.1
  · exact (hperm.map _).mem_iff.1

lemma SoundLeaf.perm (h : SoundLeaf default members) (hnames : (members.map (·.1)).Nodup)
    (hperm : members.Perm members') : SoundLeaf default members' := by
  obtain ⟨leaf, text, count, known⟩ := h
  refine ⟨leaf.perm hperm, ?_, ?_, fun m hm => known m (hperm.mem_iff.2 hm)⟩
  · rwa [HasDefaultText, ← lookup_perm hnames hperm]
  · rwa [NaturalCount, ← lookup_perm hnames hperm]

lemma LeafFault.missing_iff {e : ShapeError} (h : LeafFault default key members e) :
    (∃ key, e = .missingDefault key) ↔ ¬HasDefaultText default members := by
  cases h with
  | text text => exact iff_of_true ⟨_, rfl⟩ text
  | count text | name text => exact iff_of_false nofun (not_not.2 text)

/-- Reading a leaf mapping does not depend on the order of its entries. -/
lemma agree_leaf (key : String) (h : LeafMapping default members)
    (hnames : (members.map (·.1)).Nodup) (hperm : members.Perm members') :
    Agree (leaf default key members) (leaf default key members') := by
  have hnames' : (members'.map (·.1)).Nodup := (hperm.map _).nodup_iff.1 hnames
  have h' : LeafMapping default members' := h.perm hperm
  rcases leaf_cases key h with ⟨⟨text, -, hok⟩, hsound⟩ | ⟨e, herror, hfault⟩ <;>
    rcases leaf_cases key h' with ⟨⟨text', -, hok'⟩, hsound'⟩ | ⟨e', herror', hfault'⟩
  · rw [hok, hok', (valueOf_leaf h hok).eq_of_perm (valueOf_leaf h' hok') hnames hperm]
    exact .ok _
  · exact absurd (hsound.perm hnames hperm) hfault'.not_soundLeaf
  · exact absurd (hsound'.perm hnames' hperm.symm) hfault.not_soundLeaf
  · rw [herror, herror']
    refine .error ⟨hfault.key_eq.trans hfault'.key_eq.symm, ?_⟩
    rw [hfault.missing_iff, hfault'.missing_iff, HasDefaultText, lookup_perm hnames hperm]
    rfl

end Shape

end Leaf

/-! ## What reordering keeps -/

namespace Json

open Shape

variable {default : String} {j j' : Json} {members members' : List (String × Json)}
  {items items' : List Json}

lemma Reordered.kinds_eq (h : j.Reordered default j') :
    j.isString = j'.isString ∧ j.isObject = j'.isObject ∧ j.isArray = j'.isArray := by
  cases h <;> exact ⟨rfl, rfl, rfl⟩

lemma forall_mem_iff_of_forall₂ {α : Type} {R : α → α → Prop} {p : α → Prop} {l l' : List α}
    (hp : ∀ a a', R a a' → (p a ↔ p a')) (h : List.Forall₂ R l l') :
    (∀ a ∈ l, p a) ↔ ∀ a ∈ l', p a := by
  induction h with
  | nil => simp
  | cons ha _ ih => rw [List.forall_mem_cons, List.forall_mem_cons, hp _ _ ha, ih]

lemma isLeafEntry_iff_of_memberRel (m m' : String × Json)
    (h : MemberRel (Reordered default) m m') : isLeafEntry m ↔ isLeafEntry m' := by
  obtain ⟨name, hvalue⟩ := h
  obtain ⟨hstring, hobject, harray⟩ := hvalue.kinds_eq
  rw [isLeafEntry, isLeafEntry, hstring, hobject, harray]

/-- Whether a mapping is a leaf mapping does not depend on what is inside of its entries. -/
lemma leafMapping_iff_of_kept
    (h : List.Forall₂ (MemberRel (Reordered default)) members members') :
    LeafMapping default members ↔ LeafMapping default members' := by
  have hnames : members.map (·.1) = members'.map (·.1) := by
    rw [← List.forall₂_eq_eq_eq, List.forall₂_map_left_iff, List.forall₂_map_right_iff]
    exact h.imp fun _ _ ⟨_, _⟩ => rfl
  have hentries : (∀ m ∈ members, isLeafEntry m) ↔ ∀ m ∈ members', isLeafEntry m :=
    forall_mem_iff_of_forall₂ isLeafEntry_iff_of_memberRel h
  have hsome : ∀ k, (members.lookup k).isSome = (members'.lookup k).isSome := fun k => by
    rw [Bool.eq_iff_iff, lookup_isSome_iff_mem, lookup_isSome_iff_mem, hnames]
  rw [← isLeaf_iff, ← isLeaf_iff, isLeaf, isLeaf, Bool.and_eq_true, Bool.and_eq_true,
    List.all_eq_true, List.all_eq_true, hentries, hsome, hsome]

lemma isElement_object_iff :
    IsElement default (.object members) ↔ LeafMapping default members := by
  simp [IsElement]

lemma Reordered.isElement_iff (h : j.Reordered default j') :
    IsElement default j ↔ IsElement default j' := by
  cases h with
  | same => rfl
  | entries leaf perm => exact iff_of_true (.inr ⟨_, rfl, leaf⟩) (.inr ⟨_, rfl, leaf.perm perm⟩)
  | group other kept =>
    rw [isElement_object_iff, isElement_object_iff, leafMapping_iff_of_kept kept]
  | list | records => simp [IsElement]

lemma forall_isElement_iff (h : List.Forall₂ (Reordered default) items items') :
    (∀ j ∈ items, IsElement default j) ↔ ∀ j ∈ items', IsElement default j :=
  forall_mem_iff_of_forall₂ (fun _ _ hj => hj.isElement_iff) h

lemma forall_isObject_iff (h : List.Forall₂ (Reordered default) items items') :
    (∀ j ∈ items, j.isObject) ↔ ∀ j ∈ items', j.isObject :=
  forall_mem_iff_of_forall₂ (fun _ _ hj => by rw [hj.kinds_eq.2.1]) h

lemma Entrywise.isElement_iff (h : Entrywise (Reordered default) j j') :
    IsElement default j ↔ IsElement default j' := by
  obtain ⟨kept⟩ := h
  rw [isElement_object_iff, isElement_object_iff, leafMapping_iff_of_kept kept]

lemma forall_isElement_iff_of_records
    (h : List.Forall₂ (Entrywise (Reordered default)) items items') :
    (∀ j ∈ items, IsElement default j) ↔ ∀ j ∈ items', IsElement default j :=
  forall_mem_iff_of_forall₂ (fun _ _ hj => hj.isElement_iff) h

lemma forall_isObject_of_records {R : Json → Json → Prop}
    (h : List.Forall₂ (Entrywise R) items items') :
    (∀ j ∈ items, j.isObject) ∧ ∀ j ∈ items', j.isObject := by
  induction h with
  | nil => simp
  | cons hj _ ih =>
    obtain ⟨-⟩ := hj
    exact ⟨List.forall_mem_cons.2 ⟨rfl, ih.1⟩, List.forall_mem_cons.2 ⟨rfl, ih.2⟩⟩

end Json

/-! ## Readings that agree -/

namespace Shape

open Json

variable {default : String} {j j' : Json} {members members' : List (String × Json)}
  {items items' : List Json}

lemma agree_value (key : String) (fault : String → ShapeFault) (h : j.Reordered default j')
    (hnames : j.AllNames List.Nodup) :
    Agree (value default key fault j) (value default key fault j') := by
  by_cases helement : IsElement default j
  · cases h with
    | same => exact .refl _
    | entries leaf perm =>
      rw [value, value, if_pos (isLeaf_iff.2 leaf), if_pos (isLeaf_iff.2 (leaf.perm perm))]
      exact agree_leaf key leaf hnames.1 perm
    | group other => exact absurd (isElement_object_iff.1 helement) other
    | list | records => exact absurd helement (by simp [IsElement])
  · rw [value_of_not_isElement helement, value_of_not_isElement (mt h.isElement_iff.2 helement)]
    exact .unknownShape key _ _

lemma agree_elements (key : String) (i : ℕ) (h : List.Forall₂ (Reordered default) items items')
    (hnames : ∀ j ∈ items, j.AllNames List.Nodup) :
    Agree (elements default key i items) (elements default key i items') := by
  induction h generalizing i with
  | nil => exact .refl _
  | cons hj _ ih =>
    obtain ⟨hname, hrest⟩ := List.forall_mem_cons.1 hnames
    exact (agree_value _ _ hj hname).bind fun v => (ih (i + 1) hrest).map _

lemma agree_fields (key : String)
    (h : List.Forall₂ (MemberRel (Reordered default)) members members')
    (hnames : ∀ m ∈ members, m.2.AllNames List.Nodup) :
    Agree (fields default key members) (fields default key members') := by
  induction h with
  | nil => exact .refl _
  | cons hm _ ih =>
    obtain ⟨name, hvalue⟩ := hm
    obtain ⟨hname, hrest⟩ := List.forall_mem_cons.1 hnames
    exact (agree_value _ _ hvalue hname).bind fun v => (ih hrest).map _

lemma agree_records (key : String) (i : ℕ)
    (h : List.Forall₂ (Entrywise (Reordered default)) items items')
    (hnames : ∀ j ∈ items, j.AllNames List.Nodup) :
    Agree (records default key i items) (records default key i items') := by
  induction h generalizing i with
  | nil => exact .refl _
  | cons hj _ ih =>
    obtain ⟨kept⟩ := hj
    obtain ⟨hname, hrest⟩ := List.forall_mem_cons.1 hnames
    exact (agree_fields _ kept (allNamesMembers_iff.1 hname.2)).bind fun fs =>
      (ih (i + 1) hrest).map _

lemma all_isElement_iff :
    items.all (isElement default) ↔ ∀ j ∈ items, IsElement default j := by
  simp only [List.all_eq_true, isElement_iff]

lemma agree_list (key : String) (h : (Json.array items).Reordered default (.array items'))
    (hnames : ∀ j ∈ items, j.AllNames List.Nodup) :
    Agree (list default key items) (list default key items') := by
  cases h with
  | same => exact .refl _
  | list place elements =>
    unfold list
    by_cases helements : ∀ j ∈ items, IsElement default j
    · have helements' := (forall_isElement_iff elements).1 helements
      rw [if_pos (all_isElement_iff.2 helements), if_pos (all_isElement_iff.2 helements')]
      exact (agree_elements key 0 elements hnames).map _
    · have helements' := mt (forall_isElement_iff elements).2 helements
      have hobject := place.resolve_left helements
      have hobject' := mt (forall_isObject_iff elements).2 hobject
      rw [if_neg (mt all_isElement_iff.1 helements), if_neg (mt List.all_eq_true.1 hobject),
        if_neg (mt all_isElement_iff.1 helements'), if_neg (mt List.all_eq_true.1 hobject')]
      exact .refl _
  | records other records =>
    have other' := mt (forall_isElement_iff_of_records records).2 other
    obtain ⟨hobject, hobject'⟩ := forall_isObject_of_records records
    unfold list
    rw [if_neg (mt all_isElement_iff.1 other), if_pos (List.all_eq_true.2 hobject),
      if_neg (mt all_isElement_iff.1 other'), if_pos (List.all_eq_true.2 hobject')]
    exact (agree_records key 0 records hnames).map _

mutual

/-- A value that is reordered stands for the same node. -/
lemma agree_node (default : String) : ∀ (j j' : Json) (a : Address), j.Reordered default j' →
    j.AllNames List.Nodup → Agree (node default a j) (node default a j')
  | .null, _, _, .same _, _ => .refl _
  | .bool _, _, _, .same _, _ => .refl _
  | .number _, _, _, .same _, _ => .refl _
  | .string _, _, _, .same _, _ => .refl _
  | .array items, j', a, h, hnames => by
    obtain ⟨items', rfl⟩ : ∃ items', j' = .array items' := by cases h <;> exact ⟨_, rfl⟩
    rw [node, node]
    exact (agree_list a.key h (allNamesItems_iff.1 hnames)).map _
  | .object members, _, a, h, hnames => by
    cases h with
    | same => exact .refl _
    | entries leaf perm =>
      rw [node, node, if_pos (isLeaf_iff.2 leaf), if_pos (isLeaf_iff.2 (leaf.perm perm))]
      exact (agree_leaf a.key leaf hnames.1 perm).map _
    | @group _ members' other kept =>
      rw [node, node, if_neg (mt isLeaf_iff.1 other),
        if_neg (mt isLeaf_iff.1 (mt (leafMapping_iff_of_kept kept).2 other))]
      exact (agree_children default members members' a.childPath kept hnames.2).map _

lemma agree_children (default : String) : ∀ (members members' : List (String × Json))
    (path : List String), List.Forall₂ (MemberRel (Reordered default)) members members' →
      AllNamesMembers List.Nodup members →
        Agree (children default path members) (children default path members')
  | [], _, path, .nil, _ => .refl _
  | (_, j) :: rest, (_, j') :: rest', path, .cons (.mk name hj) hrest, hnames => by
    rw [children, children]
    exact (agree_node default j j' ⟨path, name⟩ hj hnames.1).bind fun n =>
      (agree_children default rest rest' path hrest hnames.2).map _

end

end Shape

/-! ## Reordered documents are read alike -/

namespace Tree

open Shape

variable {default : String} {j j' : Json}

/-- What the reading of two documents has in common. -/
structure ReadAlike (default : String) (j j' : Json) : Prop where
  /-- The documents have the same tree, or they are refused with errors of the same variant for
  values of the same key. -/
  agree : Agree (ofDocument default j) (ofDocument default j')
  /-- Whatever is generated from the one document is generated from the other. -/
  generated : ∀ (c : Config) (targets : List Target),
    (ofDocument default j).toOption.map (fun t => generateSources t c targets) =
      (ofDocument default j').toOption.map fun t => generateSources t c targets

lemma agree_ofDocument (h : j.ReorderedDocument default j') (hnames : j.AllNames List.Nodup) :
    Agree (ofDocument default j) (ofDocument default j') := by
  rcases h with h | ⟨hobject, h⟩
  · obtain ⟨kept⟩ := h
    exact (agree_children default _ _ [] kept hnames.2).map _
  · cases h with
    | same => exact .refl _
    | entries | group => exact absurd rfl hobject
    | list | records => exact .refl _

/-- **The order of the languages inside a text does not matter.** -/
theorem ofDocument_of_reordered (h : j.ReorderedDocument default j')
    (hnames : j.AllNames List.Nodup) : ReadAlike default j j' := by
  have hagree := agree_ofDocument h hnames
  exact ⟨hagree, fun c targets => by rw [hagree.toOption_eq]⟩

/-- A document with a leaf mapping in a group, in a list and in a record. -/
def welcome : Json :=
  .object [
    ("home", .object [("title", .object [("nl", .string "Welkom %1$@"),
      ("en", .string "Welcome"), ("arguments", .number (.natural 2))])]),
    ("colors", .array [.object [("nl", .string "rood"), ("en", .string "red")], .string "groen"]),
    ("items", .array [.object [
      ("name", .object [("nl", .string "Een"), ("de", .string "Eins")]),
      ("size", .string "1")]])]

/-- The same document with the entries of its leaf mappings from back to front. -/
def welcomeReversed : Json :=
  .object [
    ("home", .object [("title", .object [("arguments", .number (.natural 2)),
      ("en", .string "Welcome"), ("nl", .string "Welkom %1$@")])]),
    ("colors", .array [.object [("en", .string "red"), ("nl", .string "rood")], .string "groen"]),
    ("items", .array [.object [
      ("name", .object [("de", .string "Eins"), ("nl", .string "Een")]),
      ("size", .string "1")]])]

theorem ofDocument_of_reordered_welcome :
    welcome.ReorderedDocument "nl" welcomeReversed ∧ welcome.AllNames List.Nodup ∧
      (∃ t, ofDocument "nl" welcome = .ok t) ∧ ReadAlike "nl" welcome welcomeReversed := by
  have hreordered : welcome.ReorderedDocument "nl" welcomeReversed := by
    refine .inl (.mk (.cons (.mk "home" ?home) (.cons (.mk "colors" ?colors)
      (.cons (.mk "items" ?items) .nil))))
    case home =>
      refine .group (by decide) (.cons (.mk "title" ?_) .nil)
      exact .entries (by decide) (List.reverse_perm _).symm
    case colors =>
      refine .list (.inl (by decide)) (.cons ?_ (.cons (.same (.string "groen")) .nil))
      exact .entries (by decide) (List.Perm.swap _ _ [])
    case items =>
      refine .records (by decide) (.cons (.mk (.cons (.mk "name" ?_)
        (.cons (.mk "size" (.same (.string "1"))) .nil))) .nil)
      exact .entries (by decide) (List.Perm.swap _ _ [])
  have hnames : welcome.AllNames List.Nodup := by
    simp [welcome, Json.AllNames, Json.AllNamesMembers, Json.AllNamesItems]
  exact ⟨hreordered, hnames, ⟨_, rfl⟩, ofDocument_of_reordered hreordered hnames⟩

end Tree

end Phrasebook
