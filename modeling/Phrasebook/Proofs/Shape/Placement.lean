import Mathlib.Data.List.Basic
import Phrasebook.Shape

/-!
# Where the entries of a document stand

The tree of a document has the names of the document: a node stands below the names of the
mappings around it, and names are different where the names in a mapping are
(`Shape.node_placed`).  It follows that no entry stands at or below another entry
(`Node.pairwise_unrelated`), since an entry has no nodes in it and siblings have different names.

Documents are lists of members here, so that names in a mapping are different is an assumption,
`Json.AllNames`; whatever reads a document provides for it (`Format.allNames_of_parse?`).
-/

namespace Phrasebook

lemma bind_eq_ok_iff {ε α β : Type} {x : Except ε α} {f : α → Except ε β} {b : β} :
    (x >>= f) = .ok b ↔ ∃ a, x = .ok a ∧ f a = .ok b := by
  cases x with
  | error e => exact ⟨fun h => (nomatch h), fun ⟨_, h, _⟩ => (nomatch h)⟩
  | ok a =>
    refine ⟨fun h => ⟨a, rfl, h⟩, fun ⟨a', ha, h⟩ => ?_⟩
    cases ha
    exact h

/-! ## Names in a document -/

namespace Json

mutual

/-- The names in each mapping of the document, at any depth, satisfy `p`. -/
def AllNames (p : List String → Prop) : Json → Prop
  | null => True
  | bool _ => True
  | number _ => True
  | string _ => True
  | array items => AllNamesItems p items
  | object members => p (members.map (·.1)) ∧ AllNamesMembers p members

/-- `AllNames` for all items of a list. -/
def AllNamesItems (p : List String → Prop) : List Json → Prop
  | [] => True
  | j :: rest => AllNames p j ∧ AllNamesItems p rest

/-- `AllNames` for the values of all members. -/
def AllNamesMembers (p : List String → Prop) : List (String × Json) → Prop
  | [] => True
  | (_, j) :: rest => AllNames p j ∧ AllNamesMembers p rest

end

lemma allNamesItems_iff {p : List String → Prop} {items : List Json} :
    AllNamesItems p items ↔ ∀ j ∈ items, j.AllNames p := by
  induction items with
  | nil => exact iff_of_true trivial nofun
  | cons j rest ih => rw [List.forall_mem_cons, ← ih, AllNamesItems]

lemma allNamesMembers_iff {p : List String → Prop} {members : List (String × Json)} :
    AllNamesMembers p members ↔ ∀ m ∈ members, m.2.AllNames p := by
  induction members with
  | nil => exact iff_of_true trivial nofun
  | cons m rest ih => rw [List.forall_mem_cons, ← ih, AllNamesMembers]

end Json

/-! ## Placed nodes -/

namespace Node

mutual

/-- The node stands below `path`; the nodes in a group stand below the group, under different
names. -/
def Placed (path : List String) : Node → Prop
  | entry e => e.address.path = path
  | group a children =>
    a.path = path ∧ (children.map (·.address.name)).Nodup ∧ AllPlaced a.segments children

/-- `Placed` for each of some nodes. -/
def AllPlaced (path : List String) : List Node → Prop
  | [] => True
  | n :: rest => n.Placed path ∧ AllPlaced path rest

end

/-- Neither entry stands at or below the other. -/
def Unrelated (e f : Entry) : Prop :=
  ¬e.address.segments <+: f.address.segments ∧ ¬f.address.segments <+: e.address.segments

mutual

/-- The entries in a node stand at or below the node. -/
lemma isPrefix_segments (path : List String) : ∀ (n : Node), n.Placed path → ∀ e ∈ n.entries,
    path ++ [n.address.name] <+: e.address.segments
  | entry e, h, f, hf => by
    obtain rfl := List.mem_singleton.1 hf
    rw [Address.segments, show f.address.path = path from h]
    exact List.prefix_rfl
  | group a children, h, f, hf => by
    obtain ⟨m, -, hm⟩ := isPrefix_segments_all a.segments children h.2.2 f hf
    rw [Address.segments, h.1] at hm
    exact (List.prefix_append _ _).trans hm

/-- The entries in some nodes stand at or below one of them. -/
lemma isPrefix_segments_all (path : List String) :
    ∀ (ns : List Node), AllPlaced path ns → ∀ e ∈ entriesOf ns,
    ∃ n ∈ ns, path ++ [n.address.name] <+: e.address.segments
  | [], _, _, he => nomatch he
  | n :: rest, h, e, he => by
    rcases List.mem_append.1 he with he | he
    · exact ⟨n, List.mem_cons_self, isPrefix_segments path n h.1 e he⟩
    · obtain ⟨m, hm, hprefix⟩ := isPrefix_segments_all path rest h.2 e he
      exact ⟨m, List.mem_cons_of_mem _ hm, hprefix⟩

end

/-- Entries at or below different names are unrelated. -/
lemma unrelated_of_ne {path : List String} {e f : Entry} {x y : String}
    (hx : path ++ [x] <+: e.address.segments)
    (hy : path ++ [y] <+: f.address.segments) (hne : x ≠ y) : Unrelated e f := by
  have hnames : ∀ {g : List String}, path ++ [x] <+: g → path ++ [y] <+: g → False := by
    intro g hgx hgy
    have hlength : (path ++ [y]).length ≤ (path ++ [x]).length := by simp
    have heq := (List.prefix_of_prefix_length_le hgy hgx hlength).eq_of_length (by simp)
    exact hne (by simpa using heq.symm)
  exact ⟨fun h => hnames (hx.trans h) hy, fun h => hnames hx (hy.trans h)⟩

mutual

lemma pairwise_unrelated_entries (path : List String) :
    ∀ (n : Node), n.Placed path → n.entries.Pairwise Unrelated
  | entry e, _ => List.pairwise_singleton _ e
  | group a children, h => pairwise_unrelated a.segments children h.2.2 h.2.1

/-- In placed nodes with different names, no entry stands at or below another. -/
lemma pairwise_unrelated (path : List String) : ∀ (ns : List Node), AllPlaced path ns →
    (ns.map (·.address.name)).Nodup → (entriesOf ns).Pairwise Unrelated
  | [], _, _ => .nil
  | n :: rest, h, hnames => by
    obtain ⟨hnew, hrest⟩ := List.nodup_cons.1 hnames
    refine List.pairwise_append.2
      ⟨pairwise_unrelated_entries path n h.1, pairwise_unrelated path rest h.2 hrest, ?_⟩
    intro e he f hf
    obtain ⟨m, hm, hf⟩ := isPrefix_segments_all path rest h.2 f hf
    refine unrelated_of_ne (isPrefix_segments path n h.1 e he) hf fun heq => hnew ?_
    exact List.mem_map.2 ⟨m, hm, heq.symm⟩

end

end Node

/-! ## The nodes of a document -/

namespace Shape

open Node (Placed AllPlaced)

variable {p : List String → Prop}

mutual

/-- A node stands where it is asked for. -/
lemma node_placed (hp : ∀ names, p names → names.Nodup) (default : String) :
    ∀ (j : Json) (a : Address) (n : Node), node default a j = .ok n → j.AllNames p →
      n.address = a ∧ n.Placed a.path
  | .null, _, _, h, _ => nomatch h
  | .bool _, _, _, h, _ => nomatch h
  | .number _, _, _, h, _ => nomatch h
  | .string _, a, _, h, _ => by
    rw [node] at h
    cases h
    exact ⟨rfl, rfl⟩
  | .array items, a, _, h, _ => by
    rw [node] at h
    obtain ⟨content, -, h⟩ := bind_eq_ok_iff.1 h
    cases h
    exact ⟨rfl, rfl⟩
  | .object members, a, _, h, hnames => by
    rw [node] at h
    split at h
    · obtain ⟨v, -, h⟩ := bind_eq_ok_iff.1 h
      cases h
      exact ⟨rfl, rfl⟩
    · obtain ⟨ns, hns, h⟩ := bind_eq_ok_iff.1 h
      cases h
      obtain ⟨hnodes, hplaced⟩ :=
        children_placed hp default members a.childPath ns hns hnames.2
      refine ⟨rfl, rfl, ?_, hplaced⟩
      rw [hnodes]
      exact hp _ hnames.1

/-- The members of a mapping become nodes of their names. -/
lemma children_placed (hp : ∀ names, p names → names.Nodup) (default : String) :
    ∀ (members : List (String × Json)) (path : List String) (ns : List Node),
      children default path members = .ok ns → Json.AllNamesMembers p members →
        ns.map (·.address.name) = members.map (·.1) ∧ AllPlaced path ns
  | [], _, _, h, _ => by
    rw [children] at h
    cases h
    exact ⟨rfl, trivial⟩
  | (name, j) :: rest, path, _, h, hnames => by
    rw [children] at h
    obtain ⟨n, hn, h⟩ := bind_eq_ok_iff.1 h
    obtain ⟨ns, hns, h⟩ := bind_eq_ok_iff.1 h
    cases h
    obtain ⟨haddress, hplaced⟩ := node_placed hp default j ⟨path, name⟩ n hn hnames.1
    obtain ⟨hnodes, hall⟩ := children_placed hp default rest path ns hns hnames.2
    refine ⟨?_, hplaced, hall⟩
    rw [List.map_cons, List.map_cons, hnodes, haddress]

end

end Shape

end Phrasebook
