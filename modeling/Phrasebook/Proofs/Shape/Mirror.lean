import Mathlib.Data.List.Forall2
import Phrasebook.Proofs.Shape.Grammar
import Phrasebook.Proofs.Tree.Languages

/-!
# What the tree of a document says

The tree of a document has a node for each value that stands for one, and a node says what its value
says: `NodeOf`, with `RecordOf` for records and `ValueOf` for texts.  The relations go by the shapes
of the document alone; where a node stands, and that names are different, is `Node.AllPlaced`.

A value of the tree can be told from the document up to one thing, which text a translation has
where a mapping has two entries of its name.  No document that is read has such a mapping, so
`ValueOf` says only that the translations are the entries.

The main result is `Tree.ofDocument_mirrors`.
-/

namespace Phrasebook

open Shape

/-! ## Texts -/

/-- `v` is what a text or a leaf mapping says. -/
inductive ValueOf (default : String) : Json → Value → Prop
  /-- A text has no translations, and asks for the arguments it names. -/
  | text (text : String) : ValueOf default (.string text) ⟨text, Placeholder.maxIndex text, .empty⟩
  /-- A leaf mapping has its default text under the default language, the number of arguments under
  `arguments` or else from its default text, and a translation for each of its other entries. -/
  | leaf {members : List (String × Json)} {v : Value} (sound : SoundLeaf default members)
      (text : members.lookup default = some (.string v.defaultText))
      (declared : ∀ n, members.lookup argumentsEntry = some (.number (.natural n)) →
        v.argumentCount = n)
      (counted : members.lookup argumentsEntry = none →
        v.argumentCount = Placeholder.maxIndex v.defaultText)
      (translations : ∀ language text, v.overrides.get? language = some text →
        (language, .string text) ∈ members ∧ language ≠ default ∧ language ≠ argumentsEntry)
      (translated : ∀ m ∈ members, m.1 ≠ default → m.1 ≠ argumentsEntry → m.1 ∈ v.overrides.keys) :
      ValueOf default (.object members) v

lemma ValueOf.canonical {default : String} {j : Json} {v : Value} (h : ValueOf default j v) :
    ∀ language ∈ v.overrides.keys, LanguageTag.isCanonical language ∧ language ≠ default := by
  intro language hlanguage
  cases h with
  | text => exact nomatch hlanguage
  | leaf sound text declared counted translations translated =>
    rw [SortedMap.mem_keys_iff, Option.isSome_iff_exists] at hlanguage
    obtain ⟨s, hs⟩ := hlanguage
    obtain ⟨hmem, hdefault, harguments⟩ := translations language s hs
    have hknown := (sound.known _ hmem).resolve_left hdefault
    exact ⟨hknown.resolve_left harguments, hdefault⟩

namespace Shape

variable {default key : String} {members : List (String × Json)} {j : Json} {v : Value}

lemma translate_defaultText (v : Value) (m : String × Json) :
    (translate default v m).defaultText = v.defaultText := by
  unfold translate
  split
  · rfl
  · split <;> rfl

lemma translate_argumentCount (v : Value) (m : String × Json) :
    (translate default v m).argumentCount = v.argumentCount := by
  unfold translate
  split
  · rfl
  · split <;> rfl

lemma get?_translate {m : String × Json} {language text : String}
    (h : (translate default v m).overrides.get? language = some text) :
    v.overrides.get? language = some text ∨
      m = (language, .string text) ∧ language ≠ default ∧ language ≠ argumentsEntry := by
  obtain ⟨name, j⟩ := m
  unfold translate at h
  split at h
  · exact .inl h
  · rename_i hname
    split at h
    · rename_i s hj
      dsimp only at hj hname
      rw [Value.setOverride, SortedMap.get?_insert] at h
      split at h
      · rename_i hlanguage
        cases h
        rw [hlanguage, hj]
        exact .inr ⟨rfl, not_or.1 hname⟩
      · exact .inl h
    · exact .inl h

lemma foldl_translate_defaultText (v : Value) (members : List (String × Json)) :
    (members.foldl (translate default) v).defaultText = v.defaultText := by
  induction members generalizing v with
  | nil => rfl
  | cons m rest ih => rw [List.foldl_cons, ih, translate_defaultText]

lemma foldl_translate_argumentCount (v : Value) (members : List (String × Json)) :
    (members.foldl (translate default) v).argumentCount = v.argumentCount := by
  induction members generalizing v with
  | nil => rfl
  | cons m rest ih => rw [List.foldl_cons, ih, translate_argumentCount]

/-- A translation comes from one of the entries. -/
lemma get?_foldl_translate {language text : String}
    (h : (members.foldl (translate default) v).overrides.get? language = some text) :
    v.overrides.get? language = some text ∨
      (language, .string text) ∈ members ∧ language ≠ default ∧ language ≠ argumentsEntry := by
  induction members generalizing v with
  | nil => exact .inl h
  | cons m rest ih =>
    rcases ih h with h | ⟨hmem, hne⟩
    · rcases get?_translate h with h | ⟨rfl, hne⟩
      · exact .inl h
      · exact .inr ⟨List.mem_cons_self, hne⟩
    · exact .inr ⟨List.mem_cons_of_mem _ hmem, hne⟩

lemma mem_keys_translate_of_mem {m : String × Json} {language : String}
    (h : language ∈ v.overrides.keys) : language ∈ (translate default v m).overrides.keys := by
  unfold translate
  split
  · exact h
  · split
    · exact (SortedMap.mem_keys_insert_iff _ _ _ _).2 (.inr h)
    · exact h

lemma mem_keys_foldl_translate_of_mem {language : String} (h : language ∈ v.overrides.keys) :
    language ∈ (members.foldl (translate default) v).overrides.keys := by
  induction members generalizing v with
  | nil => exact h
  | cons m rest ih => exact ih (mem_keys_translate_of_mem h)

/-- Each entry that is a text gives a translation. -/
lemma mem_keys_foldl_translate {name text : String} (h : (name, .string text) ∈ members)
    (hdefault : name ≠ default) (harguments : name ≠ argumentsEntry) :
    name ∈ (members.foldl (translate default) v).overrides.keys := by
  induction members generalizing v with
  | nil => exact nomatch h
  | cons m rest ih =>
    rcases List.mem_cons.1 h with rfl | h
    · rw [List.foldl_cons]
      refine mem_keys_foldl_translate_of_mem ?_
      unfold translate
      rw [if_neg (not_or.2 ⟨hdefault, harguments⟩)]
      exact (SortedMap.mem_keys_insert_iff _ _ _ _).2 (.inl rfl)
    · exact ih h

lemma valueOf_leafValue {text : String} (h : SoundLeaf default members)
    (htext : members.lookup default = some (.string text)) :
    ValueOf default (.object members) (leafValue default text members) := by
  have hdefaultText : (leafValue default text members).defaultText = text := by
    rw [leafValue, foldl_translate_defaultText]
    cases (members.lookup argumentsEntry).bind Json.natural? <;> rfl
  refine .leaf h (by rw [hdefaultText, htext]) (fun n hn => ?_) (fun hnone => ?_)
    (fun language s hs => ?_) fun m hm hdefault harguments => ?_
  · rw [leafValue, foldl_translate_argumentCount, hn]
    rfl
  · rw [hdefaultText, leafValue, foldl_translate_argumentCount, hnone]
    rfl
  · refine (get?_foldl_translate hs).resolve_left ?_
    cases (members.lookup argumentsEntry).bind Json.natural? <;> exact nofun
  · obtain ⟨s, hs⟩ := (h.leaf.entries m hm).resolve_right fun h => harguments h.1
    have hentry : (m.1, .string s) ∈ members := hs ▸ hm
    exact mem_keys_foldl_translate hentry hdefault harguments

lemma valueOf_leaf (hleaf : LeafMapping default members) (h : leaf default key members = .ok v) :
    ValueOf default (.object members) v := by
  rcases leaf_cases key hleaf with ⟨⟨text, htext, hok⟩, hsound⟩ | ⟨e, herror, -⟩
  · cases h.symm.trans hok
    exact valueOf_leafValue hsound htext
  · exact nomatch h.symm.trans herror

lemma valueOf_value {fault : String → ShapeFault} (h : value default key fault j = .ok v) :
    ValueOf default j v := by
  cases j with
  | string text =>
    cases h
    exact .text text
  | object members =>
    rw [value] at h
    split at h
    · rename_i hleaf
      exact valueOf_leaf (isLeaf_iff.1 hleaf) h
    · exact nomatch h
  | null | bool | number | array => exact nomatch h

end Shape

/-! ## Lists, records and nodes -/

/-- `r` is what a mapping in a list of records says. -/
inductive RecordOf (default : String) : Json → Record → Prop
  /-- The fields are the entries, in order. -/
  | fields {members : List (String × Json)} {r : Record}
      (names : r.fields.map (·.1) = members.map (·.1))
      (values : List.Forall₂ (ValueOf default) (members.map (·.2)) (r.fields.map (·.2))) :
      RecordOf default (.object members) r

/-- `n` is what a value of a document says. -/
inductive NodeOf (default : String) : Json → Node → Prop
  /-- A text. -/
  | text {j : Json} {a : Address} {v : Value} (value : ValueOf default j v) :
      NodeOf default j (.entry ⟨a, .text v⟩)
  /-- A list of texts, in order. -/
  | list {items : List Json} {a : Address} {vs : List Value}
      (elements : List.Forall₂ (ValueOf default) items vs) :
      NodeOf default (.array items) (.entry ⟨a, .list vs⟩)
  /-- A list of records, in order. -/
  | records {items : List Json} {a : Address} {rs : List Record}
      (other : ¬∀ j ∈ items, IsElement default j)
      (records : List.Forall₂ (RecordOf default) items rs) :
      NodeOf default (.array items) (.entry ⟨a, .records rs⟩)
  /-- A group: its nodes are the entries, in order. -/
  | group {members : List (String × Json)} {a : Address} {ns : List Node}
      (other : ¬LeafMapping default members)
      (names : ns.map (·.address.name) = members.map (·.1))
      (nodes : List.Forall₂ (NodeOf default) (members.map (·.2)) ns) :
      NodeOf default (.object members) (.group a ns)

namespace Shape

variable {default key : String} {members : List (String × Json)} {items : List Json}

lemma valuesOf_elements {i : ℕ} {vs : List Value} (h : elements default key i items = .ok vs) :
    List.Forall₂ (ValueOf default) items vs := by
  induction items generalizing i vs with
  | nil =>
    cases h
    exact .nil
  | cons j rest ih =>
    obtain ⟨v, hv, h⟩ := bind_eq_ok_iff.1 h
    obtain ⟨vs', hvs, h⟩ := bind_eq_ok_iff.1 h
    cases h
    exact .cons (valueOf_value hv) (ih hvs)

lemma recordOf_fields {fs : List (String × Value)} (h : fields default key members = .ok fs) :
    RecordOf default (.object members) ⟨fs⟩ := by
  induction members generalizing fs with
  | nil =>
    cases h
    exact .fields rfl .nil
  | cons m rest ih =>
    obtain ⟨name, j⟩ := m
    obtain ⟨v, hv, h⟩ := bind_eq_ok_iff.1 h
    obtain ⟨gs, hgs, h⟩ := bind_eq_ok_iff.1 h
    cases h
    obtain ⟨names, values⟩ := ih hgs
    exact .fields (congrArg (name :: ·) names) (.cons (valueOf_value hv) values)

lemma recordsOf_records {i : ℕ} {rs : List Record} (h : records default key i items = .ok rs) :
    List.Forall₂ (RecordOf default) items rs := by
  induction items generalizing i rs with
  | nil =>
    cases h
    exact .nil
  | cons j rest ih =>
    cases j with
    | object members =>
      obtain ⟨fs, hfs, h⟩ := bind_eq_ok_iff.1 h
      obtain ⟨rs', hrs, h⟩ := bind_eq_ok_iff.1 h
      cases h
      exact .cons (recordOf_fields hfs) (ih hrs)
    | null | bool | number | string | array => exact nomatch h

lemma nodeOf_list {a : Address} {c : Content} (h : list default key items = .ok c) :
    NodeOf default (.array items) (.entry ⟨a, c⟩) := by
  unfold list at h
  split at h
  · obtain ⟨vs, hvs, h⟩ := bind_eq_ok_iff.1 h
    cases h
    exact .list (valuesOf_elements hvs)
  · rename_i helements
    split at h
    · obtain ⟨rs, hrs, h⟩ := bind_eq_ok_iff.1 h
      cases h
      refine .records (fun hall => helements ?_) (recordsOf_records hrs)
      exact List.all_eq_true.2 fun j hj => isElement_iff.2 (hall j hj)
    · exact nomatch h

mutual

/-- A node says what its value says. -/
lemma nodeOf_node (default : String) : ∀ (j : Json) (a : Address) (n : Node),
    node default a j = .ok n → n.address = a ∧ NodeOf default j n
  | .null, _, _, h => nomatch h
  | .bool _, _, _, h => nomatch h
  | .number _, _, _, h => nomatch h
  | .string text, _, _, h => by
    rw [node] at h
    cases h
    exact ⟨rfl, .text (.text text)⟩
  | .array items, _, _, h => by
    rw [node] at h
    obtain ⟨content, hcontent, h⟩ := bind_eq_ok_iff.1 h
    cases h
    exact ⟨rfl, nodeOf_list hcontent⟩
  | .object members, a, _, h => by
    rw [node] at h
    split at h
    · rename_i hleaf
      obtain ⟨v, hv, h⟩ := bind_eq_ok_iff.1 h
      cases h
      exact ⟨rfl, .text (valueOf_leaf (isLeaf_iff.1 hleaf) hv)⟩
    · rename_i hleaf
      obtain ⟨ns, hns, h⟩ := bind_eq_ok_iff.1 h
      cases h
      obtain ⟨hnames, hnodes⟩ := nodesOf_children default members a.childPath ns hns
      exact ⟨rfl, .group (mt isLeaf_iff.2 hleaf) hnames hnodes⟩

lemma nodesOf_children (default : String) : ∀ (members : List (String × Json))
    (path : List String) (ns : List Node), children default path members = .ok ns →
      ns.map (·.address.name) = members.map (·.1) ∧
        List.Forall₂ (NodeOf default) (members.map (·.2)) ns
  | [], _, _, h => by
    rw [children] at h
    cases h
    exact ⟨rfl, .nil⟩
  | (name, j) :: rest, path, _, h => by
    rw [children] at h
    obtain ⟨n, hn, h⟩ := bind_eq_ok_iff.1 h
    obtain ⟨ns, hns, h⟩ := bind_eq_ok_iff.1 h
    cases h
    obtain ⟨haddress, hnode⟩ := nodeOf_node default j ⟨path, name⟩ n hn
    obtain ⟨hnames, hnodes⟩ := nodesOf_children default rest path ns hns
    refine ⟨?_, .cons hnode hnodes⟩
    rw [List.map_cons, List.map_cons, hnames, haddress]

end

end Shape

/-! ## Entries -/

lemma exists_of_forall₂ {α β : Type*} {R : α → β → Prop} {as : List α} {bs : List β}
    (h : List.Forall₂ R as bs) : ∀ b ∈ bs, ∃ a ∈ as, R a b := by
  induction h with
  | nil => exact nofun
  | cons hab _ ih =>
    rintro b (_ | ⟨_, hb⟩)
    · exact ⟨_, List.mem_cons_self, hab⟩
    · obtain ⟨a, ha, hR⟩ := ih b hb
      exact ⟨a, List.mem_cons_of_mem _ ha, hR⟩

namespace Json

/-- The members of a mapping; no other value has any. -/
def members : Json → List (String × Json)
  | object members => members
  | _ => []

end Json

namespace NodeOf

variable {default : String} {p : List String → Prop}

mutual

/-- An entry in a node says what a value in the document says. -/
lemma exists_entry (default : String) : ∀ (j : Json) (n : Node), NodeOf default j n →
    ∀ e ∈ n.entries, ∃ j', NodeOf default j' (.entry e) ∧ (j.AllNames p → j'.AllNames p)
  | j, .entry e, h, f, hf => by
    obtain rfl := List.mem_singleton.1 hf
    exact ⟨j, h, id⟩
  | .object members, .group a ns, h, e, he => by
    cases h with
    | group other names nodes =>
      obtain ⟨j', hj', hnames⟩ := exists_entry_of_forall₂ default members ns nodes e he
      exact ⟨j', hj', fun h => hnames h.2⟩

lemma exists_entry_of_forall₂ (default : String) : ∀ (members : List (String × Json))
    (ns : List Node), List.Forall₂ (NodeOf default) (members.map (·.2)) ns →
      ∀ e ∈ Node.entriesOf ns, ∃ j', NodeOf default j' (.entry e) ∧
        (Json.AllNamesMembers p members → j'.AllNames p)
  | _, [], _, _, he => nomatch he
  | [], _ :: _, h, _, _ => nomatch h
  | (name, j) :: rest, n :: ns, .cons hn hns, e, he => by
    rcases List.mem_append.1 he with he | he
    · obtain ⟨j', hj', hnames⟩ := exists_entry default j n hn e he
      exact ⟨j', hj', fun h => hnames h.1⟩
    · obtain ⟨j', hj', hnames⟩ := exists_entry_of_forall₂ default rest ns hns e he
      exact ⟨j', hj', fun h => hnames h.2⟩

end

/-- A value of an entry is that of a text or a leaf mapping. -/
lemma exists_valueOf {j : Json} {e : Entry} (h : NodeOf default j (.entry e)) :
    ∀ v ∈ e.content.values, ∃ j', ValueOf default j' v := by
  cases h with
  | text value =>
    rintro v hv
    obtain rfl := List.mem_singleton.1 hv
    exact ⟨_, value⟩
  | list elements =>
    intro v hv
    obtain ⟨j, -, hj⟩ := exists_of_forall₂ elements v hv
    exact ⟨j, hj⟩
  | records other records =>
    intro v hv
    obtain ⟨r, hr, hv⟩ := List.mem_flatMap.1 hv
    obtain ⟨_, -, ⟨names, values⟩⟩ := exists_of_forall₂ records r hr
    obtain ⟨j, -, hj⟩ := exists_of_forall₂ values v hv
    exact ⟨j, hj⟩

/-- The fields of records have the names of mappings of the document. -/
lemma names_fields {j : Json} {a : Address} {rs : List Record}
    (h : NodeOf default j (.entry ⟨a, .records rs⟩)) (hnames : j.AllNames p) :
    ∀ r ∈ rs, p (r.fields.map (·.1)) := by
  cases h with
  | records other records =>
    intro r hr
    obtain ⟨_, hj, ⟨names, values⟩⟩ := exists_of_forall₂ records r hr
    rw [names]
    exact (Json.allNamesItems_iff.1 hnames _ hj).1

end NodeOf

namespace Tree

variable {default : String} {j : Json} {t : Tree}

/-- What the tree of a document is. -/
structure Mirrors (t : Tree) (default : String) (j : Json) : Prop where
  /-- Its default texts are in the language they are read in. -/
  language : t.defaultLanguage = default
  /-- Its nodes are the entries of the document, in order. -/
  names : t.nodes.map (·.address.name) = j.members.map (·.1)
  /-- Each node says what its value says. -/
  nodes : List.Forall₂ (NodeOf default) (j.members.map (·.2)) t.nodes
  /-- The names of nodes at the root are different. -/
  distinct : (t.nodes.map (·.address.name)).Nodup
  /-- Each node stands below the groups around it, and the names in each group are different. -/
  placed : Node.AllPlaced [] t.nodes
  /-- The names of fields in each record are different. -/
  fields : ∀ e ∈ t.entries, ∀ rs, e.content = .records rs → ∀ r ∈ rs, (r.fields.map (·.1)).Nodup
  /-- Translations are into languages other than the default language. -/
  canonical : ∀ v ∈ t.values, ∀ language ∈ v.overrides.keys,
    LanguageTag.isCanonical language ∧ language ≠ default

lemma eq_of_ofDocument (h : ofDocument default j = .ok t) :
    ∃ ns, children default [] j.members = .ok ns ∧ t = ⟨default, ns⟩ := by
  cases j with
  | object members =>
    obtain ⟨ns, hns, h⟩ := bind_eq_ok_iff.1 h
    cases h
    exact ⟨ns, hns, rfl⟩
  | null =>
    cases h
    exact ⟨[], rfl, rfl⟩
  | bool | number | string | array => exact nomatch h

/-- Translations are into languages other than the default language. -/
lemma canonical_of_ofDocument (h : ofDocument default j = .ok t) :
    ∀ v ∈ t.values, ∀ language ∈ v.overrides.keys,
      LanguageTag.isCanonical language ∧ language ≠ default := by
  obtain ⟨ns, hns, rfl⟩ := eq_of_ofDocument h
  have hnodes := (nodesOf_children default _ _ ns hns).2
  intro v hv
  obtain ⟨e, he, hv⟩ := List.mem_flatMap.1 hv
  obtain ⟨_, hentry, -⟩ :=
    NodeOf.exists_entry_of_forall₂ (p := fun _ => True) default _ ns hnodes e he
  obtain ⟨_, hvalue⟩ := hentry.exists_valueOf v hv
  exact hvalue.canonical

/-- **The tree of a document mirrors the document.** -/
theorem ofDocument_mirrors (h : ofDocument default j = .ok t) (hnames : j.AllNames List.Nodup) :
    t.Mirrors default j := by
  obtain ⟨ns, hns, rfl⟩ := eq_of_ofDocument h
  have hmembers : (j.members.map (·.1)).Nodup ∧ Json.AllNamesMembers List.Nodup j.members := by
    cases j with
    | object members => exact hnames
    | null | bool | number | string | array => exact ⟨.nil, trivial⟩
  obtain ⟨hnames', hnodes⟩ := nodesOf_children default _ _ ns hns
  refine ⟨rfl, hnames', hnodes, ?_, ?_, ?_, canonical_of_ofDocument h⟩
  · rw [hnames']
    exact hmembers.1
  · exact (children_placed (fun _ h => h) default _ _ ns hns hmembers.2).2
  · rintro ⟨a, content⟩ he rs rfl
    obtain ⟨_, hentry, hall⟩ := NodeOf.exists_entry_of_forall₂ default _ ns hnodes _ he
    exact hentry.names_fields (hall hmembers.2)

/-- A document with each kind of node. -/
def guide : Json :=
  .object [
    ("menu", .object [
      ("open", .object [("en", .string "Open %1$@"), ("de", .string "%1$@ öffnen")]),
      ("close", .object [("arguments", .number (.natural 2)), ("en", .string "Close")])]),
    ("tips", .array [.string "Save early.", .object [("en", .string "Rest."), ("fr", .string "")]]),
    ("cards", .array [.object [("front", .string "1 + 1"), ("back", .string "2")]])]

theorem ofDocument_mirrors_guide : ∃ t, ofDocument "en" guide = .ok t ∧
    guide.AllNames List.Nodup ∧ t.Mirrors "en" guide := by
  have hnames : guide.AllNames List.Nodup := by
    simp [guide, Json.AllNames, Json.AllNamesMembers, Json.AllNamesItems]
  exact ⟨_, rfl, hnames, ofDocument_mirrors rfl hnames⟩

end Tree

end Phrasebook
