import Mathlib.Tactic.Common
import Phrasebook.Serial.Config
import Phrasebook.Serial.Tree

/-!
# Serialized forms are read back

What is written of a tree or of settings is read back as the same tree or settings, and then written
in the same way again.  Writing and reading do not see the same things: what is written leaves out a
member that holds nothing, and a reader looks each member up by its name.  So there is one lemma for
each record that says what is found in its written form under each name (`fields?_toJson`,
`fields?_nodeJson`), and reading back only has to deal with what is found.

A tree is a recursive type, and a reader of it ends because the parts of a document are smaller than
the whole.  That is of no concern for a form that has been written: `Node.ofJson?_of_content` and
`Node.ofJson?_of_group` say what is read once the members are known.

Four members may be left out: the path of a node, the translations of a value, and the package and
the output directories of settings.  `LeftOut` says of each that it is left out exactly where it
holds nothing, and that a reader puts nothing there where it is missing.  The main result is
`serialForms`.
-/

namespace Phrasebook

open Serial

/-! ## Lists and maps -/

lemma mapM_map_eq_some {α β : Type} {write : α → β} {read : β → Option α} {l : List α}
    (h : ∀ a ∈ l, read (write a) = some a) : (l.map write).mapM read = some l := by
  induction l with
  | nil => rfl
  | cons a rest ih =>
    obtain ⟨ha, hrest⟩ := List.forall_mem_cons.1 h
    rw [List.map_cons, List.mapM_cons, ha, ih hrest]
    rfl

lemma membersOf?_string (l : List (String × String)) :
    membersOf? string? (.object (l.map fun e => (e.1, .string e.2))) = some l :=
  mapM_map_eq_some fun _ _ => rfl

/-- A member that is left out where `unset` holds is read back, if it holds nothing there. -/
lemma orDefault_unless {α : Type} {default a : α} {read : Json → Option α} {unset : Bool} {j : Json}
    (hunset : unset → a = default) (hread : read j = some a) :
    orDefault default read (if unset then none else some j) = some a := by
  split_ifs with h
  · exact congrArg some (hunset h).symm
  · exact hread

namespace SortedMap

variable {α : Type}

lemma get?_foldl_insert {l : List (String × α)} (h : (l.map (·.1)).Nodup) (m : SortedMap α)
    (k : String) :
    (l.foldl (fun m e => m.insert e.1 e.2) m).get? k = (l.lookup k).or (m.get? k) := by
  induction l generalizing m with
  | nil => rfl
  | cons e rest ih =>
    obtain ⟨hnew, hrest⟩ := List.nodup_cons.1 h
    rw [List.foldl_cons, ih hrest, get?_insert, lookup_cons_eq_ite]
    split_ifs with hk
    · subst hk
      have hnone : rest.lookup e.1 = none := by
        rw [List.lookup_eq_none_iff]
        intro p hp
        exact bne_iff_ne.2 fun heq => hnew (List.mem_map.2 ⟨p, hp, heq.symm⟩)
      rw [hnone]
      rfl
    · rfl

/-- A map is the map of its entries. -/
lemma ofList_toList (m : SortedMap α) : ofList m.toList = m := by
  refine ext_get? fun k => ?_
  have hnames : (m.toList.map (·.1)).Nodup := m.keys_pairwise.imp ne_of_text_lt
  rw [ofList, get?_foldl_insert hnames, get?_empty, Option.or_none]
  rfl

lemma isEmpty_iff (m : SortedMap α) : m.isEmpty ↔ m = .empty := by
  obtain ⟨l, hl⟩ := m
  simp [isEmpty, empty]

end SortedMap

namespace PerTarget

variable {α : Type}

/-- A table is the table of its values. -/
lemma ofList_toList (p : PerTarget α) : ofList p.toList = p := by
  obtain ⟨_ | _, _ | _, _ | _⟩ := p <;> rfl

lemma isEmpty_iff (p : PerTarget α) : p.isEmpty ↔ p = .empty := by
  obtain ⟨_ | _, _ | _, _ | _⟩ := p <;> simp [isEmpty, empty]

end PerTarget

/-! ## Values -/

namespace Value

/-- The serialized form of translations. -/
def overridesJson (overrides : SortedMap String) : Json :=
  .object (overrides.toList.map fun e => (e.1, .string e.2))

/-- What is found in the written form of a value. -/
lemma fields?_toJson (v : Value) :
    fields? ["default_text", "argument_count", "overrides"] v.toJson =
      some [some (.string v.defaultText), some (.number (.natural v.argumentCount)),
        if v.overrides.isEmpty then none else some (overridesJson v.overrides)] := by
  unfold toJson
  split <;> rfl

lemma ofJson?_toJson (v : Value) : ofJson? v.toJson = some v := by
  have hoverrides : orDefault [] (membersOf? string?)
      (if v.overrides.isEmpty then none else some (overridesJson v.overrides)) =
        some v.overrides.toList :=
    orDefault_unless List.isEmpty_iff.1 (membersOf?_string _)
  rw [ofJson?, fields?_toJson]
  change (orDefault [] (membersOf? string?) _).bind
    (fun entries => some ⟨v.defaultText, v.argumentCount, .ofList entries⟩) = some v
  rw [hoverrides, Option.bind_some, SortedMap.ofList_toList]

end Value

/-! ## Records and contents -/

lemma Record.fieldOfJson?_fieldToJson (f : String × Value) :
    fieldOfJson? (fieldToJson f) = some f := by
  rw [fieldToJson, fieldOfJson?, Value.ofJson?_toJson]
  rfl

lemma Record.ofJson?_toJson (r : Record) : ofJson? r.toJson = some r := by
  have hfields : listOf? fieldOfJson? (.array (r.fields.map fieldToJson)) = some r.fields :=
    mapM_map_eq_some fun f _ => fieldOfJson?_fieldToJson f
  have hfound : fields? ["fields"] r.toJson =
      some [some (.array (r.fields.map fieldToJson))] := rfl
  rw [ofJson?, hfound]
  simp [required, hfields]

lemma Content.ofJson?_toJson (c : Content) : ofJson? c.toJson.1 c.toJson.2 = some c := by
  cases c with
  | text v => simp [toJson, ofJson?, Value.ofJson?_toJson]
  | list vs =>
    have hvalues : listOf? Value.ofJson? (.array (vs.map Value.toJson)) = some vs :=
      mapM_map_eq_some fun v _ => v.ofJson?_toJson
    simp [toJson, ofJson?, hvalues]
  | records rs =>
    have hrecords : listOf? Record.ofJson? (.array (rs.map Record.toJson)) = some rs :=
      mapM_map_eq_some fun r _ => r.ofJson?_toJson
    simp [toJson, ofJson?, hrecords]

lemma Content.kind_ne_group (c : Content) : c.toJson.1 ≠ "group" := by
  cases c <;> simp [toJson]

/-! ## Nodes -/

namespace Node

variable {a : Address} {j body : Json} {kind : String} {path name : Option Json}

/-- What is found in the written form of a node. -/
lemma fields?_nodeJson (a : Address) (kind : String × Json) :
    fields? ["path", "name", "kind"] (a.nodeJson kind) =
      some [if a.path.isEmpty then none else some (.array (a.path.map .string)),
        some (.string a.name), some (.object [kind])] := by
  unfold Address.nodeJson
  split <;> rfl

lemma ofFields?_nodeJson (a : Address) :
    Address.ofFields? (if a.path.isEmpty then none else some (.array (a.path.map .string)))
      (some (.string a.name)) = some a := by
  have hpath : orDefault [] (listOf? string?)
      (if a.path.isEmpty then none else some (.array (a.path.map .string))) = some a.path :=
    orDefault_unless List.isEmpty_iff.1 (mapM_map_eq_some fun _ _ => rfl)
  rw [Address.ofFields?, hpath]
  rfl

lemma ofJson?_of_content (hfields : fields? ["path", "name", "kind"] j =
      some [path, name, some (.object [(kind, body)])])
    (ha : Address.ofFields? path name = some a) (hkind : kind ≠ "group") :
    ofJson? j = (Content.ofJson? kind body).map fun c => entry ⟨a, c⟩ := by
  rw [ofJson?]
  split
  · rename_i h
    cases hfields.symm.trans h
    rw [ha]
    exact if_neg hkind
  · rename_i h
    exact absurd hfields (h _ _ _ _)

lemma ofJson?_of_group {items : List Json} (hfields : fields? ["path", "name", "kind"] j =
      some [path, name, some (.object [("group", .array items)])])
    (ha : Address.ofFields? path name = some a) :
    ofJson? j = (listOfJson? items).map (group a) := by
  rw [ofJson?]
  split
  · rename_i h
    cases hfields.symm.trans h
    rw [ha]
    exact if_pos rfl
  · rename_i h
    exact absurd hfields (h _ _ _ _)

mutual

lemma ofJson?_toJson : ∀ n : Node, ofJson? n.toJson = some n
  | entry e => by
    rw [toJson, ofJson?_of_content (fields?_nodeJson _ _) (ofFields?_nodeJson _)
      e.content.kind_ne_group, e.content.ofJson?_toJson]
    rfl
  | group a children => by
    rw [toJson, ofJson?_of_group (fields?_nodeJson _ _) (ofFields?_nodeJson _),
      listOfJson?_listToJson children]
    rfl

lemma listOfJson?_listToJson : ∀ ns : List Node, listOfJson? (listToJson ns) = some ns
  | [] => by
    rw [listToJson, listOfJson?]
  | n :: rest => by
    rw [listToJson, listOfJson?, ofJson?_toJson n, listOfJson?_listToJson rest]
    rfl

end

end Node

lemma Tree.ofJson?_toJson (t : Tree) : ofJson? t.toJson = some t := by
  have hfound : fields? ["default_language", "nodes"] t.toJson =
      some [some (.string t.defaultLanguage), some (.array (Node.listToJson t.nodes))] := rfl
  rw [ofJson?, hfound]
  simp [required, string?, orDefault, nodesOfJson?, Node.listOfJson?_listToJson]

/-! ## Settings -/

namespace Config

/-- The serialized form of output directories. -/
def outputsJson (outputs : PerTarget String) : Json :=
  .object (outputs.toList.map fun e => (e.1.name, .string e.2))

lemma outputsOfJson?_outputsJson (outputs : PerTarget String) :
    outputsOfJson? (outputsJson outputs) = some outputs := by
  have hmembers : membersOf? string? (outputsJson outputs) =
      some (outputs.toList.map fun e => (e.1.name, e.2)) := by
    rw [← membersOf?_string, List.map_map]
    rfl
  have htargets : ((outputs.toList.map fun e => (e.1.name, e.2)).mapM fun e =>
      (Target.ofTag? e.1).map (·, e.2)) = some outputs.toList := by
    refine mapM_map_eq_some fun e _ => ?_
    have htag : Target.ofTag? e.1.name = some e.1 := by cases e.1 <;> rfl
    rw [htag]
    rfl
  rw [outputsOfJson?, hmembers]
  simp only [Option.bind_eq_bind, Option.bind_some, htargets, PerTarget.ofList_toList]
  rfl

/-- What is found in the written form of settings. -/
lemma fields?_toJson (c : Config) :
    fields? ["package_name", "default_language", "outputs"] c.toJson =
      some [c.packageName.map .string, some (.string c.defaultLanguage),
        if c.outputs.isEmpty then none else some (outputsJson c.outputs)] := by
  obtain ⟨package, language, outputs⟩ := c
  cases package <;> cases h : outputs.isEmpty <;>
    simp [toJson, h, fields?, SortedMap.lookup_cons_eq_ite, outputsJson]

lemma ofJson?_toJson (c : Config) : ofJson? c.toJson = some c := by
  have hpackage :
      orDefault none packageOfJson? (c.packageName.map .string) = some c.packageName := by
    cases c.packageName <;> rfl
  have houtputs : orDefault .empty outputsOfJson?
      (if c.outputs.isEmpty then none else some (outputsJson c.outputs)) = some c.outputs :=
    orDefault_unless (PerTarget.isEmpty_iff _).1 (outputsOfJson?_outputsJson _)
  rw [ofJson?, fields?_toJson]
  change (orDefault none packageOfJson? _).bind (fun package =>
    (orDefault .empty outputsOfJson? _).bind fun outputs =>
      some ⟨package, c.defaultLanguage, outputs⟩) = some c
  rw [hpackage, Option.bind_some, houtputs, Option.bind_some]

end Config

/-! ## Members that may be left out -/

namespace Serial

variable {α β : Type}

/-- The member `name` stands for a field that need not be written. -/
structure LeftOut (write : α → Json) (read? : Json → Option α) (name : String) (field : α → β)
    (unset : β) : Prop where
  /-- It is left out exactly where the field holds nothing. -/
  omitted_iff : ∀ a, (write a).member? name = none ↔ field a = unset
  /-- Where it is missing, a reader puts nothing into the field. -/
  restored : ∀ members a, read? (.object members) = some a → members.lookup name = none →
    field a = unset

/-- All of these members are always written. -/
def Written (write : α → Json) (names : List String) : Prop :=
  ∀ a, ∀ name ∈ names, ∃ j, (write a).member? name = some j

/-- What has been written is read back, and written in the same way again. -/
structure Survives (write : α → Json) (read? : Json → Option α) : Prop where
  /-- It is read back. -/
  read_write : ∀ a, read? (write a) = some a
  /-- It is written in the same way again. -/
  write_read : ∀ a, (read? (write a)).map write = some (write a)

lemma Survives.of_read_write {write : α → Json} {read? : Json → Option α}
    (h : ∀ a, read? (write a) = some a) : Survives write read? :=
  ⟨h, fun a => by rw [h]; rfl⟩

end Serial

namespace Value

lemma written : Written toJson ["default_text", "argument_count"] := by
  intro v name hname
  rw [toJson]
  simp only [List.mem_cons, List.not_mem_nil, or_false] at hname
  rcases hname with rfl | rfl <;> exact ⟨_, rfl⟩

lemma leftOut_overrides : LeftOut toJson ofJson? "overrides" overrides .empty := by
  constructor
  · intro v
    rw [← SortedMap.isEmpty_iff, toJson]
    cases v.overrides.isEmpty <;> simp [Json.member?, SortedMap.lookup_cons_eq_ite]
  · intro members v h hmissing
    simp only [ofJson?, fields?, List.map_cons, hmissing, List.map_nil, orDefault, Option.pure_def,
      Option.bind_eq_bind, Option.bind_some, Option.bind_eq_some_iff, Option.some.injEq] at h
    obtain ⟨text, -, count, -, rfl⟩ := h
    rfl

end Value

lemma Record.written : Written toJson ["fields"] := by
  intro r name hname
  obtain rfl := List.mem_singleton.1 hname
  exact ⟨_, rfl⟩

namespace Node

lemma exists_nodeJson (n : Node) : ∃ kind, n.toJson = n.address.nodeJson kind := by
  cases n with
  | entry e => exact ⟨_, by rw [toJson]; rfl⟩
  | group a children => exact ⟨_, by rw [toJson]; rfl⟩

/-- The address of a node is read from two of its members. -/
lemma exists_fields {j : Json} {n : Node} (h : ofJson? j = some n) : ∃ path name kind,
    fields? ["path", "name", "kind"] j = some [path, name, kind] ∧
      Address.ofFields? path name = some n.address := by
  rw [ofJson?] at h
  split at h
  · rename_i path name kind body hfields
    refine ⟨path, name, _, hfields, ?_⟩
    split at h
    · cases h
    · rename_i a ha
      rw [ha]
      split_ifs at h
      · split at h
        · obtain ⟨ns, -, rfl⟩ := Option.map_eq_some_iff.1 h
          rfl
        · cases h
      · obtain ⟨c, -, rfl⟩ := Option.map_eq_some_iff.1 h
        rfl
  · cases h

lemma written : Written toJson ["name", "kind"] := by
  intro n name hname
  obtain ⟨kind, hkind⟩ := n.exists_nodeJson
  rw [hkind, Address.nodeJson]
  simp only [List.mem_cons, List.not_mem_nil, or_false] at hname
  rcases hname with rfl | rfl <;> cases n.address.path.isEmpty <;> exact ⟨_, rfl⟩

lemma leftOut_path : LeftOut toJson ofJson? "path" (fun n => n.address.path) [] := by
  constructor
  · intro n
    obtain ⟨kind, hkind⟩ := n.exists_nodeJson
    rw [← List.isEmpty_iff, hkind, Address.nodeJson]
    cases n.address.path.isEmpty <;> simp [Json.member?, SortedMap.lookup_cons_eq_ite]
  · intro members n h hmissing
    obtain ⟨path, name, kind, hfields, ha⟩ := exists_fields h
    cases hfields
    simp only [Address.ofFields?, orDefault, hmissing, Option.pure_def, Option.bind_eq_bind,
      Option.bind_some, Option.bind_eq_some_iff, Option.some.injEq] at ha
    obtain ⟨name, -, ha⟩ := ha
    rw [← ha]

end Node

lemma Tree.written : Written toJson ["default_language", "nodes"] := by
  intro t name hname
  simp only [List.mem_cons, List.not_mem_nil, or_false] at hname
  rcases hname with rfl | rfl <;> exact ⟨_, rfl⟩

namespace Config

lemma written : Written toJson ["default_language"] := by
  intro c name hname
  obtain rfl := List.mem_singleton.1 hname
  rw [toJson]
  cases c.packageName <;> exact ⟨_, rfl⟩

/-- The package and the output directories are read from a member each. -/
lemma of_ofJson?_object {members : List (String × Json)} {c : Config}
    (h : ofJson? (.object members) = some c) :
    orDefault none packageOfJson? (members.lookup "package_name") = some c.packageName ∧
      orDefault .empty outputsOfJson? (members.lookup "outputs") = some c.outputs := by
  simp only [ofJson?, fields?, List.map_cons, List.map_nil, Option.pure_def, Option.bind_eq_bind,
    Option.bind_some, Option.bind_eq_some_iff, Option.some.injEq] at h
  obtain ⟨package, hpackage, language, -, outputs, houtputs, rfl⟩ := h
  exact ⟨hpackage, houtputs⟩

lemma leftOut_packageName : LeftOut toJson ofJson? "package_name" packageName none := by
  constructor
  · intro c
    rw [toJson]
    cases c.packageName <;> cases c.outputs.isEmpty <;>
      simp [Json.member?, SortedMap.lookup_cons_eq_ite]
  · intro members c h hmissing
    have hpackage := (of_ofJson?_object h).1
    rw [hmissing] at hpackage
    exact (Option.some.inj hpackage).symm

lemma leftOut_outputs : LeftOut toJson ofJson? "outputs" outputs .empty := by
  constructor
  · intro c
    rw [← PerTarget.isEmpty_iff, toJson]
    cases c.packageName <;> cases c.outputs.isEmpty <;>
      simp [Json.member?, SortedMap.lookup_cons_eq_ite]
  · intro members c h hmissing
    have houtputs := (of_ofJson?_object h).2
    rw [hmissing] at houtputs
    exact (Option.some.inj houtputs).symm

end Config

/-! ## All serialized forms -/

/-- What the serialized forms of trees and settings keep, and what they leave out. -/
structure SerialForms : Prop where
  /-- Trees are read back. -/
  trees : Survives Tree.toJson Tree.ofJson?
  /-- Settings are read back. -/
  configs : Survives Config.toJson Config.ofJson?
  /-- The path of a node at the root is left out. -/
  path : LeftOut Node.toJson Node.ofJson? "path" (fun n => n.address.path) []
  /-- The translations of a value are left out if there are none. -/
  overrides : LeftOut Value.toJson Value.ofJson? "overrides" Value.overrides .empty
  /-- The package is left out if there is none. -/
  packageName : LeftOut Config.toJson Config.ofJson? "package_name" Config.packageName none
  /-- The output directories are left out if there are none. -/
  outputs : LeftOut Config.toJson Config.ofJson? "outputs" Config.outputs .empty
  /-- All other members are always written. -/
  written : Written Tree.toJson ["default_language", "nodes"] ∧
    Written Node.toJson ["name", "kind"] ∧ Written Record.toJson ["fields"] ∧
    Written Value.toJson ["default_text", "argument_count"] ∧
    Written Config.toJson ["default_language"]

/-- **Trees and settings survive their serialized form.** -/
theorem serialForms : SerialForms where
  trees := .of_read_write Tree.ofJson?_toJson
  configs := .of_read_write Config.ofJson?_toJson
  path := Node.leftOut_path
  overrides := Value.leftOut_overrides
  packageName := Config.leftOut_packageName
  outputs := Config.leftOut_outputs
  written := ⟨Tree.written, Node.written, Record.written, Value.written, Config.written⟩

end Phrasebook
