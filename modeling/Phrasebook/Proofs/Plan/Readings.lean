import Mathlib.Data.List.Forall2
import Phrasebook.Proofs.Plan.Filing
import Phrasebook.Proofs.Value.Texts

/-!
# What is read off a tree

The entries of a tree, the values of a request, its errors and its steps are computed as lists.
This file says which lists they are without computing them: node by node, value by value, and
language by language.

* `Node.Meets` has one rule for each kind of node and says which entries a depth-first walk meets.
* `Entry.Supplies` has one rule for each kind of accessor and says which value of an entry the
  accessor reads, at which place and under which lookup key.
* A `Wording` is the text of such a value in one language.  `Wordings` says that a list has all of
  them, in order and each once; a faulty one comes to an error, and each of them to a step.

`Request.Reads` puts this together for one request, and `Entry.MayAsk.reads` proves it of whatever
an entry may ask for.
-/

namespace Phrasebook

/-! ## Entries -/

/-- A depth-first walk of the node meets these entries, in this order. -/
inductive Node.Meets : Node → List Entry → Prop
  /-- A node that holds texts is met itself. -/
  | entry (e : Entry) : Meets (.entry e) [e]
  /-- The nodes of a group are walked through one after another. -/
  | group (a : Address) {children : List Node} {met : List (List Entry)}
      (walks : List.Forall₂ Meets children met) : Meets (.group a children) met.flatten

/-- A depth-first walk of the tree meets these entries, in this order. -/
def Tree.Meets (t : Tree) (es : List Entry) : Prop :=
  ∃ met, List.Forall₂ Node.Meets t.nodes met ∧ met.flatten = es

namespace Node

mutual

lemma meets_iff {es : List Entry} : ∀ n : Node, n.Meets es ↔ es = n.entries
  | entry e => by
    rw [entries]
    constructor
    · rintro ⟨⟩
      rfl
    · rintro rfl
      exact .entry e
  | group a children => by
    rw [entries, ← forall₂_meets_iff children]
    constructor
    · rintro (_ | ⟨-, hwalks⟩)
      exact ⟨_, hwalks, rfl⟩
    · rintro ⟨met, hwalks, rfl⟩
      exact .group a hwalks

lemma forall₂_meets_iff {es : List Entry} : ∀ ns : List Node,
    (∃ met, List.Forall₂ Meets ns met ∧ met.flatten = es) ↔ es = entriesOf ns
  | [] => by
    rw [entriesOf]
    constructor
    · rintro ⟨_, ⟨⟩, rfl⟩
      rfl
    · rintro rfl
      exact ⟨[], .nil, rfl⟩
  | n :: rest => by
    rw [entriesOf]
    constructor
    · rintro ⟨_, hn | ⟨hn, hrest⟩, rfl⟩
      rw [List.flatten_cons, (meets_iff n).1 hn, (forall₂_meets_iff rest).1 ⟨_, hrest, rfl⟩]
    · rintro rfl
      obtain ⟨met, hrest, hflatten⟩ := (forall₂_meets_iff rest).2 rfl
      exact ⟨n.entries :: met, .cons ((meets_iff n).2 rfl) hrest, by rw [List.flatten_cons, hflatten]⟩

end

end Node

/-- The entries of a tree are those that a walk meets. -/
lemma Tree.meets_iff (t : Tree) (es : List Entry) : t.Meets es ↔ es = t.entries :=
  Node.forall₂_meets_iff t.nodes

/-! ## Values -/

/-- The accessor that `s` declares reads the value `v` of the entry, at the place `i` among the
values that it reads, under the lookup key `key`. -/
inductive Entry.Supplies : Entry → Step → ℕ → String → Value → Prop
  /-- The accessor of a text reads that text. -/
  | text (a : Address) (v : Value) (function default : String) (count : UInt64) :
      Supplies ⟨a, .text v⟩ (.accessor function a count default) 0 a.key v
  /-- The accessor of a list reads every element. -/
  | element (a : Address) {vs : List Value} (function default : String) {i : ℕ} {v : Value}
      (element : vs[i]? = some v) :
      Supplies ⟨a, .list vs⟩ (.listAccessor function a vs default) i (elementKey a.key i) v
  /-- The accessor of a field reads it in every record that has it. -/
  | field (a : Address) {rs : List Record} {r : Record} (field default : String) {i : ℕ} {v : Value}
      (record : rs[i]? = some r) (value : r.get? field = some v) :
      Supplies ⟨a, .records rs⟩ (.fieldAccessor field a default) i (fieldKey a.key i field) v

/-- The request is for the accessor of `e` that reads `v` at the place `i` under `key`. -/
def Request.Supplies (r : Request) (e : Entry) (i : ℕ) (key : String) (v : Value) : Prop :=
  ∃ s, r.accessor? = some s ∧ e.Supplies s i key v

/-- `values` are the values that `supplies` says, in the order of their places. -/
def Supplied (supplies : ℕ → String → Value → Prop) (values : List (String × Value)) : Prop :=
  ∃ placed : List (ℕ × String × Value), placed.Pairwise (fun x y => x.1 < y.1) ∧
    (∀ i key v, (i, key, v) ∈ placed ↔ supplies i key v) ∧ values = placed.map (·.2)

lemma Supplied.mem_iff {supplies : ℕ → String → Value → Prop} {values : List (String × Value)}
    (h : Supplied supplies values) {key : String} {v : Value} :
    (key, v) ∈ values ↔ ∃ i, supplies i key v := by
  obtain ⟨placed, -, hmem, rfl⟩ := h
  rw [List.mem_map]
  constructor
  · rintro ⟨⟨i, x⟩, hx, rfl⟩
    exact ⟨i, (hmem ..).1 hx⟩
  · rintro ⟨i, hi⟩
    exact ⟨(i, key, v), (hmem ..).2 hi, rfl⟩

/-! ## Texts -/

/-- A text of a value in one language, with what a request has to do with it. -/
structure Wording where
  /-- The place of the value. -/
  place : ℕ
  /-- The lookup key of the value. -/
  key : String
  /-- The number of arguments of the value. -/
  argumentCount : UInt64
  /-- The language. -/
  language : String
  /-- The text. -/
  text : String

namespace Wording

/-- The order of texts: value by value, and of one value the default text first and the others in
the order of their languages. -/
def Before (default : String) (w w' : Wording) : Prop :=
  w.place < w'.place ∨
    w.place = w'.place ∧ w'.language ≠ default ∧ (w.language = default ∨ w.language < w'.language)

/-- The error of a text that asks for an argument that there is not; it names the first one. -/
def error? (w : Wording) : Option KeyError :=
  (Placeholder.firstUnaddressed? w.text w.argumentCount).map fun index =>
    .unaddressed w.key w.language index w.argumentCount

/-- The step that files the text. -/
def step (w : Wording) : Step := .text w.key w.text w.language

end Wording

/-- `ws` are the texts of the values that `supplies` says, in order and each once. -/
structure Wordings (default : String) (supplies : ℕ → String → Value → Prop) (ws : List Wording) :
    Prop where
  /-- They are in order, so none of them comes twice. -/
  ordered : ws.Pairwise (Wording.Before default)
  /-- A value has one for each language that it has a text in. -/
  mem_iff : ∀ w, w ∈ ws ↔ ∃ v, supplies w.place w.key v ∧
    v.textIn? w.language default = some w.text ∧ v.argumentCount = w.argumentCount

namespace Value

/-- The texts of a value at a place. -/
def wordings (v : Value) (default : String) (i : ℕ) (key : String) : List Wording :=
  (v.texts default).map fun (language, text) => ⟨i, key, v.argumentCount, language, text⟩

variable (v : Value) (default key : String) (i : ℕ)

lemma mem_wordings_iff (w : Wording) : w ∈ v.wordings default i key ↔
    w.place = i ∧ w.key = key ∧ v.textIn? w.language default = some w.text ∧
      v.argumentCount = w.argumentCount := by
  obtain ⟨place, key', count, language, text⟩ := w
  rw [wordings, List.mem_map, ← mem_texts_iff]
  constructor
  · rintro ⟨x, hx, ⟨⟩⟩
    exact ⟨rfl, rfl, hx, rfl⟩
  · rintro ⟨rfl, rfl, hx, rfl⟩
    exact ⟨_, hx, rfl⟩

lemma pairwise_wordings : (v.wordings default i key).Pairwise (Wording.Before default) := by
  have hother : ∀ x ∈ (v.overrides.without default).toList, x.1 ≠ default := by
    rintro x hx rfl
    exact v.overrides.notMem_keys_without x.1 (List.mem_map_of_mem hx)
  rw [wordings, List.pairwise_map, texts_eq]
  refine List.pairwise_cons.2 ⟨fun x hx => .inr ⟨rfl, hother x hx, .inl rfl⟩, ?_⟩
  exact (v.overrides.without default).sorted.imp_of_mem fun {x y} _ hy hxy =>
    .inr ⟨rfl, hother y hy, .inr hxy⟩

lemma errors_eq_wordings :
    v.errors default key = (v.wordings default i key).filterMap Wording.error? := by
  rw [errors, wordings, List.filterMap_map]
  rfl

lemma steps_eq_wordings : v.steps default key = (v.wordings default i key).map Wording.step := by
  rw [steps, wordings, List.map_map]
  rfl

end Value

/-- The texts of values in the order of their places: one value after another. -/
lemma Supplied.exists_wordings {supplies : ℕ → String → Value → Prop}
    {values : List (String × Value)} (h : Supplied supplies values) (default : String) :
    ∃ ws, Wordings default supplies ws ∧
      (values.flatMap fun (key, v) => v.errors default key) = ws.filterMap Wording.error? ∧
      (values.flatMap fun (key, v) => v.steps default key) = ws.map Wording.step := by
  obtain ⟨placed, hordered, hmem, rfl⟩ := h
  refine ⟨placed.flatMap fun (i, key, v) => v.wordings default i key, ⟨?_, fun w => ?_⟩, ?_, ?_⟩
  · refine List.pairwise_flatMap.2
      ⟨fun x _ => x.2.2.pairwise_wordings default x.2.1 x.1, hordered.imp ?_⟩
    intro x y hxy w hw w' hw'
    obtain ⟨hplace, -⟩ := (Value.mem_wordings_iff ..).1 hw
    obtain ⟨hplace', -⟩ := (Value.mem_wordings_iff ..).1 hw'
    exact .inl (hplace ▸ hplace' ▸ hxy)
  · rw [List.mem_flatMap]
    constructor
    · rintro ⟨⟨i, key, v⟩, hx, hw⟩
      obtain ⟨rfl, rfl, htext⟩ := (Value.mem_wordings_iff ..).1 hw
      exact ⟨v, (hmem ..).1 hx, htext⟩
    · rintro ⟨v, hv, htext⟩
      exact ⟨(w.place, w.key, v), (hmem ..).2 hv,
        (Value.mem_wordings_iff ..).2 ⟨rfl, rfl, htext⟩⟩
  · rw [List.flatMap_map, List.filterMap_flatMap]
    exact List.flatMap_congr fun x _ => x.2.2.errors_eq_wordings default x.2.1 x.1
  · rw [List.flatMap_map, List.map_flatMap]
    exact List.flatMap_congr fun x _ => x.2.2.steps_eq_wordings default x.2.1 x.1

/-! ## Requests -/

/-- What an entry asks for: which names, where, for which key and with which accessor.  The values
are left open. -/
inductive Entry.Wants (default : String) : Entry → Request → Prop
  /-- A text wants its accessor. -/
  | text (a : Address) (v : Value) (values : List (String × Value)) :
      Wants default ⟨a, .text v⟩ ⟨.accessors, a.key, [a.lowerCamel, a.snakeCase], values,
        some (.accessor a.lowerCamel a v.argumentCount v.defaultText)⟩
  /-- A list of texts wants its accessor. -/
  | list (a : Address) (vs : List Value) (values : List (String × Value)) :
      Wants default ⟨a, .list vs⟩ ⟨.accessors, a.key, [a.lowerCamel, a.snakeCase], values,
        some (.listAccessor a.lowerCamel a vs default)⟩
  /-- A list of records wants a type. -/
  | type (a : Address) (rs : List Record) (values : List (String × Value)) :
      Wants default ⟨a, .records rs⟩ ⟨.types, a.key, [a.typeName], values, none⟩
  /-- A field wants a member of that type; it comes with the text of the first record that has the
  field. -/
  | field (a : Address) {rs : List Record} {field : String} {v : Value}
      (first : rs.findSome? (·.get? field) = some v) (values : List (String × Value)) :
      Wants default ⟨a, .records rs⟩ ⟨.members a.typeName, fieldPattern a.key field,
        [Naming.memberName field, Naming.snakeCase [field]], values,
        some (.fieldAccessor field a v.defaultText)⟩

/-- A request, read off the entry that makes it. -/
structure Request.Reads (r : Request) (default : String) (e : Entry) : Prop where
  /-- It is what the entry wants. -/
  wants : e.Wants default r
  /-- Its values are those that the accessor reads. -/
  values : Supplied (r.Supplies e) r.values
  /-- Of their texts the faulty ones are reported; all of them are filed before the accessor is
  declared. -/
  texts : ∃ ws, Wordings default (r.Supplies e) ws ∧
    r.faults default = ws.filterMap Wording.error? ∧
    r.steps default = ws.map Wording.step ++ r.accessor?.toList

lemma Request.reads_of_supplied {r : Request} {default : String} {e : Entry}
    (hwants : e.Wants default r) (hvalues : Supplied (r.Supplies e) r.values) :
    r.Reads default e := by
  obtain ⟨ws, hws, herrors, hsteps⟩ := hvalues.exists_wordings default
  exact ⟨hwants, hvalues, ws, hws, herrors, by rw [steps, hsteps]⟩

lemma pairwise_snd_zipIdx {α : Type*} (l : List α) : l.zipIdx.Pairwise fun x y => x.2 < y.2 := by
  rw [← List.pairwise_map (f := Prod.snd), List.zipIdx_map_snd]
  exact List.pairwise_lt_range'

lemma Record.mem_fieldNames_iff {rs : List Record} {field : String} :
    field ∈ Record.fieldNames rs ↔ ∃ r ∈ rs, ∃ v, r.get? field = some v := by
  simp only [fieldNames, List.mem_eraseDups, List.mem_flatMap, ← Option.isSome_iff_exists, get?,
    List.lookup_isSome_iff, List.mem_map, beq_iff_eq]
  simp only [eq_comm]

namespace Entry

variable {default : String}

section Supplied

variable (default : String) (a : Address)

lemma supplied_ofText (v : Value) :
    Supplied ((Request.ofBlock .accessors (.ofText a v)).Supplies ⟨a, .text v⟩)
      (Block.ofText a v).values := by
  refine ⟨[(0, a.key, v)], List.pairwise_singleton .., fun i key w => ?_, rfl⟩
  rw [List.mem_singleton]
  constructor
  · rintro ⟨⟩
    exact ⟨_, rfl, .text ..⟩
  · rintro ⟨_, ⟨⟩, ⟨⟩⟩
    rfl

lemma supplied_ofList (vs : List Value) :
    Supplied ((Request.ofBlock .accessors (.ofList default a vs)).Supplies ⟨a, .list vs⟩)
      (Block.ofList default a vs).values := by
  refine ⟨vs.zipIdx.map fun x => (x.2, elementKey a.key x.2, x.1), ?_, fun i key w => ?_, ?_⟩
  · exact List.pairwise_map.2 (pairwise_snd_zipIdx vs)
  · rw [List.mem_map]
    constructor
    · rintro ⟨x, hx, ⟨⟩⟩
      exact ⟨_, rfl, .element a _ _ (List.mem_zipIdx_iff_getElem?.1 hx)⟩
    · rintro ⟨_, ⟨⟩, hsupplies⟩
      cases hsupplies with
      | element _ _ _ helement =>
        exact ⟨_, List.mk_mem_zipIdx_iff_getElem?.2 helement, rfl⟩
  · rw [List.map_map]
    rfl

lemma supplied_ofField (rs : List Record) (field : String) :
    Supplied ((Request.ofBlock (.members a.typeName) (.ofField a rs field)).Supplies
      ⟨a, .records rs⟩) (Block.ofField a rs field).values := by
  refine ⟨rs.zipIdx.filterMap fun x =>
    (x.1.get? field).map fun v => (x.2, fieldKey a.key x.2 field, v), ?_, fun i key w => ?_, ?_⟩
  · refine List.pairwise_filterMap.2 ((pairwise_snd_zipIdx rs).imp fun {x y} hxy => ?_)
    intro p hp q hq
    obtain ⟨_, -, rfl⟩ := Option.map_eq_some_iff.1 hp
    obtain ⟨_, -, rfl⟩ := Option.map_eq_some_iff.1 hq
    exact hxy
  · rw [List.mem_filterMap]
    constructor
    · rintro ⟨x, hx, hvalue⟩
      obtain ⟨v, hv, ⟨⟩⟩ := Option.map_eq_some_iff.1 hvalue
      exact ⟨_, rfl, .field a _ _ (List.mem_zipIdx_iff_getElem?.1 hx) hv⟩
    · rintro ⟨_, ⟨⟩, hsupplies⟩
      cases hsupplies with
      | field _ _ _ hrecord hvalue =>
        exact ⟨_, List.mk_mem_zipIdx_iff_getElem?.2 hrecord,
          Option.map_eq_some_iff.2 ⟨_, hvalue, rfl⟩⟩
  · rw [List.map_filterMap]
    refine List.filterMap_congr fun x _ => ?_
    rw [Option.map_map]
    rfl

lemma supplied_ofType (rs : List Record) :
    Supplied ((Request.ofType a).Supplies ⟨a, .records rs⟩) [] := by
  refine ⟨[], .nil, fun i key w => iff_of_false List.not_mem_nil ?_, rfl⟩
  rintro ⟨_, ⟨⟩, -⟩

end Supplied

/-- Whatever an entry may ask for is read off it. -/
lemma MayAsk.reads {e : Entry} {r : Request} (h : e.MayAsk default r) : r.Reads default e := by
  cases h with
  | text a v => exact Request.reads_of_supplied (.text a v _) (supplied_ofText a v)
  | list a vs => exact Request.reads_of_supplied (.list a vs _) (supplied_ofList default a vs)
  | type a rs => exact Request.reads_of_supplied (.type a rs _) (supplied_ofType a rs)
  | field a rs field hfield =>
    obtain ⟨r, hr, v, hv⟩ := Record.mem_fieldNames_iff.1 hfield
    obtain ⟨w, hw⟩ : ∃ w, rs.findSome? (·.get? field) = some w :=
      Option.isSome_iff_exists.1
        (List.findSome?_isSome_iff.2 ⟨r, hr, Option.isSome_iff_exists.2 ⟨v, hv⟩⟩)
    have haccessor : (Block.ofField a rs field).accessor = .fieldAccessor field a w.defaultText := by
      rw [Block.ofField, List.head?_filterMap, hw]
      rfl
    refine Request.reads_of_supplied ?_ (supplied_ofField a rs field)
    rw [Request.ofBlock, haccessor]
    exact .field a hw _

/-- The requests of an entry are those that can be read off it. -/
structure Legible (default : String) (e : Entry) : Prop where
  /-- What it asks for first is read off it, -/
  first : (e.first default).Reads default e
  /-- and so is all that it asks for further: -/
  further : ∀ r ∈ e.further, r.Reads default e
  /-- each field that one of its records has, once. -/
  fields : ∃ fields : List String, fields.Nodup ∧
    (∀ field, field ∈ fields ↔
      ∃ rs, e.content = .records rs ∧ ∃ r ∈ rs, ∃ v, r.get? field = some v) ∧
    List.Forall₂ (fun field r => ∃ text, r.accessor? = some (.fieldAccessor field e.address text))
      fields e.further

lemma legible (default : String) (e : Entry) : e.Legible default where
  first := (mayAsk_first default e).reads
  further _ hr := (mayAsk_of_mem_further hr).reads
  fields := by
    obtain ⟨a, content⟩ := e
    cases content with
    | text v => exact ⟨[], .nil, by simp, .nil⟩
    | list vs => exact ⟨[], .nil, by simp, .nil⟩
    | records rs =>
      refine ⟨Record.fieldNames rs, Record.nodup_fieldNames rs, fun field => ?_, ?_⟩
      · rw [Record.mem_fieldNames_iff]
        constructor
        · exact fun h => ⟨rs, rfl, h⟩
        · rintro ⟨_, ⟨⟩, h⟩
          exact h
      · exact List.forall₂_map_right_iff.2 (List.forall₂_same.2 fun field _ => ⟨_, rfl⟩)

end Entry

/-! ## Values that are served -/

lemma Entry.forall₂_supplied_groups (default : String) (past : List Turn) (es : List Entry) :
    List.Forall₂ (fun e group => ∀ u ∈ group, e.MayAsk default u.request ∧
      Supplied (u.request.Supplies e) u.request.values) es (groups default past es) := by
  induction es generalizing past with
  | nil => exact .nil
  | cons e rest ih =>
    refine .cons (fun u hu => ?_) (ih _)
    have hask := mayAsk_of_mem_turns hu
    exact ⟨hask, hask.reads.values⟩

namespace Tree

variable (t : Tree)

/-- What is served is what the declared accessors read from the entries that ask for them. -/
lemma mem_served_iff (key : String) (v : Value) : (key, v) ∈ t.served ↔
    ∃ e u i s, e ∈ t.entries ∧ u ∈ t.turns ∧ e.MayAsk t.defaultLanguage u.request ∧
      u.request.accessor? = some s ∧ s ∈ u.plan.steps ∧ e.Supplies s i key v := by
  rw [served, List.mem_flatMap]
  constructor
  · rintro ⟨u, hu, hv⟩
    obtain ⟨hu, hdeclares⟩ := List.mem_filter.1 hu
    obtain ⟨e, he, hask⟩ := Entry.mayAsk_of_mem_turnsAll hu
    obtain ⟨i, s, hs, hsupplies⟩ := hask.reads.values.mem_iff.1 hv
    refine ⟨e, u, i, s, he, hu, hask, hs, ?_, hsupplies⟩
    simpa [Turn.declares, hs] using hdeclares
  · rintro ⟨e, u, i, s, -, hu, hask, hs, hdeclared, hsupplies⟩
    refine ⟨u, List.mem_filter.2 ⟨hu, ?_⟩, hask.reads.values.mem_iff.2 ⟨i, s, hs, hsupplies⟩⟩
    simpa [Turn.declares, hs] using hdeclared

/-- The values that are served are read off the entries of the tree, in order. -/
structure ServesEntries (t : Tree) : Prop where
  /-- The entries are those that a depth-first walk meets. -/
  entries : t.Meets t.entries
  /-- The turns are those of the entries, in their order; the values of each of them are those that
  the accessor reads, in the order of their places. -/
  turns : ∃ groups : List (List Turn), groups.flatten = t.turns ∧
    List.Forall₂ (fun e group => ∀ u ∈ group, e.MayAsk t.defaultLanguage u.request ∧
      Supplied (u.request.Supplies e) u.request.values) t.entries groups
  /-- A value is served under a key exactly if an accessor that is declared reads it. -/
  served_iff : ∀ key v, (key, v) ∈ t.served ↔
    ∃ e u i s, e ∈ t.entries ∧ u ∈ t.turns ∧ e.MayAsk t.defaultLanguage u.request ∧
      u.request.accessor? = some s ∧ s ∈ u.plan.steps ∧ e.Supplies s i key v

lemma servesEntries : t.ServesEntries where
  entries := (t.meets_iff _).2 rfl
  turns := ⟨Entry.groups t.defaultLanguage [] t.entries, Entry.flatten_groups ..,
    Entry.forall₂_supplied_groups ..⟩
  served_iff := t.mem_served_iff

end Tree

end Phrasebook
