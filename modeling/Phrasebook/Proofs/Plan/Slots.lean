import Mathlib.Data.List.Nodup
import Mathlib.Data.List.Pairwise
import Phrasebook.Proofs.Naming.KeyWords
import Phrasebook.Proofs.Plan.Filing
import Phrasebook.Proofs.Value.Texts
import Phrasebook.Shape

/-!
# When a text is filed over another

A `slot` is a place in the tables: a language and a lookup key.  Two filings for one slot leave
only the second, although both keys were accepted.  Names are claimed, lookup keys are not, so the
question is what the claims say about the keys.

* Accessors of one `Form` never share a lookup key (`Tree.pairwise_apart`).  Texts with equal keys
  have equal names, and so do lists; fields of records with one type belong to one list, since the
  type is claimed too.
* Accessors of different forms may share one, because a name may look like the place of an element:
  the text `a.0` stands beside the first element of the list `a`, with the names `a0` and `a_0`.

So no text is filed over another exactly if no lookup key is shared between forms:
`Tree.slots_nodup_iff`.
-/

namespace Phrasebook

/-! ## Slots and forms -/

/-- The places in the tables that are filled, in order: a language and a lookup key each. -/
def Tree.slots (t : Tree) : List (String × String) := t.filings.map fun f => (f.language, f.key)

/-- How an accessor makes its lookup keys. -/
inductive Form where
  /-- A single text: the key of the node. -/
  | text
  /-- A list of texts: the key of the node and a place. -/
  | list
  /-- A field of the records of type `type`: the key of the node, a place and the field. -/
  | records (type : String)
  deriving DecidableEq

/-- How the accessor that a step declares makes its lookup keys. -/
def Step.form? : Step → Option Form
  | .accessor .. => some .text
  | .listAccessor .. => some .list
  | .fieldAccessor _ address _ => some (.records address.typeName)
  | .text .. => none
  | .finish => none

namespace Request

/-- The lookup keys of the values. -/
def keys (r : Request) : List String := r.values.map (·.1)

/-- How the accessor makes its lookup keys. -/
def form? (r : Request) : Option Form := r.accessor?.bind Step.form?

end Request

/-- No lookup key belongs to two declared accessors that make their keys in different ways. -/
def Tree.FormsApart (t : Tree) : Prop :=
  ∀ u ∈ t.turns, ∀ w ∈ t.turns, u.declares → w.declares → u.request.form? ≠ w.request.form? →
    ∀ key ∈ u.request.keys, key ∉ w.request.keys

instance (t : Tree) : Decidable t.FormsApart :=
  inferInstanceAs (Decidable (∀ u ∈ t.turns, ∀ w ∈ t.turns, u.declares → w.declares →
    u.request.form? ≠ w.request.form? → ∀ key ∈ u.request.keys, key ∉ w.request.keys))

/-! ## Slots and lookup keys -/

/-- A slot is filled twice exactly if a lookup key is served twice: every value has a text in the
default language. -/
lemma Tree.slots_nodup_iff_served (t : Tree) : t.slots.Nodup ↔ (t.served.map (·.1)).Nodup := by
  have hslots : t.slots = t.served.flatMap fun s =>
      (s.2.texts t.defaultLanguage).map fun x => (x.1, s.1) := by
    simp [slots, t.filings_eq, Value.filings, List.map_flatMap, Function.comp_def]
  have hdefault : ∀ s : String × Value, (t.defaultLanguage, s.1) ∈
      (s.2.texts t.defaultLanguage).map fun x => (x.1, s.1) := fun s => by simp [Value.texts]
  have hserved : (t.served.map (·.1)).Nodup ↔ t.served.Pairwise fun r s => r.1 ≠ s.1 :=
    List.pairwise_map
  rw [hslots, List.nodup_flatMap, hserved]
  constructor
  · rintro ⟨-, hapart⟩
    refine hapart.imp fun {r s} hrs heq => hrs (hdefault r) ?_
    rw [heq]
    exact hdefault s
  · intro hkeys
    refine ⟨fun s _ => ?_, hkeys.imp fun {r s} hne x hr hs => hne ?_⟩
    · refine List.Nodup.of_map Prod.fst ?_
      rw [List.map_map]
      exact s.2.nodup_texts _
    · obtain ⟨_, -, rfl⟩ := List.mem_map.1 hr
      obtain ⟨_, -, heq⟩ := List.mem_map.1 hs
      exact (Prod.mk.inj heq).2.symm

lemma Tree.map_served (t : Tree) :
    t.served.map (·.1) = (t.turns.filter Turn.declares).flatMap (·.request.keys) := by
  rw [served, List.map_flatMap]
  rfl

/-! ## Names are claimed once -/

/-- Two granted turns of one scope asked for different names. -/
def Turn.NamesApart (u w : Turn) : Prop :=
  u.granted → w.granted → u.request.scope = w.request.scope →
    u.request.names.Disjoint w.request.names

lemma Turn.namesApart_of_outcome {default : String} {past : List Turn} {u w : Turn}
    (hw : w.plan = w.request.outcome default past) (hu : u ∈ past) : NamesApart u w := by
  intro hgu hgw hscope n hn hn'
  have hturn : w = w.request.turn default past := congrArg (Turn.mk w.request) hw
  rw [hturn] at hgw
  have hfree := clash?_eq_none_iff.1 (Request.turn_granted_iff.1 hgw).2 n hn'
  exact holder?_eq_none_iff.1 hfree u hu (gives_iff.2 ⟨hgu, hscope, hn⟩)

lemma Settled.namesApart {default : String} {past us : List Turn} (h : Settled default past us) :
    us.Pairwise Turn.NamesApart ∧ ∀ u ∈ past, ∀ w ∈ us, Turn.NamesApart u w := by
  induction us generalizing past with
  | nil => exact ⟨.nil, fun _ _ _ hw => nomatch hw⟩
  | cons v us ih =>
    obtain ⟨hv, hus⟩ := h
    obtain ⟨hpair, hpast⟩ := ih hus
    refine ⟨.cons (hpast v (by simp)) hpair, fun u hu w hw => ?_⟩
    rcases List.mem_cons.1 hw with rfl | hw
    · exact Turn.namesApart_of_outcome hv hu
    · exact hpast u (List.mem_append_left _ hu) w hw

/-! ## Accessors of one form -/

/-- Two declared accessors of one form have no lookup key in common. -/
def Turn.Apart (u w : Turn) : Prop :=
  u.declares → w.declares → u.request.form? = w.request.form? →
    u.request.keys.Disjoint w.request.keys

/-! ### What a turn of an entry asks for -/

namespace Entry

variable {default : String} {past : List Turn} {e : Entry} {u : Turn}

/-- The four requests there are; a field is asked for only once its type is granted. -/
lemma request_cases (h : u ∈ e.turns default past) :
    (∃ v, u.request = .ofBlock .accessors (.ofText e.address v)) ∨
      (∃ vs, u.request = .ofBlock .accessors (.ofList default e.address vs)) ∨
      u.request = .ofType e.address ∨
      ((Request.ofType e.address).turn default past ∈ e.turns default past ∧
        ((Request.ofType e.address).turn default past).granted ∧
        ∃ rs field,
          u.request = .ofBlock (.members e.address.typeName) (.ofField e.address rs field)) := by
  rcases mem_turns_cases h with hfirst | ⟨hg, hfurther⟩
  · obtain ⟨a, content⟩ := e
    cases content with
    | text v => exact .inl ⟨v, hfirst⟩
    | list vs => exact .inr (.inl ⟨vs, hfirst⟩)
    | records rs => exact .inr (.inr (.inl hfirst))
  · obtain ⟨rs, hcontent, field, -, hu⟩ := exists_of_mem_further hfurther
    have hfirst : e.first default = .ofType e.address := by rw [first, hcontent]
    rw [hfirst] at hg
    refine .inr (.inr (.inr ⟨?_, hg, rs, field, hu⟩))
    rw [turns, hfirst]
    exact List.mem_cons_self

lemma exists_text_of_form? (h : u ∈ e.turns default past) (hf : u.request.form? = some .text) :
    ∃ v, u.request = .ofBlock .accessors (.ofText e.address v) := by
  rcases request_cases h with htext | ⟨vs, hu⟩ | hu | ⟨-, -, rs, field, hu⟩
  · exact htext
  all_goals
    rw [hu] at hf
    exact nomatch hf

lemma exists_list_of_form? (h : u ∈ e.turns default past) (hf : u.request.form? = some .list) :
    ∃ vs, u.request = .ofBlock .accessors (.ofList default e.address vs) := by
  rcases request_cases h with ⟨v, hu⟩ | hlist | hu | ⟨-, -, rs, field, hu⟩
  rotate_left
  · exact hlist
  all_goals
    rw [hu] at hf
    exact nomatch hf

/-- An entry that declares a field of records got the name of their type. -/
lemma exists_type_of_form? {type : String} (h : u ∈ e.turns default past)
    (hf : u.request.form? = some (.records type)) :
    type = e.address.typeName ∧
      ∃ w ∈ e.turns default past, w.granted ∧ w.request = .ofType e.address := by
  rcases request_cases h with ⟨v, hu⟩ | ⟨vs, hu⟩ | hu | ⟨hmem, hg, rs, field, hu⟩
  rotate_right
  · rw [hu] at hf
    exact ⟨(Form.records.inj (Option.some.inj hf)).symm, _, hmem, hg, rfl⟩
  all_goals
    rw [hu] at hf
    exact nomatch hf

end Entry

/-! ### Keys of a request -/

namespace Request

variable {scope : Scope} {default key : String} {a : Address}

lemma mem_keys_ofText {v : Value} : key ∈ (ofBlock scope (.ofText a v)).keys ↔ key = a.key :=
  List.mem_singleton

lemma keys_ofList (vs : List Value) :
    (ofBlock scope (.ofList default a vs)).keys =
      (List.range' 0 vs.length).map (elementKey a.key) := by
  rw [← List.zipIdx_map_snd, List.map_map, keys, ofBlock, Block.ofList, List.map_map]
  rfl

/-- Each record that has the field adds its own key. -/
lemma keys_ofField_sublist (rs : List Record) (field : String) :
    (ofBlock scope (.ofField a rs field)).keys.Sublist
      ((List.range' 0 rs.length).map (fieldKey a.key · field)) := by
  have hkeys : (ofBlock scope (.ofField a rs field)).keys =
      rs.zipIdx.filterMap fun x => (x.1.get? field).map fun _ => fieldKey a.key x.2 field := by
    simp [keys, ofBlock, Block.ofField, List.map_filterMap, Function.comp_def]
  rw [hkeys, ← List.zipIdx_map_snd, List.map_map]
  induction rs.zipIdx with
  | nil => exact .slnil
  | cons x rest ih =>
    rw [List.filterMap_cons, List.map_cons]
    cases x.1.get? field with
    | none => exact ih.cons _
    | some v => exact ih.cons_cons _

lemma exists_of_mem_keys_ofList {vs : List Value}
    (h : key ∈ (ofBlock scope (.ofList default a vs)).keys) : ∃ i, elementKey a.key i = key := by
  rw [keys_ofList] at h
  obtain ⟨i, -, hi⟩ := List.mem_map.1 h
  exact ⟨i, hi⟩

lemma exists_of_mem_keys_ofField {rs : List Record} {field : String}
    (h : key ∈ (ofBlock scope (.ofField a rs field)).keys) :
    ∃ i, fieldKey a.key i field = key := by
  obtain ⟨i, -, hi⟩ := List.mem_map.1 ((keys_ofField_sublist rs field).subset h)
  exact ⟨i, hi⟩

end Request

namespace Entry

variable {default : String} {past : List Turn} {e : Entry} {u : Turn}

/-- One accessor never uses a lookup key twice. -/
lemma nodup_keys_of_mem_turns (h : u ∈ e.turns default past) : u.request.keys.Nodup := by
  rcases request_cases h with ⟨v, hu⟩ | ⟨vs, hu⟩ | hu | ⟨-, -, rs, field, hu⟩
  · rw [hu]
    exact List.nodup_singleton _
  · rw [hu, Request.keys_ofList]
    exact List.Nodup.map (fun i j hij => (elementKey_inj hij).2) List.nodup_range'
  · rw [hu]
    exact .nil
  · rw [hu]
    refine .sublist (Request.keys_ofField_sublist rs field) ?_
    exact List.Nodup.map (fun i j hij => (fieldKey_inj hij).1) List.nodup_range'

/-- The accessors of two entries with different names have no lookup key of one form in common. -/
lemma apart_of_namesApart {past' : List Turn} {f : Entry} {w : Turn}
    (hnames : ∀ x ∈ e.turns default past, ∀ y ∈ f.turns default past', Turn.NamesApart x y)
    (hu : u ∈ e.turns default past) (hw : w ∈ f.turns default past') : Turn.Apart u w := by
  intro hdu hdw hform key hku hkw
  have hgu : u.granted := (settled_turns ..).granted_of_declares hu hdu
  have hgw : w.granted := (settled_turns ..).granted_of_declares hw hdw
  -- two granted accessors of texts or lists have different keys, as they have different names
  have hne : u.request.scope = .accessors → w.request.scope = .accessors →
      e.address.lowerCamel ∈ u.request.names → f.address.lowerCamel ∈ w.request.names →
        e.address.key ≠ f.address.key := by
    intro hsu hsw hnu hnw hkey
    rw [← Address.lowerCamel_eq_of_key_eq hkey] at hnw
    exact hnames u hu w hw hgu hgw (hsu.trans hsw.symm) hnu hnw
  cases hf : u.request.form? with
  | none =>
    rcases request_cases hu with ⟨v, hr⟩ | ⟨vs, hr⟩ | hr | ⟨-, -, rs, field, hr⟩ <;> rw [hr] at hf hku
    · exact nomatch hf
    · exact nomatch hf
    · exact nomatch hku
    · exact nomatch hf
  | some form =>
    rw [hf] at hform
    cases form with
    | text =>
      obtain ⟨v, hv⟩ := exists_text_of_form? hu hf
      obtain ⟨v', hv'⟩ := exists_text_of_form? hw hform.symm
      rw [hv] at hku hne
      rw [hv'] at hkw hne
      refine hne rfl rfl List.mem_cons_self List.mem_cons_self ?_
      rw [← Request.mem_keys_ofText.1 hku, Request.mem_keys_ofText.1 hkw]
    | list =>
      obtain ⟨vs, hvs⟩ := exists_list_of_form? hu hf
      obtain ⟨vs', hvs'⟩ := exists_list_of_form? hw hform.symm
      rw [hvs] at hku hne
      rw [hvs'] at hkw hne
      obtain ⟨i, rfl⟩ := Request.exists_of_mem_keys_ofList hku
      obtain ⟨j, hj⟩ := Request.exists_of_mem_keys_ofList hkw
      exact hne rfl rfl List.mem_cons_self List.mem_cons_self (elementKey_inj hj).1.symm
    | records type =>
      -- both entries would have got the name of the type
      obtain ⟨hte, x, hx, hgx, hrx⟩ := exists_type_of_form? hu hf
      obtain ⟨htf, y, hy, hgy, hry⟩ := exists_type_of_form? hw hform.symm
      have hdisjoint := hnames x hx y hy hgx hgy
      rw [hrx, hry] at hdisjoint
      refine hdisjoint rfl (a := type) ?_ ?_
      · exact List.mem_singleton.2 hte
      · exact List.mem_singleton.2 htf

/-- The fields of one list of records have no lookup key in common. -/
lemma pairwise_keys_further (e : Entry) :
    e.further.Pairwise fun r s => r.keys.Disjoint s.keys := by
  obtain ⟨a, content⟩ := e
  cases content with
  | text v => exact .nil
  | list vs => exact .nil
  | records rs =>
    rw [further, List.pairwise_map]
    refine (Record.nodup_fieldNames rs).imp fun hne key hr hs => hne ?_
    obtain ⟨i, hi⟩ := Request.exists_of_mem_keys_ofField hr
    obtain ⟨j, hj⟩ := Request.exists_of_mem_keys_ofField hs
    exact (fieldKey_inj (hi.trans hj.symm)).2

/-- The accessors of one entry have no lookup key in common: they are fields of one list. -/
lemma pairwise_apart_turns (e : Entry) : (e.turns default past).Pairwise Turn.Apart := by
  have hkeys := e.pairwise_keys_further
  obtain ⟨a, content⟩ := e
  cases content with
  | text v => simp [turns, further, Request.turns]
  | list vs => simp [turns, further, Request.turns]
  | records rs =>
    -- the name of a type alone declares nothing
    refine .cons (fun w _ hd => absurd hd Bool.false_ne_true) ?_
    split
    · rw [← Request.map_request_turns default
        (past ++ [(first default ⟨a, .records rs⟩).turn default past])
        (further ⟨a, .records rs⟩)] at hkeys
      exact (List.pairwise_map.1 hkeys).imp fun hdisjoint _ _ _ => hdisjoint
    · exact .nil

lemma exists_of_mem_groups {es : List Entry} {group : List Turn}
    (h : group ∈ groups default past es) :
    ∃ (e : Entry) (past' : List Turn), group = e.turns default past' := by
  induction es generalizing past with
  | nil => exact nomatch h
  | cons e rest ih =>
    rcases List.mem_cons.1 h with rfl | h
    · exact ⟨e, past, rfl⟩
    · exact ih h

end Entry

/-! ## The condition -/

namespace Tree

variable (t : Tree)

/-- Accessors of one form never share a lookup key. -/
lemma pairwise_apart : t.turns.Pairwise Turn.Apart := by
  have hflat : (Entry.groups t.defaultLanguage [] t.entries).flatten = t.turns :=
    Entry.flatten_groups ..
  have hnames := t.settled_turns.namesApart.1
  rw [← hflat, List.pairwise_flatten] at hnames ⊢
  constructor
  · intro group hgroup
    obtain ⟨e, past, rfl⟩ := Entry.exists_of_mem_groups hgroup
    exact e.pairwise_apart_turns
  · refine hnames.2.imp_of_mem fun {group group'} hgroup hgroup' h u hu w hw => ?_
    obtain ⟨e, past, rfl⟩ := Entry.exists_of_mem_groups hgroup
    obtain ⟨f, past', rfl⟩ := Entry.exists_of_mem_groups hgroup'
    exact Entry.apart_of_namesApart h hu hw

lemma nodup_keys_of_mem_turns {u : Turn} (h : u ∈ t.turns) : u.request.keys.Nodup := by
  have hflat : (Entry.groups t.defaultLanguage [] t.entries).flatten = t.turns :=
    Entry.flatten_groups ..
  rw [← hflat] at h
  obtain ⟨group, hgroup, hu⟩ := List.mem_flatten.1 h
  obtain ⟨e, past, rfl⟩ := Entry.exists_of_mem_groups hgroup
  exact Entry.nodup_keys_of_mem_turns hu

/-- The keys that are served are different if they are across forms. -/
lemma slots_nodup_iff_formsApart : t.slots.Nodup ↔ t.FormsApart := by
  rw [t.slots_nodup_iff_served, t.map_served, List.nodup_flatMap]
  constructor
  · rintro ⟨-, hapart⟩ u hu w hw hdu hdw hform key hku hkw
    have hsymm : Std.Symm (Function.onFun List.Disjoint fun u : Turn => u.request.keys) :=
      ⟨fun _ _ h => List.disjoint_symm h⟩
    have hne : u ≠ w := fun h => hform (by rw [h])
    exact hapart.forall (List.mem_filter.2 ⟨hu, hdu⟩) (List.mem_filter.2 ⟨hw, hdw⟩) hne hku hkw
  · intro hforms
    refine ⟨fun u hu => t.nodup_keys_of_mem_turns (List.mem_of_mem_filter hu), ?_⟩
    have hfilter : (t.turns.filter Turn.declares).Pairwise Turn.Apart := t.pairwise_apart.filter _
    refine hfilter.imp_of_mem fun {u w} hu hw hapart => ?_
    obtain ⟨hu, hdu⟩ := List.mem_filter.1 hu
    obtain ⟨hw, hdw⟩ := List.mem_filter.1 hw
    by_cases hform : u.request.form? = w.request.form?
    · exact hapart hdu hdw hform
    · exact fun key hku hkw => hforms u hu w hw hdu hdw hform key hku hkw

/-- **When no text is filed over another.** No slot is filled twice exactly if no lookup key is
served twice, and exactly if no lookup key is shared between accessors of different forms. -/
theorem slots_nodup_iff :
    (t.slots.Nodup ↔ (t.served.map (·.1)).Nodup) ∧ (t.slots.Nodup ↔ t.FormsApart) :=
  ⟨t.slots_nodup_iff_served, t.slots_nodup_iff_formsApart⟩

/-- A document whose two texts are both accepted and filed in one slot: the text `a.0` replaces the
first element of the list `a`. -/
theorem exists_slots_not_nodup :
    ∃ t, Tree.ofDocument "nl"
        (.object [("a", .array [.string "x"]), ("a.0", .string "y")]) = .ok t ∧
      t.plan.errors = [] ∧ t.slots = [("nl", "a.0"), ("nl", "a.0")] ∧ ¬t.slots.Nodup := by
  refine ⟨⟨"nl", [.entry ⟨⟨[], "a"⟩, .list [.ofText "x"]⟩,
    .entry ⟨⟨[], "a.0"⟩, .text (.ofText "y")⟩]⟩, rfl, ?_, ?_, ?_⟩
  · decide +kernel
  · decide +kernel
  · decide +kernel

end Tree

end Phrasebook
