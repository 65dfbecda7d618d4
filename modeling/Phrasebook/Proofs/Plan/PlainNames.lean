import Phrasebook.Proofs.Plan.Slots
import Phrasebook.Proofs.Shape.Placement

/-!
# Names without dots

A text can only be filed over another where names hold dots of their own (`Tree.slots_nodup_iff`
gives the condition, the document after it the simplest case).  In a document whose names are
plain, the lookup key of a value lists the names and places that lead to it: it can be cut at its
dots again.  Then a key that two entries share would put one of them at or below the other, which
cannot be, since the entries of a document stand apart (`Node.pairwise_unrelated`).

The main result is `Tree.slots_nodup_of_plain`: if no name in the document has a dot, then every
accepted text stays in its slot.
-/

namespace Phrasebook

/-- The names of a mapping are different, and none has a dot. -/
def PlainNames (names : List String) : Prop := names.Nodup ∧ ∀ name ∈ names, '.' ∉ name.toList

/-! ## Cutting a key at its dots -/

lemma intercalate_dot_inj {ss ts : List String} (hss : ss ≠ []) (hts : ts ≠ [])
    (hs : ∀ s ∈ ss, '.' ∉ s.toList) (ht : ∀ s ∈ ts, '.' ∉ s.toList)
    (h : ".".intercalate ss = ".".intercalate ts) : ss = ts := by
  have hlist := congrArg String.toList h
  rw [String.toList_intercalate, String.toList_intercalate] at hlist
  have hcut : ∀ {us : List String}, us ≠ [] → (∀ s ∈ us, '.' ∉ s.toList) →
      (['.'].intercalate (us.map String.toList)).splitOn '.' = us.map String.toList := by
    intro us hne hus
    refine List.splitOn_intercalate '.' ?_ (by simpa using hne)
    rintro _ hl
    obtain ⟨s, hs, rfl⟩ := List.mem_map.1 hl
    exact hus s hs
  have hmap : ss.map String.toList = ts.map String.toList := by
    rw [← hcut hss hs, ← hcut hts ht]
    exact congrArg (List.splitOn '.') hlist
  exact List.map_injective_iff.2 (fun _ _ => String.toList_inj.1) hmap

lemma dot_notMem_toString (i : ℕ) : '.' ∉ (toString i).toList := by
  rw [Nat.toString_eq_repr, Nat.toList_repr]
  exact dot_notMem_toDigits i

lemma elementKey_eq_intercalate (a : Address) (i : ℕ) :
    elementKey a.key i = ".".intercalate (a.segments ++ [toString i]) :=
  elementKey_intercalate (by simp) i

lemma fieldKey_eq_intercalate (a : Address) (i : ℕ) (field : String) :
    fieldKey a.key i field = ".".intercalate (a.segments ++ [toString i, field]) := by
  have happend : a.segments ++ [toString i, field] = (a.segments ++ [toString i]) ++ [field] := by
    simp
  rw [happend, intercalate_dot_concat (by simp), ← elementKey_eq_intercalate]
  rfl

lemma fieldPattern_eq_intercalate (a : Address) (field : String) :
    fieldPattern a.key field = ".".intercalate (a.segments ++ ["$index", field]) := by
  have happend : a.segments ++ ["$index", field] = (a.segments ++ ["$index"]) ++ [field] := by
    simp
  have hdots : ".$index." = "." ++ "$index" ++ "." := rfl
  rw [happend, intercalate_dot_concat (by simp),
    intercalate_dot_concat (by simp [Address.segments]), fieldPattern, hdots]
  simp only [String.append_assoc]
  rfl

/-! ## Entries with plain names -/

namespace Entry

/-- No name that leads to the entry, and no field of its records, has a dot. -/
def Plain (e : Entry) : Prop :=
  (∀ s ∈ e.address.segments, '.' ∉ s.toList) ∧
    ∀ rs, e.content = .records rs → ∀ r ∈ rs, ∀ f ∈ r.fields, '.' ∉ f.1.toList

/-- How the accessors of the entry make their lookup keys. -/
def form (e : Entry) : Form :=
  match e.content with
  | .text _ => .text
  | .list _ => .list
  | .records _ => .records e.address.typeName

lemma dot_notMem_of_mem_fieldNames {a : Address} {rs : List Record} {field : String}
    (he : Plain ⟨a, .records rs⟩) (h : field ∈ Record.fieldNames rs) : '.' ∉ field.toList := by
  rw [Record.fieldNames, List.mem_eraseDups, List.mem_flatMap] at h
  obtain ⟨x, hx, hname⟩ := h
  obtain ⟨f, hf, rfl⟩ := List.mem_map.1 hname
  exact he.2 rs rfl x hx f hf

/-- The keys of a plain entry list what leads to them: the segments of the entry come first. -/
lemma key_eq_intercalate {default key : String} {e : Entry} {r : Request} (he : e.Plain)
    (hr : e.MayAsk default r) (hkey : key ∈ r.keys) :
    r.form? = some e.form ∧ ∃ more : List String, (∀ s ∈ more, '.' ∉ s.toList) ∧
      key = ".".intercalate (e.address.segments ++ more) := by
  cases hr with
  | text a v =>
    rw [Request.mem_keys_ofText.1 hkey]
    exact ⟨rfl, [], by simp, by rw [List.append_nil]; rfl⟩
  | list a vs =>
    obtain ⟨i, rfl⟩ := Request.exists_of_mem_keys_ofList hkey
    exact ⟨rfl, [toString i], by simpa using dot_notMem_toString i, elementKey_eq_intercalate a i⟩
  | type a rs => exact absurd hkey List.not_mem_nil
  | field a rs field hfield =>
    obtain ⟨i, rfl⟩ := Request.exists_of_mem_keys_ofField hkey
    refine ⟨rfl, [toString i, field], ?_, fieldKey_eq_intercalate a i field⟩
    simpa [dot_notMem_of_mem_fieldNames he hfield] using dot_notMem_toString i

/-- Plain names that lead to or below an entry do not join to a key at or below an unrelated one. -/
lemma intercalate_ne_of_unrelated {e f : Entry} {x y : List String} (he : e.Plain) (hf : f.Plain)
    (hef : Node.Unrelated e f) (hx : ∀ s ∈ x, '.' ∉ s.toList) (hy : ∀ s ∈ y, '.' ∉ s.toList) :
    ".".intercalate (e.address.segments ++ x) ≠ ".".intercalate (f.address.segments ++ y) := by
  intro heq
  have hplain : ∀ {g : Entry} {z : List String}, g.Plain → (∀ s ∈ z, '.' ∉ s.toList) →
      ∀ s ∈ g.address.segments ++ z, '.' ∉ s.toList := by
    intro g z hg hz s hs
    exact (List.mem_append.1 hs).elim (hg.1 s) (hz s)
  have happend : e.address.segments ++ x = f.address.segments ++ y :=
    intercalate_dot_inj (by simp [Address.segments]) (by simp [Address.segments]) (hplain he hx)
      (hplain hf hy) heq
  have hprefix : f.address.segments <+: e.address.segments ++ x := happend ▸ List.prefix_append ..
  rcases List.prefix_or_prefix_of_prefix (List.prefix_append _ x) hprefix with h | h
  · exact hef.1 h
  · exact hef.2 h

/-- Unrelated plain entries have no lookup key in common. -/
lemma key_notMem_of_unrelated {default key : String} {e f : Entry} {r s : Request} (he : e.Plain)
    (hf : f.Plain) (hef : Node.Unrelated e f) (hr : e.MayAsk default r)
    (hs : f.MayAsk default s) (hkr : key ∈ r.keys) : key ∉ s.keys := by
  intro hks
  obtain ⟨-, x, hx, hkx⟩ := key_eq_intercalate he hr hkr
  obtain ⟨-, y, hy, hky⟩ := key_eq_intercalate hf hs hks
  exact intercalate_ne_of_unrelated he hf hef hx hy (hkx.symm.trans hky)

end Entry

/-! ## Documents with plain names -/

namespace Shape

lemma map_fields {default key : String} {members : List (String × Json)}
    {fs : List (String × Value)} (h : fields default key members = .ok fs) :
    fs.map (·.1) = members.map (·.1) := by
  induction members generalizing fs with
  | nil =>
    cases h
    rfl
  | cons m rest ih =>
    obtain ⟨name, j⟩ := m
    obtain ⟨v, -, h⟩ := bind_eq_ok_iff.1 h
    obtain ⟨gs, hgs, h⟩ := bind_eq_ok_iff.1 h
    cases h
    rw [List.map_cons, List.map_cons, ih hgs]

/-- The fields of records have the names of the mappings they come from. -/
lemma names_records {p : List String → Prop} {default key : String} {items : List Json} {i : ℕ}
    {rs : List Record} (h : records default key i items = .ok rs)
    (hnames : Json.AllNamesItems p items) : ∀ r ∈ rs, p (r.fields.map (·.1)) := by
  induction items generalizing i rs with
  | nil =>
    cases h
    exact fun _ hr => nomatch hr
  | cons j rest ih =>
    cases j with
    | object members =>
      obtain ⟨fs, hfs, h⟩ := bind_eq_ok_iff.1 h
      obtain ⟨rs', hrs, h⟩ := bind_eq_ok_iff.1 h
      cases h
      refine List.forall_mem_cons.2 ⟨?_, ih hrs hnames.2⟩
      rw [map_fields hfs]
      exact hnames.1.1
    | null | bool | number | string | array => exact nomatch h

lemma names_list {p : List String → Prop} {default key : String} {items : List Json}
    {c : Content} (h : list default key items = .ok c) (hnames : Json.AllNamesItems p items) :
    ∀ rs, c = .records rs → ∀ r ∈ rs, p (r.fields.map (·.1)) := by
  rintro rs rfl
  unfold list at h
  split at h
  · obtain ⟨vs, -, h⟩ := bind_eq_ok_iff.1 h
    exact nomatch h
  · split at h
    · obtain ⟨rs', hrs, h⟩ := bind_eq_ok_iff.1 h
      cases h
      exact names_records hrs hnames
    · exact nomatch h

mutual

/-- Where the names of the document are plain, so are the entries of a node. -/
lemma plain_node (default : String) : ∀ (j : Json) (a : Address) (n : Node),
    node default a j = .ok n → j.AllNames PlainNames → (∀ s ∈ a.segments, '.' ∉ s.toList) →
      ∀ e ∈ n.entries, e.Plain
  | .null, _, _, h, _, _ => nomatch h
  | .bool _, _, _, h, _, _ => nomatch h
  | .number _, _, _, h, _, _ => nomatch h
  | .string _, _, _, h, _, ha => by
    rw [node] at h
    cases h
    exact List.forall_mem_singleton.2 ⟨ha, fun _ h => nomatch h⟩
  | .array items, a, _, h, hnames, ha => by
    rw [node] at h
    obtain ⟨content, hcontent, h⟩ := bind_eq_ok_iff.1 h
    cases h
    refine List.forall_mem_singleton.2 ⟨ha, fun rs hrs r hr f hf => ?_⟩
    exact (names_list hcontent hnames rs hrs r hr).2 f.1 (List.mem_map_of_mem hf)
  | .object members, a, _, h, hnames, ha => by
    rw [node] at h
    split at h
    · obtain ⟨v, -, h⟩ := bind_eq_ok_iff.1 h
      cases h
      exact List.forall_mem_singleton.2 ⟨ha, fun _ h => nomatch h⟩
    · obtain ⟨ns, hns, h⟩ := bind_eq_ok_iff.1 h
      cases h
      exact plain_children default members a.childPath ns hns hnames.2 hnames.1.2 ha

lemma plain_children (default : String) : ∀ (members : List (String × Json))
    (path : List String) (ns : List Node), children default path members = .ok ns →
      Json.AllNamesMembers PlainNames members → (∀ s ∈ members.map (·.1), '.' ∉ s.toList) →
        (∀ s ∈ path, '.' ∉ s.toList) → ∀ e ∈ Node.entriesOf ns, e.Plain
  | [], _, _, h, _, _, _ => by
    rw [children] at h
    cases h
    exact fun _ h => nomatch h
  | (name, j) :: rest, path, _, h, hnames, hmembers, hpath => by
    rw [children] at h
    obtain ⟨n, hn, h⟩ := bind_eq_ok_iff.1 h
    obtain ⟨ns, hns, h⟩ := bind_eq_ok_iff.1 h
    cases h
    obtain ⟨hname, hrest⟩ := List.forall_mem_cons.1 hmembers
    have ha : ∀ s ∈ Address.segments ⟨path, name⟩, '.' ∉ s.toList :=
      List.forall_mem_append.2 ⟨hpath, List.forall_mem_singleton.2 hname⟩
    refine List.forall_mem_append.2 ⟨?_, ?_⟩
    · exact plain_node default j ⟨path, name⟩ n hn hnames.1 ha
    · exact plain_children default rest path ns hns hnames.2 hrest hpath

end

end Shape

/-- The entries of a document with plain names are plain, and none stands at or below another. -/
lemma Tree.entries_of_plain {default : String} {j : Json} {t : Tree}
    (h : Tree.ofDocument default j = .ok t) (hj : j.AllNames PlainNames) :
    t.entries.Pairwise Node.Unrelated ∧ ∀ e ∈ t.entries, e.Plain := by
  cases j with
  | object members =>
    obtain ⟨ns, hns, h⟩ := bind_eq_ok_iff.1 h
    cases h
    obtain ⟨hnodes, hplaced⟩ :=
      Shape.children_placed (fun _ h => h.1) default members [] ns hns hj.2
    refine ⟨Node.pairwise_unrelated [] ns hplaced (hnodes ▸ hj.1.1), ?_⟩
    exact Shape.plain_children default members [] ns hns hj.2 hj.1.2 fun _ h => nomatch h
  | null =>
    cases h
    exact ⟨.nil, fun _ h => nomatch h⟩
  | bool | number | string | array => exact nomatch h

/-- **Plain names keep texts apart.** In a document in which no name has a dot, no accepted text is
filed over another. -/
theorem Tree.slots_nodup_of_plain {default : String} {j : Json} {t : Tree}
    (h : Tree.ofDocument default j = .ok t) (hj : j.AllNames PlainNames) : t.slots.Nodup := by
  obtain ⟨hunrelated, hplain⟩ := Tree.entries_of_plain h hj
  rw [t.slots_nodup_iff_formsApart]
  intro u hu w hw _ _ hform key hku hkw
  obtain ⟨e, he, hur⟩ := Entry.mayAsk_of_mem_turnsAll hu
  obtain ⟨f, hf, hwr⟩ := Entry.mayAsk_of_mem_turnsAll hw
  -- one entry makes all its keys in one way
  have hne : e ≠ f := by
    rintro rfl
    refine hform ?_
    rw [(Entry.key_eq_intercalate (hplain e he) hur hku).1,
      (Entry.key_eq_intercalate (hplain e he) hwr hkw).1]
  have hsymm : Std.Symm Node.Unrelated := ⟨fun _ _ h => ⟨h.2, h.1⟩⟩
  exact Entry.key_notMem_of_unrelated (hplain e he) (hplain f hf)
    (hunrelated.forall he hf hne) hur hwr hku hkw

end Phrasebook
