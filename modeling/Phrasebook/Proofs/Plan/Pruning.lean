import Mathlib.Data.List.Nodup
import Phrasebook.Proofs.Address.LookupKey
import Phrasebook.Proofs.Generation.Overflow
import Phrasebook.Proofs.Plan.Refinement

/-!
# Leaving a key out is the same as not having it

`Tree.prune` takes out of a tree what its plan leaves out: every text, list and list of records
that is refused, and every refused field out of all records.  Groups stay, also when they become
empty, and records stay in their places.

A refused request neither makes steps nor holds names.  So the turns of the pruned tree are the
granted turns of the tree, one for one (`Entry.turnsAll_prunedAll`), although the history they
are answered from is a shorter one.  Hence the main result `Tree.prune_spec`: the plan of the
pruned tree has the same steps and no errors, and every target that can be generated from the
tree is generated from the pruned tree with the same sources.
-/

namespace Phrasebook

/-! ## Taking out what is refused -/

namespace Record

/-- The record without the fields that `out` picks. -/
def without (out : String → Bool) (r : Record) : Record := ⟨r.fields.filter fun f => !out f.1⟩

end Record

namespace Content

/-- The content without the fields that `out` picks; only records have any. -/
def without (out : String → Bool) : Content → Content
  | text v => text v
  | list vs => list vs
  | records rs => records (rs.map (·.without out))

end Content

namespace Entry

/-- Whether a field of the entry `e` is refused, where `e` comes after the turns `past`. -/
def refuses (default : String) (past : List Turn) (e : Entry) (field : String) : Bool :=
  (e.turns default past).any fun u =>
    !u.granted && u.request.key == fieldPattern e.address.key field

/-- What the plan leaves in of the entry `e`, where `e` comes after the turns `past`. -/
def pruned? (default : String) (past : List Turn) (e : Entry) : Option Entry :=
  if ((e.first default).turn default past).granted then
    some { e with content := e.content.without (e.refuses default past) }
  else none

end Entry

namespace Node

mutual

/-- What the plan leaves in of a node that comes after the turns `past`. -/
def prune (default : String) (past : List Turn) : Node → List Node
  | entry e => (e.pruned? default past).toList.map entry
  | group a children => [group a (pruneAll default past children)]

/-- What the plan leaves in of nodes that come after the turns `past`. -/
def pruneAll (default : String) (past : List Turn) : List Node → List Node
  | [] => []
  | n :: rest =>
    n.prune default past ++
      pruneAll default (past ++ Entry.turnsAll default past n.entries) rest

end

end Node

/-- The tree without everything that its plan leaves out. -/
def Tree.prune (t : Tree) : Tree :=
  { t with nodes := Node.pruneAll t.defaultLanguage [] t.nodes }

/-! ## Records without some fields -/

section Fields

variable {out : String → Bool}

lemma lookup_filter_of_not_out {field : String} (h : out field = false)
    (fs : List (String × Value)) :
    (fs.filter fun f => !out f.1).lookup field = fs.lookup field := by
  induction fs with
  | nil => rfl
  | cons f rest ih =>
    obtain ⟨name, v⟩ := f
    by_cases hname : field = name
    · subst hname
      simp [h]
    · rw [List.lookup_cons, beq_false_of_ne hname, List.filter_cons]
      split
      · rw [List.lookup_cons, beq_false_of_ne hname]
        exact ih
      · exact ih

lemma Record.get?_without {field : String} (h : out field = false) (r : Record) :
    (r.without out).get? field = r.get? field :=
  lookup_filter_of_not_out h r.fields

lemma filter_eraseDups (p : String → Bool) (l : List String) :
    (l.filter p).eraseDups = l.eraseDups.filter p := by
  cases l with
  | nil => rfl
  | cons a rest =>
    -- both sides go on with `rest` without the occurrences of `a`
    have hrest := filter_eraseDups p (rest.filter fun b => !b == a)
    rw [List.filter_filter] at hrest
    rw [List.eraseDups_cons, List.filter_cons, List.filter_cons, ← hrest]
    split
    · rw [List.eraseDups_cons, List.filter_filter]
      simp only [Bool.and_comm]
    · rename_i hpa
      refine congrArg List.eraseDups (List.filter_congr fun b _ => ?_)
      by_cases hb : b = a
      · simp [hb, hpa]
      · simp [hb]
termination_by l.length
decreasing_by exact Nat.lt_succ_of_le (List.length_filter_le ..)

/-- The remaining fields stand in the order they had. -/
lemma Record.fieldNames_without (rs : List Record) :
    Record.fieldNames (rs.map (·.without out)) =
      (Record.fieldNames rs).filter fun field => !out field := by
  rw [fieldNames, fieldNames, ← filter_eraseDups]
  congr 1
  induction rs with
  | nil => rfl
  | cons r rest ih =>
    rw [List.map_cons, List.flatMap_cons, List.flatMap_cons, List.filter_append, ih]
    congr 1
    simp [Record.without, List.filter_map, Function.comp_def]

/-- A field that stays keeps its block: the records are in place. -/
lemma Block.ofField_without {field : String} (h : out field = false) (a : Address)
    (rs : List Record) :
    Block.ofField a (rs.map (·.without out)) field = Block.ofField a rs field := by
  simp [Block.ofField, List.zipIdx_map, List.filterMap_map, Function.comp_def,
    Record.get?_without h]

end Fields

/-! ## The granted turns, asked for again -/

section Granted

variable {past : List Turn} {u : Turn}

lemma filter_granted_append_of_granted (h : u.granted) :
    (past ++ [u]).filter Turn.granted = past.filter Turn.granted ++ [u] := by
  rw [List.filter_append, List.filter_cons_of_pos h, List.filter_nil]

lemma filter_granted_append_of_not_granted (h : ¬u.granted) :
    (past ++ [u]).filter Turn.granted = past.filter Turn.granted := by
  rw [List.filter_append, List.filter_cons_of_neg h, List.filter_nil, List.append_nil]

end Granted

namespace Request

variable {default : String} {past : List Turn}

lemma turn_filter_granted (r : Request) :
    r.turn default (past.filter Turn.granted) = r.turn default past :=
  congrArg (Turn.mk r) (outcome_congr fun _ => holder?_filter_granted ..)

/-- Making only the granted requests grants them all, in the same way. -/
lemma turns_filter_granted (rs : List Request) :
    turns default (past.filter Turn.granted)
        (((turns default past rs).filter Turn.granted).map (·.request)) =
      (turns default past rs).filter Turn.granted := by
  induction rs generalizing past with
  | nil => rfl
  | cons r rest ih =>
    have hrest := @ih (past ++ [r.turn default past])
    rw [turns, List.filter_cons]
    by_cases hg : (r.turn default past).granted
    · rw [if_pos hg, List.map_cons, turn_request, turns, turn_filter_granted]
      rw [filter_granted_append_of_granted hg] at hrest
      rw [hrest]
    · rw [if_neg hg]
      rw [filter_granted_append_of_not_granted hg] at hrest
      exact hrest

/-- Of requests for different fields, the granted ones are those of the fields that no refused
turn is about. -/
lemma map_request_filter_granted (key : String) {req : String → Request} {out : String → Bool}
    (hkey : ∀ field, (req field).key = fieldPattern key field) {fields : List String}
    {us : List Turn} (hfields : fields.Nodup) (hreq : us.map (·.request) = fields.map req)
    (hout : ∀ field ∈ fields,
      out field = us.any fun u => !u.granted && u.request.key == fieldPattern key field) :
    (us.filter Turn.granted).map (·.request) = (fields.filter fun f => !out f).map req := by
  induction fields generalizing us with
  | nil => simp_all
  | cons field rest ih =>
    obtain ⟨u, us, rfl⟩ : ∃ u us', us = u :: us' := by
      cases us with
      | nil => exact nomatch hreq
      | cons u us => exact ⟨u, us, rfl⟩
    obtain ⟨hu, hus⟩ : u.request = req field ∧ us.map (·.request) = rest.map req :=
      List.cons.inj hreq
    obtain ⟨hnew, hrest⟩ := List.nodup_cons.1 hfields
    -- no other turn is about `field`, and `u` is about no other field
    have hothers :
        (us.any fun w => !w.granted && w.request.key == fieldPattern key field) = false := by
      refine List.any_eq_false.2 fun w hw => ?_
      have hmem : w.request ∈ us.map (·.request) := List.mem_map_of_mem hw
      obtain ⟨f, hf, hwf⟩ := List.mem_map.1 (hus ▸ hmem)
      have hne : f ≠ field := fun h => hnew (h ▸ hf)
      rw [← hwf, hkey]
      simpa using fun _ h => hne (fieldPattern_inj h)
    have hhead : out field = !u.granted := by
      rw [hout field List.mem_cons_self, List.any_cons, hothers, hu, hkey]
      simp
    have htail := ih hrest hus fun f hf => by
      have hne : field ≠ f := fun h => hnew (h ▸ hf)
      rw [hout f (List.mem_cons_of_mem _ hf), List.any_cons, hu, hkey]
      simp [mt fieldPattern_inj hne]
    rw [List.filter_cons, List.filter_cons, hhead, Bool.not_not]
    split
    · rw [List.map_cons, List.map_cons, htail, hu]
    · exact htail

end Request

/-! ## Entries -/

namespace Entry

variable {default : String} {past : List Turn}

lemma first_without (e : Entry) (out : String → Bool) :
    first default { e with content := e.content.without out } = e.first default := by
  obtain ⟨a, content⟩ := e
  cases content <;> rfl

/-- What is left of a granted entry asks for exactly those fields that are granted. -/
lemma further_without {u : Turn} (e : Entry) (hu : (e.first default).turn default past = u)
    (hg : u.granted) :
    further { e with content := e.content.without (e.refuses default past) } =
      ((Request.turns default (past ++ [u]) e.further).filter Turn.granted).map (·.request) := by
  obtain ⟨a, content⟩ := e
  cases content with
  | text v => rfl
  | list vs => rfl
  | records rs =>
    set e : Entry := ⟨a, .records rs⟩ with he
    have hturns : e.turns default past = u :: Request.turns default (past ++ [u]) e.further := by
      rw [turns, hu, if_pos hg]
    have hfurther : further { e with content := e.content.without (e.refuses default past) } =
        ((Record.fieldNames rs).filter fun field => !e.refuses default past field).map fun field =>
          .ofBlock (.members a.typeName) (.ofField a rs field) := by
      simp only [he, further, Content.without, Record.fieldNames_without]
      refine List.map_congr_left fun field hfield => ?_
      rw [Block.ofField_without]
      simpa using (List.mem_filter.1 hfield).2
    rw [hfurther]
    refine (Request.map_request_filter_granted a.key (fun _ => rfl)
      (Record.nodup_fieldNames rs) (Request.map_request_turns ..) fun field _ => ?_).symm
    rw [refuses, hturns, List.any_cons, hg]
    rfl

/-- What is left of an entry comes to the granted turns of the entry. -/
lemma turns_pruned? (e : Entry) :
    (e.pruned? default past).toList.flatMap (turns default (past.filter Turn.granted)) =
      (e.turns default past).filter Turn.granted := by
  set u := (e.first default).turn default past with hu
  rw [pruned?, turns, ← hu]
  by_cases hg : u.granted
  · rw [if_pos hg, if_pos hg, List.filter_cons, if_pos hg, Option.toList_some,
      List.flatMap_singleton, turns, first_without, Request.turn_filter_granted, ← hu, if_pos hg,
      further_without e hu.symm hg]
    rw [← filter_granted_append_of_granted hg, Request.turns_filter_granted]
  · rw [if_neg hg, if_neg hg, List.filter_cons_of_neg hg]
    rfl

/-- What the plan leaves in of entries that come after the turns `past`. -/
def prunedAll (default : String) (past : List Turn) : List Entry → List Entry
  | [] => []
  | e :: rest =>
    (e.pruned? default past).toList ++ prunedAll default (past ++ e.turns default past) rest

lemma prunedAll_append (es fs : List Entry) :
    prunedAll default past (es ++ fs) =
      prunedAll default past es ++
        prunedAll default (past ++ turnsAll default past es) fs := by
  induction es generalizing past with
  | nil => simp [prunedAll, turnsAll]
  | cons e rest ih => simp [prunedAll, turnsAll, ih, List.append_assoc]

lemma turnsAll_toList (past : List Turn) (e? : Option Entry) :
    turnsAll default past e?.toList = e?.toList.flatMap (turns default past) := by
  cases e? <;> simp [turnsAll]

/-- What is left of entries comes to their granted turns. -/
lemma turnsAll_prunedAll (past : List Turn) (es : List Entry) :
    turnsAll default (past.filter Turn.granted) (prunedAll default past es) =
      (turnsAll default past es).filter Turn.granted := by
  induction es generalizing past with
  | nil => rfl
  | cons e rest ih =>
    have hrest := ih (past ++ e.turns default past)
    rw [List.filter_append] at hrest
    rw [prunedAll, turnsAll_append, turnsAll_toList, turns_pruned?, hrest, turnsAll,
      List.filter_append]

end Entry

/-! ## Trees -/

namespace Node

variable {default : String}

lemma entriesOf_append (ns ms : List Node) :
    entriesOf (ns ++ ms) = entriesOf ns ++ entriesOf ms := by
  induction ns with
  | nil => rfl
  | cons n rest ih => rw [List.cons_append, entriesOf, ih, entriesOf, List.append_assoc]

lemma entriesOf_map_entry (es : List Entry) : entriesOf (es.map entry) = es := by
  induction es with
  | nil => rfl
  | cons e rest ih => rw [List.map_cons, entriesOf, ih]; rfl

mutual

/-- Pruning a node prunes its entries and nothing else. -/
lemma entriesOf_prune (past : List Turn) :
    ∀ n : Node, entriesOf (n.prune default past) = Entry.prunedAll default past n.entries
  | entry e => by
    rw [prune, entriesOf_map_entry, entries, Entry.prunedAll, Entry.prunedAll, List.append_nil]
  | group a children => by
    rw [prune, entriesOf, entries, entries, entriesOf, List.append_nil,
      entriesOf_pruneAll past children]

lemma entriesOf_pruneAll (past : List Turn) :
    ∀ ns : List Node,
      entriesOf (pruneAll default past ns) = Entry.prunedAll default past (entriesOf ns)
  | [] => rfl
  | n :: rest => by
    rw [pruneAll, entriesOf_append, entriesOf_prune past n, entriesOf_pruneAll _ rest, entriesOf,
      Entry.prunedAll_append]

end

end Node

/-- The turns of the pruned tree are the granted turns of the tree. -/
lemma Tree.turns_prune (t : Tree) : t.prune.turns = t.turns.filter Turn.granted := by
  have hentries : t.prune.entries = Entry.prunedAll t.defaultLanguage [] t.entries :=
    Node.entriesOf_pruneAll [] t.nodes
  rw [turns, hentries]
  exact Entry.turnsAll_prunedAll [] t.entries

/-! ## Steps -/

/-- The granted turns make all the steps. -/
lemma Settled.flatMap_steps_filter {default : String} {us : List Turn}
    (h : Settled default [] us) :
    (us.filter Turn.granted).flatMap (·.plan.steps) = us.flatMap (·.plan.steps) := by
  refine (flatMap_eq_flatMap_filter fun u hu => ?_).symm
  split
  · rfl
  · rename_i hg
    exact h.steps_of_not_granted hu hg

lemma Tree.plan_prune (t : Tree) : t.prune.plan = ⟨t.plan.steps, []⟩ := by
  rw [t.prune.plan_eq_turns, t.plan_eq_turns, t.turns_prune,
    t.settled_turns.flatMap_steps_filter]
  congr 1
  refine List.flatMap_eq_nil_iff.2 fun u hu => ?_
  exact List.isEmpty_iff.1 (List.mem_filter.1 hu).2

/-! ## Sources -/

lemma Content.values_without {out : String → Bool} (c : Content) :
    ∀ v ∈ (c.without out).values, v ∈ c.values := by
  cases c with
  | text v => exact fun _ h => h
  | list vs => exact fun _ h => h
  | records rs =>
    intro v hv
    simp only [without, values, List.mem_flatMap, List.mem_map] at hv ⊢
    obtain ⟨_, ⟨r, hr, rfl⟩, f, hf, rfl⟩ := hv
    exact ⟨r, hr, f, (List.mem_filter.1 hf).1, rfl⟩

lemma Entry.values_prunedAll {default : String} {past : List Turn} {es : List Entry} :
    ∀ e ∈ prunedAll default past es, ∀ v ∈ e.content.values, ∃ f ∈ es, v ∈ f.content.values := by
  induction es generalizing past with
  | nil => exact fun _ h => nomatch h
  | cons e rest ih =>
    intro e' he' v hv
    rcases List.mem_append.1 he' with he' | he'
    · rw [Option.mem_toList, pruned?] at he'
      split at he'
      · cases he'
        exact ⟨e, List.mem_cons_self, Content.values_without _ v hv⟩
      · exact nomatch he'
    · obtain ⟨f, hf, hvf⟩ := ih e' he' v hv
      exact ⟨f, List.mem_cons_of_mem _ hf, hvf⟩

/-- Pruning brings no language in. -/
lemma Tree.languages_prune (t : Tree) : ∀ l ∈ t.prune.languages, l ∈ t.languages := by
  intro l hl
  rw [mem_languages_iff] at hl ⊢
  refine hl.imp_right ?_
  rintro ⟨v, hv, hlv⟩
  have hentries : t.prune.entries = Entry.prunedAll t.defaultLanguage [] t.entries :=
    Node.entriesOf_pruneAll [] t.nodes
  rw [values, hentries] at hv
  obtain ⟨e, he, hve⟩ := List.mem_flatMap.1 hv
  obtain ⟨f, hf, hvf⟩ := Entry.values_prunedAll e he v hve
  exact ⟨v, List.mem_flatMap.2 ⟨f, hf, hvf⟩, hlv⟩

/-- **Leaving a key out is the same as not having it.** The plan of the pruned tree makes the same
steps and reports nothing, and each target that is generated from the tree is generated from the
pruned tree with the same sources. -/
theorem Tree.prune_spec (t : Tree) :
    t.prune.plan = ⟨t.plan.steps, []⟩ ∧
      ∀ (c : Config) (target : Target) (out : TargetOutput),
        generateTarget t c target = .ok out →
          generateTarget t.prune c target = .ok ⟨out.sources, []⟩ := by
  refine ⟨t.plan_prune, fun c target out h => ?_⟩
  obtain ⟨hvet, hout⟩ := (generateTarget_eq_ok_iff t c target out).1 h
  obtain ⟨hcheck, hfits⟩ := vet_eq_ok_iff.1 hvet
  obtain ⟨hconfig, hdefault, hlanguages⟩ := (checkTree_eq_ok_iff t c).1 hcheck
  refine (generateTarget_eq_ok_iff ..).2 ⟨vet_eq_ok_iff.2 ⟨?_, ?_⟩, ?_⟩
  · exact (checkTree_eq_ok_iff ..).2
      ⟨hconfig, hdefault, fun l hl => hlanguages l (t.languages_prune l hl)⟩
  · rw [Fits, t.plan_prune]
    exact hfits
  · rw [← hout, Dialect.generate, Dialect.generate, t.plan_prune]

/-- A tree that can be generated, although its plan leaves out a text, another one and a field: the
first asks for an argument that there is not, the others need names that are taken. -/
def Tree.gappy : Tree where
  defaultLanguage := "nl"
  nodes :=
    [.entry ⟨⟨[], "greeting"⟩, .text ⟨"Hallo %2$@", 1, .empty⟩⟩,
      .entry ⟨⟨[], "title"⟩, .text ⟨"Titel", 0, .empty⟩⟩,
      .group ⟨[], "home"⟩ [.entry ⟨⟨["home"], "items"⟩,
        .records [⟨[("name", ⟨"Naam", 0, .empty⟩), ("Name", ⟨"Naam", 0, .empty⟩)]⟩]⟩],
      .entry ⟨⟨[], "Title"⟩, .text ⟨"Titel", 0, .empty⟩⟩]

lemma Tree.vet_gappy : gappy.vet (.ofLanguage "nl") = .ok () :=
  vet_of_values (by decide) (by decide)

theorem Tree.prune_spec_gappy :
    gappy.plan.errors.length = 3 ∧
      ∃ out, generateTarget gappy (.ofLanguage "nl") .js = .ok out ∧
        generateTarget gappy.prune (.ofLanguage "nl") .js = .ok ⟨out.sources, []⟩ := by
  have hout := (generateTarget_eq_ok_iff gappy (.ofLanguage "nl") .js _).2 ⟨vet_gappy, rfl⟩
  exact ⟨by decide +kernel, _, hout, (Tree.prune_spec gappy).2 _ _ _ hout⟩

end Phrasebook
