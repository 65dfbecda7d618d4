import Phrasebook.Proofs.Plan.Accessors

/-!
# What a clash is reported against

A report that a name is taken says which key has taken it.  One expects an accessor of that key: a
name that nothing uses could be given away.

* The names of accessors and the names of members are claimed by a block that is carried out, and
  the accessor of the block is declared in the same turn (`Turn.exists_backs_of_gives`).  So there
  is an accessor behind every report in these two scopes.
* The name of a type is claimed before any field of the records is looked at.  If every field has a
  faulty text then none is declared, and the name is held for nothing: the next list with that name
  is reported against a type that is not there (`exists_clash_not_backed`).

The main result is `Tree.clashesBacked`: a list of records that holds the name of a type declares
something exactly if one of its fields has only good texts.
-/

namespace Phrasebook

/-! ## Clashes -/

/-- Whether a step declares an accessor that needs `name` in `scope` and belongs to the key
`existing`.  A type is needed by every field of its records. -/
def Step.Backs (scope : Scope) (name existing : String) : Step → Prop
  | .accessor _ a _ _ =>
    scope = .accessors ∧ a.key = existing ∧ name ∈ [a.lowerCamel, a.snakeCase]
  | .listAccessor _ a _ _ =>
    scope = .accessors ∧ a.key = existing ∧ name ∈ [a.lowerCamel, a.snakeCase]
  | .fieldAccessor field a _ =>
    match scope with
    | .accessors => False
    | .types => a.key = existing ∧ a.typeName = name
    | .members type => a.typeName = type ∧ fieldPattern a.key field = existing ∧
        name ∈ [Naming.memberName field, Naming.snakeCase [field]]
  | .text .. => False
  | .finish => False

/-- Some step of the turns `past` declares an accessor of `existing` that needs `name`. -/
def Backed (past : List Turn) (scope : Scope) (name existing : String) : Prop :=
  ∃ s ∈ past.flatMap (·.plan.steps), s.Backs scope name existing

namespace Tree

/-- After the turns `past` it is reported that `key` cannot have `name` in `scope`, because
`existing` has it. -/
def Clashes (t : Tree) (past : List Turn) (scope : Scope) (key name existing : String) : Prop :=
  ∃ u after, t.turns = past ++ u :: after ∧ u.request.scope = scope ∧
    .nameTaken key name existing ∈ u.plan.errors

/-- What stands behind the reports of the plan of `t` that a name is taken. -/
structure ClashesBacked (t : Tree) : Prop where
  /-- Every such report is a clash after some turns. -/
  reported : ∀ key name existing, .nameTaken key name existing ∈ t.plan.errors ↔
    ∃ past scope, t.Clashes past scope key name existing
  /-- The steps before a clash are the first steps of the plan. -/
  earlier : ∀ past scope key name existing, t.Clashes past scope key name existing →
    past.flatMap (·.plan.steps) <+: t.plan.steps
  /-- The name of an accessor is taken by an accessor that was declared before. -/
  accessors : ∀ past key name existing, t.Clashes past .accessors key name existing →
    Backed past .accessors name existing
  /-- The name of a member is taken by a member that was declared before. -/
  members : ∀ past type key name existing, t.Clashes past (.members type) key name existing →
    Backed past (.members type) name existing
  /-- The name of a type is held by a list of records.  A field of it was declared before exactly
  if it has a field with good texts only. -/
  types : ∀ past key name existing, t.Clashes past .types key name existing →
    ∃ before a rs, t.GetsType before a rs ∧ a.key = existing ∧ a.typeName = name ∧
      (Backed past .types name existing ↔
        ∃ field ∈ Record.fieldNames rs, (Block.ofField a rs field).errors t.defaultLanguage = [])

end Tree

/-- Only fields need the name of a type or of a member. -/
lemma Step.Backs.exists_field {s : Step} {scope : Scope} {name existing : String}
    (h : s.Backs scope name existing) (hscope : scope ≠ .accessors) :
    ∃ field a text, s = .fieldAccessor field a text := by
  cases s with
  | text key text language => exact h.elim
  | accessor function a count text => exact absurd h.1 hscope
  | listAccessor function a vs language => exact absurd h.1 hscope
  | fieldAccessor field a text => exact ⟨field, a, text, rfl⟩
  | finish => exact h.elim

/-! ## Reports -/

lemma Value.nameTaken_notMem_errors {v : Value} {default key key' name existing : String} :
    .nameTaken key' name existing ∉ v.errors default key := by
  intro h
  obtain ⟨x, -, hx⟩ := List.mem_filterMap.1 h
  obtain ⟨index, -, hindex⟩ := Option.map_eq_some_iff.1 hx
  exact nomatch hindex

namespace Request

variable {default key name existing : String} {past : List Turn} {r : Request}

/-- A report that a name is taken is made by a request whose texts are good. -/
lemma holder?_of_mem_errors (h : .nameTaken key name existing ∈ (r.outcome default past).errors) :
    holder? past r.scope name = some existing := by
  by_cases hf : r.faults default = []
  · cases hc : r.clash? past with
    | none =>
      rw [outcome_of_free hf hc] at h
      exact nomatch h
    | some c =>
      rw [outcome_of_clash hf hc, List.mem_singleton] at h
      obtain ⟨-, rfl, rfl⟩ := KeyError.nameTaken.inj h
      obtain ⟨n, -, hn⟩ := List.exists_of_findSome?_eq_some hc
      obtain ⟨existing, hkey, heq⟩ := Option.map_eq_some_iff.1 hn
      rw [← heq]
      exact hkey
  · rw [outcome_of_faults hf] at h
    obtain ⟨x, -, hx⟩ := List.mem_flatMap.1 h
    exact absurd hx Value.nameTaken_notMem_errors

end Request

namespace Settled

variable {default : String} {us : List Turn} {u : Turn}

lemma faults_of_granted {past : List Turn} (h : Settled default past us) (hu : u ∈ us)
    (hg : u.granted) : u.request.faults default = [] := by
  obtain ⟨before, hturn⟩ := h.exists_turn hu
  rw [hturn] at hg
  exact (Request.turn_granted_iff.1 hg).1

/-- A request with good texts gets its names, or another one has got one of them before. -/
lemma exists_gives (h : Settled default [] us) (hu : u ∈ us) (hgood : u.request.faults default = [])
    (hnames : u.request.names ≠ []) :
    ∃ w ∈ us, ∃ name, w.gives u.request.scope name := by
  by_cases hg : u.granted
  · obtain ⟨name, hname⟩ := List.exists_mem_of_ne_nil _ hnames
    exact ⟨u, hu, name, gives_iff.2 ⟨hg, rfl, hname⟩⟩
  · obtain ⟨before, after, rfl⟩ := List.append_of_mem hu
    have hturn : u = u.request.turn default before :=
      congrArg (Turn.mk u.request) h.outcome_of_split
    have hclash : u.request.clash? before ≠ none := fun hc =>
      hg (hturn ▸ Request.turn_granted_iff.2 ⟨hgood, hc⟩)
    rw [Ne, clash?_eq_none_iff] at hclash
    push Not at hclash
    obtain ⟨name, -, hheld⟩ := hclash
    obtain ⟨key, hkey⟩ := Option.ne_none_iff_exists'.1 hheld
    obtain ⟨w, hw, hgives, -⟩ := exists_of_holder? hkey
    exact ⟨w, List.mem_append_left _ hw, name, hgives⟩

end Settled

/-! ## Accessors behind granted requests -/

namespace Turn

variable {default name : String} {past : List Turn} {e : Entry} {u : Turn}

/-- A turn for an accessor or a member that gives a name away declares what needs it. -/
lemma exists_backs_of_gives {scope : Scope} (hu : u ∈ e.turns default past)
    (hscope : scope ≠ .types) (h : u.gives scope name) :
    ∃ s ∈ u.plan.steps, s.Backs scope name u.request.key := by
  obtain ⟨hg, rfl, hname⟩ := gives_iff.1 h
  rw [(e.settled_turns default past).steps_of_granted hu hg, Request.steps]
  rcases Entry.request_cases hu with ⟨v, hr⟩ | ⟨vs, hr⟩ | hr | ⟨-, -, rs, field, hr⟩ <;>
    rw [hr] at hscope hname ⊢
  · exact ⟨_, List.mem_append_right _ List.mem_cons_self, rfl, rfl, hname⟩
  · exact ⟨_, List.mem_append_right _ List.mem_cons_self, rfl, rfl, hname⟩
  · exact absurd rfl hscope
  · exact ⟨_, List.mem_append_right _ List.mem_cons_self, rfl, rfl, hname⟩

end Turn

/-! ## The name of a type -/

namespace Entry

variable {default : String} {past : List Turn} {e : Entry} {u : Turn}

/-- Only the first turn of a list of records is about a type. -/
lemma eq_turn_of_scope_eq_types (hu : u ∈ e.turns default past) (hs : u.request.scope = .types) :
    ∃ rs, e.content = .records rs ∧ u = (Request.ofType e.address).turn default past := by
  obtain ⟨a, content⟩ := e
  rcases List.mem_cons.1 hu with rfl | hu
  · cases content with
    | text v => exact nomatch hs
    | list vs => exact nomatch hs
    | records rs => exact ⟨rs, rfl, rfl⟩
  · split at hu
    · exact nomatch (scope_turns_further hu).symm.trans hs
    · exact nomatch hu

/-- The turns before one about a type are the turns of whole entries. -/
lemma exists_of_turnsAll_eq {es : List Entry} {us vs : List Turn}
    (h : turnsAll default past es = us ++ u :: vs) (hs : u.request.scope = .types) :
    ∃ before after, es = before ++ after ∧ us = turnsAll default past before := by
  induction es generalizing past us with
  | nil => simp [turnsAll] at h
  | cons e rest ih =>
    rw [turnsAll] at h
    rcases List.append_eq_append_iff.1 h with ⟨more, rfl, hrest⟩ | ⟨more, hturns, hvs⟩
    · obtain ⟨before, after, rfl, rfl⟩ := ih hrest
      exact ⟨e :: before, after, rfl, rfl⟩
    · cases us with
      | nil => exact ⟨[], e :: rest, rfl, rfl⟩
      | cons w us =>
        cases more with
        | nil =>
          rw [List.append_nil] at hturns
          exact ⟨[e], rest, rfl, by simp [turnsAll, hturns]⟩
        | cons x more =>
          obtain ⟨rfl, -⟩ := List.cons.inj hvs
          -- a turn of an entry after its first one is not about a type
          have hmem : u ∈ us ++ u :: more := by simp
          rw [List.cons_append] at hturns
          rw [← (List.cons.inj hturns).2] at hmem
          split at hmem
          · cases (scope_turns_further hmem).symm.trans hs
          · exact absurd hmem List.not_mem_nil

/-- Each field of records whose type is granted has its turn. -/
lemma exists_turn_of_field {a : Address} {rs : List Record} {field : String}
    (hg : ((Request.ofType a).turn default past).granted) (hf : field ∈ Record.fieldNames rs) :
    ∃ u ∈ turns default past ⟨a, .records rs⟩,
      u.request = .ofBlock (.members a.typeName) (.ofField a rs field) := by
  have hfurther : Request.ofBlock (.members a.typeName) (.ofField a rs field) ∈
      further ⟨a, .records rs⟩ := List.mem_map_of_mem hf
  rw [← Request.map_request_turns default (past ++ [(Request.ofType a).turn default past])
    (further ⟨a, .records rs⟩)] at hfurther
  obtain ⟨u, hu, hr⟩ := List.mem_map.1 hfurther
  refine ⟨u, List.mem_cons_of_mem _ ?_, hr⟩
  rw [if_pos]
  · exact hu
  · exact hg

end Entry

namespace Tree

variable {t : Tree} {a b : Address} {rs ss : List Record} {before before' : List Entry}

/-- A type is backed after some entries exactly if the list of records that got its name, which is
among them, has a field with good texts only. -/
lemma GetsType.backed_iff {more after : List Entry} (h : t.GetsType before a rs)
    (hentries : t.entries = (before ++ ⟨a, .records rs⟩ :: more) ++ after) :
    Backed (Entry.turnsAll t.defaultLanguage [] (before ++ ⟨a, .records rs⟩ :: more)) .types
        a.typeName a.key ↔
      ∃ field ∈ Record.fieldNames rs,
        (Block.ofField a rs field).errors t.defaultLanguage = [] := by
  set past := Entry.turnsAll t.defaultLanguage [] (before ++ ⟨a, .records rs⟩ :: more) with hpast
  have hsettled : Settled t.defaultLanguage [] past := Entry.settled_turnsAll ..
  have hturns : ∀ u ∈ past, u ∈ t.turns := by
    intro u hu
    rw [turns, hentries, Entry.turnsAll_append]
    exact List.mem_append_left _ hu
  have htypes : Scope.types ≠ .accessors := by decide
  constructor
  · rintro ⟨s, hs, hbacks⟩
    obtain ⟨u, hu, hs⟩ := List.mem_flatMap.1 hs
    obtain ⟨field, b, text, rfl⟩ := hbacks.exists_field htypes
    obtain ⟨rfl, hfield, hr⟩ := h.of_fieldAccessor (hturns u hu) hs hbacks.2.symm
    obtain ⟨hd, -⟩ := Turn.accessor?_of_mem_steps hsettled hu hs (Option.some_ne_none _)
    have hgood := hsettled.faults_of_granted hu (hsettled.granted_of_declares hu hd)
    rw [hr] at hgood
    exact ⟨field, hfield, hgood⟩
  · rintro ⟨field, hfield, hgood⟩
    obtain ⟨u, hu, hr⟩ := Entry.exists_turn_of_field h.2 hfield
    replace hu : u ∈ past := Entry.mem_turnsAll_iff.2 ⟨before, _, more, rfl, hu⟩
    -- the field itself was granted, or the field of these records that took its name
    obtain ⟨w, hw, name, hgives⟩ := hsettled.exists_gives hu (by rw [hr]; exact hgood) (by
      rw [hr]; exact List.cons_ne_nil _ _)
    obtain ⟨_, _, _, hsplit, hwe⟩ := Entry.mem_turnsAll_iff.1 hw
    have hscope : u.request.scope ≠ .types := by
      rw [hr]
      exact Scope.noConfusion
    obtain ⟨s, hs, hbacks⟩ := Turn.exists_backs_of_gives hwe hscope hgives
    rw [hr] at hbacks
    obtain ⟨field', b, text, rfl⟩ := hbacks.exists_field Scope.noConfusion
    obtain ⟨rfl, -, -⟩ := h.of_fieldAccessor (hturns w hw) hs hbacks.1.symm
    exact ⟨_, List.mem_flatMap.2 ⟨w, hw, hs⟩, rfl, rfl⟩

end Tree

/-! ## Clashes and what is behind them -/

namespace Tree

variable {t : Tree} {past : List Turn} {scope : Scope} {key name existing : String}

lemma Clashes.mem_turns {w : Turn} (h : t.Clashes past scope key name existing) (hw : w ∈ past) :
    w ∈ t.turns := by
  obtain ⟨u, after, hturns, -⟩ := h
  rw [hturns]
  exact List.mem_append_left _ hw

/-- Before a clash the name was given to the key that is reported to have it. -/
lemma Clashes.exists_gives (h : t.Clashes past scope key name existing) :
    ∃ w ∈ past, w.gives scope name ∧ w.request.key = existing := by
  obtain ⟨u, after, hturns, rfl, hmem⟩ := h
  have hsettled := t.settled_turns
  rw [hturns] at hsettled
  have hplan : u.plan = u.request.outcome t.defaultLanguage past := hsettled.outcome_of_split
  rw [hplan] at hmem
  exact exists_of_holder? (Request.holder?_of_mem_errors hmem)

lemma Clashes.backed (h : t.Clashes past scope key name existing) (hscope : scope ≠ .types) :
    Backed past scope name existing := by
  obtain ⟨w, hw, hgives, rfl⟩ := h.exists_gives
  obtain ⟨_, _, _, -, hwe⟩ := mem_turns_iff.1 (h.mem_turns hw)
  obtain ⟨s, hs, hbacks⟩ := Turn.exists_backs_of_gives hwe hscope hgives
  exact ⟨s, List.mem_flatMap.2 ⟨w, hw, hs⟩, hbacks⟩

/-- **What a clash is reported against.** A report that the name of an accessor or of a member is
taken names something that was declared before.  The name of a type may be held for a list of
records that declares nothing, because each of its fields has a faulty text. -/
theorem clashesBacked (t : Tree) : t.ClashesBacked := by
  constructor
  case reported =>
    intro key name existing
    rw [t.plan_eq_turns, List.mem_flatMap]
    constructor
    · rintro ⟨u, hu, hmem⟩
      obtain ⟨past, after, hturns⟩ := List.append_of_mem hu
      exact ⟨past, u.request.scope, u, after, hturns, rfl, hmem⟩
    · rintro ⟨past, scope, u, after, hturns, -, hmem⟩
      exact ⟨u, by simp [hturns], hmem⟩
  case earlier =>
    rintro past scope key name existing ⟨u, after, hturns, -⟩
    rw [t.plan_eq_turns, hturns, List.flatMap_append, List.append_assoc]
    exact List.prefix_append _ _
  case accessors => exact fun past key name existing h => h.backed nofun
  case members => exact fun past type key name existing h => h.backed nofun
  case types =>
    intro past key name existing h
    obtain ⟨w, hw, hgives, rfl⟩ := h.exists_gives
    obtain ⟨hg, hscope, hname⟩ := gives_iff.1 hgives
    obtain ⟨u, after, hturns, hu, -⟩ := h
    obtain ⟨es, fs, hentries, rfl⟩ := Entry.exists_of_turnsAll_eq hturns hu
    obtain ⟨before, ⟨a, content⟩, more, rfl, hwe⟩ := Entry.mem_turnsAll_iff.1 hw
    obtain ⟨rs, hcontent, rfl⟩ := Entry.eq_turn_of_scope_eq_types hwe hscope
    obtain rfl : content = .records rs := hcontent
    obtain rfl : name = a.typeName := List.mem_singleton.1 hname
    have htype : t.GetsType before a rs := ⟨⟨more ++ fs, by simp [hentries]⟩, hg⟩
    exact ⟨before, a, rs, htype, rfl, rfl, htype.backed_iff hentries⟩

/-- A document with a report against a type that is not there: the only field of the records `a_b`
has a faulty text, and still `aB`, whose texts are good, is left out for its sake. -/
theorem exists_clash_not_backed :
    ∃ t, Tree.ofDocument "nl" (.object
        [("a_b", .array [.object [("t", .string "%0$@")]]),
          ("aB", .array [.object [("t", .string "x")]])]) = .ok t ∧
      .nameTaken "aB" "AB" "a_b" ∈ t.plan.errors ∧ t.plan.steps = [.finish] ∧
      ∀ s ∈ t.plan.steps, ∀ scope name, ¬s.Backs scope name "a_b" := by
  have hsteps : (Tree.mk "nl" [.entry ⟨⟨[], "a_b"⟩, .records [⟨[("t", .ofText "%0$@")]⟩]⟩,
      .entry ⟨⟨[], "aB"⟩, .records [⟨[("t", .ofText "x")]⟩]⟩]).plan.steps = [.finish] := by
    decide +kernel
  refine ⟨_, rfl, ?_, hsteps, fun s hs scope name => ?_⟩
  · decide +kernel
  · rw [hsteps, List.mem_singleton] at hs
    rw [hs]
    exact id

end Tree

end Phrasebook
