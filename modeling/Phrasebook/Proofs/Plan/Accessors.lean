import Phrasebook.Proofs.Plan.Slots

/-!
# The accessors of a plan

A plan makes two kinds of steps before its last one: it files texts and it declares accessors.
Every accessor was asked for in a turn (`Tree.exists_turn_of_mem_steps`), and every turn belongs to
an entry of the tree (`Tree.mem_turns_iff`).

* The names of two accessors that compete are different (`Tree.pairwise_steps`).
* One entry at most gets a name that others compete for (`Tree.Grants.eq`), so one list of records
  at most gets the name of a type (`Tree.GetsType.eq`), and the fields with that type are fields of
  its records (`Tree.GetsType.of_fieldAccessor`).
-/

namespace Phrasebook

/-! ## Steps of a turn -/

lemma Value.form?_of_mem_steps {v : Value} {default key : String} {s : Step}
    (h : s ∈ v.steps default key) : s.form? = none := by
  obtain ⟨_, -, rfl⟩ := List.mem_map.1 h
  rfl

lemma Request.accessor?_of_mem_steps {default : String} {r : Request} {s : Step}
    (h : s ∈ r.steps default) (hs : s.form? ≠ none) : r.accessor? = some s := by
  rcases List.mem_append.1 h with h | h
  · obtain ⟨_, -, h⟩ := List.mem_flatMap.1 h
    exact absurd (Value.form?_of_mem_steps h) hs
  · exact Option.mem_toList.1 h

namespace Turn

/-- A step of a turn that declares an accessor is the one that was asked for. -/
lemma accessor?_of_mem_steps {default : String} {past us : List Turn} {u : Turn} {s : Step}
    (hus : Settled default past us) (hu : u ∈ us) (h : s ∈ u.plan.steps) (hs : s.form? ≠ none) :
    u.declares ∧ u.request.accessor? = some s := by
  have ha := Request.accessor?_of_mem_steps (hus.mem_steps_of_mem hu h) hs
  refine ⟨?_, ha⟩
  rw [declares, ha]
  simpa using h

end Turn

/-! ## Entries and their turns -/

namespace Entry

variable {default : String} {past : List Turn} {u : Turn}

lemma mem_turnsAll_iff {es : List Entry} :
    u ∈ turnsAll default past es ↔
      ∃ before e after, es = before ++ e :: after ∧
        u ∈ e.turns default (past ++ turnsAll default past before) := by
  induction es generalizing past with
  | nil => simp [turnsAll]
  | cons e rest ih =>
    rw [turnsAll, List.mem_append, ih]
    constructor
    · rintro (h | ⟨before, f, after, rfl, h⟩)
      · exact ⟨[], e, rest, rfl, by simpa [turnsAll] using h⟩
      · refine ⟨e :: before, f, after, rfl, ?_⟩
        rwa [turnsAll, ← List.append_assoc]
    · rintro ⟨before, f, after, hes, h⟩
      cases before with
      | nil =>
        obtain ⟨rfl, rfl⟩ := List.cons.inj hes
        exact .inl (by simpa [turnsAll] using h)
      | cons e' before =>
        obtain ⟨rfl, rfl⟩ := List.cons.inj hes
        refine .inr ⟨before, f, after, rfl, ?_⟩
        rwa [turnsAll, ← List.append_assoc] at h

/-- A turn that asks for a field is made for the records of an entry whose type was granted. -/
lemma exists_field_of_form? {e : Entry} {type : String} (hu : u ∈ e.turns default past)
    (hf : u.request.form? = some (.records type)) :
    ∃ rs, e.content = .records rs ∧ ((Request.ofType e.address).turn default past).granted ∧
      ∃ field ∈ Record.fieldNames rs,
        u.request = .ofBlock (.members e.address.typeName) (.ofField e.address rs field) := by
  rcases mem_turns_cases hu with hfirst | ⟨hg, hfurther⟩
  · rw [hfirst] at hf
    obtain ⟨a, content⟩ := e
    cases content <;> cases hf
  · obtain ⟨rs, hcontent, field, hfield, hr⟩ := exists_of_mem_further hfurther
    rw [first, hcontent] at hg
    exact ⟨rs, hcontent, hg, field, hfield, hr⟩

end Entry

namespace Tree

variable {t : Tree} {u w : Turn} {s : Step}

/-- The turns of the entry `e`, which comes after the entries `before`. -/
def turnsAt (t : Tree) (before : List Entry) (e : Entry) : List Turn :=
  e.turns t.defaultLanguage (Entry.turnsAll t.defaultLanguage [] before)

lemma mem_turns_iff :
    u ∈ t.turns ↔ ∃ before e after, t.entries = before ++ e :: after ∧ u ∈ t.turnsAt before e :=
  Entry.mem_turnsAll_iff

/-! ## Steps of a plan -/

/-- A step that declares an accessor is made by a turn that asked for it. -/
lemma exists_turn_of_mem_steps (h : s ∈ t.plan.steps) (hs : s.form? ≠ none) :
    ∃ u ∈ t.turns, s ∈ u.plan.steps ∧ u.declares ∧ u.request.accessor? = some s := by
  rw [t.plan_eq_turns] at h
  rcases List.mem_append.1 h with h | h
  · obtain ⟨u, hu, h⟩ := List.mem_flatMap.1 h
    exact ⟨u, hu, h, Turn.accessor?_of_mem_steps t.settled_turns hu h hs⟩
  · obtain rfl := List.mem_singleton.1 h
    exact absurd rfl hs

end Tree

namespace Tree

variable (t : Tree)

/-- The last step of a plan is its only one to finish. -/
lemma exists_steps_eq : ∃ steps, t.plan.steps = steps ++ [.finish] ∧ .finish ∉ steps := by
  rw [t.plan_eq_turns]
  refine ⟨_, rfl, fun h => ?_⟩
  obtain ⟨u, hu, h⟩ := List.mem_flatMap.1 h
  obtain ⟨_, e, _, -, hue⟩ := mem_turns_iff.1 hu
  rcases List.mem_append.1 (t.settled_turns.mem_steps_of_mem hu h) with h | h
  · obtain ⟨x, -, hx⟩ := List.mem_flatMap.1 h
    obtain ⟨_, -, hx⟩ := List.mem_map.1 hx
    exact nomatch hx
  · have haccessor := Option.mem_toList.1 h
    rcases Entry.request_cases hue with ⟨v, hr⟩ | ⟨vs, hr⟩ | hr | ⟨-, -, rs, field, hr⟩ <;>
      rw [hr] at haccessor <;> exact nomatch haccessor

end Tree

/-! ## Names of accessors -/

/-- Where the names of an accessor compete. -/
def Step.scope? : Step → Option Scope
  | .accessor .. => some .accessors
  | .listAccessor .. => some .accessors
  | .fieldAccessor _ a _ => some (.members a.typeName)
  | .text .. => none
  | .finish => none

/-- The names that an accessor needs for itself. -/
def Step.names : Step → List String
  | .accessor _ a _ _ => [a.lowerCamel, a.snakeCase]
  | .listAccessor _ a _ _ => [a.lowerCamel, a.snakeCase]
  | .fieldAccessor field _ _ => [Naming.memberName field, Naming.snakeCase [field]]
  | .text .. => []
  | .finish => []

/-- The names of two accessors do not meet if they compete. -/
def Step.NamesApart (s s' : Step) : Prop :=
  s.scope? = s'.scope? → s.scope? ≠ none → s.names.Disjoint s'.names

lemma Step.form?_ne_none {s : Step} (h : s.scope? ≠ none) : s.form? ≠ none := by
  cases s with
  | accessor | listAccessor | fieldAccessor => exact nofun
  | text | finish => exact absurd rfl h

/-- An accessor needs the names that were asked for. -/
lemma Entry.names_of_accessor? {default : String} {past : List Turn} {e : Entry} {u : Turn}
    {s : Step} (hu : u ∈ e.turns default past) (hs : u.request.accessor? = some s) :
    s.scope? = some u.request.scope ∧ s.names = u.request.names := by
  rcases request_cases hu with ⟨v, hr⟩ | ⟨vs, hr⟩ | hr | ⟨-, -, rs, field, hr⟩ <;>
    rw [hr] at hs ⊢ <;> cases hs <;> exact ⟨rfl, rfl⟩

lemma Turn.pairwise_steps {default : String} {past us : List Turn} {u : Turn}
    (hus : Settled default past us) (hu : u ∈ us) : u.plan.steps.Pairwise Step.NamesApart := by
  by_cases hg : u.granted
  · have htexts : ∀ s ∈ u.request.values.flatMap fun x => x.2.steps default x.1,
        s.scope? = none := by
      intro s hs
      obtain ⟨x, -, hx⟩ := List.mem_flatMap.1 hs
      obtain ⟨_, -, rfl⟩ := List.mem_map.1 hx
      rfl
    rw [hus.steps_of_granted hu hg, Request.steps, List.pairwise_append]
    refine ⟨List.pairwise_of_forall_mem_list ?_, ?_, ?_⟩
    · exact fun s hs _ _ _ hne => absurd (htexts s hs) hne
    · cases u.request.accessor? with
      | none => exact .nil
      | some s => exact List.pairwise_singleton _ _
    · exact fun s hs _ _ _ hne => absurd (htexts s hs) hne
  · rw [hus.steps_of_not_granted hu hg]
    exact .nil

/-- The names of the accessors that a plan declares do not meet. -/
lemma Tree.pairwise_steps (t : Tree) : t.plan.steps.Pairwise Step.NamesApart := by
  rw [t.plan_eq_turns, List.pairwise_append, List.pairwise_flatMap]
  refine ⟨⟨fun u hu => Turn.pairwise_steps t.settled_turns hu, ?_⟩, List.pairwise_singleton _ _, ?_⟩
  · refine t.settled_turns.namesApart.1.imp_of_mem fun {u w} hu hw hapart s hs s' hs' heq hne => ?_
    obtain ⟨hdu, hsu⟩ := Turn.accessor?_of_mem_steps t.settled_turns hu hs (Step.form?_ne_none hne)
    obtain ⟨hdw, hsw⟩ :=
      Turn.accessor?_of_mem_steps t.settled_turns hw hs' (Step.form?_ne_none (heq ▸ hne))
    obtain ⟨_, _, _, -, hue⟩ := mem_turns_iff.1 hu
    obtain ⟨_, _, _, -, hwe⟩ := mem_turns_iff.1 hw
    obtain ⟨hscopeu, hnamesu⟩ := Entry.names_of_accessor? hue hsu
    obtain ⟨hscopew, hnamesw⟩ := Entry.names_of_accessor? hwe hsw
    rw [hnamesu, hnamesw]
    refine hapart (t.settled_turns.granted_of_declares hu hdu)
      (t.settled_turns.granted_of_declares hw hdw) ?_
    exact Option.some.inj (hscopeu.symm.trans (heq.trans hscopew))
  · intro s _ s' hs' heq hne
    obtain rfl := List.mem_singleton.1 hs'
    exact absurd heq hne

/-! ## Lists of records and their types -/

namespace Tree

variable {t : Tree} {u : Turn} {a b : Address} {rs ss : List Record}
  {before before' : List Entry}

/-- The list of the records `rs` at `a`, which comes after the entries `before`, is an entry of the
tree and got the name of its type. -/
def GetsType (t : Tree) (before : List Entry) (a : Address) (rs : List Record) : Prop :=
  (∃ after, t.entries = before ++ ⟨a, .records rs⟩ :: after) ∧
    ((Request.ofType a).turn t.defaultLanguage
      (Entry.turnsAll t.defaultLanguage [] before)).granted

/-- The entry `e` of the tree, which comes after the entries `before`, gets what it asks for first:
the names of its accessor, or the name of its type. -/
def Grants (t : Tree) (before : List Entry) (e : Entry) : Prop :=
  (∃ after, t.entries = before ++ e :: after) ∧
    ((e.first t.defaultLanguage).turn t.defaultLanguage
      (Entry.turnsAll t.defaultLanguage [] before)).granted

/-- Only one entry gets a name of a scope. -/
lemma Grants.eq {e f : Entry} {name : String} (h : t.Grants before e) (h' : t.Grants before' f)
    (hscope : (e.first t.defaultLanguage).scope = (f.first t.defaultLanguage).scope)
    (he : name ∈ (e.first t.defaultLanguage).names)
    (hf : name ∈ (f.first t.defaultLanguage).names) : before = before' ∧ e = f := by
  -- whoever comes later finds the name taken
  have hlater : ∀ {before more : List Entry} {e f : Entry},
      (e.first t.defaultLanguage).scope = (f.first t.defaultLanguage).scope →
      name ∈ (e.first t.defaultLanguage).names → name ∈ (f.first t.defaultLanguage).names →
      ((e.first t.defaultLanguage).turn t.defaultLanguage
        (Entry.turnsAll t.defaultLanguage [] before)).granted →
      ¬((f.first t.defaultLanguage).turn t.defaultLanguage (Entry.turnsAll t.defaultLanguage []
        (before ++ e :: more))).granted := by
    intro before more e f hscope he hf hg hg'
    have hfree := clash?_eq_none_iff.1 (Request.turn_granted_iff.1 hg').2 _ hf
    refine holder?_eq_none_iff.1 hfree _ ?_ (gives_iff.2 ⟨hg, hscope, he⟩)
    exact Entry.mem_turnsAll_iff.2 ⟨before, _, more, rfl, List.mem_cons_self⟩
  obtain ⟨⟨after, hentries⟩, hg⟩ := h
  obtain ⟨⟨after', hentries'⟩, hg'⟩ := h'
  rcases List.append_eq_append_iff.1 (hentries.symm.trans hentries') with
    ⟨more, rfl, hmore⟩ | ⟨more, rfl, hmore⟩
  · cases more with
    | nil =>
      obtain ⟨hsame, -⟩ := List.cons.inj hmore
      simpa using hsame
    | cons x more =>
      obtain ⟨rfl, -⟩ := List.cons.inj hmore
      exact absurd hg' (hlater hscope he hf hg)
  · cases more with
    | nil =>
      obtain ⟨hsame, -⟩ := List.cons.inj hmore
      simpa [eq_comm] using hsame
    | cons x more =>
      obtain ⟨rfl, -⟩ := List.cons.inj hmore
      exact absurd hg (hlater hscope.symm hf he hg')

/-- Only one list of records gets the name of a type. -/
lemma GetsType.eq (h : t.GetsType before a rs) (h' : t.GetsType before' b ss)
    (hname : a.typeName = b.typeName) : before = before' ∧ a = b ∧ rs = ss := by
  have hgrants : t.Grants before ⟨a, .records rs⟩ := h
  obtain ⟨rfl, hsame⟩ := hgrants.eq h' rfl List.mem_cons_self (hname ▸ List.mem_cons_self)
  obtain ⟨rfl, hcontent⟩ := Entry.mk.inj hsame
  exact ⟨rfl, rfl, Content.records.inj hcontent⟩

/-- A field is declared for a list of records that got its type. -/
lemma exists_getsType {field text : String} (hu : u ∈ t.turns)
    (hs : .fieldAccessor field a text ∈ u.plan.steps) :
    ∃ before rs, t.GetsType before a rs ∧ field ∈ Record.fieldNames rs ∧
      u.request = .ofBlock (.members a.typeName) (.ofField a rs field) := by
  obtain ⟨-, haccessor⟩ := Turn.accessor?_of_mem_steps t.settled_turns hu hs nofun
  obtain ⟨before, ⟨b, content⟩, after, hentries, hue⟩ := mem_turns_iff.1 hu
  have hform : u.request.form? = some (.records a.typeName) := by
    rw [Request.form?, haccessor]
    rfl
  obtain ⟨rs, hcontent, hg, field', hfield, hr⟩ := Entry.exists_field_of_form? hue hform
  obtain rfl : content = .records rs := hcontent
  rw [hr] at haccessor
  obtain ⟨rfl, rfl, -⟩ := Step.fieldAccessor.inj (Option.some.inj haccessor)
  exact ⟨before, rs, ⟨⟨after, hentries⟩, hg⟩, hfield, hr⟩

/-- A field with the type that a list of records got is a field of those records. -/
lemma GetsType.of_fieldAccessor {field text : String} (h : t.GetsType before a rs)
    (hu : u ∈ t.turns) (hs : .fieldAccessor field b text ∈ u.plan.steps)
    (hname : a.typeName = b.typeName) :
    a = b ∧ field ∈ Record.fieldNames rs ∧
      u.request = .ofBlock (.members a.typeName) (.ofField a rs field) := by
  obtain ⟨_, _, htype, hfield, hr⟩ := exists_getsType hu hs
  obtain ⟨-, rfl, rfl⟩ := h.eq htype hname
  exact ⟨rfl, hfield, hr⟩

end Tree

end Phrasebook
