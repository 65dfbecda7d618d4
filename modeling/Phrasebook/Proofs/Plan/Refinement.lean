import Phrasebook.Proofs.Plan.Turn

/-!
# A plan is the plan of its turns

`Entry.visitAll` carries tables of claimed names; `Entry.turnsAll` carries the history of turns.
This file relates the two states and shows that they lead to the same plan: `Tree.plan_eq_turns`.

A table *tracks* a scope if it answers like the history does (`Claims.Tracks`).  The tables of
accessors and of types live as long as the walk and track their scopes throughout.  The table of
member names starts empty for every list of records, while the history goes on; it tracks the
scope of its type all the same, since no earlier list can have got a type of that name.  That is
the third field of `Names.Tracks`: a member was only ever asked for in a type that is held.
-/

namespace Phrasebook

/-! ## Tables and histories -/

namespace Claims

/-- The table names the holders in `scope` after the turns `past`. -/
def Tracks (taken : Claims) (past : List Turn) (scope : Scope) : Prop :=
  ∀ n, taken.lookup n = holder? past scope n

lemma lookup_map_const (names : List String) (key n : String) :
    (names.map (·, key)).lookup n = if n ∈ names then some key else none := by
  induction names with
  | nil => rfl
  | cons m rest ih =>
    rw [List.map_cons, List.lookup_cons, ih]
    by_cases h : n = m
    · simp [h]
    · simp [h, beq_false_of_ne h]

end Claims

section Holder

variable {past us : List Turn} {scope : Scope} {name : String}

lemma holder?_of_scope_ne (h : ∀ u ∈ us, u.request.scope ≠ scope) :
    holder? us scope name = none :=
  holder?_eq_none_iff.2 fun u hu hg => h u hu (gives_iff.1 hg).2.1

lemma holder?_append_of_scope_ne (h : ∀ u ∈ us, u.request.scope ≠ scope) :
    holder? (past ++ us) scope name = holder? past scope name := by
  rw [holder?_append, holder?_of_scope_ne h, Option.or_none]

lemma holder?_append_of_not_granted {u : Turn} (h : u.granted = false) :
    holder? (past ++ [u]) scope name = holder? past scope name := by
  rw [holder?_append, holder?_singleton, if_neg, Option.or_none]
  simp [gives_iff, h]

lemma clash?_eq_none_iff {r : Request} :
    r.clash? past = none ↔ ∀ n ∈ r.names, holder? past r.scope n = none := by
  simp [Request.clash?]

end Holder

namespace Claims

variable {default : String} {taken taken' : Claims} {past us : List Turn} {scope : Scope}

lemma Tracks.firstTaken? {r : Request} (h : taken.Tracks past r.scope) :
    taken.firstTaken? r.names = r.clash? past := by
  unfold Claims.firstTaken? Request.clash?
  exact congrArg (List.findSome? · r.names) (funext fun n => by rw [h n])

lemma Tracks.append_of_scope_ne (h : taken.Tracks past scope)
    (hs : ∀ u ∈ us, u.request.scope ≠ scope) : taken.Tracks (past ++ us) scope := by
  intro n
  rw [h n, holder?_append_of_scope_ne hs]

lemma Tracks.append_of_not_granted {u : Turn} (h : taken.Tracks past scope)
    (hu : u.granted = false) : taken.Tracks (past ++ [u]) scope := by
  intro n
  rw [h n, holder?_append_of_not_granted hu]

/-- A claim that fails reports what the turn reports. -/
lemma Tracks.turn_of_claim_error {r : Request} {e : KeyError} (h : taken.Tracks past r.scope)
    (hf : r.faults default = []) (hc : taken.claim r.key r.names = .error e) :
    (r.turn default past).plan = ⟨[], [e]⟩ := by
  unfold claim at hc
  rw [h.firstTaken?] at hc
  cases hr : r.clash? past with
  | none => simp [hr] at hc
  | some c =>
    obtain ⟨name, existing⟩ := c
    simp only [hr, Except.error.injEq] at hc
    subst hc
    exact Request.outcome_of_clash hf hr

/-- A claim that succeeds is a turn that is granted, and the new table tracks it. -/
lemma Tracks.turn_of_claim_ok {r : Request} (h : taken.Tracks past r.scope)
    (hf : r.faults default = []) (hc : taken.claim r.key r.names = .ok taken') :
    (r.turn default past).granted ∧
      taken'.Tracks (past ++ [r.turn default past]) r.scope := by
  unfold claim at hc
  rw [h.firstTaken?] at hc
  cases hr : r.clash? past with
  | some c => simp [hr] at hc
  | none =>
    simp only [hr, Except.ok.injEq] at hc
    subst hc
    have hg : (r.turn default past).granted := Request.turn_granted_iff.2 ⟨hf, hr⟩
    refine ⟨hg, fun n => ?_⟩
    rw [List.lookup_append, lookup_map_const, h n, holder?_append, holder?_singleton]
    by_cases hn : n ∈ r.names
    · have hfree := clash?_eq_none_iff.1 hr n hn
      have hgives : (r.turn default past).gives r.scope n := gives_iff.2 ⟨hg, rfl, hn⟩
      simp [hn, hfree, hgives]
    · have hgives : ¬(r.turn default past).gives r.scope n := fun h' => hn (gives_iff.1 h').2.2
      simp [hn, hgives]

end Claims

/-! ## Blocks -/

namespace Block

variable {default : String} {taken : Claims} {past : List Turn} {scope : Scope}

/-- Carrying a block out is the turn of its request. -/
lemma visit_eq_turn (default : String) (h : taken.Tracks past scope) (b : Block) :
    (b.visit default taken).2 = ((Request.ofBlock scope b).turn default past).plan ∧
      (b.visit default taken).1.Tracks
        (past ++ [(Request.ofBlock scope b).turn default past]) scope := by
  unfold visit
  cases hb : b.errors default with
  | cons e es =>
    have hf : (Request.ofBlock scope b).faults default = e :: es := hb
    have hplan : ((Request.ofBlock scope b).turn default past).plan = ⟨[], e :: es⟩ := by
      rw [← hf]
      exact Request.outcome_of_faults (by simp [hf])
    exact ⟨hplan.symm, h.append_of_not_granted (by simp [Turn.granted, hplan])⟩
  | nil =>
    have hf : (Request.ofBlock scope b).faults default = [] := hb
    cases hc : taken.claim b.key b.names with
    | error e =>
      have hplan := Claims.Tracks.turn_of_claim_error (r := .ofBlock scope b) h hf hc
      exact ⟨hplan.symm, h.append_of_not_granted (by simp [Turn.granted, hplan])⟩
    | ok taken' =>
      have hok := Claims.Tracks.turn_of_claim_ok (r := .ofBlock scope b) h hf hc
      exact ⟨(Request.plan_of_granted hok.1).symm, hok.2⟩

/-- Carrying blocks out one after another is the turns of their requests. -/
lemma visitAll_eq_turns (h : taken.Tracks past scope) (bs : List Block) :
    visitAll default taken bs =
      Plan.ofTurns (Request.turns default past (bs.map (.ofBlock scope))) := by
  induction bs generalizing taken past with
  | nil => rfl
  | cons b rest ih =>
    have hb := visit_eq_turn default h b
    rw [visitAll, List.map_cons, Request.turns, Plan.ofTurns_cons, ← hb.1, ← ih hb.2]

end Block

/-! ## Entries -/

/-- The tables track the history, and members were only asked for in types that are held. -/
structure Names.Tracks (names : Names) (past : List Turn) : Prop where
  accessors : names.accessors.Tracks past .accessors
  types : names.types.Tracks past .types
  rooted : ∀ u ∈ past, ∀ type, u.request.scope = .members type →
    (holder? past .types type).isSome

namespace Names.Tracks

variable {default : String} {names : Names} {past us : List Turn}

lemma nil : Names.Tracks ⟨[], []⟩ [] :=
  ⟨fun _ => rfl, fun _ => rfl, fun _ h => nomatch h⟩

/-- Old members stay in types that are held, whatever comes after. -/
lemma rooted_append (h : names.Tracks past)
    (hus : ∀ u ∈ us, ∀ type, u.request.scope = .members type →
      (holder? (past ++ us) .types type).isSome) :
    ∀ u ∈ past ++ us, ∀ type, u.request.scope = .members type →
      (holder? (past ++ us) .types type).isSome := by
  intro u hu type hs
  rcases List.mem_append.1 hu with hu | hu
  · obtain ⟨key, hkey⟩ := Option.isSome_iff_exists.1 (h.rooted u hu type hs)
    rw [holder?_append_of_some hkey]
    rfl
  · exact hus u hu type hs

/-- A turn for accessor names, and the table of accessors that tracks it. -/
lemma append_accessor {u : Turn} {taken : Claims} (h : names.Tracks past)
    (hu : u.request.scope = .accessors) (ht : taken.Tracks (past ++ [u]) .accessors) :
    Names.Tracks { names with accessors := taken } (past ++ [u]) where
  accessors := ht
  types := h.types.append_of_scope_ne (by simp [hu])
  rooted := h.rooted_append (by simp [hu])

/-- Before a type is held, no member of it has been asked for. -/
lemma members_free (h : names.Tracks past) {type : String}
    (ht : holder? past .types type = none) :
    Claims.Tracks [] past (.members type) := by
  intro n
  refine (holder?_of_scope_ne fun u hu hs => ?_).symm
  simpa [ht] using h.rooted u hu type hs

end Names.Tracks

namespace Entry

variable {default : String} {names : Names} {past : List Turn}

lemma scope_further {e : Entry} {r : Request} (h : r ∈ e.further) :
    r.scope = .members e.address.typeName := by
  obtain ⟨rs, -, field, -, rfl⟩ := exists_of_mem_further h
  rfl

lemma scope_turns_further {e : Entry} {u : Turn}
    (h : u ∈ Request.turns default past e.further) :
    u.request.scope = .members e.address.typeName := by
  refine scope_further (e := e) ?_
  rw [← Request.map_request_turns default past e.further]
  exact List.mem_map_of_mem h

/-- An entry with a single block comes to the turn of that block. -/
lemma visit_block_eq_turns (h : names.Tracks past) (e : Entry) (b : Block)
    (hf : e.first default = .ofBlock .accessors b) (hr : e.further = []) :
    (b.visit default names.accessors).2 = Plan.ofTurns (e.turns default past) ∧
      Names.Tracks { names with accessors := (b.visit default names.accessors).1 }
        (past ++ e.turns default past) := by
  have hb := Block.visit_eq_turn default h.accessors b
  have ht : e.turns default past = [(Request.ofBlock .accessors b).turn default past] := by
    simp [turns, hf, hr, Request.turns]
  rw [ht, hb.1, Plan.ofTurns_cons, Plan.ofTurns_nil, Plan.append_empty]
  exact ⟨rfl, h.append_accessor rfl hb.2⟩

section Records

variable {a : Address} {rs : List Record}

/-- A list of records whose type is taken comes to the one turn that reports it. -/
lemma visit_records_of_error {error : KeyError} (h : names.Tracks past)
    (hc : names.types.claim a.key [a.typeName] = .error error) :
    (visit default names ⟨a, .records rs⟩).2 =
        Plan.ofTurns (turns default past ⟨a, .records rs⟩) ∧
      (visit default names ⟨a, .records rs⟩).1.Tracks
        (past ++ turns default past ⟨a, .records rs⟩) := by
  have hplan : ((Request.ofType a).turn default past).plan = ⟨[], [error]⟩ :=
    Claims.Tracks.turn_of_claim_error (r := .ofType a) h.types rfl hc
  have hg : ((Request.ofType a).turn default past).granted = false := by
    simp [Turn.granted, hplan]
  have hturns : turns default past ⟨a, .records rs⟩ = [(Request.ofType a).turn default past] := by
    simp [turns, first, hg]
  have hvisit : visit default names ⟨a, .records rs⟩ = (names, ⟨[], [error]⟩) := by
    simp [visit, hc]
  rw [hturns, hvisit, Plan.ofTurns_cons, hplan, Plan.ofTurns_nil, Plan.append_empty]
  refine ⟨rfl, h.accessors.append_of_not_granted hg, h.types.append_of_not_granted hg, ?_⟩
  exact h.rooted_append (by simp)

/-- A list of records whose type is free comes to the turn that takes it and the turns of its
fields. -/
lemma visit_records_of_ok {types : Claims} (h : names.Tracks past)
    (hc : names.types.claim a.key [a.typeName] = .ok types) :
    (visit default names ⟨a, .records rs⟩).2 =
        Plan.ofTurns (turns default past ⟨a, .records rs⟩) ∧
      (visit default names ⟨a, .records rs⟩).1.Tracks
        (past ++ turns default past ⟨a, .records rs⟩) := by
  set e : Entry := ⟨a, .records rs⟩ with he
  set u := (Request.ofType a).turn default past with hu
  set us := Request.turns default (past ++ [u]) e.further with hus
  obtain ⟨hg, htypes⟩ : u.granted ∧ types.Tracks (past ++ [u]) .types :=
    Claims.Tracks.turn_of_claim_ok (r := .ofType a) h.types rfl hc
  have htype : u.request.scope = .types := rfl
  have hmember : ∀ w ∈ us, w.request.scope = .members a.typeName :=
    fun w hw => scope_turns_further hw
  -- the type is free before its turn and held after it, so no member of it was asked for before
  have hfree : holder? past .types a.typeName = none :=
    clash?_eq_none_iff.1 (Request.turn_granted_iff.1 hg).2 a.typeName (List.mem_singleton_self _)
  have hheld : holder? (past ++ [u]) .types a.typeName = some a.key := by
    have hgives : u.gives .types a.typeName := gives_iff.2 ⟨hg, rfl, List.mem_singleton_self _⟩
    rw [holder?_append, hfree, holder?_singleton, if_pos hgives]
    rfl
  have hmembers : Claims.Tracks [] (past ++ [u]) (.members a.typeName) :=
    (h.members_free hfree).append_of_scope_ne (by simp [htype])
  have hturns : e.turns default past = u :: us := by
    have hfirst : e.first default = .ofType a := rfl
    simp [turns, hfirst, ← hu, hg, hus]
  -- the name of a type makes no step
  have hplan : Plan.ofTurns (u :: us) = Plan.ofTurns us := by
    have hempty : u.plan = .empty := Request.plan_of_granted hg
    rw [Plan.ofTurns_cons, hempty, Plan.empty_append]
  have hvisit : e.visit default names = ({ names with types }, Plan.ofTurns us) := by
    simp only [visit, he, hc, Block.visitAll_eq_turns hmembers, hus, further, List.map_map]
    rfl
  rw [hvisit, hturns, hplan, List.append_cons]
  refine ⟨rfl, ?_, ?_, ?_⟩
  · refine (h.accessors.append_of_scope_ne ?_).append_of_scope_ne ?_
    · simp [htype]
    · exact fun w hw => by simp [hmember w hw]
  · exact htypes.append_of_scope_ne fun w hw => by simp [hmember w hw]
  · rw [List.append_assoc]
    refine h.rooted_append fun w hw type hs => ?_
    have hname : type = a.typeName := by
      rcases List.mem_append.1 hw with hw | hw
      · obtain rfl := List.mem_singleton.1 hw
        exact nomatch htype.symm.trans hs
      · simpa [hmember w hw, eq_comm] using hs
    rw [hname, ← List.append_assoc, holder?_append_of_some hheld]
    rfl

end Records

/-- Carrying an entry out is its turns. -/
lemma visit_eq_turns (default : String) (h : names.Tracks past) (e : Entry) :
    (e.visit default names).2 = Plan.ofTurns (e.turns default past) ∧
      (e.visit default names).1.Tracks (past ++ e.turns default past) := by
  obtain ⟨a, content⟩ := e
  cases content with
  | text v => exact visit_block_eq_turns h ⟨a, .text v⟩ (.ofText a v) rfl rfl
  | list vs => exact visit_block_eq_turns h ⟨a, .list vs⟩ (.ofList default a vs) rfl rfl
  | records rs =>
    cases hc : names.types.claim a.key [a.typeName] with
    | error error => exact visit_records_of_error h hc
    | ok types => exact visit_records_of_ok h hc

lemma visitAll_eq_turnsAll (h : names.Tracks past) (es : List Entry) :
    visitAll default names es = Plan.ofTurns (turnsAll default past es) := by
  induction es generalizing names past with
  | nil => rfl
  | cons e rest ih =>
    have he := visit_eq_turns default h e
    rw [visitAll, turnsAll, Plan.ofTurns_append, ← he.1, ← ih he.2]

end Entry

/-- The plan of a tree is what its turns come to, and the last step. -/
lemma Tree.plan_eq_turns (t : Tree) :
    t.plan = ⟨t.turns.flatMap (·.plan.steps) ++ [.finish], t.turns.flatMap (·.plan.errors)⟩ := by
  rw [plan, Entry.visitAll_eq_turnsAll Names.Tracks.nil, Plan.append_def]
  simp [Plan.ofTurns, turns]

end Phrasebook
