import Mathlib.Tactic.Common
import Phrasebook.Plan

/-!
# The turns of a plan

`Tree.plan` threads two tables of claimed names through the entries of a tree and starts a third
one for every list of records.  Whether a key is left out depends on those tables, so facts about
single keys are hard to read off it.

This file says the same with no tables at all.  A `Request` is what an entry asks for at once:
names in a `Scope`, for some texts and the accessor that reads them.  A `Turn` is a request with
what it came to, and a request is answered from the turns before it (`Request.outcome`): a name is
taken exactly if an earlier turn *of the same scope that was granted* asked for it (`holder?`).
The history is the whole state.

* `Entry.first` and `Entry.further` are the requests of an entry; the further ones are only made
  if the first is granted.
* `Tree.turns` are the turns of a tree, in the order of its entries.
* `Settled` says that every turn of a history is answered from the turns before it;
  `settled_turns` proves it of `Tree.turns`, and `Settled.outcome_of_split` reads it at a place.

That the plan of a tree is the plan of its turns is proved in `Proofs/Plan/Refinement.lean`.
-/

namespace Phrasebook

/-! ## Requests -/

/-- The names that compete with one another. -/
inductive Scope where
  /-- The accessors of texts and of lists. -/
  | accessors
  /-- The types of lists of records. -/
  | types
  /-- The members of the type called `type`. -/
  | members (type : String)
  deriving DecidableEq

/-- What is asked for at once: names, texts, and the accessor that reads them. -/
structure Request where
  /-- Where the names must be free. -/
  scope : Scope
  /-- The key that is to hold the names. -/
  key : String
  /-- The names. -/
  names : List String
  /-- The values the accessor reads, with their lookup keys. -/
  values : List (String × Value)
  /-- The step that declares the accessor; the name of a type alone has none. -/
  accessor? : Option Step

namespace Request

/-- The request of a block, whose names compete in `scope`. -/
def ofBlock (scope : Scope) (b : Block) : Request :=
  ⟨scope, b.key, b.names, b.values, some b.accessor⟩

/-- The request of a list of records for the name of its type. -/
def ofType (a : Address) : Request := ⟨.types, a.key, [a.typeName], [], none⟩

/-- One error for each text that asks for an argument that there is not. -/
def faults (default : String) (r : Request) : List KeyError :=
  r.values.flatMap fun (key, v) => v.errors default key

/-- All that is to be done: the texts of all values, then the accessor. -/
def steps (default : String) (r : Request) : List Step :=
  (r.values.flatMap fun (key, v) => v.steps default key) ++ r.accessor?.toList

end Request

namespace Entry

/-- What an entry asks for first. -/
def first (default : String) (e : Entry) : Request :=
  match e.content with
  | .text v => .ofBlock .accessors (.ofText e.address v)
  | .list vs => .ofBlock .accessors (.ofList default e.address vs)
  | .records _ => .ofType e.address

/-- What an entry asks for once it has got what it asked for first: the fields of its records. -/
def further (e : Entry) : List Request :=
  match e.content with
  | .text _ => []
  | .list _ => []
  | .records rs =>
    (Record.fieldNames rs).map fun field =>
      .ofBlock (.members e.address.typeName) (.ofField e.address rs field)

/-- What an entry asks for further are the fields of its records. -/
lemma exists_of_mem_further {e : Entry} {r : Request} (h : r ∈ e.further) :
    ∃ rs, e.content = .records rs ∧ ∃ field ∈ Record.fieldNames rs,
      r = .ofBlock (.members e.address.typeName) (.ofField e.address rs field) := by
  obtain ⟨a, content⟩ := e
  cases content with
  | text v => exact absurd h List.not_mem_nil
  | list vs => exact absurd h List.not_mem_nil
  | records rs =>
    obtain ⟨field, hfield, rfl⟩ := List.mem_map.1 h
    exact ⟨rs, rfl, field, hfield, rfl⟩

end Entry

lemma nodup_eraseDups {α : Type*} [BEq α] [LawfulBEq α] (l : List α) : l.eraseDups.Nodup := by
  cases l with
  | nil => exact .nil
  | cons a rest =>
    rw [List.eraseDups_cons, List.nodup_cons]
    exact ⟨by simp [List.mem_eraseDups], nodup_eraseDups _⟩
termination_by l.length
decreasing_by exact Nat.lt_succ_of_le (List.length_filter_le ..)

lemma Record.nodup_fieldNames (rs : List Record) : (Record.fieldNames rs).Nodup :=
  nodup_eraseDups _

/-! ## Turns -/

/-- A request and what it came to. -/
structure Turn where
  /-- What was asked for. -/
  request : Request
  /-- The steps that were made and the errors that were reported. -/
  plan : Plan

namespace Turn

/-- Whether the request was granted: no error was reported. -/
def granted (u : Turn) : Bool := u.plan.errors.isEmpty

/-- Whether the turn gave `name` in `scope` to its key. -/
def gives (scope : Scope) (name : String) (u : Turn) : Bool :=
  u.granted && u.request.scope = scope && name ∈ u.request.names

/-- Whether the step that declares the accessor was made. -/
def declares (u : Turn) : Bool := u.request.accessor?.any (· ∈ u.plan.steps)

end Turn

/-- The key that holds `name` in `scope` after the turns `past`. -/
def holder? (past : List Turn) (scope : Scope) (name : String) : Option String :=
  (past.find? (·.gives scope name)).map (·.request.key)

namespace Request

/-- The first name asked for that is held after the turns `past`, with the key that holds it. -/
def clash? (past : List Turn) (r : Request) : Option (String × String) :=
  r.names.findSome? fun n => (holder? past r.scope n).map (n, ·)

/-- What a request comes to after the turns `past`. -/
def outcome (default : String) (past : List Turn) (r : Request) : Plan :=
  match r.faults default with
  | [] =>
    match r.clash? past with
    | none => ⟨r.steps default, []⟩
    | some (name, existing) => ⟨[], [.nameTaken r.key name existing]⟩
  | faults => ⟨[], faults⟩

/-- The turn of a request after the turns `past`. -/
def turn (default : String) (past : List Turn) (r : Request) : Turn :=
  ⟨r, r.outcome default past⟩

/-- The turns of requests that are made one after another, after the turns `past`. -/
def turns (default : String) (past : List Turn) : List Request → List Turn
  | [] => []
  | r :: rest => r.turn default past :: turns default (past ++ [r.turn default past]) rest

end Request

namespace Entry

/-- The turns of an entry after the turns `past`. -/
def turns (default : String) (past : List Turn) (e : Entry) : List Turn :=
  let u := (e.first default).turn default past
  u :: if u.granted then Request.turns default (past ++ [u]) e.further else []

/-- The turns of entries in order, after the turns `past`. -/
def turnsAll (default : String) (past : List Turn) : List Entry → List Turn
  | [] => []
  | e :: rest => e.turns default past ++ turnsAll default (past ++ e.turns default past) rest

end Entry

/-- The turns of a tree. -/
def Tree.turns (t : Tree) : List Turn := Entry.turnsAll t.defaultLanguage [] t.entries

/-- The values whose accessors are declared, with their lookup keys, in order. -/
def Tree.served (t : Tree) : List (String × Value) :=
  (t.turns.filter Turn.declares).flatMap (·.request.values)

/-! ## What a request comes to -/

namespace Request

variable {default : String} {past : List Turn} {r : Request}

lemma outcome_of_faults (h : r.faults default ≠ []) :
    r.outcome default past = ⟨[], r.faults default⟩ := by
  unfold outcome
  split
  · rename_i h'
    exact absurd h' h
  · rfl

lemma outcome_of_clash {name existing : String} (h : r.faults default = [])
    (hc : r.clash? past = some (name, existing)) :
    r.outcome default past = ⟨[], [.nameTaken r.key name existing]⟩ := by
  simp only [outcome, h, hc]

lemma outcome_of_free (h : r.faults default = []) (hc : r.clash? past = none) :
    r.outcome default past = ⟨r.steps default, []⟩ := by
  simp only [outcome, h, hc]

/-- A request comes to its steps or to errors, never to both. -/
lemma outcome_cases (default : String) (past : List Turn) (r : Request) :
    (r.outcome default past = ⟨r.steps default, []⟩ ∧ r.faults default = [] ∧
        r.clash? past = none) ∨
      ((r.outcome default past).errors ≠ [] ∧ (r.outcome default past).steps = []) := by
  by_cases h : r.faults default = []
  · cases hc : r.clash? past with
    | none => exact .inl ⟨outcome_of_free h hc, h, rfl⟩
    | some c =>
      obtain ⟨name, existing⟩ := c
      rw [outcome_of_clash h hc]
      exact .inr ⟨List.cons_ne_nil _ _, rfl⟩
  · rw [outcome_of_faults h]
    exact .inr ⟨h, rfl⟩

@[simp] lemma scope_ofType (a : Address) : (ofType a).scope = .types := rfl

@[simp] lemma turn_request : (r.turn default past).request = r := rfl

lemma turn_granted_iff :
    (r.turn default past).granted ↔ r.faults default = [] ∧ r.clash? past = none := by
  simp only [turn, Turn.granted, List.isEmpty_iff]
  obtain ⟨h, hf, hc⟩ | ⟨h, -⟩ := outcome_cases default past r
  · simp [h, hf, hc]
  · refine ⟨fun h' => absurd h' h, fun ⟨hf, hc⟩ => ?_⟩
    rw [outcome_of_free hf hc]

lemma plan_of_granted (h : (r.turn default past).granted) :
    (r.turn default past).plan = ⟨r.steps default, []⟩ := by
  obtain ⟨hf, hc⟩ := turn_granted_iff.1 h
  exact outcome_of_free hf hc

lemma steps_of_not_granted (h : (r.turn default past).granted = false) :
    (r.turn default past).plan.steps = [] := by
  obtain ⟨-, hf, hc⟩ | ⟨-, hs⟩ := outcome_cases default past r
  · exact absurd (turn_granted_iff.2 ⟨hf, hc⟩) (by simp [h])
  · exact hs

/-- What a request comes to depends on the past only through who holds what in its scope. -/
lemma outcome_congr {past' : List Turn}
    (h : ∀ n, holder? past r.scope n = holder? past' r.scope n) :
    r.outcome default past = r.outcome default past' := by
  have hc : r.clash? past = r.clash? past' := by
    unfold clash?
    exact congrArg (List.findSome? · r.names) (funext fun n => by rw [h n])
  unfold outcome
  rw [hc]

@[simp] lemma map_request_turns (default : String) (past : List Turn) (rs : List Request) :
    (turns default past rs).map (·.request) = rs := by
  induction rs generalizing past with
  | nil => rfl
  | cons r rest ih => rw [turns, List.map_cons, ih]; rfl

end Request

/-! ## Who holds a name -/

section Holder

variable {past us : List Turn} {scope : Scope} {name : String}

lemma holder?_append :
    holder? (past ++ us) scope name = (holder? past scope name).or (holder? us scope name) := by
  simp only [holder?, List.find?_append]
  cases past.find? (·.gives scope name) <;> rfl

lemma holder?_singleton (u : Turn) :
    holder? [u] scope name = if u.gives scope name then some u.request.key else none := by
  simp only [holder?, List.find?_singleton]
  split <;> rfl

lemma gives_iff {u : Turn} :
    u.gives scope name ↔ u.granted ∧ u.request.scope = scope ∧ name ∈ u.request.names := by
  simp [Turn.gives, and_assoc]

lemma holder?_eq_none_iff : holder? past scope name = none ↔ ∀ u ∈ past, ¬u.gives scope name := by
  simp [holder?]

lemma exists_of_holder? {key : String} (h : holder? past scope name = some key) :
    ∃ u ∈ past, u.gives scope name ∧ u.request.key = key := by
  obtain ⟨u, hu, rfl⟩ := Option.map_eq_some_iff.1 h
  exact ⟨u, List.mem_of_find?_eq_some hu, List.find?_some hu, rfl⟩

/-- What is held stays held, by the same key. -/
lemma holder?_append_of_some {key : String} (h : holder? past scope name = some key) :
    holder? (past ++ us) scope name = some key := by
  rw [holder?_append, h, Option.some_or]

/-- Only granted turns count. -/
lemma holder?_filter_granted (past : List Turn) (scope : Scope) (name : String) :
    holder? (past.filter Turn.granted) scope name = holder? past scope name := by
  rw [holder?, holder?, List.find?_filter]
  congr 2
  funext u
  simp [Turn.gives, ← Bool.and_assoc]

end Holder

/-! ## Histories -/

/-- Each turn of `us` comes to what the turns before it, those of `past` included, make of its
request. -/
def Settled (default : String) (past : List Turn) : List Turn → Prop
  | [] => True
  | u :: us => u.plan = u.request.outcome default past ∧ Settled default (past ++ [u]) us

namespace Settled

variable {default : String} {past us vs : List Turn}

lemma append_iff :
    Settled default past (us ++ vs) ↔
      Settled default past us ∧ Settled default (past ++ us) vs := by
  induction us generalizing past with
  | nil => simp [Settled]
  | cons u us ih => simp [Settled, ih, and_assoc]

/-- Every turn of a settled history is answered from the turns before it. -/
lemma outcome_of_split {u : Turn} (h : Settled default past (us ++ u :: vs)) :
    u.plan = u.request.outcome default (past ++ us) :=
  (append_iff.1 h).2.1

lemma exists_turn {u : Turn} (h : Settled default past us) (hu : u ∈ us) :
    ∃ before, u = u.request.turn default before := by
  obtain ⟨before, after, rfl⟩ := List.append_of_mem hu
  exact ⟨past ++ before, congrArg (Turn.mk u.request) h.outcome_of_split⟩

lemma steps_of_granted {u : Turn} (h : Settled default past us) (hu : u ∈ us) (hg : u.granted) :
    u.plan.steps = u.request.steps default := by
  obtain ⟨before, hturn⟩ := h.exists_turn hu
  rw [hturn] at hg ⊢
  rw [Request.plan_of_granted hg]
  rfl

lemma steps_of_not_granted {u : Turn} (h : Settled default past us) (hu : u ∈ us)
    (hg : ¬u.granted) : u.plan.steps = [] := by
  obtain ⟨before, hturn⟩ := h.exists_turn hu
  rw [hturn] at hg ⊢
  exact Request.steps_of_not_granted (by simpa using hg)

/-- The steps of a turn are among those that were asked for. -/
lemma mem_steps_of_mem {u : Turn} {s : Step} (h : Settled default past us) (hu : u ∈ us)
    (hs : s ∈ u.plan.steps) : s ∈ u.request.steps default := by
  by_cases hg : u.granted
  · rwa [← h.steps_of_granted hu hg]
  · rw [h.steps_of_not_granted hu hg] at hs
    exact nomatch hs

lemma granted_of_declares {u : Turn} (h : Settled default past us) (hu : u ∈ us)
    (hd : u.declares) : u.granted := by
  by_contra hg
  simp [Turn.declares, h.steps_of_not_granted hu hg] at hd

end Settled

lemma Request.settled_turns (default : String) (past : List Turn) (rs : List Request) :
    Settled default past (Request.turns default past rs) := by
  induction rs generalizing past with
  | nil => trivial
  | cons r rest ih => exact ⟨rfl, ih _⟩

namespace Entry

lemma settled_turns (default : String) (past : List Turn) (e : Entry) :
    Settled default past (e.turns default past) := by
  refine ⟨rfl, ?_⟩
  split
  · exact Request.settled_turns ..
  · trivial

lemma settled_turnsAll (default : String) (past : List Turn) (es : List Entry) :
    Settled default past (turnsAll default past es) := by
  induction es generalizing past with
  | nil => trivial
  | cons e rest ih => exact Settled.append_iff.2 ⟨settled_turns .., ih _⟩

lemma turnsAll_append (default : String) (past : List Turn) (es fs : List Entry) :
    turnsAll default past (es ++ fs) =
      turnsAll default past es ++ turnsAll default (past ++ turnsAll default past es) fs := by
  induction es generalizing past with
  | nil => simp [turnsAll]
  | cons e rest ih => simp [turnsAll, ih, List.append_assoc]

/-- The turns of entries in order, after the turns `past`, with a group for each entry. -/
def groups (default : String) (past : List Turn) : List Entry → List (List Turn)
  | [] => []
  | e :: rest => e.turns default past :: groups default (past ++ e.turns default past) rest

lemma flatten_groups (default : String) (past : List Turn) (es : List Entry) :
    (groups default past es).flatten = turnsAll default past es := by
  induction es generalizing past with
  | nil => rfl
  | cons e rest ih => rw [groups, List.flatten_cons, ih, turnsAll]

end Entry

lemma Tree.settled_turns (t : Tree) : Settled t.defaultLanguage [] t.turns :=
  Entry.settled_turnsAll ..

/-! ## The plan of turns -/

/-- Only the elements picked by `p` contribute. -/
lemma flatMap_eq_flatMap_filter {α β : Type*} {l : List α} {p : α → Bool} {f g : α → List β}
    (h : ∀ a ∈ l, f a = if p a then g a else []) : l.flatMap f = (l.filter p).flatMap g := by
  induction l with
  | nil => rfl
  | cons a rest ih =>
    obtain ⟨ha, hrest⟩ := List.forall_mem_cons.1 h
    rw [List.flatMap_cons, ha, ih hrest, List.filter_cons]
    split
    · rw [List.flatMap_cons]
    · rw [List.nil_append]

namespace Plan

/-- The plan that turns come to together. -/
def ofTurns (us : List Turn) : Plan :=
  ⟨us.flatMap (·.plan.steps), us.flatMap (·.plan.errors)⟩

lemma append_def (p q : Plan) : p ++ q = ⟨p.steps ++ q.steps, p.errors ++ q.errors⟩ := rfl

@[simp] lemma ofTurns_nil : ofTurns [] = .empty := rfl

lemma ofTurns_append (us vs : List Turn) : ofTurns (us ++ vs) = ofTurns us ++ ofTurns vs := by
  simp [ofTurns, append_def]

lemma ofTurns_cons (u : Turn) (us : List Turn) : ofTurns (u :: us) = u.plan ++ ofTurns us := by
  simp [ofTurns, append_def]

@[simp] lemma append_empty (p : Plan) : p ++ empty = p := by
  simp [append_def, empty]

@[simp] lemma empty_append (p : Plan) : empty ++ p = p := by
  simp [append_def, empty]

end Plan

end Phrasebook
