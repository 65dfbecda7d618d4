import Phrasebook.Proofs.Plan.Refinement

/-!
# What a plan files

A `Filing` is a text together with its place in the tables: a language and a lookup key.  Two
questions about a plan are questions about its filings alone: what the tables hold in the end, and
whether a text is filed over another.

`Tree.filings_eq` answers what the filings are without mentioning steps: they are the texts of the
values that are served, in order.  A request files what its values say if its accessor is declared,
and nothing otherwise (`Turn.filings_eq`); the name of a type, which has no accessor, has no values
either (`Request.Sound`).

What holds of every turn is proved of what its entry may ask for (`Entry.MayAsk`), by one case for
each kind of request.
-/

namespace Phrasebook

/-! ## Filings -/

/-- A text and its place in the tables. -/
structure Filing where
  /-- The language of the table. -/
  language : String
  /-- The key in the table. -/
  key : String
  /-- The text. -/
  text : String
  deriving DecidableEq

/-- What a step files. -/
def Step.filing? : Step → Option Filing
  | .text key wording language => some ⟨language, key, wording⟩
  | .accessor .. => none
  | .listAccessor .. => none
  | .fieldAccessor .. => none
  | .finish => none

/-- What a value files under `key`: all its texts. -/
def Value.filings (v : Value) (default key : String) : List Filing :=
  (v.texts default).map fun (language, text) => ⟨language, key, text⟩

/-- What the steps of the plan file, in order. -/
def Tree.filings (t : Tree) : List Filing := t.plan.steps.filterMap Step.filing?

lemma Value.filterMap_filing?_steps (v : Value) (default key : String) :
    (v.steps default key).filterMap Step.filing? = v.filings default key := by
  rw [steps, filings, List.filterMap_map, ← List.filterMap_eq_map]
  rfl

/-! ## What an entry may ask for -/

namespace Entry

/-- The entry asks for `r`, first or once that is granted: one rule for each thing asked for. -/
inductive MayAsk (default : String) : Entry → Request → Prop
  /-- A text asks for its accessor. -/
  | text (a : Address) (v : Value) : MayAsk default ⟨a, .text v⟩ (.ofBlock .accessors (.ofText a v))
  /-- A list of texts asks for its accessor. -/
  | list (a : Address) (vs : List Value) :
      MayAsk default ⟨a, .list vs⟩ (.ofBlock .accessors (.ofList default a vs))
  /-- A list of records asks for the name of its type. -/
  | type (a : Address) (rs : List Record) : MayAsk default ⟨a, .records rs⟩ (.ofType a)
  /-- A list of records asks for the accessors of its fields. -/
  | field (a : Address) (rs : List Record) (field : String) (mem : field ∈ Record.fieldNames rs) :
      MayAsk default ⟨a, .records rs⟩ (.ofBlock (.members a.typeName) (.ofField a rs field))

variable {default : String} {past : List Turn} {e : Entry} {u : Turn}

lemma mayAsk_first (default : String) (e : Entry) : e.MayAsk default (e.first default) := by
  obtain ⟨a, content⟩ := e
  cases content with
  | text v => exact .text a v
  | list vs => exact .list a vs
  | records rs => exact .type a rs

lemma mayAsk_of_mem_further {r : Request} (h : r ∈ e.further) : e.MayAsk default r := by
  obtain ⟨rs, hcontent, field, hfield, rfl⟩ := exists_of_mem_further h
  obtain ⟨a, content⟩ := e
  subst hcontent
  exact .field a rs field hfield

/-- A turn of an entry is its first one, or the first one was granted and it is a further one. -/
lemma mem_turns_cases (h : u ∈ e.turns default past) :
    u.request = e.first default ∨
      ((e.first default).turn default past).granted ∧ u.request ∈ e.further := by
  rcases List.mem_cons.1 h with rfl | h
  · exact .inl rfl
  · split at h
    · rename_i hg
      refine .inr ⟨hg, ?_⟩
      rw [← Request.map_request_turns default _ e.further]
      exact List.mem_map_of_mem h
    · exact absurd h List.not_mem_nil

lemma mayAsk_of_mem_turns (h : u ∈ e.turns default past) : e.MayAsk default u.request := by
  rcases mem_turns_cases h with hfirst | ⟨-, hfurther⟩
  · rw [hfirst]
    exact mayAsk_first default e
  · exact mayAsk_of_mem_further hfurther

lemma mayAsk_of_mem_turnsAll {es : List Entry} (h : u ∈ turnsAll default past es) :
    ∃ e ∈ es, e.MayAsk default u.request := by
  induction es generalizing past with
  | nil => exact nomatch h
  | cons e rest ih =>
    rcases List.mem_append.1 h with h | h
    · exact ⟨e, List.mem_cons_self, mayAsk_of_mem_turns h⟩
    · obtain ⟨f, hf, hu⟩ := ih h
      exact ⟨f, List.mem_cons_of_mem _ hf, hu⟩

end Entry

/-! ## Requests with and without an accessor -/

/-- Declaring the accessor files nothing, and without an accessor there are no values. -/
def Request.Sound (r : Request) : Prop :=
  match r.accessor? with
  | some s => s.filing? = none
  | none => r.values = []

lemma Entry.MayAsk.sound {default : String} {e : Entry} {r : Request} (h : e.MayAsk default r) :
    r.Sound := by
  cases h <;> exact rfl

namespace Tree

variable {t : Tree} {u : Turn}

lemma sound_of_mem_turns (h : u ∈ t.turns) : u.request.Sound := by
  obtain ⟨e, -, hask⟩ := Entry.mayAsk_of_mem_turnsAll h
  exact hask.sound

/-- An accessor is declared exactly if there is one and it is granted. -/
lemma declares_iff (h : u ∈ t.turns) :
    u.declares ↔ u.request.accessor?.isSome ∧ u.granted := by
  by_cases hg : u.granted
  · have hsteps := t.settled_turns.steps_of_granted h hg
    cases ha : u.request.accessor? with
    | none => simp [Turn.declares, ha]
    | some s => simp [Turn.declares, ha, hsteps, hg, Request.steps]
  · have hsteps := t.settled_turns.steps_of_not_granted h hg
    cases ha : u.request.accessor? with
    | none => simp [Turn.declares, ha]
    | some s => simp [Turn.declares, ha, hsteps, hg]

end Tree

/-! ## The filings of a tree -/

lemma Request.filterMap_filing?_steps {default : String} {r : Request} (h : r.Sound) :
    (r.steps default).filterMap Step.filing? =
      r.values.flatMap fun (key, v) => v.filings default key := by
  have haccessor : r.accessor?.toList.filterMap Step.filing? = [] := by
    unfold Sound at h
    cases ha : r.accessor? with
    | none => rfl
    | some s =>
      rw [ha] at h
      simp [h]
  rw [steps, List.filterMap_append, haccessor, List.append_nil, List.filterMap_flatMap]
  simp only [Value.filterMap_filing?_steps]

lemma Turn.filings_eq {t : Tree} {u : Turn} (h : u ∈ t.turns) :
    u.plan.steps.filterMap Step.filing? =
      if u.declares then
        u.request.values.flatMap fun (key, v) => v.filings t.defaultLanguage key
      else [] := by
  have hsound := Tree.sound_of_mem_turns h
  by_cases hg : u.granted
  · rw [t.settled_turns.steps_of_granted h hg, Request.filterMap_filing?_steps hsound]
    split
    · rfl
    · rename_i hd
      have hnone : u.request.accessor? = none := by
        simpa [hg] using mt (Tree.declares_iff h).2 hd
      have hvalues : u.request.values = [] := by
        simpa [Request.Sound, hnone] using hsound
      rw [hvalues, List.flatMap_nil]
  · have hd : ¬u.declares := fun hd => hg ((Tree.declares_iff h).1 hd).2
    rw [t.settled_turns.steps_of_not_granted h hg, if_neg hd, List.filterMap_nil]

/-- What is filed are the texts of the values that are served. -/
lemma Tree.filings_eq (t : Tree) :
    t.filings = t.served.flatMap fun (key, v) => v.filings t.defaultLanguage key := by
  rw [filings, t.plan_eq_turns, List.filterMap_append, List.filterMap_flatMap, served,
    List.flatMap_assoc]
  have hfinish : [Step.finish].filterMap Step.filing? = [] := rfl
  rw [hfinish, List.append_nil]
  exact flatMap_eq_flatMap_filter fun u hu => Turn.filings_eq hu

end Phrasebook
