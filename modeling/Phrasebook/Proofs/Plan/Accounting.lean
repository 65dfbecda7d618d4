import Phrasebook.Proofs.Plan.Readings

/-!
# Every key is accounted for

Nothing is left out of a plan without a word, and nothing is carried out in part.

The statement is about a division of the plan into turns, one group for each entry of the tree
(`Accounting`).  `Entry.Asks` says which requests an entry makes: a text or a list asks once, a
list of records asks for its type and, only if it gets it, for each of its fields.  What that is
can be read off the entry (`Entry.Legible`), value by value and language by language.  `Answered`
says what a request may come to, in terms of the names that earlier requests hold:

* errors for all texts that ask for an argument that there is not, if there are any;
* else the one error that names the first name already held;
* else all of its steps.

The main result is `Tree.exists_accounting`: the plan of every tree has such a division.
-/

namespace Phrasebook

/-! ## Names that are held -/

/-- An earlier request that was granted asked for `name` in `scope`, for `key`. -/
def Held (past : List Turn) (scope : Scope) (name key : String) : Prop :=
  ∃ u ∈ past, u.plan.errors = [] ∧ u.request.scope = scope ∧ name ∈ u.request.names ∧
    u.request.key = key

section Held

variable {past : List Turn} {scope : Scope} {name key : String}

lemma Turn.granted_iff {u : Turn} : u.granted ↔ u.plan.errors = [] := List.isEmpty_iff

lemma held_of_holder? (h : holder? past scope name = some key) : Held past scope name key := by
  obtain ⟨u, hu, hg, hkey⟩ := exists_of_holder? h
  obtain ⟨hgranted, hscope, hname⟩ := gives_iff.1 hg
  exact ⟨u, hu, Turn.granted_iff.1 hgranted, hscope, hname, hkey⟩

lemma not_held_of_holder? (h : holder? past scope name = none) : ¬Held past scope name key := by
  rintro ⟨u, hu, herrors, hscope, hname, -⟩
  exact holder?_eq_none_iff.1 h u hu (gives_iff.2 ⟨Turn.granted_iff.2 herrors, hscope, hname⟩)

end Held

/-! ## What a request may come to -/

/-- The plan that answers the request `r` after the turns `past`. -/
inductive Answered (default : String) (past : List Turn) (r : Request) : Plan → Prop
  /-- Some texts ask for an argument that there is not: all of them are reported. -/
  | malformed (faulty : r.faults default ≠ []) : Answered default past r ⟨[], r.faults default⟩
  /-- All texts are good, but a name is held: the first one is reported. -/
  | taken {free more : List String} {name existing : String} (good : r.faults default = [])
      (names : r.names = free ++ name :: more)
      (first : ∀ n ∈ free, ∀ key, ¬Held past r.scope n key)
      (held : Held past r.scope name existing) :
      Answered default past r ⟨[], [.nameTaken r.key name existing]⟩
  /-- All texts are good and all names are free: everything is carried out. -/
  | carriedOut (good : r.faults default = [])
      (free : ∀ n ∈ r.names, ∀ key, ¬Held past r.scope n key) :
      Answered default past r ⟨r.steps default, []⟩

lemma Request.answered_outcome (default : String) (past : List Turn) (r : Request) :
    Answered default past r (r.outcome default past) := by
  by_cases hf : r.faults default = []
  · cases hc : r.clash? past with
    | none =>
      rw [outcome_of_free hf hc]
      exact .carriedOut hf fun n hn key => not_held_of_holder? (clash?_eq_none_iff.1 hc n hn)
    | some c =>
      obtain ⟨name, existing⟩ := c
      rw [outcome_of_clash hf hc]
      obtain ⟨free, n, more, hnames, hn, hfirst⟩ := List.findSome?_eq_some_iff.1 hc
      obtain ⟨key, hkey, heq⟩ := Option.map_eq_some_iff.1 hn
      obtain ⟨rfl, rfl⟩ := Prod.mk.inj heq
      refine .taken hf hnames (fun m hm key => not_held_of_holder? ?_) (held_of_holder? hkey)
      simpa using hfirst m hm
  · rw [outcome_of_faults hf]
    exact .malformed hf

/-! ## Entries and their groups -/

/-- The turns of `group` are those of the entry `e`: what it asks for first and, only if that is
granted, all the rest. -/
def Entry.Asks (default : String) (e : Entry) (group : List Turn) : Prop :=
  ∃ u us, group = u :: us ∧ u.request = e.first default ∧
    us.map (·.request) = if u.plan.errors = [] then e.further else []

namespace Entry

lemma asks_turns (default : String) (past : List Turn) (e : Entry) :
    e.Asks default (e.turns default past) := by
  refine ⟨_, _, rfl, rfl, ?_⟩
  by_cases h : ((e.first default).turn default past).granted
  · rw [if_pos h, if_pos (Turn.granted_iff.1 h), Request.map_request_turns]
  · rw [if_neg h, if_neg (mt Turn.granted_iff.2 h), List.map_nil]

lemma forall₂_asks_groups (default : String) (past : List Turn) (es : List Entry) :
    List.Forall₂ (Asks default) es (groups default past es) := by
  induction es generalizing past with
  | nil => exact .nil
  | cons e rest ih => exact .cons (asks_turns default past e) (ih _)

end Entry

/-! ## The whole plan -/

/-- A division of the plan of `t` into turns, with a group for each entry. -/
structure Accounting (t : Tree) (groups : List (List Turn)) : Prop where
  /-- The entries are those that a depth-first walk meets. -/
  met : t.Meets t.entries
  /-- What an entry asks for, and the errors and steps that this may come to, is read off it. -/
  legible : ∀ e ∈ t.entries, e.Legible t.defaultLanguage
  /-- Each group holds what its entry asks for. -/
  asked : List.Forall₂ (Entry.Asks t.defaultLanguage) t.entries groups
  /-- The steps of the turns are all steps but the last. -/
  steps : t.plan.steps = groups.flatten.flatMap (·.plan.steps) ++ [.finish]
  /-- The errors of the turns are all errors. -/
  errors : t.plan.errors = groups.flatten.flatMap (·.plan.errors)
  /-- Each request is answered from the turns before it. -/
  answered : ∀ before u after, groups.flatten = before ++ u :: after →
    Answered t.defaultLanguage before u.request u.plan
  /-- A request that reports no error is carried out whole. -/
  whole : ∀ u ∈ groups.flatten, u.plan.errors = [] →
    u.plan.steps = u.request.steps t.defaultLanguage
  /-- A request that reports an error is not carried out at all. -/
  none : ∀ u ∈ groups.flatten, u.plan.errors ≠ [] → u.plan.steps = []

lemma Settled.answered {default : String} {us before after : List Turn} {u : Turn}
    (h : Settled default [] us) (hus : us = before ++ u :: after) :
    Answered default before u.request u.plan := by
  subst hus
  have hplan : u.plan = u.request.outcome default before := h.outcome_of_split
  rw [hplan]
  exact u.request.answered_outcome default before

/-- **Every key is accounted for.** The plan of a tree divides into the turns of its entries: each
text, list and field is carried out whole or reported, and reported for one reason only. -/
theorem Tree.exists_accounting (t : Tree) : ∃ groups, Accounting t groups := by
  refine ⟨Entry.groups t.defaultLanguage [] t.entries, ?_⟩
  have hflat : (Entry.groups t.defaultLanguage [] t.entries).flatten = t.turns :=
    Entry.flatten_groups ..
  have hsettled := t.settled_turns
  constructor
  case met => exact (t.meets_iff _).2 rfl
  case legible => exact fun e _ => e.legible t.defaultLanguage
  case asked => exact Entry.forall₂_asks_groups ..
  case steps => rw [hflat, t.plan_eq_turns]
  case errors => rw [hflat, t.plan_eq_turns]
  case answered => exact fun before u after h => hsettled.answered (hflat.symm.trans h)
  case whole =>
    intro u hu herrors
    rw [hflat] at hu
    exact hsettled.steps_of_granted hu (Turn.granted_iff.2 herrors)
  case none =>
    intro u hu herrors
    rw [hflat] at hu
    exact hsettled.steps_of_not_granted hu (mt Turn.granted_iff.1 herrors)

end Phrasebook
