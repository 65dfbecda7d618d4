import Mathlib.Data.List.Perm.Basic
import Phrasebook.Proofs.Plan.Accessors

/-!
# A plan without errors does not depend on the order of the keys

Names go to whoever asks first, so which of two keys is left out depends on their order.  Whether
one has to be left out does not.

* If nothing is refused, everything is asked for: the turns of a tree are those of all its
  `requests`, one after another (`Entry.turnsAll_cases`).
* Nothing is refused exactly if all texts are good and no two requests want one name in one scope
  (`Tree.errors_eq_nil_iff`).  Neither condition looks at the order.

A `Rearranged` tree has the same entries in another order, hence the same requests.  The main
result is `Tree.plan_of_rearranged`: its plan has no errors either, and makes the same steps.
-/

namespace Phrasebook

/-! ## Nodes in another order -/

/-- The second nodes are the first ones in another order; inside a group the nodes may have changed
places as well, at any depth. -/
inductive Node.Rearranged : List Node → List Node → Prop
  /-- The nodes change places. -/
  | places {ns ms : List Node} (h : ns.Perm ms) : Rearranged ns ms
  /-- The nodes inside one group are rearranged. -/
  | inside {a : Address} {before after children children' : List Node}
      (h : Rearranged children children') :
      Rearranged (before ++ .group a children :: after) (before ++ .group a children' :: after)
  /-- One rearrangement comes after another. -/
  | trans {ns ms ls : List Node} (h : Rearranged ns ms) (h' : Rearranged ms ls) : Rearranged ns ls

/-- The second tree is the first one with its nodes in another order. -/
structure Tree.Rearranged (t t' : Tree) : Prop where
  /-- The trees are written in one language. -/
  language : t.defaultLanguage = t'.defaultLanguage
  /-- The nodes are the same in another order. -/
  nodes : Node.Rearranged t.nodes t'.nodes

namespace Node

lemma entriesOf_eq_flatMap (ns : List Node) : entriesOf ns = ns.flatMap entries := by
  induction ns with
  | nil => rfl
  | cons n rest ih => rw [entriesOf, ih, List.flatMap_cons]

/-- Rearranged nodes hold the same entries in another order. -/
lemma Rearranged.perm_entriesOf {ns ms : List Node} (h : Rearranged ns ms) :
    (entriesOf ns).Perm (entriesOf ms) := by
  induction h with
  | places h =>
    rw [entriesOf_eq_flatMap, entriesOf_eq_flatMap]
    exact h.flatMap_right _
  | inside h ih =>
    simp only [entriesOf_eq_flatMap, List.flatMap_append, List.flatMap_cons, entries] at ih ⊢
    exact (ih.append_right _).append_left _
  | trans _ _ ih ih' => exact ih.trans ih'

end Node

/-! ## Requests that can be granted together -/

namespace Request

variable {default : String} {past : List Turn} {r s : Request}

/-- The requests do not want one name in one scope. -/
def Compatible (r s : Request) : Prop := r.scope = s.scope → r.names.Disjoint s.names

lemma Compatible.symm (h : r.Compatible s) : s.Compatible r :=
  fun hscope => List.disjoint_symm (h hscope.symm)

/-- One granted turn more leaves the names free that it did not ask for. -/
lemma clash?_append_singleton {u : Turn} (hu : u.granted) :
    r.clash? (past ++ [u]) = none ↔ r.clash? past = none ∧ u.request.Compatible r := by
  have hgives : ∀ n, holder? [u] r.scope n = none ↔
      (u.request.scope = r.scope → n ∉ u.request.names) := by
    intro n
    rw [holder?_singleton, ite_eq_right_iff, gives_iff]
    simp [hu]
  simp only [clash?_eq_none_iff, holder?_append, Option.or_eq_none_iff, hgives]
  constructor
  · exact fun h => ⟨fun n hn => (h n hn).1, fun hscope n hn hn' => (h n hn').2 hscope hn⟩
  · exact fun h n hn => ⟨h.1 n hn, fun hscope hn' => h.2 hscope hn' hn⟩

/-- Requests are all granted if their texts are good, their names are free and no two of them want
one name. -/
lemma granted_turns_iff (past : List Turn) (rs : List Request) :
    (∀ u ∈ turns default past rs, u.granted) ↔
      (∀ r ∈ rs, r.faults default = [] ∧ r.clash? past = none) ∧ rs.Pairwise Compatible := by
  induction rs generalizing past with
  | nil => simp [turns]
  | cons r rest ih =>
    rw [turns, List.forall_mem_cons, ih, turn_granted_iff, List.forall_mem_cons,
      List.pairwise_cons]
    constructor
    · rintro ⟨hr, hrest, hpair⟩
      have hu := turn_granted_iff.2 hr
      refine ⟨⟨hr, fun s hs => ?_⟩, fun s hs => ?_, hpair⟩
      · exact ⟨(hrest s hs).1, ((clash?_append_singleton hu).1 (hrest s hs).2).1⟩
      · exact ((clash?_append_singleton hu).1 (hrest s hs).2).2
    · rintro ⟨⟨hr, hrest⟩, hapart, hpair⟩
      have hu := turn_granted_iff.2 hr
      refine ⟨hr, fun s hs => ⟨(hrest s hs).1, ?_⟩, hpair⟩
      exact (clash?_append_singleton hu).2 ⟨(hrest s hs).2, hapart s hs⟩

lemma turns_append (past : List Turn) (rs ss : List Request) :
    turns default past (rs ++ ss) =
      turns default past rs ++ turns default (past ++ turns default past rs) ss := by
  induction rs generalizing past with
  | nil => simp [turns]
  | cons r rest ih => simp [turns, ih, List.append_assoc]

end Request

/-! ## All that entries ask for -/

namespace Entry

variable {default : String} {past : List Turn}

/-- All that an entry asks for if it is refused nothing. -/
def requests (default : String) (e : Entry) : List Request := e.first default :: e.further

/-- Either an entry asks for all it wants, or its first request is refused. -/
lemma turns_cases (default : String) (past : List Turn) (e : Entry) :
    e.turns default past = Request.turns default past (e.requests default) ∨
      ∃ u, ¬u.granted ∧ u ∈ e.turns default past ∧
        u ∈ Request.turns default past (e.requests default) := by
  by_cases hg : ((e.first default).turn default past).granted
  · refine .inl ?_
    rw [turns, if_pos hg]
    rfl
  · exact .inr ⟨_, hg, List.mem_cons_self, List.mem_cons_self⟩

/-- Either the entries ask for all they want, or something is refused, also if they went on asking
for it. -/
lemma turnsAll_cases (default : String) (past : List Turn) (es : List Entry) :
    turnsAll default past es = Request.turns default past (es.flatMap (requests default)) ∨
      ∃ u, ¬u.granted ∧ u ∈ turnsAll default past es ∧
        u ∈ Request.turns default past (es.flatMap (requests default)) := by
  induction es generalizing past with
  | nil => exact .inl rfl
  | cons e rest ih =>
    rw [turnsAll, List.flatMap_cons, Request.turns_append]
    rcases turns_cases default past e with he | ⟨u, hg, hu, hu'⟩
    · rw [← he]
      rcases ih (past ++ e.turns default past) with hrest | ⟨u, hg, hu, hu'⟩
      · exact .inl (congrArg _ hrest)
      · exact .inr ⟨u, hg, List.mem_append_right _ hu, List.mem_append_right _ hu'⟩
    · exact .inr ⟨u, hg, List.mem_append_left _ hu, List.mem_append_left _ hu'⟩

end Entry

/-! ## Plans without errors -/

namespace Tree

variable {t t' : Tree}

/-- All that the entries of a tree ask for if they are refused nothing. -/
def requests (t : Tree) : List Request := t.entries.flatMap (Entry.requests t.defaultLanguage)

lemma errors_eq_nil_iff_granted : t.plan.errors = [] ↔ ∀ u ∈ t.turns, u.granted := by
  simp [t.plan_eq_turns, Turn.granted]

/-- Where nothing is refused, the turns are those of all requests. -/
lemma turns_eq_of_granted (h : ∀ u ∈ t.turns, u.granted) :
    t.turns = Request.turns t.defaultLanguage [] t.requests := by
  rcases Entry.turnsAll_cases t.defaultLanguage [] t.entries with heq | ⟨u, hg, hu, -⟩
  · exact heq
  · exact absurd (h u hu) hg

/-- A plan has no errors exactly if all texts are good and no two requests want one name. -/
lemma errors_eq_nil_iff : t.plan.errors = [] ↔
    (∀ r ∈ t.requests, r.faults t.defaultLanguage = []) ∧
      t.requests.Pairwise Request.Compatible := by
  have hrequests : (∀ u ∈ Request.turns t.defaultLanguage [] t.requests, u.granted) ↔
      (∀ r ∈ t.requests, r.faults t.defaultLanguage = []) ∧
        t.requests.Pairwise Request.Compatible := by
    have hfree : ∀ r : Request, r.clash? [] = none := fun r =>
      clash?_eq_none_iff.2 fun _ _ => rfl
    simp only [Request.granted_turns_iff, hfree, and_true]
  rw [errors_eq_nil_iff_granted, ← hrequests]
  constructor
  · intro h
    rw [← turns_eq_of_granted h]
    exact h
  · intro h
    rcases Entry.turnsAll_cases t.defaultLanguage [] t.entries with heq | ⟨u, hg, -, hu⟩
    · rw [turns, heq]
      exact h
    · exact absurd (h u hu) hg

/-- A plan without errors makes the steps of all requests. -/
lemma steps_of_errors_eq_nil (h : t.plan.errors = []) :
    t.plan.steps = t.requests.flatMap (·.steps t.defaultLanguage) ++ [.finish] := by
  have hgranted := errors_eq_nil_iff_granted.1 h
  have hsteps : t.turns.flatMap (·.plan.steps) =
      (t.turns.map (·.request)).flatMap (·.steps t.defaultLanguage) := by
    rw [List.flatMap_map]
    exact List.flatMap_congr fun u hu => t.settled_turns.steps_of_granted hu (hgranted u hu)
  rw [t.plan_eq_turns]
  dsimp only
  rw [hsteps, turns_eq_of_granted hgranted, Request.map_request_turns]

lemma Rearranged.perm_requests (h : t.Rearranged t') : t.requests.Perm t'.requests := by
  rw [requests, requests, ← h.language]
  exact h.nodes.perm_entriesOf.flatMap_right _

/-- **A plan without errors does not depend on the order of the keys.**  If the nodes of a tree are
rearranged, at the root or inside groups, and the plan had no errors, then it has none after that
either.  It makes the same steps in another order and still finishes once, at the end. -/
theorem plan_of_rearranged (h : t.Rearranged t') (herrors : t.plan.errors = []) :
    t'.plan.errors = [] ∧ t'.plan.steps.Perm t.plan.steps ∧
      ∃ steps, t'.plan.steps = steps ++ [.finish] ∧ .finish ∉ steps := by
  obtain ⟨hgood, hpair⟩ := errors_eq_nil_iff.1 herrors
  have hrequests := h.perm_requests
  have herrors' : t'.plan.errors = [] := by
    refine errors_eq_nil_iff.2 ⟨fun r hr => ?_, ?_⟩
    · rw [← h.language]
      exact hgood r (hrequests.mem_iff.2 hr)
    · exact hpair.perm hrequests Request.Compatible.symm
  refine ⟨herrors', ?_, t'.exists_steps_eq⟩
  rw [steps_of_errors_eq_nil herrors, steps_of_errors_eq_nil herrors', ← h.language]
  exact (hrequests.symm.flatMap_right _).append_right _

/-- A tree with two texts in a group and a list of records behind it. -/
def tidy : Tree where
  defaultLanguage := "nl"
  nodes :=
    [.group ⟨[], "home"⟩
      [.entry ⟨⟨["home"], "title"⟩, .text ⟨"Titel", 0, .ofList [("en", "Title")]⟩⟩,
        .entry ⟨⟨["home"], "greeting"⟩, .text ⟨"Hallo %1$@", 1, .empty⟩⟩],
      .entry ⟨⟨[], "items"⟩, .records [⟨[("name", ⟨"Naam", 0, .empty⟩)]⟩]⟩]

/-- The same tree from back to front. -/
def tidyReversed : Tree where
  defaultLanguage := "nl"
  nodes :=
    [.entry ⟨⟨[], "items"⟩, .records [⟨[("name", ⟨"Naam", 0, .empty⟩)]⟩]⟩,
      .group ⟨[], "home"⟩
        [.entry ⟨⟨["home"], "greeting"⟩, .text ⟨"Hallo %1$@", 1, .empty⟩⟩,
          .entry ⟨⟨["home"], "title"⟩, .text ⟨"Titel", 0, .ofList [("en", "Title")]⟩⟩]]

theorem plan_of_rearranged_tidy :
    tidy.Rearranged tidyReversed ∧ tidy.plan.errors = [] ∧
      tidyReversed.plan.errors = [] ∧ tidyReversed.plan.steps.Perm tidy.plan.steps := by
  have hrearranged : tidy.Rearranged tidyReversed := by
    refine ⟨rfl, .trans ?_ (.places (List.Perm.swap _ _ []))⟩
    exact @Node.Rearranged.inside ⟨[], "home"⟩ [] _ _ _ (.places (List.Perm.swap _ _ []))
  have herrors : tidy.plan.errors = [] := by decide +kernel
  obtain ⟨herrors', hsteps, -⟩ := plan_of_rearranged hrearranged herrors
  exact ⟨hrearranged, herrors, herrors', hsteps⟩

end Tree

end Phrasebook
