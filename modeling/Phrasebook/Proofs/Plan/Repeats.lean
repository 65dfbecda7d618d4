import Phrasebook.Proofs.Plan.Clashes
import Phrasebook.Proofs.Plan.PlainNames
import Phrasebook.Proofs.Plan.Rearranging

/-!
# When an error is reported twice

An error names a key and not a node, and different nodes may have the same key: the text `b` in the
group `a`, and the text `a.b`.  If both are left out for the same reason, the plan lists one error
twice.

* A single request never repeats an error: its texts differ in their lookup keys or their languages
  (`Request.nodup_errors_outcome`).
* Two requests that report the same error have a lookup key in common, or the key they claim names
  for (`Request.disjoint_errors_outcome`).

So the errors of a plan are different exactly if no two requests that share a key report the same
one (`Tree.nodup_errors_iff`).  In a document in which no name has a dot none do:
`Tree.reportsApart_of_plain`.
-/

namespace Phrasebook

/-- The requests have a lookup key in common, or claim names for the same key. -/
def Request.ShareKey (r s : Request) : Prop := r.key = s.key ∨ ∃ key ∈ r.keys, key ∈ s.keys

/-- No two requests that share a key report the same error. -/
def Tree.ReportsApart (t : Tree) : Prop :=
  t.turns.Pairwise fun u w =>
    u.request.ShareKey w.request → u.plan.errors.Disjoint w.plan.errors

/-! ## The errors of one request -/

namespace Value

variable {v : Value} {default key : String}

lemma key_of_mem_errors {e : KeyError} (h : e ∈ v.errors default key) : e.key = key := by
  obtain ⟨x, -, hx⟩ := List.mem_filterMap.1 h
  obtain ⟨index, -, rfl⟩ := Option.map_eq_some_iff.1 hx
  rfl

/-- There is one error at most for each language. -/
lemma nodup_errors : (v.errors default key).Nodup := by
  have hlanguages := List.pairwise_map.1 (v.nodup_texts default)
  refine List.pairwise_filterMap.2 (hlanguages.imp fun hne e he e' he' => ?_)
  obtain ⟨index, -, rfl⟩ := Option.map_eq_some_iff.1 he
  obtain ⟨index', -, rfl⟩ := Option.map_eq_some_iff.1 he'
  exact fun heq => hne (KeyError.unaddressed.inj heq).2.1

end Value

namespace Request

variable {default : String} {past : List Turn} {r : Request} {e : KeyError}

lemma key_mem_keys_of_mem_faults (h : e ∈ r.faults default) : e.key ∈ r.keys := by
  obtain ⟨x, hx, he⟩ := List.mem_flatMap.1 h
  rw [Value.key_of_mem_errors he]
  exact List.mem_map_of_mem hx

/-- No fault is reported twice, where the lookup keys of the values are different. -/
lemma nodup_faults (h : r.keys.Nodup) : (r.faults default).Nodup := by
  rw [faults, List.nodup_flatMap]
  refine ⟨fun x _ => Value.nodup_errors, ?_⟩
  refine (List.pairwise_map.1 h).imp fun hne e he he' => hne ?_
  rw [← Value.key_of_mem_errors he, ← Value.key_of_mem_errors he']

/-- A request reports its faults or, if it has none, one name at most. -/
lemma errors_outcome_cases (default : String) (past : List Turn) (r : Request) :
    (r.outcome default past).errors = r.faults default ∨
      ∃ name existing, (r.outcome default past).errors = [.nameTaken r.key name existing] := by
  by_cases hf : r.faults default = []
  · cases hc : r.clash? past with
    | none =>
      rw [outcome_of_free hf hc, hf]
      exact .inl rfl
    | some c =>
      rw [outcome_of_clash hf hc]
      exact .inr ⟨c.1, c.2, rfl⟩
  · rw [outcome_of_faults hf]
    exact .inl rfl

lemma nameTaken_notMem_faults {key name existing : String} :
    .nameTaken key name existing ∉ r.faults default := by
  intro h
  obtain ⟨x, -, hx⟩ := List.mem_flatMap.1 h
  exact Value.nameTaken_notMem_errors hx

/-- A request reports no error twice. -/
lemma nodup_errors_outcome (h : r.keys.Nodup) : (r.outcome default past).errors.Nodup := by
  rcases r.errors_outcome_cases default past with he | ⟨name, existing, he⟩
  · rw [he]
    exact nodup_faults h
  · rw [he]
    exact List.nodup_singleton _

/-- Requests that share no key do not report the same error. -/
lemma disjoint_errors_outcome {past' : List Turn} {s : Request} (h : ¬r.ShareKey s) :
    (r.outcome default past).errors.Disjoint (s.outcome default past').errors := by
  intro e her hes
  rcases r.errors_outcome_cases default past with hr | ⟨name, existing, hr⟩ <;>
    rcases s.errors_outcome_cases default past' with hs | ⟨name', existing', hs⟩ <;>
    rw [hr] at her <;> rw [hs] at hes
  · exact h (.inr ⟨e.key, key_mem_keys_of_mem_faults her, key_mem_keys_of_mem_faults hes⟩)
  · rw [List.mem_singleton.1 hes] at her
    exact nameTaken_notMem_faults her
  · rw [List.mem_singleton.1 her] at hes
    exact nameTaken_notMem_faults hes
  · rw [List.mem_singleton.1 her, List.mem_singleton] at hes
    exact h (.inl (KeyError.nameTaken.inj hes).1)

end Request

/-! ## The errors of a plan -/

namespace Tree

/-- The errors of a plan are different exactly if no two requests that share a key report the same
one. -/
lemma nodup_errors_iff (t : Tree) : t.plan.errors.Nodup ↔ t.ReportsApart := by
  rw [t.plan_eq_turns, List.nodup_flatMap]
  constructor
  · rintro ⟨-, hdisjoint⟩
    refine List.Pairwise.imp ?_ hdisjoint
    exact fun h _ => h
  · intro h
    refine ⟨fun u hu => ?_, h.imp_of_mem fun {u w} hu hw hshare => ?_⟩
    · obtain ⟨past, hturn⟩ := t.settled_turns.exists_turn hu
      rw [hturn]
      exact Request.nodup_errors_outcome (t.nodup_keys_of_mem_turns hu)
    · by_cases hkey : u.request.ShareKey w.request
      · exact hshare hkey
      · obtain ⟨past, hturn⟩ := t.settled_turns.exists_turn hu
        obtain ⟨past', hturn'⟩ := t.settled_turns.exists_turn hw
        change u.plan.errors.Disjoint w.plan.errors
        rw [hturn, hturn']
        exact Request.disjoint_errors_outcome hkey

end Tree

/-! ## Documents with plain names -/

lemma key_ne_fieldPattern (key field : String) : key ≠ fieldPattern key field := by
  intro h
  have hlength := congrArg String.length h
  rw [fieldPattern, String.length_append, String.length_append] at hlength
  have hmark : ".$index.".length = 8 := rfl
  omega

namespace Entry

variable {default : String} {e f : Entry} {r s : Request}

/-- The key that a request of a plain entry claims names for lists what leads to it. -/
lemma request_key_eq_intercalate (he : e.Plain) (hr : e.MayAsk default r) :
    ∃ more : List String, (∀ s ∈ more, '.' ∉ s.toList) ∧
      r.key = ".".intercalate (e.address.segments ++ more) := by
  cases hr with
  | text a v => exact ⟨[], by simp, by rw [List.append_nil]; rfl⟩
  | list a vs => exact ⟨[], by simp, by rw [List.append_nil]; rfl⟩
  | type a rs => exact ⟨[], by simp, by rw [List.append_nil]; rfl⟩
  | field a rs field hfield =>
    refine ⟨["$index", field], ?_, fieldPattern_eq_intercalate a field⟩
    simp [dot_notMem_of_mem_fieldNames he hfield]

/-- The requests of unrelated plain entries share no key. -/
lemma not_shareKey_of_unrelated (he : e.Plain) (hf : f.Plain) (hef : Node.Unrelated e f)
    (hr : e.MayAsk default r) (hs : f.MayAsk default s) :
    ¬r.ShareKey s := by
  rintro (hkey | ⟨key, hkr, hks⟩)
  · obtain ⟨x, hx, hkx⟩ := request_key_eq_intercalate he hr
    obtain ⟨y, hy, hky⟩ := request_key_eq_intercalate hf hs
    exact intercalate_ne_of_unrelated he hf hef hx hy (hkx.symm.trans (hkey.trans hky))
  · exact key_notMem_of_unrelated he hf hef hr hs hkr hks

/-- The requests of one entry share no key: they are about different fields. -/
lemma pairwise_not_shareKey (default : String) (e : Entry) :
    (e.requests default).Pairwise fun r s => ¬r.ShareKey s := by
  have hkeys := e.pairwise_keys_further
  obtain ⟨a, content⟩ := e
  cases content with
  | text v => exact List.pairwise_singleton _ _
  | list vs => exact List.pairwise_singleton _ _
  | records rs =>
    have hfields : (further ⟨a, .records rs⟩).Pairwise fun r s => r.key ≠ s.key :=
      List.pairwise_map.2 ((Record.nodup_fieldNames rs).imp fun hne h => hne (fieldPattern_inj h))
    refine .cons ?_ (hkeys.and hfields |>.imp fun h => ?_)
    · rintro s hs (hkey | ⟨key, hkey, -⟩)
      · obtain ⟨field, -, rfl⟩ := List.mem_map.1 hs
        exact key_ne_fieldPattern a.key field hkey
      · exact nomatch hkey
    · rintro (hkey | ⟨key, hkr, hks⟩)
      · exact h.2 hkey
      · exact h.1 hkr hks

lemma map_request_turns_sublist (default : String) (past : List Turn) (e : Entry) :
    ((e.turns default past).map (·.request)).Sublist (e.requests default) := by
  rw [turns, requests, List.map_cons]
  refine .cons_cons _ ?_
  split
  · rw [Request.map_request_turns]
  · exact List.nil_sublist _

lemma pairwise_not_shareKey_turnsAll (past : List Turn) {es : List Entry}
    (hunrelated : es.Pairwise Node.Unrelated) (hplain : ∀ e ∈ es, e.Plain) :
    (turnsAll default past es).Pairwise fun u w => ¬u.request.ShareKey w.request := by
  induction es generalizing past with
  | nil => exact .nil
  | cons e rest ih =>
    obtain ⟨he, hrest⟩ := List.forall_mem_cons.1 hplain
    obtain ⟨hhead, htail⟩ := List.pairwise_cons.1 hunrelated
    rw [turnsAll, List.pairwise_append]
    refine ⟨?_, ih _ htail hrest, fun u hu w hw => ?_⟩
    · exact List.pairwise_map.1
        ((e.pairwise_not_shareKey default).sublist (e.map_request_turns_sublist default past))
    · obtain ⟨f, hf, hrw⟩ := mayAsk_of_mem_turnsAll hw
      exact not_shareKey_of_unrelated he (hrest f hf) (hhead f hf) (mayAsk_of_mem_turns hu) hrw

end Entry

/-- **Plain names keep errors apart.** In a document in which no name has a dot, no error is
reported twice. -/
theorem Tree.reportsApart_of_plain {default : String} {j : Json} {t : Tree}
    (h : Tree.ofDocument default j = .ok t) (hj : j.AllNames PlainNames) : t.ReportsApart := by
  obtain ⟨hunrelated, hplain⟩ := Tree.entries_of_plain h hj
  exact (Entry.pairwise_not_shareKey_turnsAll [] hunrelated hplain).imp fun hne h => absurd h hne

end Phrasebook
