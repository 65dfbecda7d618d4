import Phrasebook.Proofs.Plan.Languages

/-!
# Where a generation breaks off

A target fails before its first step if its tree does not pass `checkTree`, and it breaks off at
the first step that does not fit.  Neither has to do with the target: `Tree.vet` is what stands
in the way of all of them, and what is not stopped by it is generated (`Tree.generateTarget_eq`).

* `Dialect.run?_eq` follows a run step by step: it comes to an end exactly if every step fits, and
  then to what the steps write.
* The parameters of an accessor are the arguments of its text, so a tree fits as soon as its
  values have few arguments (`Tree.fits_of_values`).
-/

namespace Phrasebook

/-! ## Steps and runs -/

namespace Dialect

variable (d : Dialect) (g : Draft)

lemma step?_of_fits {s : Step} (h : s.Fits) : d.step? g s = some (d.step g s) := if_pos h

lemma step?_of_not_fits {s : Step} (h : ¬s.Fits) : d.step? g s = none := if_neg h

/-- Steps are carried out exactly if all of them fit. -/
lemma run?_eq (steps : List Step) :
    d.run? g steps = if ∀ s ∈ steps, s.Fits then some (d.run g steps) else none := by
  induction steps generalizing g with
  | nil => exact (if_pos nofun).symm
  | cons s rest ih =>
    have hcons : d.run? g (s :: rest) = (d.step? g s).bind (d.run? · rest) := List.foldlM_cons
    rw [hcons]
    by_cases hs : s.Fits
    · rw [d.step?_of_fits g hs, Option.bind_some, ih]
      simp only [List.forall_mem_cons, hs, true_and]
      rfl
    · rw [d.step?_of_not_fits g hs, Option.bind_none, if_neg]
      exact fun h => hs (h s List.mem_cons_self)

end Dialect

/-! ## Trees -/

namespace Tree

/-- No accessor of the plan has more parameters than a list can hold the names of. -/
def Fits (t : Tree) : Prop := ∀ s ∈ t.plan.steps, s.Fits

instance (t : Tree) : Decidable t.Fits := inferInstanceAs (Decidable (∀ s ∈ t.plan.steps, s.Fits))

/-- What stands in the way of generating the tree, whatever the target. -/
def vet (t : Tree) (c : Config) : Except GenerationError Unit := do
  checkTree t c
  if t.Fits then return () else throw .overflow

variable {t : Tree} {c : Config}

lemma vet_of_fits (h : t.Fits) : t.vet c = checkTree t c := by
  rw [vet, if_pos h]
  cases checkTree t c <;> rfl

lemma vet_of_not_fits (hcheck : checkTree t c = .ok ()) (h : ¬t.Fits) :
    t.vet c = .error .overflow := by
  rw [vet, hcheck, if_neg h]
  rfl

lemma vet_of_checkTree_eq_error {e : GenerationError} (h : checkTree t c = .error e) :
    t.vet c = .error e := by
  rw [vet, h]
  rfl

/-- Nothing is in the way of a tree that passes and fits. -/
lemma vet_eq_ok_iff : t.vet c = .ok () ↔ checkTree t c = .ok () ∧ t.Fits := by
  by_cases hfits : t.Fits
  · rw [vet_of_fits hfits, and_iff_left hfits]
  · refine iff_of_false (fun h => ?_) fun h => hfits h.2
    cases hcheck : checkTree t c with
    | error e => exact nomatch (vet_of_checkTree_eq_error hcheck).symm.trans h
    | ok u => exact nomatch (vet_of_not_fits hcheck hfits).symm.trans h

lemma checkTree_of_vet (h : t.vet c = .ok ()) : checkTree t c = .ok () := (vet_eq_ok_iff.1 h).1

lemma generate?_eq (d : Dialect) (t : Tree) (c : Config) :
    d.generate? t c = if t.Fits then some (d.generate t c) else none := by
  rw [Dialect.generate?, Dialect.run?_eq]
  by_cases h : ∀ s ∈ t.plan.steps, s.Fits
  · have hfits : t.Fits := h
    rw [if_pos h, if_pos hfits]
    rfl
  · have hfits : ¬t.Fits := h
    rw [if_neg h, if_neg hfits]
    rfl

/-- A target is generated from the plan, unless something is in the way. -/
lemma generateTarget_eq (t : Tree) (c : Config) (target : Target) :
    generateTarget t c target = (t.vet c).map fun _ => target.dialect.generate t c := by
  rw [generateTarget, generate?_eq]
  cases hcheck : checkTree t c with
  | error e =>
    rw [vet_of_checkTree_eq_error hcheck]
    rfl
  | ok u =>
    by_cases hfits : t.Fits
    · rw [vet_of_fits hfits, hcheck, if_pos hfits]
      rfl
    · rw [vet_of_not_fits hcheck hfits, if_neg hfits]
      rfl

end Tree

/-- A target is generated exactly if nothing is in the way of the tree, and then from its plan. -/
lemma generateTarget_eq_ok_iff (t : Tree) (c : Config) (target : Target) (out : TargetOutput) :
    generateTarget t c target = .ok out ↔
      t.vet c = .ok () ∧ target.dialect.generate t c = out := by
  rw [t.generateTarget_eq]
  cases t.vet c with
  | error e => exact ⟨fun h => (nomatch h), fun h => (nomatch h.1)⟩
  | ok u => exact ⟨fun h => ⟨rfl, Except.ok.inj h⟩, fun h => congrArg Except.ok h.2⟩

/-! ## Trees that fit -/

/-- The only parameters that are asked for are the arguments of a text. -/
lemma Entry.MayAsk.fits_of_steps {default : String} {e : Entry} {r : Request} {s : Step}
    (h : e.MayAsk default r) (hs : s ∈ r.steps default)
    (hvalues : ∀ v ∈ e.content.values, v.argumentCount.toNat ≤ Spelling.maxParameters) :
    s.Fits := by
  rcases List.mem_append.1 hs with hs | hs
  · obtain ⟨x, -, hs⟩ := List.mem_flatMap.1 hs
    obtain ⟨y, -, rfl⟩ := List.mem_map.1 hs
    exact Nat.zero_le _
  · replace hs := Option.mem_toList.1 hs
    cases h with
    | text a v =>
      obtain rfl := Option.some.inj hs
      exact hvalues v List.mem_cons_self
    | list a vs =>
      obtain rfl := Option.some.inj hs
      exact Nat.zero_le _
    | type a rs => cases hs
    | field a rs field =>
      obtain rfl := Option.some.inj hs
      exact Nat.zero_le _

namespace Tree

variable {t : Tree}

/-- A tree fits if none of its values has too many arguments. -/
lemma fits_of_values
    (h : ∀ v ∈ t.values, v.argumentCount.toNat ≤ Spelling.maxParameters) : t.Fits := by
  intro s hs
  rw [t.plan_eq_turns] at hs
  rcases List.mem_append.1 hs with hs | hs
  · obtain ⟨u, hu, hs⟩ := List.mem_flatMap.1 hs
    obtain ⟨e, he, hask⟩ := Entry.mayAsk_of_mem_turnsAll hu
    refine hask.fits_of_steps (t.settled_turns.mem_steps_of_mem hu hs) fun v hv => h v ?_
    exact List.mem_flatMap.2 ⟨e, he, hv⟩
  · obtain rfl := List.mem_singleton.1 hs
    exact Nat.zero_le _

lemma vet_of_values {c : Config} (hcheck : checkTree t c = .ok ())
    (h : ∀ v ∈ t.values, v.argumentCount.toNat ≤ Spelling.maxParameters) : t.vet c = .ok () :=
  vet_eq_ok_iff.2 ⟨hcheck, fits_of_values h⟩

end Tree

end Phrasebook
