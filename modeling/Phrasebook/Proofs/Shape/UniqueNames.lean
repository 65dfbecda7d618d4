import Mathlib.Data.List.Nodup
import Phrasebook.Format
import Phrasebook.Proofs.Shape.LeafMapping

/-!
# Names in documents that are read

A mapping that is read has no two entries of one name, because a later entry takes the place of an
earlier one (`Json.ofMembers`).  Both readers make all of their mappings in this way, so the names
in each mapping of a document are different (`Format.allNames_of_parse?`): what the theory of trees
assumes of a document holds for all that the program gets to see.
-/

namespace Phrasebook

namespace Json

/-! ## Members -/

lemma map_setMember (name : String) (value : Json) (members : List (String × Json)) :
    (setMember name value members).map (·.1) =
      if name ∈ members.map (·.1) then members.map (·.1) else members.map (·.1) ++ [name] := by
  induction members with
  | nil => rfl
  | cons m rest ih =>
    rw [setMember]
    split
    · rename_i h
      rw [if_pos (h ▸ List.mem_cons_self), List.map_cons, List.map_cons, h]
    · rename_i h
      rw [List.map_cons, List.map_cons, ih]
      simp only [List.mem_cons, Ne.symm h, false_or]
      split <;> rfl

lemma nodup_map_setMember {name : String} {value : Json} {members : List (String × Json)}
    (h : (members.map (·.1)).Nodup) : ((setMember name value members).map (·.1)).Nodup := by
  rw [map_setMember]
  split
  · exact h
  · rename_i hname
    rw [← List.concat_eq_append]
    exact List.Nodup.concat hname h

lemma mem_setMember {name : String} {value : Json} {members : List (String × Json)}
    {m : String × Json} (h : m ∈ setMember name value members) :
    m = (name, value) ∨ m ∈ members := by
  induction members with
  | nil => exact .inl (List.mem_singleton.1 h)
  | cons x rest ih =>
    rw [setMember] at h
    split at h
    · exact (List.mem_cons.1 h).imp_right (List.mem_cons_of_mem _)
    · rcases List.mem_cons.1 h with rfl | h
      · exact .inr List.mem_cons_self
      · exact (ih h).imp_right (List.mem_cons_of_mem _)

/-- The object of some members has different names, if the values have. -/
lemma allNames_ofMembers {members : List (String × Json)}
    (h : ∀ m ∈ members, m.2.AllNames List.Nodup) : (ofMembers members).AllNames List.Nodup := by
  suffices hfold : ∀ ms : List (String × Json), (ms.map (·.1)).Nodup →
      (∀ m ∈ ms, m.2.AllNames List.Nodup) →
        ((members.foldl (fun ms m => setMember m.1 m.2 ms) ms).map (·.1)).Nodup ∧
          ∀ m ∈ members.foldl (fun ms m => setMember m.1 m.2 ms) ms, m.2.AllNames List.Nodup by
    obtain ⟨hnodup, hall⟩ := hfold [] .nil (List.forall_mem_nil _)
    exact ⟨hnodup, allNamesMembers_iff.2 hall⟩
  induction members with
  | nil => exact fun ms hnodup hall => ⟨hnodup, hall⟩
  | cons m rest ih =>
    obtain ⟨hm, hrest⟩ := List.forall_mem_cons.1 h
    intro ms hnodup hall
    refine ih hrest _ (nodup_map_setMember hnodup) fun x hx => ?_
    rcases mem_setMember hx with rfl | hx
    · exact hm
    · exact hall x hx

lemma allNames_of_isScalar {p : List String → Prop} {j : Json} (h : j.IsScalar) : j.AllNames p := by
  cases j with
  | array => exact nomatch h.2
  | object => exact nomatch h.1
  | null | bool | number | string => trivial

/-! ## JSON texts -/

namespace Reader

/-- What the readers of values, items and members read with `fuel` has different names, if what was
read before has. -/
structure ReadsUnique (fuel : ℕ) : Prop where
  /-- A value. -/
  value : ∀ {depth cs j rest}, value? fuel depth cs = some (j, rest) → j.AllNames List.Nodup
  /-- The items of a list. -/
  items : ∀ {depth read cs l rest}, items? fuel depth read cs = some (l, rest) →
    (∀ j ∈ read, j.AllNames List.Nodup) → ∀ j ∈ l, j.AllNames List.Nodup
  /-- The members of an object. -/
  members : ∀ {depth read cs l rest}, members? fuel depth read cs = some (l, rest) →
    (∀ m ∈ read, m.2.AllNames List.Nodup) → ∀ m ∈ l, m.2.AllNames List.Nodup

lemma value_of_readsUnique {fuel depth : ℕ} {cs rest : List Char} {j : Json}
    (ih : ReadsUnique fuel) (h : value? (fuel + 1) depth cs = some (j, rest)) :
    j.AllNames List.Nodup := by
  rw [value?.eq_def] at h
  dsimp only at h
  split at h
  · cases h
    trivial
  · cases h
    trivial
  · cases h
    trivial
  · obtain ⟨_, -, h⟩ := Option.map_eq_some_iff.1 h
    cases h
    trivial
  · split at h
    · cases h
    · split at h
      · cases h
        trivial
      · obtain ⟨_, hl, h⟩ := Option.map_eq_some_iff.1 h
        cases h
        exact allNamesItems_iff.2 (ih.items hl (List.forall_mem_nil _))
  · split at h
    · cases h
    · split at h
      · cases h
        exact ⟨.nil, trivial⟩
      · obtain ⟨_, hl, h⟩ := Option.map_eq_some_iff.1 h
        cases h
        exact allNames_ofMembers (ih.members hl (List.forall_mem_nil _))
  · obtain ⟨_, -, h⟩ := Option.map_eq_some_iff.1 h
    cases h
    trivial

lemma readsUnique (fuel : ℕ) : ReadsUnique fuel := by
  induction fuel with
  | zero => exact ⟨nofun, nofun, nofun⟩
  | succ fuel ih =>
    refine ⟨value_of_readsUnique ih, fun h hread => ?_, fun h hread => ?_⟩
    · rw [items?.eq_def] at h
      dsimp only at h
      split at h
      · exact nomatch h
      · rename_i hv
        split at h
        · exact ih.items h (List.forall_mem_cons.2 ⟨ih.value hv, hread⟩)
        · cases h
          intro x hx
          rcases List.mem_cons.1 (List.mem_reverse.1 hx) with rfl | hx
          · exact ih.value hv
          · exact hread x hx
        · exact nomatch h
    · rw [members?.eq_def] at h
      dsimp only at h
      split at h
      · split at h
        · exact nomatch h
        · split at h
          · split at h
            · exact nomatch h
            · rename_i hv
              split at h
              · exact ih.members h (List.forall_mem_cons.2 ⟨ih.value hv, hread⟩)
              · cases h
                intro x hx
                rcases List.mem_cons.1 (List.mem_reverse.1 hx) with rfl | hx
                · exact ih.value hv
                · exact hread x hx
              · exact nomatch h
          · exact nomatch h
      · exact nomatch h

end Reader

lemma allNames_of_parse? {text : String} {j : Json} (h : parse? text = some j) :
    j.AllNames List.Nodup := by
  unfold parse? parseWithin? at h
  dsimp only at h
  split at h
  · rename_i hv
    split at h
    · cases h
      exact (Reader.readsUnique _).value hv
    · exact nomatch h
  · exact nomatch h

end Json

/-! ## YAML texts -/

namespace Yaml

namespace Core

lemma isScalar_of_number? {n : Int} {j : Json} (h : number? n = some j) : j.IsScalar := by
  unfold number? at h
  split at h
  · split at h
    · cases h
      exact ⟨rfl, rfl⟩
    · exact nomatch h
  · split at h
    · cases h
      exact ⟨rfl, rfl⟩
    · exact nomatch h

lemma isScalar_of_real? {cs : List Char} {j : Json} (h : real? cs = some j) : j.IsScalar := by
  have hnumber : ∀ {x : Option Float} {f : Float → Float} {j : Json},
      x.map (fun x => Json.number (.real (f x))) = some j → j.IsScalar := by
    intro x f j h
    obtain ⟨_, -, h⟩ := Option.map_eq_some_iff.1 h
    cases h
    exact ⟨rfl, rfl⟩
  unfold real? at h
  dsimp only at h
  split at h <;> split at h
  · cases h
    exact ⟨rfl, rfl⟩
  · exact hnumber (f := id) h
  · cases h
    exact ⟨rfl, rfl⟩
  · exact hnumber h
  · cases h
    exact ⟨rfl, rfl⟩
  · exact hnumber (f := id) h

lemma isScalar_of_plain? {s : String} {j : Json} (h : plain? s = some j) : j.IsScalar := by
  unfold plain? at h
  dsimp only at h
  split at h
  · cases h
    exact ⟨rfl, rfl⟩
  · split at h
    · cases h
      exact ⟨rfl, rfl⟩
    · split at h
      · exact isScalar_of_number? h
      · split at h
        · cases h
          exact ⟨rfl, rfl⟩
        · cases h
          cases hreal : real? s.toList with
          | none => exact ⟨rfl, rfl⟩
          | some j => exact isScalar_of_real? hreal

/-- A scalar has no members and no items. -/
lemma isScalar_of_scalar? {tag : Option Tag} {plain : Bool} {s : String} {j : Json}
    (h : scalar? tag plain s = some j) : j.IsScalar := by
  unfold scalar? at h
  split at h
  · split at h
    · exact isScalar_of_plain? h
    · cases h
      exact ⟨rfl, rfl⟩
  · split_ifs at h
    · obtain ⟨_, -, h⟩ := Option.map_eq_some_iff.1 h
      cases h
      exact ⟨rfl, rfl⟩
    · obtain ⟨_, -, h⟩ := Option.bind_eq_some_iff.1 h
      exact isScalar_of_number? h
    · exact isScalar_of_real? h
    · cases h
      exact ⟨rfl, rfl⟩
    · exact isScalar_of_plain? h
    · cases h
      exact ⟨rfl, rfl⟩

end Core

namespace Node

lemma bind_eq_some_iff {α β : Type} {x : Valuation α} {f : α → Valuation β} {s s' : ℕ} {b : β} :
    (x >>= f) s = some (b, s') ↔ ∃ a t, x s = some (a, t) ∧ f a t = some (b, s') := by
  change (x s).bind (fun p => f p.1 p.2) = some (b, s') ↔ _
  rw [Option.bind_eq_some_iff]
  exact ⟨fun ⟨p, hp, h⟩ => ⟨p.1, p.2, hp, h⟩, fun ⟨a, t, hx, h⟩ => ⟨(a, t), hx, h⟩⟩

lemma exists_of_mapM {α β : Type} {f : α → Valuation β} {as : List α} {bs : List β} {s s' : ℕ}
    (h : as.mapM f s = some (bs, s')) : ∀ b ∈ bs, ∃ a ∈ as, ∃ t t', f a t = some (b, t') := by
  induction as generalizing bs s with
  | nil =>
    cases h
    exact nofun
  | cons a rest ih =>
    rw [List.mapM_cons] at h
    obtain ⟨b, t, hb, h⟩ := bind_eq_some_iff.1 h
    obtain ⟨bs', t', hbs, h⟩ := bind_eq_some_iff.1 h
    cases h
    refine List.forall_mem_cons.2 ⟨⟨a, List.mem_cons_self, s, t, hb⟩, fun x hx => ?_⟩
    obtain ⟨a', ha', hf⟩ := ih hbs x hx
    exact ⟨a', List.mem_cons_of_mem _ ha', hf⟩

/-- The value of a node has different names. -/
lemma allNames_of_value (table : List (Nat × Node)) (depth : ℕ) :
    ∀ {n : Node} {s s' : ℕ} {j : Json}, value table depth n s = some (j, s') →
      j.AllNames List.Nodup := by
  have hscalar : ∀ {tag : Option Tag} {plain : Bool} {text : String} {s s' : ℕ} {j : Json},
      (liftM (Core.scalar? tag plain text) : Valuation Json) s = some (j, s') →
        j.AllNames List.Nodup := by
    intro tag plain text s s' j h
    obtain ⟨_, hj, h⟩ := Option.bind_eq_some_iff.1 h
    cases h
    exact Json.allNames_of_isScalar (Core.isScalar_of_scalar? hj)
  induction depth with
  | zero =>
    intro n s s' j h
    rw [value] at h
    obtain ⟨m, t, -, h⟩ := bind_eq_some_iff.1 h
    match m, h with
    | .scalar .., h => exact hscalar h
    | .alias _, h | .sequence .., h | .mapping .., h => exact nomatch h
  | succ depth ih =>
    intro n s s' j h
    rw [value] at h
    obtain ⟨m, t, -, h⟩ := bind_eq_some_iff.1 h
    match m, h with
    | .scalar .., h => exact hscalar h
    | .alias _, h => exact nomatch h
    | .sequence p items, h =>
      obtain ⟨_, _, -, h⟩ := bind_eq_some_iff.1 h
      obtain ⟨js, _, hjs, h⟩ := bind_eq_some_iff.1 h
      cases h
      refine Json.allNamesItems_iff.2 fun j hj => ?_
      obtain ⟨_, -, _, _, hvalue⟩ := exists_of_mapM hjs j hj
      exact ih hvalue
    | .mapping p entries, h =>
      obtain ⟨_, _, -, h⟩ := bind_eq_some_iff.1 h
      obtain ⟨members, _, hmembers, h⟩ := bind_eq_some_iff.1 h
      cases h
      refine Json.allNames_ofMembers fun m hm => ?_
      obtain ⟨_, -, _, _, hentry⟩ := exists_of_mapM hmembers m hm
      obtain ⟨name, _, -, hentry⟩ := bind_eq_some_iff.1 hentry
      obtain ⟨v, _, hv, hentry⟩ := bind_eq_some_iff.1 hentry
      cases hentry
      exact ih hv

end Node

lemma allNames_of_parse? {text : String} {j : Json} (h : parse? text = some j) :
    j.AllNames List.Nodup := by
  unfold parse? at h
  split at h
  · cases h
    trivial
  · obtain ⟨_, -, h⟩ := Option.bind_eq_some_iff.1 h
    obtain ⟨n, -, h⟩ := Option.bind_eq_some_iff.1 h
    obtain ⟨⟨_, _⟩, hvalue, h⟩ := Option.map_eq_some_iff.1 h
    cases h
    exact Node.allNames_of_value _ _ hvalue

end Yaml

/-- In each mapping of a document that is read, the names are different. -/
lemma Format.allNames_of_parse? {format : Format} {text : String} {j : Json}
    (h : format.parse? text = some j) : j.AllNames List.Nodup := by
  cases format with
  | json => exact Json.allNames_of_parse? h
  | yaml => exact Yaml.allNames_of_parse? h

end Phrasebook
