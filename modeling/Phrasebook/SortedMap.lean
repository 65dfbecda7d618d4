/-!
# Finite maps with text keys, listed in order

Translations are filed by language tag and texts by key, and every output lists them in
increasing order of the tag or key, never in the order of arrival.  `SortedMap α` is that list
itself, with the order as part of the type, so two maps with the same entries are equal
(`SortedMap.ext_get?`).

* `SortedMap.get?` looks a key up, `SortedMap.insert` sets the value of a key.
* `get?_insert` says what an insertion changes, and that it changes nothing else.
* `SortedMap.keys_pairwise` says that the keys are listed in strictly increasing order.
-/

namespace Phrasebook

/-! ## Text order -/

theorem lt_of_not_lt_of_ne {a b : String} (h : ¬a < b) (hne : a ≠ b) : b < a :=
  Decidable.byContradiction fun h' =>
    hne (String.le_antisymm (String.not_lt.1 h') (String.not_lt.1 h))

theorem ne_of_text_lt {a b : String} (h : a < b) : a ≠ b :=
  fun e => String.lt_irrefl b (e ▸ h)

/-- A finite map with text keys: its entries in strictly increasing order of their keys. -/
structure SortedMap (α : Type u) where
  /-- The entries, in increasing order of their keys. -/
  toList : List (String × α)
  /-- Each key is smaller than all later ones. -/
  sorted : toList.Pairwise fun a b => a.1 < b.1
  deriving DecidableEq

namespace SortedMap

variable {α β : Type u}

/-- The map without entries. -/
def empty : SortedMap α := ⟨[], .nil⟩

instance : EmptyCollection (SortedMap α) := ⟨empty⟩
instance : Inhabited (SortedMap α) := ⟨empty⟩

/-- Whether the map has no entries. -/
def isEmpty (m : SortedMap α) : Bool := m.toList.isEmpty

/-- The keys, in increasing order. -/
def keys (m : SortedMap α) : List String := m.toList.map (·.1)

/-- The values, in increasing order of their keys. -/
def values (m : SortedMap α) : List α := m.toList.map (·.2)

/-- The value filed under `k`. -/
def get? (m : SortedMap α) (k : String) : Option α := m.toList.lookup k

/-- Whether something is filed under `k`. -/
def contains (m : SortedMap α) (k : String) : Bool := (m.get? k).isSome

/-! ## Setting a value -/

/-- The entries with `a` filed under `k`, at the place that keeps the order. -/
def insertEntry (k : String) (a : α) : List (String × α) → List (String × α)
  | [] => [(k, a)]
  | e :: rest =>
    if k < e.1 then (k, a) :: e :: rest
    else if k = e.1 then (k, a) :: rest
    else e :: insertEntry k a rest

theorem mem_insertEntry {k : String} {a : α} {e : String × α} {l : List (String × α)}
    (h : e ∈ insertEntry k a l) : e = (k, a) ∨ e ∈ l := by
  induction l with
  | nil => exact .inl (List.mem_singleton.1 h)
  | cons x rest ih =>
    unfold insertEntry at h
    split at h
    · exact List.mem_cons.1 h
    · split at h
      · exact (List.mem_cons.1 h).imp_right (List.mem_cons_of_mem _)
      · rcases List.mem_cons.1 h with rfl | h
        · exact .inr List.mem_cons_self
        · exact (ih h).imp_right (List.mem_cons_of_mem _)

theorem insertEntry_sorted (k : String) (a : α) {l : List (String × α)}
    (h : l.Pairwise fun a b => a.1 < b.1) :
    (insertEntry k a l).Pairwise fun a b => a.1 < b.1 := by
  induction l with
  | nil => exact .cons (fun _ h => nomatch h) .nil
  | cons x rest ih =>
    have hx := List.pairwise_cons.1 h
    unfold insertEntry
    split
    · rename_i hk
      refine List.pairwise_cons.2 ⟨fun e he => ?_, h⟩
      rcases List.mem_cons.1 he with rfl | he
      · exact hk
      · exact String.lt_trans hk (hx.1 e he)
    · rename_i hk
      split
      · rename_i hk'
        exact List.pairwise_cons.2 ⟨fun e he => hk' ▸ hx.1 e he, hx.2⟩
      · rename_i hk'
        refine List.pairwise_cons.2 ⟨fun e he => ?_, ih hx.2⟩
        rcases mem_insertEntry he with rfl | he
        · exact lt_of_not_lt_of_ne hk hk'
        · exact hx.1 e he

/-- The map with `a` filed under `k`, in place of what was there. -/
def insert (m : SortedMap α) (k : String) (a : α) : SortedMap α :=
  ⟨insertEntry k a m.toList, insertEntry_sorted k a m.sorted⟩

/-- The map of the entries of `l`, of which a later one wins over an earlier one. -/
def ofList (l : List (String × α)) : SortedMap α := l.foldl (fun m e => m.insert e.1 e.2) empty

/-- The map with `f` applied to every value. -/
def map (f : α → β) (m : SortedMap α) : SortedMap β :=
  ⟨m.toList.map fun e => (e.1, f e.2), List.pairwise_map.2 m.sorted⟩

/-! ## Laws -/

theorem keys_pairwise (m : SortedMap α) : m.keys.Pairwise (· < ·) :=
  List.pairwise_map.2 m.sorted

@[simp] theorem get?_empty (k : String) : (empty : SortedMap α).get? k = none := rfl

theorem lookup_cons_eq_ite (k : String) (x : String × α) (l : List (String × α)) :
    (x :: l).lookup k = if k = x.1 then some x.2 else l.lookup k := by
  rw [List.lookup_cons]
  by_cases h : k = x.1
  · simp [h]
  · rw [if_neg h, beq_false_of_ne h]

theorem lookup_insertEntry (k k' : String) (a : α) (l : List (String × α)) :
    (insertEntry k a l).lookup k' = if k' = k then some a else l.lookup k' := by
  induction l with
  | nil => simp only [insertEntry, lookup_cons_eq_ite]
  | cons x rest ih =>
    unfold insertEntry
    split
    · simp only [lookup_cons_eq_ite]
    · rename_i hk
      split
      · rename_i hk'
        subst hk'
        simp only [lookup_cons_eq_ite]
        split <;> rfl
      · rename_i hk'
        simp only [lookup_cons_eq_ite, ih]
        split
        · rename_i e
          rw [if_neg (fun e' => hk' (e'.symm.trans e))]
        · rfl

/-- An insertion sets the value of its key and changes no other. -/
theorem get?_insert (m : SortedMap α) (k k' : String) (a : α) :
    (m.insert k a).get? k' = if k' = k then some a else m.get? k' :=
  lookup_insertEntry k k' a m.toList

@[simp] theorem get?_insert_self (m : SortedMap α) (k : String) (a : α) :
    (m.insert k a).get? k = some a := by simp [get?_insert]

theorem get?_insert_of_ne (m : SortedMap α) {k k' : String} (a : α) (h : k' ≠ k) :
    (m.insert k a).get? k' = m.get? k' := by simp [get?_insert, h]

/-- Under different keys, what is looked up is what is there. -/
theorem lookup_eq_some_iff_mem {l : List (String × α)} (hkeys : (l.map (·.1)).Nodup) {k : String}
    {a : α} : l.lookup k = some a ↔ (k, a) ∈ l := by
  induction l with
  | nil => simp
  | cons x rest ih =>
    obtain ⟨hnew, hrest⟩ := List.nodup_cons.1 hkeys
    rw [lookup_cons_eq_ite, List.mem_cons]
    split
    · rename_i e
      subst e
      rw [Option.some.injEq]
      constructor
      · rintro rfl
        exact .inl rfl
      · rintro (h | h)
        · exact congrArg Prod.snd h.symm
        · exact absurd (List.mem_map.2 ⟨_, h, rfl⟩) hnew
    · rename_i e
      rw [ih hrest]
      exact ⟨.inr, fun h => h.resolve_left fun h => e (congrArg Prod.fst h)⟩

theorem get?_eq_some_iff (m : SortedMap α) (k : String) (a : α) :
    m.get? k = some a ↔ (k, a) ∈ m.toList :=
  lookup_eq_some_iff_mem (m.keys_pairwise.imp ne_of_text_lt)

/-- A map is determined by what it answers. -/
theorem ext_get? {m n : SortedMap α} (h : ∀ k, m.get? k = n.get? k) : m = n := by
  have hmem : ∀ e, e ∈ m.toList ↔ e ∈ n.toList := fun e => by
    rw [← get?_eq_some_iff, ← get?_eq_some_iff, h]
  obtain ⟨l, hl⟩ := m
  obtain ⟨r, hr⟩ := n
  simp only at hmem
  suffices l = r by subst this; rfl
  clear h
  induction l generalizing r with
  | nil =>
    cases r with
    | nil => rfl
    | cons y ys => exact nomatch (hmem y).2 List.mem_cons_self
  | cons x xs ih =>
    have hx := List.pairwise_cons.1 hl
    cases r with
    | nil => exact nomatch (hmem x).1 List.mem_cons_self
    | cons y ys =>
      have hy := List.pairwise_cons.1 hr
      have hxy : x = y := by
        rcases List.mem_cons.1 ((hmem x).1 List.mem_cons_self) with e | hm
        · exact e
        · rcases List.mem_cons.1 ((hmem y).2 List.mem_cons_self) with e | hm'
          · exact e.symm
          · exact absurd (String.lt_trans (hx.1 _ hm') (hy.1 _ hm)) (String.lt_irrefl _)
      subst hxy
      congr 1
      refine ih hx.2 ys hy.2 fun e => ⟨fun he => ?_, fun he => ?_⟩
      · rcases List.mem_cons.1 ((hmem e).1 (List.mem_cons_of_mem _ he)) with rfl | h
        · exact absurd (hx.1 _ he) (String.lt_irrefl _)
        · exact h
      · rcases List.mem_cons.1 ((hmem e).2 (List.mem_cons_of_mem _ he)) with rfl | h
        · exact absurd (hy.1 _ he) (String.lt_irrefl _)
        · exact h

theorem get?_map (f : α → β) (m : SortedMap α) (k : String) :
    (m.map f).get? k = (m.get? k).map f := by
  obtain ⟨l, hl⟩ := m
  simp only [get?, map]
  clear hl
  induction l with
  | nil => rfl
  | cons e l ih =>
    rw [List.map_cons, lookup_cons_eq_ite, lookup_cons_eq_ite, ih]
    split <;> rfl

theorem keys_map (f : α → β) (m : SortedMap α) : (m.map f).keys = m.keys := by
  simp [keys, map, Function.comp_def]

end SortedMap

end Phrasebook
