import Phrasebook.Proofs.Naming.KeyWords
import Phrasebook.Proofs.Unicode.CaseImages

/-!
# Where underscores stand in identifiers

A name that the target language has reserved gets an underscore behind it.  That keeps different
names apart only if no name ends with an underscore of its own (`Unmarked`): then a marked name is
none of the unmarked ones, and the mark can be taken off again (`mark_inj`).

* Names of accessors in camel case and names of types have an underscore only at their head
  (`lowerCamel_jointless`, `typeName_jointless`).
* Names of accessors in snake case have underscores between words, and words are not empty and have
  none (`snakeCase_unmarked`).
* A member may be spelled with an underscore at its end.  It then has the same words as the member
  without it (`snakeCase_eq_of_memberName`).

The head of a name also tells its kind: the name of a type does not begin with a small ASCII letter,
and the name of an accessor not with a capital one.
-/

namespace Phrasebook

namespace Naming

open Unicode

/-! ## Words -/

section Words

variable {segment w : List Char} {segments : List String} {c : Char}

lemma ne_nil_of_mem_words (h : w ∈ words segment) : w ≠ [] :=
  List.ne_nil_of_mem_splitBy (List.mem_of_mem_filter h)

lemma isAlphanumeric_of_mem_words (h : w ∈ words segment) (hc : c ∈ w) : isAlphanumeric c :=
  List.all_eq_true.1 (List.mem_filter.1 h).2 c hc

lemma ne_nil_of_mem_allWords (h : w ∈ allWords segments) : w ≠ [] := by
  obtain ⟨s, -, h⟩ := List.mem_flatMap.1 h
  exact ne_nil_of_mem_words h

lemma isAlphanumeric_of_mem_allWords (h : w ∈ allWords segments) (hc : c ∈ w) :
    isAlphanumeric c := by
  obtain ⟨s, -, h⟩ := List.mem_flatMap.1 h
  exact isAlphanumeric_of_mem_words h hc

lemma underscore_notMem_capitalize (h : ∀ c ∈ w, isAlphanumeric c) : '_' ∉ capitalize w := by
  cases w with
  | nil => exact List.not_mem_nil
  | cons c rest =>
    obtain ⟨hc, hrest⟩ := List.forall_mem_cons.1 h
    rw [capitalize, List.mem_append, not_or]
    exact ⟨underscore_notMem_upperOf hc, fun hx => ne_underscore_of_isAlphanumeric (hrest _ hx) rfl⟩

lemma underscore_notMem_decapitalize (h : ∀ c ∈ w, isAlphanumeric c) : '_' ∉ decapitalize w := by
  cases w with
  | nil => exact List.not_mem_nil
  | cons c rest =>
    obtain ⟨hc, hrest⟩ := List.forall_mem_cons.1 h
    rw [decapitalize, List.mem_append, not_or]
    exact ⟨underscore_notMem_lowerOf hc, fun hx => ne_underscore_of_isAlphanumeric (hrest _ hx) rfl⟩

end Words

/-! ## Spelling -/

/-- A name whose underscores, if it has any, stand at its head. -/
def Jointless (name : String) : Prop := '_' ∉ name.toList.tail

/-- A name that ends with an underscore only if it is nothing else. -/
def Unmarked (name : String) : Prop := ∀ n, name = n ++ "_" → n = ""

section Finish

variable {cs : List Char}

lemma toList_finish_cons (c : Char) (rest : List Char) :
    (finish (c :: rest)).toList = c :: rest ∨ (finish (c :: rest)).toList = '_' :: c :: rest := by
  rw [finish, String.toList_ofList]
  split
  · exact .inr rfl
  · exact .inl rfl

lemma toList_finish_of_head (h : (finish cs).toList.head? ≠ some '_') :
    (finish cs).toList = cs := by
  cases cs with
  | nil => exact absurd rfl h
  | cons c rest =>
    rcases toList_finish_cons c rest with hfinish | hfinish
    · exact hfinish
    · rw [hfinish] at h
      exact absurd rfl h

lemma mem_finish {x : Char} (h : x ∈ (finish cs).toList) : x = '_' ∨ x ∈ cs := by
  cases cs with
  | nil => exact .inl (List.mem_singleton.1 h)
  | cons c rest =>
    rcases toList_finish_cons c rest with hfinish | hfinish <;> rw [hfinish] at h
    · exact .inr h
    · exact List.mem_cons.1 h

/-- A name begins as its spelling does, if not with an underscore. -/
lemma head?_finish {x : Char} (h : (finish cs).toList.head? = some x) (hx : x ≠ '_') :
    cs.head? = some x := by
  have hne : (finish cs).toList.head? ≠ some '_' := by
    rw [h]
    exact fun h => hx (Option.some.inj h)
  rwa [toList_finish_of_head hne] at h

lemma finish_jointless (h : '_' ∉ cs) : Jointless (finish cs) := by
  cases cs with
  | nil => exact List.not_mem_nil
  | cons c rest =>
    rw [Jointless]
    rcases toList_finish_cons c rest with hfinish | hfinish <;> rw [hfinish]
    · exact fun hx => h (List.mem_cons_of_mem _ hx)
    · exact h

lemma finish_unmarked (h : cs.getLast? ≠ some '_') : Unmarked (finish cs) := by
  intro n hn
  have hlist : (finish cs).toList = n.toList ++ ['_'] := by rw [hn, String.toList_append]; rfl
  cases cs with
  | nil =>
    have hempty : n.toList ++ ['_'] = [] ++ ['_'] := hlist.symm
    exact String.toList_eq_nil_iff.1 (List.append_cancel_right hempty)
  | cons c rest =>
    refine absurd ?_ h
    have hlast : (finish (c :: rest)).toList.getLast? = some '_' := by simp [hlist]
    rcases toList_finish_cons c rest with hfinish | hfinish <;> rw [hfinish] at hlast
    · exact hlast
    · rwa [List.getLast?_cons_cons] at hlast

end Finish

lemma Jointless.unmarked {name : String} (h : Jointless name) : Unmarked name := by
  rintro n rfl
  rw [Jointless, String.toList_append] at h
  by_contra hn
  have hlist : n.toList ≠ [] := fun h => hn (String.toList_eq_nil_iff.1 h)
  rw [List.tail_append_of_ne_nil hlist] at h
  exact h (by simp)

section Names

variable (segments : List String)

lemma lowerCamel_jointless : Jointless (lowerCamel segments) := by
  have hwords : ∀ w ∈ allWords segments, ∀ c ∈ w, isAlphanumeric c :=
    fun w hw c hc => isAlphanumeric_of_mem_allWords hw hc
  unfold lowerCamel
  cases h : allWords segments with
  | nil => exact finish_jointless List.not_mem_nil
  | cons w ws =>
    rw [h] at hwords
    obtain ⟨hw, hws⟩ := List.forall_mem_cons.1 hwords
    refine finish_jointless ?_
    rw [List.mem_append, not_or]
    refine ⟨underscore_notMem_decapitalize hw, fun hx => ?_⟩
    obtain ⟨v, hv, hx⟩ := List.mem_flatMap.1 hx
    exact underscore_notMem_capitalize (hws v hv) hx

lemma typeName_jointless : Jointless (typeName segments) := by
  refine finish_jointless fun hx => ?_
  obtain ⟨w, hw, hx⟩ := List.mem_flatMap.1 hx
  exact underscore_notMem_capitalize (fun c hc => isAlphanumeric_of_mem_allWords hw hc) hx

lemma getLast?_intercalate_ne {c : Char} {ws : List (List Char)} (hne : ∀ w ∈ ws, w ≠ [])
    (hc : ∀ w ∈ ws, c ∉ w) : ([c].intercalate ws).getLast? ≠ some c := by
  induction ws with
  | nil => exact nofun
  | cons w rest ih =>
    obtain ⟨hw, hrest⟩ := List.forall_mem_cons.1 hne
    obtain ⟨hcw, hcrest⟩ := List.forall_mem_cons.1 hc
    cases rest with
    | nil =>
      rw [List.intercalate_singleton]
      exact fun h => hcw (List.mem_of_getLast? h)
    | cons v rest =>
      have hv : [c].intercalate (v :: rest) ≠ [] := by
        obtain ⟨hv, -⟩ := List.forall_mem_cons.1 hrest
        cases rest with
        | nil => simpa using hv
        | cons u rest => simp [List.intercalate_cons_cons, hv]
      rw [List.intercalate_cons_cons, List.getLast?_append_of_ne_nil _ hv]
      exact ih hrest hcrest

lemma snakeCase_unmarked : Unmarked (snakeCase segments) := by
  refine finish_unmarked (getLast?_intercalate_ne ?_ ?_)
  · intro l hl
    obtain ⟨w, hw, rfl⟩ := List.mem_map.1 hl
    exact lowercase_ne_nil (ne_nil_of_mem_allWords hw)
  · intro l hl
    obtain ⟨w, hw, rfl⟩ := List.mem_map.1 hl
    exact underscore_notMem_lowercase fun c hc => isAlphanumeric_of_mem_allWords hw hc

lemma mem_intercalate {c x : Char} {ws : List (List Char)} (h : x ∈ [c].intercalate ws) :
    x = c ∨ ∃ w ∈ ws, x ∈ w := by
  induction ws with
  | nil => exact nomatch h
  | cons w rest ih =>
    cases rest with
    | nil => exact .inr ⟨w, List.mem_singleton.2 rfl, by simpa using h⟩
    | cons v rest =>
      rw [List.intercalate_cons_cons, List.append_assoc, List.mem_append, List.mem_append,
        List.mem_singleton] at h
      rcases h with h | h | h
      · exact .inr ⟨w, List.mem_cons_self, h⟩
      · exact .inl h
      · exact (ih h).imp_right fun ⟨u, hu, hx⟩ => ⟨u, List.mem_cons_of_mem _ hu, hx⟩

/-- No ASCII capital is left in snake case. -/
lemma not_capital_of_mem_snakeCase {x : Char} (hx : x ∈ (snakeCase segments).toList) :
    ¬(0x41 ≤ x.toNat ∧ x.toNat ≤ 0x5A) := by
  rcases mem_finish hx with rfl | hx
  · decide
  · rcases mem_intercalate hx with rfl | ⟨l, hl, hx⟩
    · decide
    · obtain ⟨w, -, rfl⟩ := List.mem_map.1 hl
      exact not_capital_of_mem_lowercase hx

end Names

/-! ## Heads -/

section Heads

variable {segments : List String} {x : Char}

/-- The name of a type does not begin with a small ASCII letter. -/
lemma not_small_head_typeName (hx : (typeName segments).toList.head? = some x) :
    ¬(0x61 ≤ x.toNat ∧ x.toNat ≤ 0x7A) := by
  by_cases hmark : x = '_'
  · subst hmark
    decide
  · have hhead := head?_finish hx hmark
    cases h : allWords segments with
    | nil =>
      rw [h] at hhead
      exact nomatch hhead
    | cons w ws =>
      cases w with
      | nil => exact absurd rfl (ne_nil_of_mem_allWords (h ▸ List.mem_cons_self))
      | cons c rest =>
        rw [h, List.flatMap_cons, capitalize, List.append_assoc,
          List.head?_append_of_ne_nil _ (upperOf_ne_nil c)] at hhead
        exact not_small_of_mem_upperOf (List.mem_of_head? hhead)

/-- The name of an accessor in camel case does not begin with an ASCII capital. -/
lemma not_capital_head_lowerCamel (hx : (lowerCamel segments).toList.head? = some x) :
    ¬(0x41 ≤ x.toNat ∧ x.toNat ≤ 0x5A) := by
  unfold lowerCamel at hx
  cases h : allWords segments with
  | nil =>
    rw [h] at hx
    obtain rfl : '_' = x := Option.some.inj hx
    decide
  | cons w ws =>
    cases w with
    | nil => exact absurd rfl (ne_nil_of_mem_allWords (h ▸ List.mem_cons_self))
    | cons c rest =>
      rw [h] at hx
      by_cases hmark : x = '_'
      · subst hmark
        decide
      · have hhead := head?_finish hx hmark
        rw [decapitalize, List.append_assoc, List.head?_append_of_ne_nil _ (lowerOf_ne_nil c)]
          at hhead
        exact not_capital_of_mem_lowerOf (List.mem_of_head? hhead)

end Heads

/-! ## Marks -/

/-- `name` with an underscore behind it if `p` holds of it. -/
def mark (p : String → Prop) [DecidablePred p] (name : String) : String :=
  if p name then name ++ "_" else name

/-- Marking keeps names apart that have no mark of their own. -/
lemma mark_inj {p : String → Prop} [DecidablePred p] {x y : String} (hp : ¬p "")
    (hx : Unmarked x) (hy : Unmarked y) (h : mark p x = mark p y) : x = y := by
  unfold mark at h
  split_ifs at h with hpx hpy hpy
  · exact String.append_left_inj _ |>.1 h
  · exact absurd (hy x h.symm ▸ hpx) hp
  · exact absurd (hx y h ▸ hpy) hp
  · exact h

/-! ## Members -/

section Members

variable {f g n : String}

/-- A character as a member spells it. -/
def spell (c : Char) : Char := if isAlphanumeric c || c == '_' then c else '_'

lemma isAlphanumeric_of_spell_eq {c : Char} (h : spell c = '_') : isAlphanumeric c = false := by
  cases hc : isAlphanumeric c with
  | false => rfl
  | true =>
    have hself : spell c = c := by simp [spell, hc]
    exact absurd (hself.symm.trans h) (ne_underscore_of_isAlphanumeric hc)

lemma map_spell {cs : List Char} (h : '_' ∉ cs.map spell) : cs.map spell = cs := by
  refine (List.map_congr_left fun c hc => ?_).trans (List.map_id _)
  by_contra hne
  refine h (List.mem_map.2 ⟨c, hc, ?_⟩)
  unfold spell at hne ⊢
  split_ifs at hne ⊢
  · exact absurd rfl hne
  · rfl

/-- A member that does not begin with an underscore is spelled character by character. -/
lemma toList_memberName (h : (memberName f).toList.head? ≠ some '_') :
    (memberName f).toList = f.toList.map spell :=
  toList_finish_of_head h

/-- A member whose name is that of another one and an underscore has the same words. -/
lemma snakeCase_eq_of_memberName (hn : '_' ∉ (memberName f).toList) (hne : memberName f ≠ "")
    (hg : memberName g = memberName f ++ "_") : snakeCase [g] = snakeCase [f] := by
  have hheadf : (memberName f).toList.head? ≠ some '_' := fun h => hn (List.mem_of_head? h)
  have hheadg : (memberName g).toList.head? ≠ some '_' := by
    rw [hg, String.toList_append, List.head?_append_of_ne_nil]
    · exact hheadf
    · exact fun h => hne (String.toList_eq_nil_iff.1 h)
  have hspellf := toList_memberName hheadf
  have hspellg : g.toList.map spell = (memberName f).toList ++ ['_'] := by
    rw [← toList_memberName hheadg, hg, String.toList_append]
    rfl
  obtain ⟨before, last, hsplit, hbefore, hlast⟩ := List.map_eq_append_iff.1 hspellg
  obtain ⟨x, rfl, hx⟩ : ∃ x, last = [x] ∧ spell x = '_' := by
    obtain ⟨x, rest, rfl, hx, hrest⟩ := List.map_eq_cons_iff.1 hlast
    exact ⟨x, by rw [List.map_eq_nil_iff.1 hrest], hx⟩
  have hf : f.toList = before := by
    have hself : f.toList.map spell = f.toList := map_spell (by rwa [← hspellf])
    have hbeforeself : before.map spell = before := map_spell (by rwa [hbefore])
    rw [← hself, ← hspellf, ← hbefore, hbeforeself]
  have hwords : allWords [g] = allWords [f] := by
    have hnil : words [] = [] := rfl
    simp only [allWords, List.flatMap_singleton]
    rw [hsplit, words_append_cons (isAlphanumeric_of_spell_eq hx), hnil, List.append_nil, hf]
  rw [snakeCase, snakeCase, hwords]

end Members

end Naming

end Phrasebook
