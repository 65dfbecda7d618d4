import Phrasebook.Proofs.Shape.Placement

/-!
# Leaf mappings

A mapping is read as a text in several languages by what all of its entries are (`LeafMapping`),
and only then by its names: one of them is the default language, one may be `arguments`, and each
of the others has to be a language tag (`SoundLeaf`).

`Shape.leaf_cases` says what reading a leaf mapping comes to: its value, if nothing is wrong with
it, and the first fault otherwise.  A number of arguments and a name can both be at fault, and so
can two names, so `LeafFault` says in which order they are looked at.
-/

namespace Phrasebook

namespace Json

/-- The value is neither a mapping nor a list. -/
def IsScalar (j : Json) : Prop := j.isObject = false ∧ j.isArray = false

end Json

lemma lookup_isSome_iff_mem {α : Type*} {l : List (String × α)} {k : String} :
    (l.lookup k).isSome ↔ k ∈ l.map (·.1) := by
  rw [List.lookup_isSome_iff, List.mem_map]
  exact exists_congr fun p => and_congr_right fun _ => beq_iff_eq.trans eq_comm

namespace Shape

variable {default key : String} {members : List (String × Json)} {j : Json}

/-! ## Leaf mappings -/

/-- A mapping that is read as a text in several languages: its entries are texts, but for a scalar
under `arguments`, and it has an entry for the default language or for the number of arguments. -/
structure LeafMapping (default : String) (members : List (String × Json)) : Prop where
  /-- The entries are texts, or a scalar under `arguments`. -/
  entries : ∀ m ∈ members,
    (∃ text, m.2 = .string text) ∨ m.1 = argumentsEntry ∧ m.2.IsScalar
  /-- The default language or `arguments` is among the names. -/
  named : default ∈ members.map (·.1) ∨ argumentsEntry ∈ members.map (·.1)

/-- The mapping has a text in the default language. -/
def HasDefaultText (default : String) (members : List (String × Json)) : Prop :=
  ∃ text, members.lookup default = some (.string text)

/-- The number of arguments, if the mapping has one, is a natural number of 64 bits. -/
def NaturalCount (members : List (String × Json)) : Prop :=
  ∀ j, members.lookup argumentsEntry = some j → ∃ n, j = .number (.natural n)

/-- The entry `name` of a leaf mapping is its default text, its number of arguments or a
translation. -/
def KnownEntry (default name : String) : Prop :=
  name = default ∨ name = argumentsEntry ∨ LanguageTag.isCanonical name

/-- A leaf mapping in which nothing is wrong. -/
structure SoundLeaf (default : String) (members : List (String × Json)) : Prop where
  /-- It is a leaf mapping. -/
  leaf : LeafMapping default members
  /-- It has a text in the default language. -/
  text : HasDefaultText default members
  /-- The number of arguments is one. -/
  count : NaturalCount members
  /-- All other names are language tags. -/
  known : ∀ m ∈ members, KnownEntry default m.1

/-- What is wrong with the leaf mapping at `key`: of several things the first in this order. -/
inductive LeafFault (default key : String) (members : List (String × Json)) : ShapeError → Prop
  /-- There is no text in the default language. -/
  | text (text : ¬HasDefaultText default members) :
      LeafFault default key members (.missingDefault key)
  /-- The number of arguments is none. -/
  | count {j : Json} (text : HasDefaultText default members)
      (entry : members.lookup argumentsEntry = some j) (count : ∀ n, j ≠ .number (.natural n)) :
      LeafFault default key members (.unknownShape key (.notArgumentCount j.kindName))
  /-- A name is no language tag: the first of these names is blamed. -/
  | name {before after : List (String × Json)} {m : String × Json}
      (text : HasDefaultText default members) (count : NaturalCount members)
      (split : members = before ++ m :: after) (known : ∀ x ∈ before, KnownEntry default x.1)
      (unknown : ¬KnownEntry default m.1) :
      LeafFault default key members (.unknownShape key (.notLanguageTag m.1 default))

lemma isLeafEntry_iff {m : String × Json} :
    isLeafEntry m ↔ (∃ text, m.2 = .string text) ∨ m.1 = argumentsEntry ∧ m.2.IsScalar := by
  obtain ⟨name, j⟩ := m
  cases j <;> simp [isLeafEntry, Json.IsScalar, Json.isString, Json.isObject, Json.isArray]

lemma isLeaf_iff : isLeaf default members ↔ LeafMapping default members := by
  rw [isLeaf, Bool.and_eq_true, Bool.or_eq_true, List.all_eq_true, lookup_isSome_iff_mem,
    lookup_isSome_iff_mem]
  simp only [isLeafEntry_iff]
  exact ⟨fun h => ⟨h.1, h.2⟩, fun h => ⟨h.entries, h.named⟩⟩

instance : Decidable (LeafMapping default members) := decidable_of_iff _ isLeaf_iff

lemma LeafFault.not_soundLeaf {e : ShapeError} (h : LeafFault default key members e) :
    ¬SoundLeaf default members := by
  intro hsound
  cases h with
  | text text => exact text hsound.text
  | count text entry count =>
    obtain ⟨n, hn⟩ := hsound.count _ entry
    exact count n hn
  | name text count split known unknown =>
    exact unknown (hsound.known _ (split ▸ List.mem_append_right _ List.mem_cons_self))

lemma LeafFault.key_eq {e : ShapeError} (h : LeafFault default key members e) : e.key = key := by
  cases h <;> rfl

/-! ## Reading leaf mappings -/

lemma natural?_eq_some_iff {n : UInt64} : j.natural? = some n ↔ j = .number (.natural n) := by
  cases j with
  | number x => cases x <;> simp [Json.natural?]
  | null | bool | string | array | object => simp [Json.natural?]

lemma declaredCount?_cases (key : String) (members : List (String × Json)) :
    declaredCount? key members = .ok ((members.lookup argumentsEntry).bind Json.natural?) ∧
        NaturalCount members ∨
      ∃ j, declaredCount? key members = .error (.unknownShape key (.notArgumentCount j.kindName)) ∧
        members.lookup argumentsEntry = some j ∧ ∀ n, j ≠ .number (.natural n) := by
  unfold declaredCount? NaturalCount
  cases hj : members.lookup argumentsEntry with
  | none => exact .inl ⟨rfl, fun j h => nomatch h⟩
  | some j =>
    cases hn : j.natural? with
    | none =>
      refine .inr ⟨j, by simp only [hn], rfl, fun n h => ?_⟩
      rw [natural?_eq_some_iff.2 h] at hn
      exact nomatch hn
    | some n =>
      refine .inl ⟨by simp only [hn, Option.bind_some], fun j' h => ⟨n, ?_⟩⟩
      cases h
      exact natural?_eq_some_iff.1 hn

/-- The value `v` with what an entry of a leaf mapping adds to it. -/
def translate (default : String) (v : Value) (m : String × Json) : Value :=
  if m.1 = default ∨ m.1 = argumentsEntry then v
  else
    match m.2 with
    | .string text => v.setOverride m.1 text
    | _ => v

lemma addTranslations_cons_of_known {v : Value} {m : String × Json}
    (h : KnownEntry default m.1) :
    addTranslations default key v (m :: members) =
      addTranslations default key (translate default v m) members := by
  obtain ⟨name, j⟩ := m
  rw [addTranslations.eq_def, translate]
  dsimp only
  split
  · rfl
  · rename_i hname
    rw [not_or] at hname
    rw [if_pos ((h.resolve_left hname.1).resolve_left hname.2)]
    cases j <;> rfl

lemma addTranslations_cons_of_not_known {v : Value} {m : String × Json}
    (h : ¬KnownEntry default m.1) :
    addTranslations default key v (m :: members) =
      .error (.unknownShape key (.notLanguageTag m.1 default)) := by
  simp only [KnownEntry, not_or] at h
  rw [addTranslations.eq_def]
  dsimp only
  rw [if_neg (not_or.2 ⟨h.1, h.2.1⟩), if_neg h.2.2]

/-- Translations are added up to the first name that is no language tag. -/
lemma addTranslations_cases (default key : String) (v : Value) (members : List (String × Json)) :
    addTranslations default key v members = .ok (members.foldl (translate default) v) ∧
        (∀ m ∈ members, KnownEntry default m.1) ∨
      ∃ before m after, members = before ++ m :: after ∧
        (∀ x ∈ before, KnownEntry default x.1) ∧ ¬KnownEntry default m.1 ∧
        addTranslations default key v members =
          .error (.unknownShape key (.notLanguageTag m.1 default)) := by
  induction members generalizing v with
  | nil => exact .inl ⟨rfl, nofun⟩
  | cons m rest ih =>
    by_cases hm : KnownEntry default m.1
    · rw [addTranslations_cons_of_known hm]
      rcases ih (translate default v m) with
        ⟨hok, hrest⟩ | ⟨before, x, after, rfl, hbefore, hx, herror⟩
      · exact .inl ⟨hok, List.forall_mem_cons.2 ⟨hm, hrest⟩⟩
      · exact .inr ⟨m :: before, x, after, rfl, List.forall_mem_cons.2 ⟨hm, hbefore⟩, hx, herror⟩
    · exact .inr ⟨[], m, rest, rfl, nofun, hm, addTranslations_cons_of_not_known hm⟩

/-- What a sound leaf mapping with this default text is read as. -/
def leafValue (default text : String) (members : List (String × Json)) : Value :=
  members.foldl (translate default)
    ((((members.lookup argumentsEntry).bind Json.natural?).map
      (Value.ofText text).withArgumentCount).getD (.ofText text))

/-- A leaf mapping is read, or refused for the first thing that is wrong. -/
lemma leaf_cases (key : String) (h : LeafMapping default members) :
    (∃ text, members.lookup default = some (.string text) ∧
        leaf default key members = .ok (leafValue default text members)) ∧
        SoundLeaf default members ∨
      ∃ e, leaf default key members = .error e ∧ LeafFault default key members e := by
  by_cases htext : HasDefaultText default members
  · obtain ⟨text, hlookup⟩ := htext
    unfold leaf
    rw [hlookup]
    rcases declaredCount?_cases key members with ⟨hok, hcount⟩ | ⟨j, herror, hj, hn⟩
    · rw [hok]
      rcases addTranslations_cases default key _ members with
        ⟨hv, hknown⟩ | ⟨before, m, after, hsplit, hbefore, hm, herror⟩
      · exact .inl ⟨⟨text, rfl, hv⟩, h, ⟨text, hlookup⟩, hcount, hknown⟩
      · exact .inr ⟨_, herror, .name ⟨text, hlookup⟩ hcount hsplit hbefore hm⟩
    · rw [herror]
      exact .inr ⟨_, rfl, .count ⟨text, hlookup⟩ hj hn⟩
  · refine .inr ⟨_, ?_, .text htext⟩
    unfold leaf
    split
    · rename_i text hlookup
      exact absurd ⟨text, hlookup⟩ htext
    · rfl

end Shape

end Phrasebook
