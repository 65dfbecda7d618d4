import Mathlib.Data.List.TakeWhile
import Phrasebook.Proofs.LanguageTag.Recasing
import Phrasebook.Proofs.Naming.Identifiers

/-!
# The grammar of accepted tags

Whether a tag is accepted is settled by reading it without regard to case, writing what was read,
and comparing.  This file says what comes out of that, without reading and writing.

* `IsLanguage`, `IsScript`, `IsRegion` and `IsVariant` are the parts of a tag, and `IsTag` puts them
  in order.  `IsLooseVariant` is what the reader lets pass for a variant, and `IsLooseTag` what it
  lets pass for a tag.
* Each reader returns parts of its kind and leaves them as they are, such as `IsScript.of_script?`
  and `IsScript.script?_eq`.
* `ofChars?_eq_some_iff` says how the readers work together.

So a text is accepted exactly if it is a loose tag (`isCanonical_iff`), and a tag exactly if it is
strict besides (`isTag_iff`): it has letters, digits and hyphens only, and no part of four
characters begins with a small letter.
-/

namespace Phrasebook

open Unicode

/-- A tag without any characters but letters, digits and hyphens. -/
def IsPlainTag (language : String) : Prop :=
  ∀ x ∈ language.toList, isAsciiAlphanumeric x ∨ x = '-'

instance (language : String) : Decidable (IsPlainTag language) :=
  decidable_of_iff (language.toList.all fun x => isAsciiAlphanumeric x || x == '-')
    (by simp [IsPlainTag])

namespace LanguageTag

/-! ## Small letters and capitals -/

/-- Whether `c` is an ASCII small letter. -/
def isSmall (c : Char) : Bool := 'a' ≤ c && c ≤ 'z'

/-- Whether `c` is an ASCII capital. -/
def isCapital (c : Char) : Bool := 'A' ≤ c && c ≤ 'Z'

section Chars

variable {c : Char}

lemma isLetter_eq (c : Char) : isLetter c = (isSmall c || isCapital c) := rfl

lemma isLetter_of_isSmall (hc : isSmall c) : isLetter c := by simp [isLetter_eq, hc]

lemma isLetter_of_isCapital (hc : isCapital c) : isLetter c := by simp [isLetter_eq, hc]

lemma isAsciiAlphanumeric_eq (c : Char) :
    isAsciiAlphanumeric c = (isAsciiDigit c || isSmall c || isCapital c) := rfl

lemma asciiLower_of_not_isCapital (hc : isCapital c = false) : asciiLower c = c :=
  if_neg (Bool.eq_false_iff.1 hc)

lemma asciiUpper_of_not_isSmall (hc : isSmall c = false) : asciiUpper c = c :=
  if_neg (Bool.eq_false_iff.1 hc)

lemma not_isCapital_of_isSmall (hc : isSmall c) : isCapital c = false :=
  of_alphanumeric_codes (p := fun c => isSmall c → isCapital c = false) (by decide)
    (isAsciiAlphanumeric_of_isLetter (isLetter_of_isSmall hc)) hc

lemma not_isSmall_of_isCapital (hc : isCapital c) : isSmall c = false := by
  by_contra h
  rw [Bool.not_eq_false] at h
  rw [not_isCapital_of_isSmall h] at hc
  exact nomatch hc

lemma not_isSmall_of_isAsciiDigit (hc : isAsciiDigit c) : isSmall c = false :=
  (Bool.or_eq_false_iff.1 (kept_of_isAsciiDigit hc).2.2.2.1).1

lemma not_isCapital_of_isAsciiDigit (hc : isAsciiDigit c) : isCapital c = false :=
  (Bool.or_eq_false_iff.1 (kept_of_isAsciiDigit hc).2.2.2.1).2

lemma isSmall_asciiLower (hc : isLetter c) : isSmall (asciiLower c) :=
  of_alphanumeric_codes (p := fun c => isLetter c → isSmall (asciiLower c)) (by decide)
    (isAsciiAlphanumeric_of_isLetter hc) hc

lemma isCapital_asciiUpper (hc : isLetter c) : isCapital (asciiUpper c) :=
  of_alphanumeric_codes (p := fun c => isLetter c → isCapital (asciiUpper c)) (by decide)
    (isAsciiAlphanumeric_of_isLetter hc) hc

/-- What `asciiLower` keeps. -/
lemma asciiLower_spec (hc : isPlainAscii c) :
    isPlainAscii (asciiLower c) ∧ isCapital (asciiLower c) = false ∧
      isAsciiDigit (asciiLower c) = isAsciiDigit c ∧
      isAsciiAlphanumeric (asciiLower c) = isAsciiAlphanumeric c ∧
      (IsJoint (asciiLower c) → IsJoint c) := by
  have hascii : c.toNat < 128 := by
    rw [isPlainAscii, Bool.and_eq_true, decide_eq_true_eq] at hc
    exact hc.2
  exact of_ascii_codes (p := fun c => isPlainAscii c → isPlainAscii (asciiLower c) ∧
    isCapital (asciiLower c) = false ∧ isAsciiDigit (asciiLower c) = isAsciiDigit c ∧
    isAsciiAlphanumeric (asciiLower c) = isAsciiAlphanumeric c ∧
    (IsJoint (asciiLower c) → IsJoint c)) (by decide +kernel) hascii hc

end Chars

/-! ## Parts -/

/-- A language: two or three small letters. -/
def IsLanguage (s : List Char) : Prop :=
  (s.length = 2 ∨ s.length = 3) ∧ ∀ c ∈ s, isSmall c

/-- A script: four letters, of which the first is a capital and the others are small. -/
def IsScript (s : List Char) : Prop :=
  s.length = 4 ∧ (∀ c ∈ s.take 1, isCapital c) ∧ ∀ c ∈ s.drop 1, isSmall c

/-- A region: two capitals or three digits. -/
def IsRegion (s : List Char) : Prop :=
  (s.length = 2 ∧ ∀ c ∈ s, isCapital c) ∨ (s.length = 3 ∧ ∀ c ∈ s, isAsciiDigit c)

/-- A variant: five to eight small letters and digits, or four that begin with a digit. -/
def IsVariant (s : List Char) : Prop :=
  (∀ c ∈ s, isSmall c ∨ isAsciiDigit c) ∧
    ((5 ≤ s.length ∧ s.length ≤ 8) ∨ (s.length = 4 ∧ ∀ c ∈ s.take 1, isAsciiDigit c))

/-- What is taken for a variant: five to eight small letters and digits, or four characters that
either begin with a digit or go on with three small letters and digits.  The characters that are
not restricted by this may be any of ASCII but capitals and those that part subtags. -/
def IsLooseVariant (s : List Char) : Prop :=
  (∀ c ∈ s, isPlainAscii c ∧ isCapital c = false ∧ ¬IsJoint c) ∧
    ((5 ≤ s.length ∧ s.length ≤ 8 ∧ ∀ c ∈ s, isAsciiAlphanumeric c) ∨
      (s.length = 4 ∧ ((∀ c ∈ s.take 1, isAsciiDigit c) ∨ ∀ c ∈ s.drop 1, isAsciiAlphanumeric c)))

section Readers

variable {s x : List Char}

lemma IsLanguage.of_language? (h : language? s = some x) (hx : x.length = 2 ∨ x.length = 3) :
    IsLanguage x := by
  unfold language? at h
  split at h
  · rename_i hs
    cases h
    exact ⟨hx, List.forall_mem_map.2 fun c hc =>
      isSmall_asciiLower (List.all_eq_true.1 hs.2.2.2 c hc)⟩
  · exact nomatch h

lemma IsLanguage.language?_eq (h : IsLanguage x) : language? x = some x := by
  obtain ⟨hlength, hsmall⟩ := h
  have hlower : x.map asciiLower = x := map_eq_self_of_forall fun c hc =>
    asciiLower_of_not_isCapital (not_isCapital_of_isSmall (hsmall c hc))
  have hletters : x.all isLetter := List.all_eq_true.2 fun c hc => isLetter_of_isSmall (hsmall c hc)
  rw [language?, if_pos ⟨by omega, by omega, by omega, hletters⟩, hlower]

lemma IsScript.of_script? (h : script? s = some x) : IsScript x := by
  unfold script? at h
  split at h
  · split at h
    · rename_i a b c d hs
      cases h
      obtain ⟨ha, hbcd⟩ := List.forall_mem_cons.1 (List.all_eq_true.1 hs)
      refine ⟨rfl, List.forall_mem_singleton.2 (isCapital_asciiUpper ha), ?_⟩
      exact List.forall_mem_map.2 fun c hc => isSmall_asciiLower (hbcd c hc)
    · exact nomatch h
  · exact nomatch h

lemma IsScript.script?_eq (h : IsScript x) : script? x = some x := by
  obtain ⟨hlength, hcapital, hsmall⟩ := h
  obtain ⟨a, b, c, d, rfl⟩ := List.length_eq_four.1 hlength
  have ha : isCapital a := hcapital a (by simp)
  have hlower : [b, c, d].map asciiLower = [b, c, d] := map_eq_self_of_forall fun c hc =>
    asciiLower_of_not_isCapital (not_isCapital_of_isSmall (hsmall c hc))
  have hletters : [a, b, c, d].all isLetter := List.all_eq_true.2 <| List.forall_mem_cons.2
    ⟨isLetter_of_isCapital ha, fun c hc => isLetter_of_isSmall (hsmall c hc)⟩
  rw [script?, if_pos hletters, hlower, asciiUpper_of_not_isSmall (not_isSmall_of_isCapital ha)]

lemma script?_eq_none (h : ¬IsWord 4 s) : script? s = none := by
  unfold script?
  split
  · split
    · rename_i hs
      exact absurd ⟨rfl, List.all_eq_true.1 hs⟩ h
    · rfl
  · rfl

lemma not_isWord_of_script? (h : script? s = none) : ¬IsWord 4 s := by
  intro hword
  obtain ⟨a, b, c, d, rfl⟩ := List.length_eq_four.1 hword.1
  rw [script?, if_pos (List.all_eq_true.2 hword.2)] at h
  exact absurd h (Option.some_ne_none _)

lemma IsRegion.of_region? (h : region? s = some x) : IsRegion x := by
  unfold region? at h
  split at h
  · rename_i hs
    cases h
    rcases hs with ⟨hlength, hs⟩ | ⟨hlength, hs⟩
    · exact .inl ⟨by simpa using hlength, List.forall_mem_map.2 fun c hc =>
        isCapital_asciiUpper (List.all_eq_true.1 hs c hc)⟩
    · have hdigits := List.all_eq_true.1 hs
      rw [(spelled_digits hdigits).1]
      exact .inr ⟨hlength, hdigits⟩
  · exact nomatch h

lemma IsRegion.region?_eq (h : IsRegion x) : region? x = some x := by
  rcases h with ⟨hlength, hcapital⟩ | ⟨hlength, hdigits⟩
  · have hletters : x.all isLetter :=
      List.all_eq_true.2 fun c hc => isLetter_of_isCapital (hcapital c hc)
    have hupper : x.map asciiUpper = x := map_eq_self_of_forall fun c hc =>
      asciiUpper_of_not_isSmall (not_isSmall_of_isCapital (hcapital c hc))
    rw [region?, if_pos (.inl ⟨hlength, hletters⟩), hupper]
  · rw [region?, if_pos (.inr ⟨hlength, List.all_eq_true.2 hdigits⟩), (spelled_digits hdigits).1]

lemma region?_eq_none (h : 4 ≤ s.length) : region? s = none :=
  if_neg fun h' => by omega

lemma IsLooseVariant.of_variant? (h : variant? s = some x) (hs : ∀ c ∈ s, ¬IsJoint c) :
    IsLooseVariant x := by
  unfold variant? at h
  split at h
  · rename_i hvariant
    cases h
    obtain ⟨hplain, hcases⟩ := hvariant
    have hspec c hc := asciiLower_spec (List.all_eq_true.1 hplain c hc)
    have halphanumeric {t : List Char} (ht : ∀ c ∈ t, c ∈ s) (hall : t.all isAsciiAlphanumeric) :
        ∀ c ∈ t.map asciiLower, isAsciiAlphanumeric c := by
      refine List.forall_mem_map.2 fun c hc => ?_
      rw [(hspec c (ht c hc)).2.2.2.1]
      exact List.all_eq_true.1 hall c hc
    refine ⟨List.forall_mem_map.2 fun c hc => ?_, ?_⟩
    · obtain ⟨hplain, hcapital, -, -, hjoint⟩ := hspec c hc
      exact ⟨hplain, hcapital, fun h => hs c hc (hjoint h)⟩
    · rw [List.length_map, ← List.map_take, ← List.map_drop]
      rcases hcases with ⟨hlow, hhigh, hall⟩ | ⟨hlength, hdigit | hall⟩
      · exact .inl ⟨hlow, hhigh, halphanumeric (fun _ => id) hall⟩
      · refine .inr ⟨hlength, .inl (List.forall_mem_map.2 fun c hc => ?_)⟩
        rw [(hspec c (List.mem_of_mem_take hc)).2.2.1]
        exact List.all_eq_true.1 hdigit c hc
      · exact .inr ⟨hlength, .inr (halphanumeric (fun _ => List.mem_of_mem_drop) hall)⟩
  · exact nomatch h

lemma IsLooseVariant.variant?_eq (h : IsLooseVariant x) : variant? x = some x := by
  obtain ⟨hchars, hcases⟩ := h
  have hlower : x.map asciiLower = x := map_eq_self_of_forall fun c hc =>
    asciiLower_of_not_isCapital (hchars c hc).2.1
  have hplain : x.all isPlainAscii := List.all_eq_true.2 fun c hc => (hchars c hc).1
  simp only [← List.all_eq_true] at hcases
  rw [variant?, if_pos ⟨hplain, hcases⟩, hlower]

end Readers

/-! ## Lists of subtags -/

section Subtags

variable {cs s v : List Char} {ss vs ws : List (List Char)} {r : Option (List Char)}
  {t : LanguageTag}

lemma forall_of_mem_subtags (h : s ∈ subtags cs) : ∀ c ∈ s, c ∈ cs ∧ ¬IsJoint c := by
  induction cs generalizing s with
  | nil =>
    obtain rfl := List.mem_singleton.1 h
    exact nofun
  | cons d rest ih =>
    have hrest {s : List Char} (hs : s ∈ subtags rest) : ∀ c ∈ s, c ∈ d :: rest ∧ ¬IsJoint c :=
      fun c hc => (ih hs c hc).imp_left (List.mem_cons_of_mem d)
    by_cases hd : IsJoint d
    · rw [subtags_cons_of_isJoint hd] at h
      rcases List.mem_cons.1 h with rfl | h
      · exact nofun
      · exact hrest h
    · obtain ⟨t, more, heq⟩ := exists_subtags_eq_cons rest
      rw [heq] at hrest
      rw [subtags_cons_of_not_isJoint hd heq] at h
      rcases List.mem_cons.1 h with rfl | h
      · exact List.forall_mem_cons.2 ⟨⟨List.mem_cons_self, hd⟩, hrest List.mem_cons_self⟩
      · exact hrest (List.mem_cons_of_mem _ h)

/-! ### Variants -/

lemma insertVariant_of_lt (h : ∀ w ∈ vs, v < w) : insertVariant v vs = v :: vs := by
  cases vs with
  | nil => rfl
  | cons w rest => rw [insertVariant, if_pos (h w List.mem_cons_self)]

lemma pairwise_insertVariant (v : List Char) (h : vs.Pairwise (· < ·)) :
    (insertVariant v vs).Pairwise (· < ·) := by
  induction vs with
  | nil => exact List.pairwise_singleton _ _
  | cons w rest ih =>
    obtain ⟨hw, hrest⟩ := List.pairwise_cons.1 h
    rw [insertVariant]
    split_ifs with hlt heq
    · refine List.pairwise_cons.2 ⟨fun u hu => ?_, h⟩
      rcases List.mem_cons.1 hu with rfl | hu
      · exact hlt
      · exact List.lt_trans hlt (hw u hu)
    · exact h
    · refine List.pairwise_cons.2 ⟨fun u hu => ?_, ih hrest⟩
      rcases mem_insertVariant hu with rfl | hu
      · exact (List.le_iff_lt_or_eq.1 (List.not_lt.1 hlt)).resolve_right (Ne.symm heq)
      · exact hw u hu

lemma variants?_spec (h : variants? ss = some vs) :
    vs.Pairwise (· < ·) ∧ ∀ v ∈ vs, ∃ s ∈ ss, variant? s = some v := by
  induction ss generalizing vs with
  | nil =>
    cases h
    exact ⟨.nil, nofun⟩
  | cons s rest ih =>
    obtain ⟨v, hv, h⟩ := Option.bind_eq_some_iff.1 h
    obtain ⟨ws, hws, h⟩ := Option.bind_eq_some_iff.1 h
    cases h
    obtain ⟨hsorted, hread⟩ := ih hws
    refine ⟨pairwise_insertVariant v hsorted, fun w hw => ?_⟩
    rcases mem_insertVariant hw with rfl | hw
    · exact ⟨s, List.mem_cons_self, hv⟩
    · obtain ⟨s', hs', hw⟩ := hread w hw
      exact ⟨s', List.mem_cons_of_mem _ hs', hw⟩

/-- Variants that are in order already are read as they are. -/
lemma variants?_eq_self (hsorted : vs.Pairwise (· < ·)) (h : ∀ v ∈ vs, IsLooseVariant v) :
    variants? vs = some vs := by
  induction vs with
  | nil => rfl
  | cons v rest ih =>
    obtain ⟨hv, hrest⟩ := List.forall_mem_cons.1 h
    obtain ⟨hless, hsorted⟩ := List.pairwise_cons.1 hsorted
    rw [variants?, hv.variant?_eq, ih hsorted hrest]
    exact congrArg some (insertVariant_of_lt hless)

/-! ### All parts -/

lemma regionAndVariants?_eq_some_iff : regionAndVariants? ss = some (r, vs) ↔
    (∃ s rest x, ss = s :: rest ∧ region? s = some x ∧ variants? rest = some vs ∧ r = some x) ∨
      ((∀ s ∈ ss.head?, region? s = none) ∧ variants? ss = some vs ∧ r = none) := by
  cases ss with
  | nil =>
    simp only [regionAndVariants?, variants?]
    constructor
    · rintro ⟨⟩
      exact .inr ⟨nofun, rfl, rfl⟩
    · rintro (⟨_, _, _, h, -⟩ | ⟨-, h, rfl⟩)
      · exact nomatch h
      · cases h
        rfl
  | cons s rest =>
    rw [regionAndVariants?]
    cases hs : region? s <;> simp [hs, Option.bind_eq_some_iff, @eq_comm _ _ r]

/-- How a tag is read: the language, then a script unless the next subtag is none, then the rest. -/
lemma ofChars?_eq_some_iff : ofChars? cs = some t ↔
    ∃ l ss, subtags cs = l :: ss ∧ language? l = some t.language ∧
      ((∃ s rest x, ss = s :: rest ∧ script? s = some x ∧
          regionAndVariants? rest = some (t.region, t.variants) ∧ t.script = some x) ∨
        ((∀ s ∈ ss.head?, script? s = none) ∧
          regionAndVariants? ss = some (t.region, t.variants) ∧ t.script = none)) := by
  obtain ⟨l, ss, hsubtags⟩ := exists_subtags_eq_cons cs
  obtain ⟨language, script, region, variants⟩ := t
  rw [ofChars?, hsubtags]
  cases ss with
  | nil =>
    constructor
    · intro h
      obtain ⟨_, hl, h⟩ := Option.bind_eq_some_iff.1 h
      cases h
      exact ⟨l, [], rfl, hl, .inr ⟨by simp, rfl, rfl⟩⟩
    · rintro ⟨l', ss, heq, hl, ⟨_, _, _, rfl, -⟩ | ⟨-, h, rfl⟩⟩
      · simp at heq
      · obtain ⟨rfl, rfl⟩ := List.cons.inj heq
        cases h
        exact Option.bind_eq_some_iff.2 ⟨language, hl, rfl⟩
  | cons s rest =>
    cases hs : script? s <;> simp [hs, Option.bind_eq_some_iff, @eq_comm _ _ script]

end Subtags

/-! ## Tags -/

/-- The parts of a tag, in order. -/
def parts (t : LanguageTag) : List (List Char) :=
  t.language :: (t.script.toList ++ t.region.toList ++ t.variants)

lemma parts_ne_nil (t : LanguageTag) : t.parts ≠ [] := List.cons_ne_nil _ _

/-- `s` is the parts of `t` joined by hyphens, where variants are what `isVariant` says. -/
structure HasForm (isVariant : List Char → Prop) (s : String) (t : LanguageTag) : Prop where
  language : IsLanguage t.language
  script : ∀ x ∈ t.script, IsScript x
  region : ∀ x ∈ t.region, IsRegion x
  variants : ∀ v ∈ t.variants, isVariant v
  increasing : t.variants.Pairwise (· < ·)
  toList_eq : s.toList = ['-'].intercalate t.parts

/-- A tag: a language, a script, a region and variants, all but the first optional, with the
variants in increasing order. -/
def IsTag (s : String) : Prop := ∃ t : LanguageTag, HasForm IsVariant s t

/-- What is taken for a tag: its variants are only loosely restricted, but one of four letters right
behind the language would be taken for a script. -/
def IsLooseTag (s : String) : Prop :=
  ∃ t : LanguageTag, HasForm IsLooseVariant s t ∧
    (t.script = none → t.region = none → ∀ v ∈ t.variants.head?, ¬IsWord 4 v)

lemma subtags_intercalate {ps : List (List Char)} (hne : ps ≠ [])
    (h : ∀ p ∈ ps, ∀ c ∈ p, ¬IsJoint c) : subtags (['-'].intercalate ps) = ps := by
  have hmap := subtags_map_intercalate (f := id) (by decide) hne
  simp only [List.map_id] at hmap
  rw [hmap, List.flatMap_congr fun p hp => subtags_eq_singleton (h p hp), List.flatMap_singleton']

section Forms

variable {s : String} {t : LanguageTag} {p : List Char}

lemma IsLanguage.isAsciiAlphanumeric (h : IsLanguage p) : ∀ c ∈ p, isAsciiAlphanumeric c :=
  fun c hc => isAsciiAlphanumeric_of_isLetter (isLetter_of_isSmall (h.2 c hc))

lemma IsScript.isAsciiAlphanumeric (h : IsScript p) : ∀ c ∈ p, isAsciiAlphanumeric c := by
  obtain ⟨hlength, hcapital, hsmall⟩ := h
  obtain ⟨a, b, c, d, rfl⟩ := List.length_eq_four.1 hlength
  refine List.forall_mem_cons.2 ⟨?_, fun c hc => ?_⟩
  · exact isAsciiAlphanumeric_of_isLetter (isLetter_of_isCapital (hcapital a (by simp)))
  · exact isAsciiAlphanumeric_of_isLetter (isLetter_of_isSmall (hsmall c hc))

lemma IsRegion.isAsciiAlphanumeric (h : IsRegion p) : ∀ c ∈ p, isAsciiAlphanumeric c := by
  intro c hc
  rcases h with ⟨-, hcapital⟩ | ⟨-, hdigit⟩
  · exact isAsciiAlphanumeric_of_isLetter (isLetter_of_isCapital (hcapital c hc))
  · simp [isAsciiAlphanumeric_eq, hdigit c hc]

lemma IsLooseVariant.four_le_length (h : IsLooseVariant p) : 4 ≤ p.length := by
  rcases h.2 with ⟨hlength, -⟩ | ⟨hlength, -⟩ <;> omega

lemma IsRegion.length_lt (h : IsRegion p) : p.length < 4 := by
  rcases h with ⟨hlength, -⟩ | ⟨hlength, -⟩ <;> omega

namespace HasForm

/-- All parts but the variants are letters and digits. -/
lemma mem_parts_cases {isVariant : List Char → Prop} (h : HasForm isVariant s t)
    (hp : p ∈ t.parts) : (∀ c ∈ p, isAsciiAlphanumeric c) ∨ p ∈ t.variants := by
  simp only [parts, List.mem_cons, List.mem_append, Option.mem_toList] at hp
  rcases hp with rfl | (hp | hp) | hp
  · exact .inl h.language.isAsciiAlphanumeric
  · exact .inl (h.script p hp).isAsciiAlphanumeric
  · exact .inl (h.region p hp).isAsciiAlphanumeric
  · exact .inr hp

lemma not_isJoint (h : HasForm IsLooseVariant s t) (hp : p ∈ t.parts) : ∀ c ∈ p, ¬IsJoint c := by
  rcases h.mem_parts_cases hp with hall | hp
  · exact fun c hc => not_isJoint_of_isAsciiAlphanumeric (hall c hc)
  · exact fun c hc => ((h.variants p hp).1 c hc).2.2

lemma subtags_eq (h : HasForm IsLooseVariant s t) : subtags s.toList = t.parts := by
  rw [h.toList_eq]
  exact subtags_intercalate t.parts_ne_nil fun p hp => h.not_isJoint hp

/-- A text of this form is read as its parts, unless a variant is taken for a script. -/
lemma ofString?_eq (h : HasForm IsLooseVariant s t)
    (hhead : t.script = none → t.region = none → ∀ v ∈ t.variants.head?, ¬IsWord 4 v) :
    ofString? s = some t := by
  have hvariants := variants?_eq_self h.increasing h.variants
  have hrest : regionAndVariants? (t.region.toList ++ t.variants) = some (t.region, t.variants) := by
    rw [regionAndVariants?_eq_some_iff]
    cases hregion : t.region with
    | some x => exact .inl ⟨x, t.variants, x, rfl, (h.region x hregion).region?_eq, hvariants, rfl⟩
    | none =>
      refine .inr ⟨fun v hv => ?_, hvariants, rfl⟩
      exact region?_eq_none (h.variants v (List.mem_of_mem_head? hv)).four_le_length
  rw [ofString?, ofChars?_eq_some_iff]
  refine ⟨t.language, _, h.subtags_eq, h.language.language?_eq, ?_⟩
  rw [List.append_assoc]
  cases hscript : t.script with
  | some x => exact .inl ⟨x, _, x, rfl, (h.script x hscript).script?_eq, hrest, rfl⟩
  | none =>
    refine .inr ⟨fun v hv => script?_eq_none ?_, hrest, rfl⟩
    cases hregion : t.region with
    | some x =>
      rw [hregion] at hv
      cases hv
      exact fun hword => absurd hword.1 (Nat.ne_of_lt (h.region _ hregion).length_lt)
    | none =>
      rw [hregion] at hv
      exact hhead hscript hregion v hv

end HasForm

/-- A text that is read as `t`, and written like that, has its form. -/
lemma hasForm_of_ofString? (h : ofString? s = some t)
    (hlength : t.language.length = 2 ∨ t.language.length = 3) (hspelled : s.toList = t.toChars) :
    HasForm IsLooseVariant s t := by
  obtain ⟨l, ss, hsubtags, hlanguage, h⟩ := ofChars?_eq_some_iff.1 h
  have hscript : ∀ x ∈ t.script, IsScript x := by
    intro x hx
    rcases h with ⟨_, _, y, -, hy, -, hsome⟩ | ⟨-, -, hnone⟩
    · cases hsome.symm.trans hx
      exact .of_script? hy
    · exact nomatch hnone.symm.trans hx
  obtain ⟨more, hmore, hrest⟩ : ∃ more ⊆ ss,
      regionAndVariants? more = some (t.region, t.variants) := by
    rcases h with ⟨_, more, _, rfl, -, hrest, -⟩ | ⟨-, hrest, -⟩
    · exact ⟨more, List.subset_cons_self _ _, hrest⟩
    · exact ⟨ss, List.Subset.refl _, hrest⟩
  have hregion : ∀ x ∈ t.region, IsRegion x := by
    intro x hx
    rcases regionAndVariants?_eq_some_iff.1 hrest with ⟨_, _, y, -, hy, -, hsome⟩ | ⟨-, -, hnone⟩
    · cases hsome.symm.trans hx
      exact .of_region? hy
    · exact nomatch hnone.symm.trans hx
  obtain ⟨vs, hvs, hvariants⟩ : ∃ vs ⊆ more, variants? vs = some t.variants := by
    rcases regionAndVariants?_eq_some_iff.1 hrest with ⟨_, vs, _, rfl, -, hvs, -⟩ | ⟨-, hvs, -⟩
    · exact ⟨vs, List.subset_cons_self _ _, hvs⟩
    · exact ⟨more, List.Subset.refl _, hvs⟩
  obtain ⟨hincreasing, hread⟩ := variants?_spec hvariants
  refine ⟨.of_language? hlanguage hlength, hscript, hregion, fun v hv => ?_, hincreasing, hspelled⟩
  obtain ⟨s', hs', hv⟩ := hread v hv
  have hmem : s' ∈ subtags s.toList := by
    rw [hsubtags]
    exact List.mem_cons_of_mem _ (hmore (hvs hs'))
  exact .of_variant? hv fun c hc => (forall_of_mem_subtags hmem c hc).2

/-- The tags that are accepted. -/
theorem isCanonical_iff : isCanonical s ↔ IsLooseTag s := by
  constructor
  · intro h
    unfold isCanonical at h
    split at h
    · rename_i t ht
      obtain ⟨hlength, hspelled⟩ := Bool.and_eq_true_iff.1 h
      rw [Bool.or_eq_true, beq_iff_eq, beq_iff_eq] at hlength
      have hform := hasForm_of_ofString? ht hlength (beq_iff_eq.1 hspelled).symm
      refine ⟨t, hform, fun hscript hregion v hv => ?_⟩
      -- the first variant is the subtag behind the language, and was not taken for a script
      obtain ⟨l, ss, hsubtags, -, h⟩ := ofChars?_eq_some_iff.1 ht
      rcases h with ⟨_, _, _, -, -, -, hsome⟩ | ⟨hnone, -, -⟩
      · exact nomatch hscript.symm.trans hsome
      · rw [hform.subtags_eq, parts, hscript, hregion] at hsubtags
        obtain ⟨-, rfl⟩ := List.cons.inj hsubtags
        exact not_isWord_of_script? (hnone v hv)
    · exact nomatch h
  · rintro ⟨t, hform, hhead⟩
    have hlength : t.language.length == 2 || t.language.length == 3 := by
      simpa using hform.language.1
    rw [isCanonical, hform.ofString?_eq hhead]
    exact Bool.and_eq_true_iff.2 ⟨hlength, beq_iff_eq.2 hform.toList_eq.symm⟩

end Forms

instance (s : String) : Decidable (IsLooseTag s) := decidable_of_iff _ isCanonical_iff

/-! ## Strict tags -/

/-- Only letters, digits and hyphens, and no part of four characters begins with a small letter. -/
def IsStrict (s : String) : Prop :=
  IsPlainTag s ∧
    ∀ p ∈ s.toList.splitOn '-', p.length = 4 → ∀ c ∈ p.take 1, isSmall c = false

section Strict

variable {s : String} {t : LanguageTag} {p : List Char}

lemma IsVariant.isAsciiAlphanumeric (h : IsVariant p) : ∀ c ∈ p, isAsciiAlphanumeric c := by
  intro c hc
  rcases h.1 c hc with hsmall | hdigit
  · exact isAsciiAlphanumeric_of_isLetter (isLetter_of_isSmall hsmall)
  · simp [isAsciiAlphanumeric_eq, hdigit]

lemma isPlainAscii_of_isAsciiAlphanumeric {c : Char} (hc : isAsciiAlphanumeric c) :
    isPlainAscii c :=
  of_alphanumeric_codes (p := fun c => isPlainAscii c) (by decide) hc

/-- A variant is what a loose one is that has letters and digits only and, if it has four
characters, does not begin with a letter. -/
lemma isVariant_iff : IsVariant p ↔ IsLooseVariant p ∧ (∀ c ∈ p, isAsciiAlphanumeric c) ∧
    (p.length = 4 → ∀ c ∈ p.take 1, isSmall c = false) := by
  constructor
  · intro h
    have hall := h.isAsciiAlphanumeric
    refine ⟨⟨fun c hc => ⟨isPlainAscii_of_isAsciiAlphanumeric (hall c hc), ?_,
      not_isJoint_of_isAsciiAlphanumeric (hall c hc)⟩, ?_⟩, hall, fun hlength c hc => ?_⟩
    · rcases h.1 c hc with hsmall | hdigit
      · exact not_isCapital_of_isSmall hsmall
      · exact not_isCapital_of_isAsciiDigit hdigit
    · rcases h.2 with ⟨hlow, hhigh⟩ | ⟨hlength, hdigit⟩
      · exact .inl ⟨hlow, hhigh, hall⟩
      · exact .inr ⟨hlength, .inl hdigit⟩
    · rcases h.2 with ⟨hlow, -⟩ | ⟨-, hdigit⟩
      · omega
      · exact not_isSmall_of_isAsciiDigit (hdigit c hc)
  · rintro ⟨⟨hchars, hcases⟩, hall, hhead⟩
    have hkind : ∀ c ∈ p, isSmall c ∨ isAsciiDigit c := by
      intro c hc
      have halphanumeric := hall c hc
      rw [isAsciiAlphanumeric_eq, (hchars c hc).2.1, Bool.or_false, Bool.or_eq_true] at halphanumeric
      exact halphanumeric.symm
    refine ⟨hkind, ?_⟩
    rcases hcases with ⟨hlow, hhigh, -⟩ | ⟨hlength, -⟩
    · exact .inl ⟨hlow, hhigh⟩
    · refine .inr ⟨hlength, fun c hc => (hkind c (List.mem_of_mem_take hc)).resolve_left ?_⟩
      rw [hhead hlength c hc]
      exact Bool.false_ne_true

namespace HasForm

lemma splitOn_eq (h : HasForm IsLooseVariant s t) : s.toList.splitOn '-' = t.parts := by
  rw [h.toList_eq]
  exact List.splitOn_intercalate '-' (fun p hp hc => h.not_isJoint hp _ hc (.inl rfl))
    t.parts_ne_nil

lemma isPlainTag_iff (h : HasForm IsLooseVariant s t) :
    IsPlainTag s ↔ ∀ v ∈ t.variants, ∀ c ∈ v, isAsciiAlphanumeric c := by
  constructor
  · intro hplain v hv c hc
    have hmem : v ∈ subtags s.toList := by
      rw [h.subtags_eq]
      simp [parts, hv]
    obtain ⟨hc, hjoint⟩ := forall_of_mem_subtags hmem c hc
    exact (hplain c hc).resolve_right fun heq => hjoint (.inl heq)
  · intro hvariants c hc
    rw [h.toList_eq] at hc
    rcases Naming.mem_intercalate hc with rfl | ⟨p, hp, hc⟩
    · exact .inr rfl
    · rcases h.mem_parts_cases hp with hall | hp
      · exact .inl (hall c hc)
      · exact .inl (hvariants p hp c hc)

lemma toList_languageKey (h : HasForm IsLooseVariant s t) :
    (LanguageTag.languageKey s).toList = t.language := by
  have hlanguage : ∀ c ∈ t.language, (c != '-') = true := fun c hc => bne_iff_ne.2 fun heq =>
    h.not_isJoint (p := t.language) List.mem_cons_self c hc (.inl heq)
  rw [LanguageTag.languageKey, String.toList_ofList, h.toList_eq, parts]
  cases t.script.toList ++ t.region.toList ++ t.variants with
  | nil => simpa [List.takeWhile_eq_self_iff] using hlanguage
  | cons p rest =>
    rw [List.intercalate_cons_cons, List.append_assoc, List.takeWhile_append_of_pos hlanguage]
    simp

end HasForm

lemma IsVariant.not_isWord (h : IsVariant p) : ¬IsWord 4 p := by
  rintro ⟨hlength, hletters⟩
  obtain ⟨a, b, c, d, rfl⟩ := List.length_eq_four.1 hlength
  rcases h.2 with ⟨hlow, -⟩ | ⟨-, hdigit⟩
  · omega
  · have hletter := hletters a List.mem_cons_self
    rw [(kept_of_isAsciiDigit (hdigit a (by simp))).2.2.2.1] at hletter
    exact nomatch hletter

/-- Of the tags that are accepted, the strict ones are those that are tags. -/
theorem isTag_iff : IsTag s ↔ IsLooseTag s ∧ IsStrict s := by
  constructor
  · rintro ⟨t, h⟩
    have hloose : HasForm IsLooseVariant s t :=
      { h with variants := fun v hv => (isVariant_iff.1 (h.variants v hv)).1 }
    refine ⟨⟨t, hloose, fun _ _ v hv => ?_⟩, ?_, fun p hp hlength c hc => ?_⟩
    · exact (h.variants v (List.mem_of_mem_head? hv)).not_isWord
    · exact hloose.isPlainTag_iff.2 fun v hv => (h.variants v hv).isAsciiAlphanumeric
    · rw [hloose.splitOn_eq] at hp
      simp only [parts, List.mem_cons, List.mem_append, Option.mem_toList] at hp
      rcases hp with rfl | (hp | hp) | hp
      · rcases h.language.1 with hlanguage | hlanguage <;> omega
      · exact not_isSmall_of_isCapital ((h.script p hp).2.1 c hc)
      · exact absurd hlength (Nat.ne_of_lt (h.region p hp).length_lt)
      · exact (isVariant_iff.1 (h.variants p hp)).2.2 hlength c hc
  · rintro ⟨⟨t, h, -⟩, hplain, hstrict⟩
    refine ⟨t, { h with variants := fun v hv => isVariant_iff.2 ⟨h.variants v hv, ?_, ?_⟩ }⟩
    · exact h.isPlainTag_iff.1 hplain v hv
    · refine hstrict v ?_
      rw [h.splitOn_eq]
      simp [parts, hv]

instance (s : String) : Decidable (IsStrict s) :=
  decidable_of_iff (IsPlainTag s ∧ (s.toList.splitOn '-').all fun p =>
    p.length != 4 || (p.take 1).all fun c => isSmall c == false) (by
      simp only [IsStrict, List.all_eq_true, Bool.or_eq_true, bne_iff_ne, beq_iff_eq,
        ← imp_iff_not_or])

instance (s : String) : Decidable (IsTag s) := decidable_of_iff _ isTag_iff.symm

example : IsTag "de-Latn-CH-1996" ∧ ¬IsTag "de-latn" ∧ ¬IsTag "de-CH-abcd" ∧
    IsLooseTag "de-CH-abcd" := by decide

/-- The language of an accepted tag is accepted by itself. -/
lemma IsLooseTag.languageKey (h : IsLooseTag s) : IsLooseTag (LanguageTag.languageKey s) := by
  obtain ⟨t, h, -⟩ := h
  refine ⟨⟨t.language, none, none, []⟩, ⟨h.language, nofun, nofun, nofun, .nil, ?_⟩, nofun⟩
  rw [h.toList_languageKey]
  simp [parts]

end Strict

end LanguageTag

end Phrasebook
