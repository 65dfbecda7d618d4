import Mathlib.Data.List.Basic
import Phrasebook.LanguageTag
import Phrasebook.Proofs.Unicode.CaseImages

/-!
# Tags as identifiers, whatever the case

In an identifier, a tag has an underscore for each character that is neither a letter nor a digit,
and some names have all of its letters in lower case besides.  The second costs nothing: which
letters of a canonical tag are capitals can be told from the lengths of its subtags, which a change
of case leaves alone.  `recase` puts the capitals back, so that two tags whose identifiers agree up
to case have the same identifier (`languageIdentifier_eq_of_asciiLowercase_eq`).

A variant may hold characters that become underscores, and falls apart there.  The first of its
pieces can be taken neither for a script nor for a region, though, and only these have capitals.
-/

namespace Phrasebook

namespace LanguageTag

open Unicode Naming

variable {s x : List Char} {c : Char}

/-! ## Subtags of joined texts -/

/-- Whether `c` stands between subtags. -/
def IsJoint (c : Char) : Prop := c = '-' ∨ c = '_'

instance : Decidable (IsJoint c) := inferInstanceAs (Decidable (_ ∨ _))

lemma subtags_cons_of_isJoint {rest : List Char} (hc : IsJoint c) :
    subtags (c :: rest) = [] :: subtags rest := by
  rw [subtags]
  exact if_pos hc

lemma subtags_cons_of_not_isJoint {rest : List Char} {t : List Char} {more : List (List Char)}
    (hc : ¬IsJoint c) (hrest : subtags rest = t :: more) :
    subtags (c :: rest) = (c :: t) :: more := by
  rw [subtags, hrest]
  exact if_neg hc

lemma exists_subtags_eq_cons (cs : List Char) : ∃ t more, subtags cs = t :: more := by
  induction cs with
  | nil => exact ⟨[], [], rfl⟩
  | cons c rest ih =>
    obtain ⟨t, more, hrest⟩ := ih
    by_cases hc : IsJoint c
    · exact ⟨_, _, subtags_cons_of_isJoint hc⟩
    · exact ⟨_, _, subtags_cons_of_not_isJoint hc hrest⟩

lemma subtags_append_cons (a b : List Char) (hc : IsJoint c) :
    subtags (a ++ c :: b) = subtags a ++ subtags b := by
  induction a with
  | nil => exact subtags_cons_of_isJoint hc
  | cons d a ih =>
    rw [List.cons_append]
    by_cases hd : IsJoint d
    · rw [subtags_cons_of_isJoint hd, subtags_cons_of_isJoint hd, ih]
      rfl
    · obtain ⟨t, more, ha⟩ := exists_subtags_eq_cons a
      rw [ha] at ih
      rw [subtags_cons_of_not_isJoint hd ha, subtags_cons_of_not_isJoint hd ih]
      rfl

/-- A text without joints is one subtag. -/
lemma subtags_eq_singleton (h : ∀ c ∈ s, ¬IsJoint c) : subtags s = [s] := by
  induction s with
  | nil => rfl
  | cons c rest ih =>
    obtain ⟨hc, hrest⟩ := List.forall_mem_cons.1 h
    exact subtags_cons_of_not_isJoint hc (ih hrest)

/-- The subtags of joined parts, whose characters may be replaced as long as the hyphens between
them stay joints. -/
lemma subtags_map_intercalate {f : Char → Char} (hf : IsJoint (f '-')) {parts : List (List Char)}
    (hparts : parts ≠ []) :
    subtags ((['-'].intercalate parts).map f) = parts.flatMap fun p => subtags (p.map f) := by
  induction parts with
  | nil => exact absurd rfl hparts
  | cons p rest ih =>
    cases rest with
    | nil => simp
    | cons q rest =>
      rw [List.intercalate_cons_cons, List.map_append, List.map_append, List.append_assoc,
        List.map_singleton, List.singleton_append, subtags_append_cons _ _ hf,
        ih (List.cons_ne_nil _ _)]
      rfl

/-- A text without hyphens is its subtags joined by underscores. -/
lemma intercalate_subtags {cs : List Char} (h : '-' ∉ cs) :
    ['_'].intercalate (subtags cs) = cs := by
  induction cs with
  | nil => rfl
  | cons c rest ih =>
    obtain ⟨hc, hrest⟩ := not_or.1 (mt List.mem_cons.2 h)
    have hrest := ih hrest
    obtain ⟨t, more, hmore⟩ := exists_subtags_eq_cons rest
    rw [hmore] at hrest
    by_cases hjoint : IsJoint c
    · rw [subtags_cons_of_isJoint hjoint, hmore, List.intercalate_cons_cons, hrest,
        hjoint.resolve_left (Ne.symm hc)]
      rfl
    · rw [subtags_cons_of_not_isJoint hjoint hmore]
      cases more with
      | nil => simpa using hrest
      | cons u more =>
        rw [List.intercalate_cons_cons] at hrest ⊢
        rw [← hrest]
        rfl

/-! ## Characters of identifiers -/

/-- The character that stands for `c` in an identifier. -/
def identifierChar (c : Char) : Char := if isAsciiAlphanumeric c then c else '_'

/-- A text as part of an identifier. -/
def spelled (s : List Char) : List Char := s.map identifierChar

/-- A text as part of an identifier in lower case. -/
def folded (s : List Char) : List Char := s.map fun c => asciiLower (identifierChar c)

lemma toList_languageIdentifier (l : String) :
    (languageIdentifier l).toList = spelled l.toList := by
  rw [languageIdentifier, String.toList_map]
  rfl

lemma hyphen_notMem_spelled (s : List Char) : '-' ∉ spelled s := by
  intro h
  obtain ⟨c, -, hc⟩ := List.mem_map.1 h
  unfold identifierChar at hc
  split at hc
  · rename_i halphanumeric
    rw [hc] at halphanumeric
    exact absurd halphanumeric (by decide)
  · exact absurd hc (by decide)

lemma isAsciiAlphanumeric_of_isLetter (hc : isLetter c) : isAsciiAlphanumeric c := by
  rw [isAsciiAlphanumeric, Bool.or_assoc, Bool.or_eq_true]
  exact .inr hc

lemma asciiLower_of_isLetter (hc : isLetter c) :
    identifierChar (asciiLower c) = asciiLower c ∧ asciiLower (asciiLower c) = asciiLower c ∧
      isLetter (asciiLower c) ∧ ¬IsJoint (asciiLower c) :=
  of_alphanumeric_codes (p := fun c => isLetter c → identifierChar (asciiLower c) = asciiLower c ∧
    asciiLower (asciiLower c) = asciiLower c ∧ isLetter (asciiLower c) ∧ ¬IsJoint (asciiLower c))
    (by decide) (isAsciiAlphanumeric_of_isLetter hc) hc

lemma asciiUpper_of_isLetter (hc : isLetter c) :
    identifierChar (asciiUpper c) = asciiUpper c ∧ asciiLower (asciiUpper c) = asciiLower c ∧
      asciiUpper (asciiLower c) = asciiUpper c :=
  of_alphanumeric_codes (p := fun c => isLetter c → identifierChar (asciiUpper c) = asciiUpper c ∧
    asciiLower (asciiUpper c) = asciiLower c ∧ asciiUpper (asciiLower c) = asciiUpper c)
    (by decide) (isAsciiAlphanumeric_of_isLetter hc) hc

lemma kept_of_isAsciiDigit (hc : isAsciiDigit c) :
    asciiUpper c = c ∧ identifierChar c = c ∧ asciiLower c = c ∧ isLetter c = false ∧
      ¬IsJoint c :=
  of_alphanumeric_codes (p := fun c => isAsciiDigit c → asciiUpper c = c ∧ identifierChar c = c ∧
    asciiLower c = c ∧ isLetter c = false ∧ ¬IsJoint c) (by decide)
    (by rw [isAsciiAlphanumeric, hc]; rfl) hc

lemma asciiLower_of_isPlainAscii (hc : isPlainAscii c) :
    asciiLower (identifierChar (asciiLower c)) = identifierChar (asciiLower c) := by
  have hascii : c.toNat < 128 := by
    rw [isPlainAscii, Bool.and_eq_true, decide_eq_true_eq] at hc
    exact hc.2
  exact of_ascii_codes (p := fun c =>
    asciiLower (identifierChar (asciiLower c)) = identifierChar (asciiLower c)) (by decide +kernel)
    hascii

lemma isAsciiAlphanumeric_asciiLower (hc : isAsciiAlphanumeric c) :
    isAsciiAlphanumeric (asciiLower c) :=
  of_alphanumeric_codes (p := fun c => isAsciiAlphanumeric (asciiLower c)) (by decide) hc

lemma not_isJoint_of_isAsciiAlphanumeric (hc : isAsciiAlphanumeric c) : ¬IsJoint c := by
  rintro (rfl | rfl)
  all_goals exact absurd hc (by decide)

lemma isJoint_identifierChar (hc : isAsciiAlphanumeric c = false) : IsJoint (identifierChar c) := by
  rw [identifierChar, hc]
  exact .inr rfl

lemma map_eq_self_of_forall {f : Char → Char} (h : ∀ c ∈ s, f c = c) : s.map f = s :=
  (List.map_congr_left h).trans (List.map_id s)

section Alphanumeric

variable (hs : ∀ c ∈ s, isAsciiAlphanumeric c)

include hs

lemma spelled_eq_self : spelled s = s := map_eq_self_of_forall fun c hc => if_pos (hs c hc)

/-- Letters and digits are one piece. -/
lemma subtags_spelled_eq_singleton : subtags (spelled s) = [s] := by
  rw [spelled_eq_self hs]
  exact subtags_eq_singleton fun c hc => not_isJoint_of_isAsciiAlphanumeric (hs c hc)

end Alphanumeric

section Letters

variable (hs : ∀ c ∈ s, isLetter c)

include hs

lemma spelled_lower : spelled (s.map asciiLower) = s.map asciiLower := by
  rw [spelled, List.map_map]
  exact List.map_congr_left fun c hc => (asciiLower_of_isLetter (hs c hc)).1

lemma folded_lower : folded (s.map asciiLower) = s.map asciiLower := by
  rw [folded, List.map_map]
  refine List.map_congr_left fun c hc => ?_
  obtain ⟨hspelled, hlower, -⟩ := asciiLower_of_isLetter (hs c hc)
  rw [Function.comp_apply, hspelled, hlower]

lemma spelled_upper : spelled (s.map asciiUpper) = s.map asciiUpper := by
  rw [spelled, List.map_map]
  exact List.map_congr_left fun c hc => (asciiUpper_of_isLetter (hs c hc)).1

lemma folded_upper : folded (s.map asciiUpper) = s.map asciiLower := by
  rw [folded, List.map_map]
  refine List.map_congr_left fun c hc => ?_
  obtain ⟨hspelled, hlower, -⟩ := asciiUpper_of_isLetter (hs c hc)
  rw [Function.comp_apply, hspelled, hlower]

lemma upper_lower : (s.map asciiLower).map asciiUpper = s.map asciiUpper := by
  rw [List.map_map]
  exact List.map_congr_left fun c hc => (asciiUpper_of_isLetter (hs c hc)).2.2

lemma isLetter_lower : ∀ c ∈ s.map asciiLower, isLetter c ∧ ¬IsJoint c :=
  List.forall_mem_map.2 fun c hc => (asciiLower_of_isLetter (hs c hc)).2.2

end Letters

lemma spelled_digits (hs : ∀ c ∈ s, isAsciiDigit c) :
    s.map asciiUpper = s ∧ spelled s = s ∧ folded s = s := by
  refine ⟨map_eq_self_of_forall fun c hc => ?_, map_eq_self_of_forall fun c hc => ?_,
    map_eq_self_of_forall fun c hc => ?_⟩
  · exact (kept_of_isAsciiDigit (hs c hc)).1
  · exact (kept_of_isAsciiDigit (hs c hc)).2.1
  · obtain ⟨-, hspelled, hlower, -⟩ := kept_of_isAsciiDigit (hs c hc)
    rw [hspelled, hlower]

/-! ## Parts of tags -/

/-- The text is `n` letters. -/
def IsWord (n : ℕ) (s : List Char) : Prop := s.length = n ∧ ∀ c ∈ s, isLetter c

instance (n : ℕ) : Decidable (IsWord n s) := inferInstanceAs (Decidable (_ ∧ _))

/-- A region in capitals. -/
def recaseRegion (s : List Char) : List Char := if IsWord 2 s then s.map asciiUpper else s

/-- A script with a capital in front. -/
def recaseScript : List Char → List Char
  | [] => []
  | c :: rest => asciiUpper c :: rest

lemma language_spec (h : language? s = some x) :
    spelled x = x ∧ folded x = x ∧ ∀ c ∈ x, ¬IsJoint c := by
  unfold language? at h
  split at h
  · rename_i hs
    cases h
    have hletters := List.all_eq_true.1 hs.2.2.2
    exact ⟨spelled_lower hletters, folded_lower hletters,
      fun c hc => (isLetter_lower hletters c hc).2⟩
  · exact nomatch h

lemma script_spec (h : script? s = some x) : spelled x = x ∧ recaseScript (folded x) = x ∧
    IsWord 4 (folded x) ∧ ∀ c ∈ folded x, ¬IsJoint c := by
  unfold script? at h
  split at h
  · split at h
    · rename_i a b c d hs
      cases h
      obtain ⟨ha, hbcd⟩ := List.forall_mem_cons.1 (List.all_eq_true.1 hs)
      have hfolded : folded (asciiUpper a :: [b, c, d].map asciiLower) =
          [a, b, c, d].map asciiLower :=
        congrArg₂ (· ++ ·) (folded_upper (List.forall_mem_singleton.2 ha)) (folded_lower hbcd)
      have hletters := isLetter_lower (List.all_eq_true.1 hs)
      rw [hfolded]
      refine ⟨?_, ?_, ⟨rfl, fun c hc => (hletters c hc).1⟩, fun c hc => (hletters c hc).2⟩
      · exact congrArg₂ (· ++ ·) (spelled_upper (List.forall_mem_singleton.2 ha))
          (spelled_lower hbcd)
      · exact congrArg (· :: _) (asciiUpper_of_isLetter ha).2.2
    · exact nomatch h
  · exact nomatch h

lemma region_spec (h : region? s = some x) : spelled x = x ∧ recaseRegion (folded x) = x ∧
    ¬IsWord 4 (folded x) ∧ ∀ c ∈ folded x, ¬IsJoint c := by
  unfold region? at h
  split at h
  · rename_i hs
    cases h
    rcases hs with ⟨hlength, hs⟩ | ⟨hlength, hs⟩
    · have hletters := List.all_eq_true.1 hs
      have hlower := isLetter_lower hletters
      have hword : IsWord 2 (s.map asciiLower) :=
        ⟨by rw [List.length_map, hlength], fun c hc => (hlower c hc).1⟩
      rw [folded_upper hletters]
      refine ⟨spelled_upper hletters, ?_, ?_, fun c hc => (hlower c hc).2⟩
      · rw [recaseRegion, if_pos hword, upper_lower hletters]
      · exact fun h => absurd (hword.1.symm.trans h.1) (by decide)
    · have hdigits := List.all_eq_true.1 hs
      obtain ⟨hupper, hspelled, hfolded⟩ := spelled_digits hdigits
      rw [hupper, hfolded]
      refine ⟨hspelled, ?_, fun h => ?_, fun c hc => (kept_of_isAsciiDigit (hdigits c hc)).2.2.2.2⟩
      · rw [recaseRegion, if_neg fun h => absurd (hlength.symm.trans h.1) (by decide)]
      · exact absurd (hlength.symm.trans h.1) (by decide)
  · exact nomatch h

/-- The first piece of a variant is no region, and a script only if the variant is one. -/
lemma variant_spec (h : variant? s = some x) :
    spelled x = folded x ∧ ∃ p more, subtags (folded x) = p :: more ∧ ¬IsWord 2 p ∧
      (IsWord 4 p → IsWord 4 x) := by
  unfold variant? at h
  split at h
  · rename_i hvariant
    cases h
    obtain ⟨hplain, hcases⟩ := hvariant
    have hspelled : spelled (s.map asciiLower) = folded (s.map asciiLower) := by
      rw [spelled, folded, List.map_map, List.map_map]
      exact List.map_congr_left fun c hc =>
        (asciiLower_of_isPlainAscii (List.all_eq_true.1 hplain c hc)).symm
    have hone (hlength : 4 ≤ s.length) (halphanumeric : ∀ c ∈ s, isAsciiAlphanumeric c) :
        ∃ p more, subtags (spelled (s.map asciiLower)) = p :: more ∧ ¬IsWord 2 p ∧
          (IsWord 4 p → IsWord 4 (s.map asciiLower)) := by
      have hlower : ∀ c ∈ s.map asciiLower, isAsciiAlphanumeric c :=
        List.forall_mem_map.2 fun c hc => isAsciiAlphanumeric_asciiLower (halphanumeric c hc)
      refine ⟨_, _, subtags_spelled_eq_singleton hlower, fun hword => ?_, id⟩
      have htwo := hword.1
      rw [List.length_map] at htwo
      omega
    refine ⟨hspelled, ?_⟩
    rw [← hspelled]
    rcases hcases with ⟨hlength, -, halphanumeric⟩ | ⟨hlength, hcases⟩
    · exact hone (Nat.le_of_lt hlength) (List.all_eq_true.1 halphanumeric)
    obtain ⟨a, rest, rfl⟩ := List.exists_cons_of_length_eq_add_one hlength
    obtain ⟨t, more, hrest⟩ := exists_subtags_eq_cons (spelled (rest.map asciiLower))
    cases ha : isAsciiAlphanumeric a with
    | false =>
      -- an underscore stands for the first character, with nothing in front of it
      have hword {n : ℕ} (hn : n ≠ 0) : ¬IsWord n [] := fun hword => hn hword.1.symm
      refine ⟨[], t :: more, ?_, hword (by decide), fun h => absurd h (hword (by decide))⟩
      rw [← hrest]
      rw [List.map_cons, asciiLower_eq_self ha]
      exact subtags_cons_of_isJoint (isJoint_identifierChar ha)
    | true =>
      rcases hcases with hdigit | halphanumeric
      · obtain ⟨-, hidentifier, hlower, hletter, hjoint⟩ := kept_of_isAsciiDigit
          (List.all_eq_true.1 hdigit a List.mem_cons_self)
        have hpieces : subtags (spelled ((a :: rest).map asciiLower)) = (a :: t) :: more := by
          rw [List.map_cons, spelled, List.map_cons, hlower, hidentifier]
          exact subtags_cons_of_not_isJoint hjoint hrest
        have hword (n : ℕ) : ¬IsWord n (a :: t) := by
          intro hword
          exact absurd ((hword.2 a List.mem_cons_self).symm.trans hletter) (by decide)
        exact ⟨_, _, hpieces, hword 2, fun h => absurd h (hword 4)⟩
      · exact hone (Nat.le_of_eq hlength.symm)
          (List.forall_mem_cons.2 ⟨ha, List.all_eq_true.1 halphanumeric⟩)
  · exact nomatch h

/-! ## Whole tags -/

/-- The subtags of an identifier in lower case, with capitals where a tag has them. -/
def recase : List (List Char) → List (List Char)
  | s :: a :: rest =>
    if IsWord 4 a then s :: recaseScript a :: rest.modifyHead recaseRegion
    else s :: recaseRegion a :: rest
  | ss => ss

lemma mem_insertVariant {v w : List Char} {vs : List (List Char)} (h : w ∈ insertVariant v vs) :
    w = v ∨ w ∈ vs := by
  induction vs with
  | nil => exact .inl (List.mem_singleton.1 h)
  | cons u rest ih =>
    rw [insertVariant] at h
    split at h
    · exact List.mem_cons.1 h
    · split at h
      · exact .inr h
      · rcases List.mem_cons.1 h with rfl | h
        · exact .inr List.mem_cons_self
        · exact (ih h).imp_right (List.mem_cons_of_mem _)

lemma exists_of_mem_variants {ss vs : List (List Char)} (h : variants? ss = some vs) :
    ∀ v ∈ vs, ∃ s, variant? s = some v := by
  induction ss generalizing vs with
  | nil =>
    cases h
    exact nofun
  | cons s rest ih =>
    obtain ⟨v, hv, h⟩ := Option.bind_eq_some_iff.1 h
    obtain ⟨ws, hws, h⟩ := Option.bind_eq_some_iff.1 h
    cases h
    intro w hw
    rcases mem_insertVariant hw with rfl | hw
    · exact ⟨s, hv⟩
    · exact ih hws w hw

/-- Every part of `t` was read as such. -/
structure ReadsParts (t : LanguageTag) : Prop where
  language : ∃ s, language? s = some t.language
  script : ∀ x ∈ t.script, ∃ s, script? s = some x
  region : ∀ x ∈ t.region, ∃ s, region? s = some x
  variants : ∀ x ∈ t.variants, ∃ s, variant? s = some x

lemma reads_of_regionAndVariants? {ss vs : List (List Char)} {r : Option (List Char)}
    (h : regionAndVariants? ss = some (r, vs)) :
    (∀ x ∈ r, ∃ s, region? s = some x) ∧ ∀ x ∈ vs, ∃ s, variant? s = some x := by
  unfold regionAndVariants? at h
  split at h
  · cases h
    exact ⟨nofun, nofun⟩
  · split at h
    · rename_i x hx
      obtain ⟨ws, hws, h⟩ := Option.bind_eq_some_iff.1 h
      cases h
      refine ⟨fun y hy => ?_, exists_of_mem_variants hws⟩
      cases hy
      exact ⟨_, hx⟩
    · obtain ⟨ws, hws, h⟩ := Option.bind_eq_some_iff.1 h
      cases h
      exact ⟨nofun, exists_of_mem_variants hws⟩

/-- The parts of a tag that was read, which has a script if four letters follow its language. -/
lemma readsParts_of_ofChars? {cs : List Char} {t : LanguageTag} (h : ofChars? cs = some t) :
    t.ReadsParts ∧ ∀ s a rest, subtags cs = s :: a :: rest → IsWord 4 a → t.script ≠ none := by
  obtain ⟨s, more, hsubtags⟩ := exists_subtags_eq_cons cs
  rw [ofChars?, hsubtags] at h
  obtain ⟨language, hlanguage, h⟩ := Option.bind_eq_some_iff.1 h
  cases more with
  | nil =>
    cases h
    exact ⟨⟨⟨s, hlanguage⟩, nofun, nofun, nofun⟩, fun _ _ _ heq => nomatch hsubtags.symm.trans heq⟩
  | cons a rest =>
    dsimp only at h
    split at h
    · rename_i x hx
      obtain ⟨⟨r, vs⟩, hparts, h⟩ := Option.bind_eq_some_iff.1 h
      cases h
      obtain ⟨hregion, hvariants⟩ := reads_of_regionAndVariants? hparts
      refine ⟨⟨⟨s, hlanguage⟩, fun y hy => ?_, hregion, hvariants⟩, fun _ _ _ _ _ => nofun⟩
      cases hy
      exact ⟨a, hx⟩
    · rename_i hscript
      obtain ⟨⟨r, vs⟩, hparts, h⟩ := Option.bind_eq_some_iff.1 h
      cases h
      obtain ⟨hregion, hvariants⟩ := reads_of_regionAndVariants? hparts
      refine ⟨⟨⟨s, hlanguage⟩, nofun, hregion, hvariants⟩, fun s' a' rest' heq hword => ?_⟩
      obtain ⟨-, rfl, -⟩ : s = s' ∧ a = a' ∧ rest = rest' := by simpa using hsubtags.symm.trans heq
      obtain ⟨w, x, y, z, rfl⟩ := List.length_eq_four.1 hword.1
      rw [script?, if_pos (List.all_eq_true.2 hword.2)] at hscript
      exact nomatch hscript

/-- The subtags of a text made from those of a tag, character by character. -/
lemma subtags_map_toChars {f : Char → Char} (hf : IsJoint (f '-')) (t : LanguageTag) :
    subtags (t.toChars.map f) = subtags (t.language.map f) ++
      (t.script.toList ++ t.region.toList ++ t.variants).flatMap fun p => subtags (p.map f) := by
  rw [toChars, subtags_map_intercalate hf (List.cons_ne_nil _ _), List.flatMap_cons]

/-- A part whose characters are kept, and do not fall apart, in lower case. -/
lemma subtags_of_spelled (hspelled : spelled x = x) (hfolded : ∀ c ∈ folded x, ¬IsJoint c) :
    subtags (spelled x) = [x] ∧ subtags (folded x) = [folded x] := by
  refine ⟨?_, subtags_eq_singleton hfolded⟩
  rw [hspelled]
  refine subtags_eq_singleton fun c hc hjoint => ?_
  have hlower : IsJoint (asciiLower (identifierChar c)) := by
    rcases hjoint with rfl | rfl <;> decide
  exact hfolded _ (List.mem_map_of_mem hc) hlower

lemma recase_cons {ss : List (List Char)} (h : ∀ a ∈ ss.head?, ¬IsWord 4 a) :
    recase (s :: ss) = s :: ss.modifyHead recaseRegion := by
  cases ss with
  | nil => rfl
  | cons a rest => rw [recase, if_neg (h a rfl), List.modifyHead_cons]

section Parts

variable {r : Option (List Char)} {vs : List (List Char)}
  (hr : ∀ x ∈ r, ∃ s, region? s = some x) (hvs : ∀ x ∈ vs, ∃ s, variant? s = some x)

include hr hvs

/-- The first subtag from a region on is the region, if there is one, and none of four letters. -/
lemma modifyHead_recaseRegion :
    ((r.toList ++ vs).flatMap fun p => subtags (folded p)).modifyHead recaseRegion =
      (r.toList ++ vs).flatMap fun p => subtags (spelled p) := by
  have hvariants : (vs.flatMap fun p => subtags (folded p)) =
      vs.flatMap fun p => subtags (spelled p) := by
    refine List.flatMap_congr fun v hv => ?_
    obtain ⟨s, hs⟩ := hvs v hv
    rw [(variant_spec hs).1]
  rw [List.flatMap_append, List.flatMap_append, hvariants]
  cases r with
  | some x =>
    obtain ⟨s, hs⟩ := hr x rfl
    obtain ⟨hspelled, hrecase, -, hfolded⟩ := region_spec hs
    obtain ⟨hone, hone'⟩ := subtags_of_spelled hspelled hfolded
    rw [Option.toList_some, List.flatMap_singleton, List.flatMap_singleton, hone, hone',
      List.singleton_append, List.modifyHead_cons, hrecase]
    rfl
  | none =>
    cases vs with
    | nil => rfl
    | cons v vs =>
      obtain ⟨s, hs⟩ := hvs v List.mem_cons_self
      obtain ⟨hspelled, p, more, hpieces, hregion, -⟩ := variant_spec hs
      rw [Option.toList_none, List.flatMap_nil, List.flatMap_nil, List.nil_append,
        List.flatMap_cons, hspelled, hpieces, List.cons_append, List.modifyHead_cons, recaseRegion,
        if_neg hregion]

lemma head_not_isWord (h : ∀ v ∈ vs.head?, r = none → ¬IsWord 4 v) :
    ∀ a ∈ ((r.toList ++ vs).flatMap fun p => subtags (folded p)).head?, ¬IsWord 4 a := by
  intro a ha
  cases r with
  | some x =>
    obtain ⟨s, hs⟩ := hr x rfl
    obtain ⟨hspelled, -, hscript, hfolded⟩ := region_spec hs
    rw [Option.toList_some, List.singleton_append, List.flatMap_cons,
      (subtags_of_spelled hspelled hfolded).2] at ha
    cases ha
    exact hscript
  | none =>
    cases vs with
    | nil => exact nomatch ha
    | cons v vs =>
      obtain ⟨s, hs⟩ := hvs v List.mem_cons_self
      obtain ⟨-, p, more, hpieces, -, hscript⟩ := variant_spec hs
      rw [Option.toList_none, List.nil_append, List.flatMap_cons, hpieces] at ha
      cases ha
      exact fun hword => h v rfl rfl (hscript hword)

end Parts

/-- The capitals of a tag are restored from its identifier in lower case. -/
theorem recase_subtags {t : LanguageTag} (h : ofChars? t.toChars = some t) :
    recase (subtags (folded t.toChars)) = subtags (spelled t.toChars) := by
  obtain ⟨hreads, hword⟩ := readsParts_of_ofChars? h
  obtain ⟨s, hs⟩ := hreads.language
  obtain ⟨hspelled, hfolded, hjoint⟩ := language_spec hs
  have hlanguage : subtags (spelled t.language) = [t.language] ∧
      subtags (folded t.language) = [t.language] := by
    rw [hspelled, hfolded]
    exact ⟨subtags_eq_singleton hjoint, subtags_eq_singleton hjoint⟩
  have hfolded : subtags (folded t.toChars) = t.language ::
      (t.script.toList ++ t.region.toList ++ t.variants).flatMap fun p => subtags (folded p) :=
    (subtags_map_toChars (by decide) t).trans (congrArg (· ++ _) hlanguage.2)
  have hspelled : subtags (spelled t.toChars) = t.language ::
      (t.script.toList ++ t.region.toList ++ t.variants).flatMap fun p => subtags (spelled p) :=
    (subtags_map_toChars (by decide) t).trans (congrArg (· ++ _) hlanguage.1)
  have htail := modifyHead_recaseRegion hreads.region hreads.variants
  rw [hfolded, hspelled, List.append_assoc]
  cases hscript : t.script with
  | some x =>
    obtain ⟨s, hs⟩ := hreads.script x hscript
    obtain ⟨hspelled, hrecase, hfour, hjoint⟩ := script_spec hs
    obtain ⟨hone, hone'⟩ := subtags_of_spelled hspelled hjoint
    rw [Option.toList_some, List.singleton_append, List.flatMap_cons, List.flatMap_cons, hone,
      hone', List.singleton_append, List.singleton_append, recase, if_pos hfour, hrecase, htail]
  | none =>
    rw [Option.toList_none, List.nil_append, recase_cons, htail]
    refine head_not_isWord hreads.region hreads.variants fun v hv hregion hfour => ?_
    -- a variant of four letters behind the language would have been read as a script
    obtain ⟨vs, hvs⟩ : ∃ vs, t.variants = v :: vs := List.head?_eq_some_iff.1 hv
    refine hword t.language v (vs.flatMap subtags) ?_ hfour hscript
    have hsubtags := subtags_map_toChars (f := id) (by decide) t
    simp only [List.map_id] at hsubtags
    rw [hsubtags, hscript, hregion, hvs, subtags_eq_singleton hjoint]
    have hv : subtags v = [v] := subtags_eq_singleton fun c hc => ?_
    · rw [Option.toList_none, List.nil_append, List.nil_append, List.flatMap_cons, hv]
      rfl
    · rintro (rfl | rfl)
      all_goals exact absurd (hfour.2 _ hc) (by decide)

/-- Canonical tags whose identifiers agree up to case have one identifier. -/
theorem languageIdentifier_eq_of_asciiLowercase_eq {l l' : String} (hl : isCanonical l)
    (hl' : isCanonical l')
    (h : asciiLowercase (languageIdentifier l) = asciiLowercase (languageIdentifier l')) :
    languageIdentifier l = languageIdentifier l' := by
  have hrecase {l : String} (hl : isCanonical l) :
      recase (subtags (folded l.toList)) = subtags (spelled l.toList) := by
    unfold isCanonical at hl
    split at hl
    · rename_i t ht
      obtain ⟨-, htag⟩ := Bool.and_eq_true_iff.1 hl
      rw [← beq_iff_eq.1 htag]
      rw [ofString?, ← beq_iff_eq.1 htag] at ht
      exact recase_subtags ht
    · exact nomatch hl
  have hfolded (l : String) : (asciiLowercase (languageIdentifier l)).toList = folded l.toList := by
    rw [asciiLowercase, languageIdentifier, String.toList_map, String.toList_map, List.map_map]
    rfl
  have hpieces : subtags (spelled l.toList) = subtags (spelled l'.toList) := by
    rw [← hrecase hl, ← hrecase hl', ← hfolded, ← hfolded, h]
  rw [← String.toList_inj, toList_languageIdentifier, toList_languageIdentifier,
    ← intercalate_subtags (hyphen_notMem_spelled _), hpieces,
    intercalate_subtags (hyphen_notMem_spelled _)]

end LanguageTag

end Phrasebook
