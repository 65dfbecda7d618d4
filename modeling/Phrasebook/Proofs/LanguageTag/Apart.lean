import Phrasebook.Config
import Phrasebook.Proofs.LanguageTag.Grammar

/-!
# Which tags share an identifier

In an identifier, a tag has an underscore for each hyphen, and for each character of a loose variant
that is neither a letter nor a digit.  So the identifier is cut into pieces at its underscores, some
of which are parts of the tag, and others pieces of a variant.

Which are which can be told from the pieces.  A script and a region of letters have capitals.  The
pieces of a variant are a *group*: a single piece of at least four characters, or several that come
to four characters with the underscores between them.  No group is the beginning of another one, so
that variants are told apart (`eq_of_flatten_eq`).  A region of three digits could be the first
piece of a group, but then all groups behind it would be off by one piece, to the end
(`cons_flatten_ne_flatten`).

So two accepted tags share an identifier exactly if their parts are spelled alike one by one, and
then neither of them is plain, or both are the same.
-/

namespace Phrasebook

namespace LanguageTag

open Unicode Naming

/-! ## Groups of pieces -/

/-- The pieces of a variant: one of at least four characters, or several that come to four
characters with what parts them, of which the first is empty only if there are two. -/
def IsGroup (g : List (List Char)) : Prop :=
  (∃ p, g = [p] ∧ 4 ≤ p.length) ∨
    ∃ p q more, g = p :: q :: more ∧ (['_'].intercalate g).length = 4 ∧ (p = [] → more = [])

section Groups

variable {g h A B : List (List Char)} {gs hs : List (List (List Char))}

lemma length_intercalate_cons (p : List Char) (hg : g ≠ []) :
    (['_'].intercalate (p :: g)).length = p.length + 1 + (['_'].intercalate g).length := by
  obtain ⟨q, more, rfl⟩ := List.exists_cons_of_ne_nil hg
  rw [List.intercalate_cons_cons, List.length_append, List.length_append, List.length_singleton]

lemma length_intercalate_lt (hg : g ≠ []) (hA : A ≠ []) :
    (['_'].intercalate g).length < (['_'].intercalate (g ++ A)).length := by
  induction g with
  | nil => exact absurd rfl hg
  | cons p g ih =>
    rw [List.cons_append, length_intercalate_cons p (List.append_ne_nil_of_right_ne_nil g hA)]
    cases g with
    | nil =>
      rw [List.intercalate_singleton]
      omega
    | cons q more =>
      have hmore := ih (List.cons_ne_nil q more)
      rw [length_intercalate_cons p (List.cons_ne_nil q more)]
      omega

lemma eq_nil_of_isGroup_append (hg : IsGroup g) (hh : IsGroup (g ++ A)) : A = [] := by
  rcases hg with ⟨p, rfl, hp⟩ | ⟨p, q, more, rfl, hlength, -⟩
  · rcases hh with ⟨_, heq, -⟩ | ⟨_, q, more, heq, hlength, -⟩
    · exact (List.cons.inj heq).2
    · rw [heq, length_intercalate_cons _ (List.cons_ne_nil q more)] at hlength
      rw [(List.cons.inj heq).1] at hp
      omega
  · rcases hh with ⟨_, heq, -⟩ | ⟨_, _, _, -, hlength', -⟩
    · exact absurd (List.cons.inj heq).2 (List.cons_ne_nil _ _)
    · by_contra hA
      have hlt := length_intercalate_lt (List.cons_ne_nil p (q :: more)) hA
      omega

/-- No group is the beginning of another one. -/
lemma eq_of_isGroup_append (hg : IsGroup g) (hh : IsGroup h) (heq : g ++ A = h ++ B) :
    g = h ∧ A = B := by
  rcases List.append_eq_append_iff.1 heq with ⟨more, rfl, rfl⟩ | ⟨more, rfl, rfl⟩
  · obtain rfl := eq_nil_of_isGroup_append hg hh
    simp
  · obtain rfl := eq_nil_of_isGroup_append hh hg
    simp

lemma IsGroup.ne_nil (hg : IsGroup g) : g ≠ [] := by
  rcases hg with ⟨p, rfl, -⟩ | ⟨p, q, more, rfl, -⟩ <;> exact List.cons_ne_nil _ _

lemma eq_of_flatten_eq (hgs : ∀ g ∈ gs, IsGroup g) (hhs : ∀ h ∈ hs, IsGroup h)
    (heq : gs.flatten = hs.flatten) : gs = hs := by
  induction gs generalizing hs with
  | nil =>
    cases hs with
    | nil => rfl
    | cons h hs =>
      exact absurd (List.append_eq_nil_iff.1 heq.symm).1 (hhs h List.mem_cons_self).ne_nil
  | cons g gs ih =>
    obtain ⟨hg, hgs'⟩ := List.forall_mem_cons.1 hgs
    cases hs with
    | nil => exact absurd (List.append_eq_nil_iff.1 heq).1 hg.ne_nil
    | cons h hs =>
      obtain ⟨hh, hhs'⟩ := List.forall_mem_cons.1 hhs
      obtain ⟨hsame, htail⟩ := eq_of_isGroup_append hg hh heq
      rw [hsame, ih hgs' hhs' htail]

/-- A group that begins with a piece of three characters has an empty one behind it. -/
lemma IsGroup.eq_of_length_eq_three {x : List Char} {rest : List (List Char)}
    (hg : IsGroup (x :: rest)) (hx : x.length = 3) : rest = [[]] := by
  rcases hg with ⟨p, heq, hp⟩ | ⟨p, q, more, heq, hlength, -⟩
  · rw [(List.cons.inj heq).1] at hx
    omega
  · obtain ⟨rfl, rfl⟩ := List.cons.inj heq
    rw [length_intercalate_cons x (List.cons_ne_nil q more)] at hlength
    cases more with
    | nil =>
      rw [List.intercalate_singleton] at hlength
      rw [List.eq_nil_of_length_eq_zero (by omega : q.length = 0)]
    | cons r more =>
      rw [length_intercalate_cons q (List.cons_ne_nil r more)] at hlength
      omega

/-- A group that begins with an empty piece has one of three characters behind it. -/
lemma IsGroup.exists_of_nil {rest : List (List Char)} (hg : IsGroup ([] :: rest)) :
    ∃ y, rest = [y] ∧ y.length = 3 := by
  rcases hg with ⟨p, heq, hp⟩ | ⟨p, q, more, heq, hlength, hmore⟩
  · rw [← (List.cons.inj heq).1] at hp
    exact absurd hp (by decide)
  · obtain ⟨rfl, rfl⟩ := List.cons.inj heq
    obtain rfl := hmore rfl
    refine ⟨q, rfl, ?_⟩
    rw [length_intercalate_cons [] (List.cons_ne_nil q []), List.intercalate_singleton,
      List.length_nil] at hlength
    omega

/-- Behind a piece of three characters that groups begin with, they go on with an empty one. -/
lemma exists_of_cons_eq_flatten {x : List Char} (hx : x.length = 3) (hhs : ∀ h ∈ hs, IsGroup h)
    (heq : x :: A = hs.flatten) :
    ∃ hs' : List (List (List Char)), A = [] :: hs'.flatten ∧ ∀ h ∈ hs', IsGroup h := by
  cases hs with
  | nil => exact nomatch heq
  | cons h hs =>
    obtain ⟨hh, hhs'⟩ := List.forall_mem_cons.1 hhs
    cases h with
    | nil => exact absurd rfl hh.ne_nil
    | cons p rest =>
      obtain ⟨rfl, htail⟩ := List.cons.inj heq
      obtain rfl := hh.eq_of_length_eq_three hx
      exact ⟨hs, htail, hhs'⟩

/-- Groups do not begin one piece later than others and end with them. -/
lemma cons_flatten_ne_flatten {x : List Char} (hx : x.length = 3) (hgs : ∀ g ∈ gs, IsGroup g)
    (hhs : ∀ h ∈ hs, IsGroup h) : x :: gs.flatten ≠ hs.flatten := by
  intro heq
  induction gs generalizing x hs with
  | nil =>
    obtain ⟨hs', htail, -⟩ := exists_of_cons_eq_flatten hx hhs heq
    exact nomatch htail
  | cons g gs ih =>
    obtain ⟨hg, hgs'⟩ := List.forall_mem_cons.1 hgs
    obtain ⟨hs', htail, hhs'⟩ := exists_of_cons_eq_flatten hx hhs heq
    cases g with
    | nil => exact absurd rfl hg.ne_nil
    | cons p rest =>
      obtain ⟨rfl, hleft⟩ := List.cons.inj htail
      -- the empty piece begins a group of two, so that a piece of three characters is left over
      obtain ⟨y, rfl, hy⟩ := hg.exists_of_nil
      exact ih hy hgs' hhs' hleft

end Groups

/-! ## The pieces of a tag -/

section Pieces

variable {v x : List Char} {A B : List (List Char)} {t t' : LanguageTag} {s s' : String}

/-- A text that has other characters than letters and digits falls into pieces. -/
lemma exists_subtags_eq_cons_cons {c : Char} (hx : c ∈ x) (hc : isAsciiAlphanumeric c = false) :
    ∃ p q more, subtags (spelled x) = p :: q :: more := by
  obtain ⟨before, after, rfl⟩ := List.append_of_mem hx
  obtain ⟨p, ps, hbefore⟩ := exists_subtags_eq_cons (spelled before)
  obtain ⟨q, qs, hafter⟩ := exists_subtags_eq_cons (spelled after)
  have hsplit : subtags (spelled (before ++ c :: after)) = p :: (ps ++ q :: qs) := by
    rw [spelled, List.map_append, List.map_cons,
      subtags_append_cons _ _ (isJoint_identifierChar hc), ← spelled, ← spelled,
      hbefore, hafter]
    rfl
  obtain ⟨r, rs, hrs⟩ := List.exists_cons_of_ne_nil (l := ps ++ q :: qs) (by simp)
  exact ⟨p, r, rs, by rw [hsplit, hrs]⟩

/-- The pieces of a variant are a group. -/
lemma IsLooseVariant.isGroup (h : IsLooseVariant v) : IsGroup (subtags (spelled v)) := by
  by_cases hall : ∀ c ∈ v, isAsciiAlphanumeric c
  · exact .inl ⟨v, subtags_spelled_eq_singleton hall, h.four_le_length⟩
  obtain ⟨hlength, hcases⟩ : v.length = 4 ∧
      ((∀ c ∈ v.take 1, isAsciiDigit c) ∨ ∀ c ∈ v.drop 1, isAsciiAlphanumeric c) :=
    h.2.resolve_left fun h => hall h.2.2
  have hpieces : (['_'].intercalate (subtags (spelled v))).length = 4 := by
    rw [intercalate_subtags (hyphen_notMem_spelled v), spelled, List.length_map, hlength]
  obtain ⟨a, rest, rfl⟩ := List.exists_cons_of_length_eq_add_one hlength
  right
  cases ha : isAsciiAlphanumeric a with
  | false =>
    have hrest : ∀ c ∈ rest, isAsciiAlphanumeric c := by
      refine hcases.resolve_left fun hdigit => ?_
      simp [isAsciiAlphanumeric_eq, hdigit a (by simp)] at ha
    refine ⟨[], rest, [], ?_, hpieces, fun _ => rfl⟩
    rw [spelled, List.map_cons, subtags_cons_of_isJoint (isJoint_identifierChar ha),
      ← spelled, subtags_spelled_eq_singleton hrest]
  | true =>
    obtain ⟨c, hc, hother⟩ : ∃ c ∈ rest, isAsciiAlphanumeric c = false := by
      simpa [ha] using hall
    obtain ⟨p, q, more, hrest⟩ := exists_subtags_eq_cons_cons hc hother
    have hjoint : ¬IsJoint (identifierChar a) := by
      rw [identifierChar, if_pos ha]
      exact not_isJoint_of_isAsciiAlphanumeric ha
    exact ⟨_, q, more, subtags_cons_of_not_isJoint hjoint hrest, hpieces,
      fun h => absurd h (List.cons_ne_nil _ _)⟩

lemma not_isCapital_of_mem_subtags (h : IsLooseVariant v) (hx : x ∈ subtags (spelled v)) :
    ∀ c ∈ x, isCapital c = false := by
  intro c hc
  obtain ⟨d, hd, rfl⟩ := List.mem_map.1 (forall_of_mem_subtags hx c hc).1
  rw [identifierChar]
  split
  · exact (h.1 d hd).2.1
  · rfl

lemma subtags_spelled_intercalate {ps : List (List Char)} (hne : ps ≠ []) :
    subtags (spelled (['-'].intercalate ps)) = (ps.map spelled).flatMap subtags := by
  rw [List.flatMap_map]
  exact subtags_map_intercalate (by decide) hne

/-- The pieces of all variants of a tag, as groups. -/
def groups (t : LanguageTag) : List (List (List Char)) := (t.variants.map spelled).map subtags

namespace HasForm

lemma isGroup (h : HasForm IsLooseVariant s t) : ∀ g ∈ t.groups, IsGroup g :=
  List.forall_mem_map.2 (List.forall_mem_map.2 fun v hv => (h.variants v hv).isGroup)

lemma not_isCapital_of_mem_flatten (h : HasForm IsLooseVariant s t) (hx : x ∈ t.groups.flatten) :
    ∀ c ∈ x, isCapital c = false := by
  obtain ⟨g, hg, hx⟩ := List.mem_flatten.1 hx
  obtain ⟨_, hspelled, rfl⟩ := List.mem_map.1 hg
  obtain ⟨v, hv, rfl⟩ := List.mem_map.1 hspelled
  exact not_isCapital_of_mem_subtags (h.variants v hv) hx

/-- The pieces of an identifier are the parts of the tag, with the groups of its variants. -/
lemma subtags_spelled (h : HasForm IsLooseVariant s t) : subtags (spelled s.toList) =
    t.language :: (t.script.toList ++ (t.region.toList ++ t.groups.flatten)) := by
  have hoption : ∀ {o : Option (List Char)}, (∀ x ∈ o, ∀ c ∈ x, isAsciiAlphanumeric c) →
      (o.toList.map spelled).flatMap subtags = o.toList := by
    intro o ho
    cases o with
    | none => rfl
    | some x => simp [subtags_spelled_eq_singleton (ho x rfl)]
  rw [h.toList_eq, subtags_spelled_intercalate t.parts_ne_nil, parts, List.map_cons,
    List.flatMap_cons, List.append_assoc, List.map_append, List.map_append, List.flatMap_append,
    List.flatMap_append, subtags_spelled_eq_singleton h.language.isAsciiAlphanumeric,
    hoption fun x hx => (h.script x hx).isAsciiAlphanumeric,
    hoption fun x hx => (h.region x hx).isAsciiAlphanumeric, List.flatMap_def]
  rfl

/-- A script is not the beginning of the rest of another tag. -/
lemma script_ne (h : HasForm IsLooseVariant s t) (hx : IsScript x) :
    x :: A ≠ t.region.toList ++ t.groups.flatten := by
  intro heq
  cases hregion : t.region with
  | some r =>
    rw [hregion] at heq
    obtain ⟨rfl, -⟩ := List.cons.inj heq
    exact absurd hx.1 (Nat.ne_of_lt (h.region _ hregion).length_lt)
  | none =>
    rw [hregion] at heq
    obtain ⟨a, b, c, d, rfl⟩ := List.length_eq_four.1 hx.1
    have hmem : [a, b, c, d] ∈ t.groups.flatten := by
      rw [← List.nil_append t.groups.flatten, ← Option.toList_none, ← heq]
      exact List.mem_cons_self
    have hcapital := hx.2.1 a (by simp)
    rw [h.not_isCapital_of_mem_flatten hmem a List.mem_cons_self] at hcapital
    exact nomatch hcapital

/-- A region is not the beginning of variants that end with others. -/
lemma region_ne (h : HasForm IsLooseVariant s t) (h' : HasForm IsLooseVariant s' t')
    (hx : IsRegion x) : x :: t.groups.flatten ≠ t'.groups.flatten := by
  rcases hx with ⟨hlength, hcapital⟩ | ⟨hlength, -⟩
  · intro heq
    obtain ⟨a, b, rfl⟩ := List.length_eq_two.1 hlength
    have hmem : [a, b] ∈ t'.groups.flatten := by
      rw [← heq]
      exact List.mem_cons_self
    have ha := hcapital a List.mem_cons_self
    rw [h'.not_isCapital_of_mem_flatten hmem a List.mem_cons_self] at ha
    exact nomatch ha
  · exact cons_flatten_ne_flatten hlength h.isGroup h'.isGroup

/-- The parts of two tags with the same pieces are spelled alike. -/
lemma map_spelled_parts (h : HasForm IsLooseVariant s t) (h' : HasForm IsLooseVariant s' t')
    (heq : subtags (spelled s.toList) = subtags (spelled s'.toList)) :
    t.parts.map spelled = t'.parts.map spelled := by
  rw [h.subtags_spelled, h'.subtags_spelled] at heq
  obtain ⟨hlanguage, heq⟩ := List.cons.inj heq
  have hscript : t.script = t'.script ∧
      t.region.toList ++ t.groups.flatten = t'.region.toList ++ t'.groups.flatten := by
    cases hx : t.script <;> cases hy : t'.script <;> rw [hx, hy] at heq
    case none.none => exact ⟨rfl, heq⟩
    case none.some y => exact absurd heq.symm (h.script_ne (h'.script y hy))
    case some.none x => exact absurd heq (h'.script_ne (h.script x hx))
    case some.some x y =>
      obtain ⟨rfl, hrest⟩ := List.cons.inj heq
      exact ⟨rfl, hrest⟩
  obtain ⟨hscript, heq⟩ := hscript
  have hregion : t.region = t'.region ∧ t.groups.flatten = t'.groups.flatten := by
    cases hx : t.region <;> cases hy : t'.region <;> rw [hx, hy] at heq
    case none.none => exact ⟨rfl, heq⟩
    case none.some y => exact absurd heq.symm (h'.region_ne h (h'.region y hy))
    case some.none x => exact absurd heq (h.region_ne h' (h.region x hx))
    case some.some x y =>
      obtain ⟨rfl, hrest⟩ := List.cons.inj heq
      exact ⟨rfl, hrest⟩
  obtain ⟨hregion, heq⟩ := hregion
  have hvariants : t.variants.map spelled = t'.variants.map spelled := by
    have hgroups := congrArg (List.map (['_'].intercalate ·))
      (eq_of_flatten_eq h.isGroup h'.isGroup heq)
    simpa [groups, Function.comp_def, intercalate_subtags (hyphen_notMem_spelled _)] using hgroups
  simp only [parts, List.map_cons, List.map_append, hlanguage, hscript, hregion, hvariants]

end HasForm

end Pieces

/-! ## Accepted tags -/

section Accepted

variable {s s' : String} {t t' : LanguageTag}

namespace HasForm

/-- Tags share an identifier exactly if their parts are spelled alike. -/
lemma languageIdentifier_eq_iff (h : HasForm IsLooseVariant s t)
    (h' : HasForm IsLooseVariant s' t') :
    languageIdentifier s = languageIdentifier s' ↔
      (s.toList.splitOn '-').map spelled = (s'.toList.splitOn '-').map spelled := by
  rw [h.splitOn_eq, h'.splitOn_eq, ← String.toList_inj, toList_languageIdentifier,
    toList_languageIdentifier]
  constructor
  · intro heq
    exact h.map_spelled_parts h' (congrArg subtags heq)
  · intro heq
    have hpieces : subtags (spelled s.toList) = subtags (spelled s'.toList) := by
      rw [h.toList_eq, h'.toList_eq, subtags_spelled_intercalate t.parts_ne_nil,
        subtags_spelled_intercalate t'.parts_ne_nil, heq]
    rw [← intercalate_subtags (hyphen_notMem_spelled s.toList), hpieces,
      intercalate_subtags (hyphen_notMem_spelled s'.toList)]

/-- A tag with the identifier of a plain one is the same. -/
lemma eq_of_isPlainTag (h : HasForm IsLooseVariant s t) (h' : HasForm IsLooseVariant s' t')
    (hplain : IsPlainTag s) (heq : languageIdentifier s = languageIdentifier s') : s = s' := by
  have hparts : t.parts.map spelled = t'.parts.map spelled := by
    rw [← h.splitOn_eq, ← h'.splitOn_eq]
    exact (h.languageIdentifier_eq_iff h').1 heq
  have halphanumeric : ∀ p ∈ t.parts, ∀ c ∈ p, isAsciiAlphanumeric c := fun p hp =>
    (h.mem_parts_cases hp).elim id (h.isPlainTag_iff.1 hplain p)
  have hself : t.parts.map spelled = t.parts :=
    (List.map_congr_left fun p hp => spelled_eq_self (halphanumeric p hp)).trans (List.map_id _)
  have hself' : t'.parts.map spelled = t'.parts := by
    refine (List.map_congr_left fun q hq => spelled_eq_self fun c hc => ?_).trans (List.map_id _)
    -- an underscore would be a character of the plain tag
    have hmem : spelled q ∈ t.parts := by
      rw [← hself, hparts]
      exact List.mem_map_of_mem hq
    have hkept := halphanumeric _ hmem _ (List.mem_map_of_mem hc)
    by_contra hother
    rw [Bool.not_eq_true] at hother
    exact not_isJoint_of_isAsciiAlphanumeric hkept (isJoint_identifierChar hother)
  rw [← String.toList_inj, h.toList_eq, h'.toList_eq, ← hself, hparts, hself']

end HasForm

lemma asciiLowercase_languageIdentifier_eq_iff (h : IsLooseTag s) (h' : IsLooseTag s') :
    asciiLowercase (languageIdentifier s) = asciiLowercase (languageIdentifier s') ↔
      languageIdentifier s = languageIdentifier s' :=
  ⟨languageIdentifier_eq_of_asciiLowercase_eq (isCanonical_iff.2 h) (isCanonical_iff.2 h'),
    congrArg asciiLowercase⟩

lemma checkLanguage_eq_ok_iff : checkLanguage s = .ok () ↔ IsLooseTag s := by
  rw [checkLanguage, ← isCanonical_iff]
  split <;> simp_all

/-- What the check of a tag decides, and what identifiers the tags have that pass. -/
structure CheckedTags (s : String) : Prop where
  /-- The texts that pass are those that are taken for tags. -/
  accepts : checkLanguage s = .ok () ↔ IsLooseTag s
  /-- All others are refused with an error that names them. -/
  refuses : ¬IsLooseTag s → checkLanguage s = .error (.invalidLanguage s)
  /-- Tags are the strict ones among the texts that pass. -/
  tags : IsTag s ↔ checkLanguage s = .ok () ∧ IsStrict s
  /-- The language of a tag that passes does so by itself. -/
  key : checkLanguage s = .ok () → checkLanguage (languageKey s) = .ok ()
  /-- Two tags that pass have the same identifier, up to case, exactly if their parts are spelled
  alike one by one. -/
  shared : ∀ s', checkLanguage s = .ok () → checkLanguage s' = .ok () →
    (asciiLowercase (languageIdentifier s) = asciiLowercase (languageIdentifier s') ↔
      (s.toList.splitOn '-').map spelled = (s'.toList.splitOn '-').map spelled)
  /-- No other tag that passes has the identifier of one without any characters but letters, digits
  and hyphens. -/
  plain : ∀ s', checkLanguage s = .ok () → checkLanguage s' = .ok () → IsPlainTag s → s ≠ s' →
    asciiLowercase (languageIdentifier s) ≠ asciiLowercase (languageIdentifier s')

/-- **Which tags are accepted, and which of them share an identifier.**  Variants of four characters
are restricted in their first character or in the other three only.  The texts that pass although
they are no tags are those with a variant like this, and only these can share an identifier. -/
theorem checkLanguage_spec (s : String) : CheckedTags s where
  accepts := checkLanguage_eq_ok_iff
  refuses h := by
    rw [checkLanguage, if_neg (mt isCanonical_iff.1 h)]
  tags := by
    rw [checkLanguage_eq_ok_iff]
    exact isTag_iff
  key h := checkLanguage_eq_ok_iff.2 (checkLanguage_eq_ok_iff.1 h).languageKey
  shared s' h h' := by
    rw [checkLanguage_eq_ok_iff] at h h'
    rw [asciiLowercase_languageIdentifier_eq_iff h h']
    obtain ⟨t, h, -⟩ := h
    obtain ⟨t', h', -⟩ := h'
    exact h.languageIdentifier_eq_iff h'
  plain s' h h' hplain hne heq := by
    rw [checkLanguage_eq_ok_iff] at h h'
    rw [asciiLowercase_languageIdentifier_eq_iff h h'] at heq
    obtain ⟨t, h, -⟩ := h
    obtain ⟨t', h', -⟩ := h'
    exact hne (h.eq_of_isPlainTag h' hplain heq)

/-- Two texts with a punctuation mark, which no tag has: both pass, and they share an identifier. -/
theorem checkLanguage_of_marks : checkLanguage "en-1ab." = .ok () ∧ ¬IsTag "en-1ab." ∧
    checkLanguage "en-1ab!" = .ok () ∧ ¬IsTag "en-1ab!" ∧
      asciiLowercase (languageIdentifier "en-1ab.") =
        asciiLowercase (languageIdentifier "en-1ab!") := by
  have hidentifier : languageIdentifier "en-1ab." = languageIdentifier "en-1ab!" := by
    rw [← String.toList_inj, toList_languageIdentifier, toList_languageIdentifier]
    decide
  exact ⟨by decide, by decide, by decide, by decide, congrArg asciiLowercase hidentifier⟩

end Accepted

end LanguageTag

end Phrasebook
