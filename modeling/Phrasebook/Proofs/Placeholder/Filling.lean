import Phrasebook.Proofs.Placeholder.Gaps

/-!
# When arguments fill a text

A text whose tokens are all answered by one of `n` arguments can be filled: whoever substitutes at
least `n` arguments gets the gaps of the text with an argument between any two of them, and no
token is left (`Fillable`).  A token that none of the arguments answers *strays*: its index is
zero, or its digits are not a number that fits, or there are not that many arguments.

Checking a text is looking for a token that strays (`firstUnaddressed?_eq_none_iff`), so a text
that is not objected to can be filled (`fillable_of_not_hasStray`).  Without arguments nothing can:
only a text without tokens is filled by none (`fillable_zero_iff`), and every other one is given
back as it is (`substitute_nil`).
-/

namespace Phrasebook.Placeholder

open Unicode

/-! ## Tokens that stray -/

/-- None of `count` arguments answers the token with the digits `ds`. -/
def Strays (count : UInt64) (ds : List Char) : Prop :=
  indexOf ds = 0 ∨ indexOf ds = noIndex ∨ count < indexOf ds

/-- The text has a token that none of `count` arguments answers. -/
def HasStray (count : UInt64) (text : String) : Prop :=
  ∃ k : Cut, k.Divides text.toList ∧ ∃ ds ∈ k.tokens, Strays count ds

section Strays

variable {count : UInt64} {ds : List Char} {text : String}

lemma answered_iff : answered count (indexOf ds) ↔ ¬Strays count ds := by
  simp [answered, Strays, and_assoc]

/-- An index that is in range is the number that the digits write. -/
lemma toNat_indexOf (h : indexOf ds ≠ noIndex) : (indexOf ds).toNat = Decimal.value ds := by
  unfold indexOf at h ⊢
  split
  · rename_i hfits
    exact UInt64.toNat_ofNat_of_lt' hfits.2
  · rename_i hfits
    exact absurd (if_neg hfits) h

/-- A token that does not stray counts from one and up to the number of arguments. -/
lemma value_of_not_strays (h : ¬Strays count ds) :
    (indexOf ds).toNat = Decimal.value ds ∧ 1 ≤ Decimal.value ds ∧
      Decimal.value ds ≤ count.toNat := by
  obtain ⟨hzero, hrange, hle⟩ : indexOf ds ≠ 0 ∧ indexOf ds ≠ noIndex ∧ ¬count < indexOf ds := by
    simpa only [Strays, not_or] using h
  have hvalue := toNat_indexOf hrange
  refine ⟨hvalue, ?_, ?_⟩
  · rw [← hvalue, Nat.one_le_iff_ne_zero]
    exact fun h => hzero (UInt64.toNat_inj.1 h)
  · rw [← hvalue]
    exact Nat.le_of_not_lt fun h => hle (UInt64.lt_iff_toNat_lt.2 h)

lemma hasStray_iff : HasStray count text ↔ ∃ ds ∈ (Cut.ofText text).tokens, Strays count ds := by
  simp only [HasStray, Cut.divides_iff, exists_eq_left]

/-- Nothing is objected to in a text exactly if none of its tokens strays. -/
lemma firstUnaddressed?_eq_none_iff :
    firstUnaddressed? text count = none ↔ ¬HasStray count text := by
  have hfind : firstUnaddressed? text count = none ↔
      ∀ i ∈ (find text).map (·.index), answered count i := by
    simp [firstUnaddressed?]
  rw [hfind, map_index_find, List.forall_mem_map, hasStray_iff]
  simp only [answered_iff, not_exists, not_and]

end Strays

/-! ## Texts that are filled -/

/-- The argument that is put in the place of a token. -/
lemma replaced_token {args : List String} {ds : List Char} (hvalue : (indexOf ds).toNat =
    Decimal.value ds) (hpos : 1 ≤ Decimal.value ds) (hle : Decimal.value ds ≤ args.length) :
    (Piece.token ds).replaced args = (args.getD (Decimal.value ds - 1) "").toList := by
  have hzero : indexOf ds ≠ 0 := by
    intro h
    rw [h, UInt64.toNat_zero] at hvalue
    omega
  have hlt : Decimal.value ds - 1 < args.length := by omega
  rw [Piece.replaced, argument?, if_neg hzero, hvalue, List.getD_eq_getElem?_getD,
    List.getElem?_eq_getElem hlt, Option.getD_some]

/-- Any `count` arguments, or more, leave no token in the text. -/
structure Fillable (count : UInt64) (text : String) : Prop where
  /-- There is one way to cut the text at its tokens. -/
  existsUnique : ∃! k : Cut, k.Divides text.toList
  /-- Each token has a number from one up to the number of arguments. -/
  numbered : ∀ k : Cut, k.Divides text.toList → ∀ ds ∈ k.tokens,
    (indexOf ds).toNat = Decimal.value ds ∧ 1 ≤ Decimal.value ds ∧
      Decimal.value ds ≤ count.toNat
  /-- The arguments with these numbers come to stand between the gaps. -/
  filled : ∀ k : Cut, k.Divides text.toList → ∀ args : List String, count.toNat ≤ args.length →
    (substitute text args).toList =
      k.fill fun ds => (args.getD (Decimal.value ds - 1) "").toList

section Fillable

variable {count : UInt64} {text : String}

/-- A text in which no token strays can be filled. -/
lemma fillable_of_not_hasStray (h : ¬HasStray count text) : Fillable count text := by
  have hvalue : ∀ ds ∈ (Cut.ofText text).tokens, (indexOf ds).toNat = Decimal.value ds ∧
      1 ≤ Decimal.value ds ∧ Decimal.value ds ≤ count.toNat := fun ds hds =>
    value_of_not_strays fun hstray => h (hasStray_iff.2 ⟨ds, hds, hstray⟩)
  constructor
  case existsUnique => exact ⟨Cut.ofText text, Cut.divides_iff.2 rfl, fun k => Cut.divides_iff.1⟩
  case numbered =>
    intro k hk
    rwa [Cut.divides_iff.1 hk]
  case filled =>
    intro k hk args hargs
    rw [Cut.divides_iff.1 hk, toList_substitute]
    refine Cut.fill_congr fun ds hds => ?_
    obtain ⟨hindex, hpos, hle⟩ := hvalue ds hds
    exact replaced_token hindex hpos (hle.trans hargs)

/-- Arguments are put in by number, not by place. -/
example : substitute "%2$@ of %1$@" ["a", "b"] = "b of a" := by decide +kernel

/-- A text that is given no arguments stays as it is. -/
lemma substitute_nil (text : String) : substitute text [] = text := by
  have hreplaced : Piece.replaced [] = Piece.chars := by
    funext p
    cases p with
    | plain c => rfl
    | token ds => simp [Piece.replaced, argument?]
  rw [substitute, hreplaced, flatMap_chars_pieces, String.ofList_toList]

/-- No arguments at all fill only the texts that have no token. -/
lemma fillable_zero_iff : Fillable 0 text ↔ TokenFree text.toList := by
  have hdivides : (Cut.ofText text).Divides text.toList := Cut.divides_iff.2 rfl
  constructor
  · intro h
    have htokens : (Cut.ofText text).rest = [] := by
      rw [← List.map_eq_nil_iff (f := (·.1)), List.eq_nil_iff_forall_not_mem]
      intro ds hds
      obtain ⟨-, hpos, hle⟩ := h.numbered _ hdivides ds hds
      exact absurd (hpos.trans hle) (by decide)
    have hgap : (Cut.ofText text).gap = text.toList := by
      have hchars := hdivides.chars_eq
      rwa [Cut.chars, Cut.fill, htokens, List.flatMap_nil, List.append_nil] at hchars
    rw [← hgap]
    exact hdivides.tokenFree _ List.mem_cons_self
  · intro h
    refine fillable_of_not_hasStray fun hstray => ?_
    obtain ⟨ds, hds, -⟩ := hasStray_iff.1 hstray
    exact h ds (hdivides.isNumber ds hds) (hdivides.infix_of_mem_tokens hds)

end Fillable

end Phrasebook.Placeholder
