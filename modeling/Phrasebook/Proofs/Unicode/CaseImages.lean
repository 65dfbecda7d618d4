import Mathlib.Tactic.Common
import Phrasebook.Unicode.Alphanumeric
import Phrasebook.Unicode.CaseMapping
import Phrasebook.Unicode.DecimalDigit

/-!
# What the images of a case mapping are not

Names are made of words whose letters have been mapped to upper or to lower case.  What such a name
cannot be is settled by what no image can be: not an underscore, which is kept for marks and for
the joints of a name, and after a mapping to one case not an ASCII letter of the other.

Both are questions about the tables of the mappings.  A table `Spares` a range of code points if no
image lies in it; then a character from the range is an image only of itself
(`eq_of_mem_mapped`).
-/

namespace Phrasebook

lemma mem_of_lookup_eq_some {α β : Type*} [DecidableEq α] {l : List (α × β)} {a : α} {b : β}
    (h : l.lookup a = some b) : (a, b) ∈ l := by
  rw [List.lookup_eq_findSome?] at h
  obtain ⟨e, he, hb⟩ := List.exists_of_findSome?_eq_some h
  grind

namespace Unicode

/-! ## ASCII characters -/

/-- What holds of all ASCII codes holds of an ASCII character. -/
lemma of_ascii_codes {p : Char → Prop} {c : Char} (h : ∀ n < 128, p (Char.ofNat n))
    (hc : c.toNat < 128) : p c := by
  have hcode := h c.toNat hc
  rwa [Char.ofNat_toNat] at hcode

lemma isAscii_of_isAsciiAlphanumeric {c : Char} (h : isAsciiAlphanumeric c) : c.toNat < 128 := by
  have hbelow : ∀ {d : Char}, d.toNat < 128 → c ≤ d → c.toNat < 128 := fun hd hle =>
    Nat.lt_of_le_of_lt hle hd
  simp only [isAsciiAlphanumeric, isAsciiDigit, Bool.or_eq_true, Bool.and_eq_true,
    decide_eq_true_eq] at h
  rcases h with (⟨-, h⟩ | ⟨-, h⟩) | ⟨-, h⟩ <;> exact hbelow (by decide) h

/-- What holds of the codes of all ASCII letters and digits holds of a letter or digit. -/
lemma of_alphanumeric_codes {p : Char → Prop} {c : Char}
    (h : ∀ n < 128, isAsciiAlphanumeric (Char.ofNat n) → p (Char.ofNat n))
    (hc : isAsciiAlphanumeric c) : p c :=
  of_ascii_codes (p := fun c => isAsciiAlphanumeric c → p c) h (isAscii_of_isAsciiAlphanumeric hc)
    hc

lemma asciiLower_eq_self {c : Char} (h : isAsciiAlphanumeric c = false) : asciiLower c = c := by
  refine if_neg fun hcapital => ?_
  rw [isAsciiAlphanumeric, hcapital, Bool.or_true] at h
  exact nomatch h

@[simp] lemma asciiLower_asciiLower (c : Char) : asciiLower (asciiLower c) = asciiLower c := by
  cases h : isAsciiAlphanumeric c with
  | false => rw [asciiLower_eq_self h, asciiLower_eq_self h]
  | true =>
    exact of_alphanumeric_codes (p := fun c => asciiLower (asciiLower c) = asciiLower c)
      (by decide) h

lemma asciiLowercase_append (s s' : String) :
    asciiLowercase (s ++ s') = asciiLowercase s ++ asciiLowercase s' := by
  rw [← String.toList_inj]
  simp [asciiLowercase, String.toList_map]

@[simp] lemma asciiLowercase_asciiLowercase (s : String) :
    asciiLowercase (asciiLowercase s) = asciiLowercase s := by
  rw [← String.toList_inj]
  simp [asciiLowercase, String.toList_map, asciiLower_asciiLower]

/-! ## Ranges without images -/

/-- Whether no image of a mapping lies from `lo` to `hi`. -/
def Spares (runs : List CaseRun) (expansions : List (ℕ × List ℕ)) (lo hi : ℕ) : Prop :=
  (∀ r ∈ runs, r.image + (r.last - r.first) < lo ∨ hi < r.image) ∧
    ∀ e ∈ expansions, ∀ n ∈ e.2, n < lo ∨ hi < n

instance (runs : List CaseRun) (expansions : List (ℕ × List ℕ)) (lo hi : ℕ) :
    Decidable (Spares runs expansions lo hi) :=
  inferInstanceAs (Decidable (_ ∧ _))

lemma toNat_ofNat_of_valid {n : ℕ} (h : n.isValidChar) : (Char.ofNat n).toNat = n := by
  rw [Char.ofNat, dif_pos h]
  rfl

lemma toNat_ofNat_eq_or (n : ℕ) : (Char.ofNat n).toNat = n ∨ (Char.ofNat n).toNat = 0 := by
  by_cases h : n.isValidChar
  · exact .inl (toNat_ofNat_of_valid h)
  · rw [Char.ofNat, dif_neg h]
    exact .inr rfl

section Mapped

variable {runs : List CaseRun} {expansions : List (ℕ × List ℕ)} {lo hi : ℕ} {c x : Char}

/-- A character from a range without images is an image only of itself. -/
lemma eq_of_mem_mapped (h : Spares runs expansions lo hi) (hpos : 0 < lo)
    (hx : x ∈ mapped runs expansions c) (hlo : lo ≤ x.toNat) (hhi : x.toNat ≤ hi) : x = c := by
  have hout : ∀ n, x = Char.ofNat n → ¬(n < lo ∨ hi < n) := by
    rintro n rfl
    rcases toNat_ofNat_eq_or n with h | h <;> omega
  unfold mapped at hx
  split at hx
  · rename_i n hn
    obtain ⟨r, hr, hn⟩ := List.exists_of_findSome?_eq_some hn
    obtain ⟨⟨-, hlast, -⟩, rfl⟩ : _ ∧ r.image + (c.toNat - r.first) = n := by
      simpa [CaseRun.imageOf?] using hn
    refine absurd ?_ (hout _ (List.mem_singleton.1 hx))
    rcases h.1 r hr with h | h <;> omega
  · split at hx
    · rename_i ns hns
      obtain ⟨n, hn, rfl⟩ := List.mem_map.1 hx
      exact absurd (h.2 _ (mem_of_lookup_eq_some hns) n hn) (hout n rfl)
    · exact List.mem_singleton.1 hx

lemma mapped_ne_nil (h : ∀ e ∈ expansions, e.2 ≠ []) : mapped runs expansions c ≠ [] := by
  unfold mapped
  split
  · exact List.cons_ne_nil _ _
  · split
    · rename_i ns hns
      simpa using h _ (mem_of_lookup_eq_some hns)
    · exact List.cons_ne_nil _ _

end Mapped

/-! ## The tables -/

/-- Upper case has images for every character, and none that is an underscore or a small ASCII
letter. -/
lemma upper_tables :
    (∀ e ∈ upperExpansions, e.2 ≠ []) ∧ Spares upperRuns upperExpansions 0x5F 0x5F ∧
      Spares upperRuns upperExpansions 0x61 0x7A ∧
      ∀ n ≤ 0x7A, 0x61 ≤ n → Char.ofNat n ∉ upperOf (Char.ofNat n) := by
  decide +kernel

/-- Lower case has images for every character, and none that is an underscore or an ASCII
capital. -/
lemma lower_tables :
    (∀ e ∈ lowerExpansions, e.2 ≠ []) ∧ Spares lowerRuns lowerExpansions 0x5F 0x5F ∧
      Spares lowerRuns lowerExpansions 0x41 0x5A ∧
      ∀ n ≤ 0x5A, 0x41 ≤ n → Char.ofNat n ∉ lowerOf (Char.ofNat n) := by
  decide +kernel

/-! ## Single characters -/

/-- The underscore belongs to no word. -/
lemma isAlphanumeric_underscore : isAlphanumeric '_' = false := by decide

section Chars

variable {c x : Char}

lemma ne_underscore_of_isAlphanumeric (h : isAlphanumeric c) : c ≠ '_' := by
  rintro rfl
  exact absurd h (by simp [isAlphanumeric_underscore])

lemma upperOf_ne_nil (c : Char) : upperOf c ≠ [] := mapped_ne_nil upper_tables.1

lemma lowerOf_ne_nil (c : Char) : lowerOf c ≠ [] := mapped_ne_nil lower_tables.1

lemma underscore_notMem_upperOf (h : isAlphanumeric c) : '_' ∉ upperOf c := by
  obtain ⟨-, htable, -⟩ := upper_tables
  intro hx
  exact ne_underscore_of_isAlphanumeric h
    (eq_of_mem_mapped htable (by decide) hx (Nat.le_refl _) (Nat.le_refl _)).symm

lemma underscore_notMem_lowerOf (h : isAlphanumeric c) : '_' ∉ lowerOf c := by
  obtain ⟨-, htable, -⟩ := lower_tables
  intro hx
  exact ne_underscore_of_isAlphanumeric h
    (eq_of_mem_mapped htable (by decide) hx (Nat.le_refl _) (Nat.le_refl _)).symm

/-- An upper case has no small ASCII letter. -/
lemma not_small_of_mem_upperOf (hx : x ∈ upperOf c) : ¬(0x61 ≤ x.toNat ∧ x.toNat ≤ 0x7A) := by
  obtain ⟨-, -, htable, hsmall⟩ := upper_tables
  rintro ⟨hlo, hhi⟩
  obtain rfl := eq_of_mem_mapped htable (by decide) hx hlo hhi
  have hself := hsmall x.toNat hhi hlo
  rw [Char.ofNat_toNat] at hself
  exact hself hx

/-- A lower case has no ASCII capital. -/
lemma not_capital_of_mem_lowerOf (hx : x ∈ lowerOf c) : ¬(0x41 ≤ x.toNat ∧ x.toNat ≤ 0x5A) := by
  obtain ⟨-, -, htable, hcapital⟩ := lower_tables
  rintro ⟨hlo, hhi⟩
  obtain rfl := eq_of_mem_mapped htable (by decide) hx hlo hhi
  have hself := hcapital x.toNat hhi hlo
  rw [Char.ofNat_toNat] at hself
  exact hself hx

end Chars

/-! ## Texts in lower case -/

section Texts

variable {before cs : List Char} {x : Char}

lemma mem_lowercaseAfter (h : x ∈ lowercaseAfter before cs) :
    x = 'ς' ∨ x = 'σ' ∨ ∃ c ∈ cs, x ∈ lowerOf c := by
  induction cs generalizing before with
  | nil => exact nomatch h
  | cons c rest ih =>
    rw [lowercaseAfter, List.mem_append] at h
    rcases h with h | h
    · split at h
      · split at h
        · exact .inl (List.mem_singleton.1 h)
        · exact .inr (.inl (List.mem_singleton.1 h))
      · exact .inr (.inr ⟨c, List.mem_cons_self, h⟩)
    · rcases ih h with h | h | ⟨d, hd, h⟩
      · exact .inl h
      · exact .inr (.inl h)
      · exact .inr (.inr ⟨d, List.mem_cons_of_mem _ hd, h⟩)

lemma lowercase_ne_nil (h : cs ≠ []) : lowercase cs ≠ [] := by
  cases cs with
  | nil => exact absurd rfl h
  | cons c rest =>
    rw [lowercase, lowercaseAfter]
    refine List.append_ne_nil_of_left_ne_nil ?_ _
    split
    · split <;> exact List.cons_ne_nil _ _
    · exact lowerOf_ne_nil c

lemma underscore_notMem_lowercase (h : ∀ c ∈ cs, isAlphanumeric c) : '_' ∉ lowercase cs := by
  intro hx
  rcases mem_lowercaseAfter hx with hx | hx | ⟨c, hc, hx⟩
  · exact absurd hx (by decide)
  · exact absurd hx (by decide)
  · exact underscore_notMem_lowerOf (h c hc) hx

lemma not_capital_of_mem_lowercase (hx : x ∈ lowercase cs) :
    ¬(0x41 ≤ x.toNat ∧ x.toNat ≤ 0x5A) := by
  rcases mem_lowercaseAfter hx with rfl | rfl | ⟨c, -, hx⟩
  · decide
  · decide
  · exact not_capital_of_mem_lowerOf hx

end Texts

end Unicode

end Phrasebook
