import Mathlib.Tactic
import Phrasebook.Literal.Hexadecimal
import Phrasebook.Unicode.Printable

/-!
# How languages read literals

A literal is what a compiler reads it as.  A `Reader` says how the inside of one kind of literals
is read, element by element, up to the mark that closes it: escapes, substitutions, line ends, and
the characters that stand for themselves.  What a language refuses has no value.

An element ends where it does because of what follows.  So it is said of a stretch of a literal
what it contributes in front of a given rest (`Reader.Takes`), and stretches are put together
(`Reader.Takes.append`, `Reader.takes_flatMap`).

Escapes name characters by their code points, in hexadecimal digits.  Those that are written are
read as the same character again (`hexChar?_hexDigits4`, `bracedChar?_hexDigits`).
-/

namespace Phrasebook.Literal

/-! ## Readers -/

/-- How the inside of a kind of literals is read. -/
structure Reader (α : Type) where
  /-- What closes a literal. -/
  closing : List Char
  /-- The element at the beginning of a text: the values that it stands for, and what follows. -/
  element? : List Char → Option (List α × List Char)
  /-- An element has at least one character. -/
  length_lt : ∀ {cs values rest}, element? cs = some (values, rest) → rest.length < cs.length

namespace Reader

variable {α : Type}

/-- The values of the elements in front of the closing, and what is behind it. -/
def read? (r : Reader α) (cs : List Char) : Option (List α × List Char) :=
  if r.closing.isPrefixOf cs then some ([], cs.drop r.closing.length)
  else
    match h : r.element? cs with
    | some (values, rest) =>
      have := r.length_lt h
      (r.read? rest).map fun (more, behind) => (values ++ more, behind)
    | none => none
termination_by cs.length

/-- In front of `rest`, the characters `body` are read as `values`. -/
def Takes (r : Reader α) (body : List Char) (values : List α) (rest : List Char) : Prop :=
  r.read? (body ++ rest) = (r.read? rest).map fun (more, behind) => (values ++ more, behind)

section Takes

variable {r : Reader α} {body body' rest : List Char} {values values' : List α}

lemma read?_closing (rest : List Char) : r.read? (r.closing ++ rest) = some ([], rest) := by
  have hprefix : r.closing.isPrefixOf (r.closing ++ rest) :=
    List.isPrefixOf_iff_prefix.2 (List.prefix_append _ _)
  rw [read?, if_pos hprefix, List.drop_left]

lemma Takes.nil : r.Takes [] [] rest := by
  simp [Takes]

lemma Takes.append (h : r.Takes body values (body' ++ rest)) (h' : r.Takes body' values' rest) :
    r.Takes (body ++ body') (values ++ values') rest := by
  rw [Takes, List.append_assoc, h, h', Option.map_map]
  congr
  funext x
  simp

/-- A stretch that is one element. -/
lemma takes_of_element? (hclosing : ¬r.closing <+: body ++ rest)
    (h : r.element? (body ++ rest) = some (values, rest)) : r.Takes body values rest := by
  have hprefix : ¬r.closing.isPrefixOf (body ++ rest) := by
    rwa [List.isPrefixOf_iff_prefix]
  rw [Takes, read?, if_neg hprefix]
  split
  · rename_i found behind hfound
    obtain ⟨rfl, rfl⟩ := Prod.mk.inj (Option.some.inj (hfound.symm.trans h))
    rfl
  · rename_i hnone
    exact nomatch hnone.symm.trans h

/-- In a literal that a character closes, an element only has to begin with another one. -/
lemma takes_of_head {quote : Char} (hquote : r.closing = [quote])
    (hhead : (body ++ rest).head? ≠ some quote)
    (h : r.element? (body ++ rest) = some (values, rest)) : r.Takes body values rest := by
  refine takes_of_element? (fun hprefix => hhead ?_) h
  obtain ⟨more, hmore⟩ := hprefix
  rw [← hmore, hquote]
  rfl

/-- A text is read element by element. -/
lemma takes_flatMap {r : Reader Char} {escape : Char → List Char}
    (h : ∀ c rest, r.Takes (escape c) [c] rest) (cs rest : List Char) :
    r.Takes (cs.flatMap escape) cs rest := by
  induction cs with
  | nil => exact .nil
  | cons c cs ih => exact (h c _).append ih

/-- A literal ends where its closing stands. -/
lemma Takes.read?_eq (h : r.Takes body values (r.closing ++ rest)) :
    r.read? (body ++ (r.closing ++ rest)) = some (values, rest) := by
  rw [h, read?_closing]
  simp

/-- There is less text behind a literal than in front of it. -/
lemma length_le_of_read? {cs : List Char} (h : r.read? cs = some (values, rest)) :
    rest.length ≤ cs.length := by
  induction hlength : cs.length using Nat.strong_induction_on generalizing cs values with
  | _ n ih =>
    rw [read?] at h
    split_ifs at h with hclosing
    · obtain ⟨-, rfl⟩ := Prod.mk.inj (Option.some.inj h)
      rw [List.length_drop, hlength]
      omega
    · split at h
      · rename_i found behind hfound
        obtain ⟨⟨more, behind'⟩, hread, heq⟩ := Option.map_eq_some_iff.1 h
        obtain ⟨-, rfl⟩ := Prod.mk.inj heq
        have hshorter := r.length_lt hfound
        have hrest := ih _ (hlength ▸ hshorter) hread rfl
        omega
      · exact nomatch h

end Takes

end Reader

/-! ## Code points -/

section Codes

variable {c : Char} {cs ds rest : List Char}

lemma hexValue?_digitChar : ∀ d < 16, hexValue? (Nat.digitChar d) = some d := by decide

lemma toNat_lt_of_isControl (h : Unicode.isControl c) : c.toNat < 0x10000 := by
  simp [Unicode.isControl] at h
  omega

lemma charOfCode?_toNat (c : Char) : charOfCode? c.toNat = some c := by
  have hvalid : c.toNat < 0xD800 ∨ (0xDFFF < c.toNat ∧ c.toNat < 0x110000) := c.valid
  rw [charOfCode?, if_neg (by omega), Char.ofNat_toNat]

lemma hexNumber?_append_digitChar {n m d : Nat} (h : hexNumber? ds = some m) (hd : d < 16)
    (hn : m * 16 + d = n) : hexNumber? (ds ++ [Nat.digitChar d]) = some n := by
  rw [hexNumber?] at h ⊢
  rw [List.foldlM_append, h]
  simp [hexValue?_digitChar d hd, hn]

lemma hexNumber?_hexDigits4 {n : Nat} (h : n < 0x10000) : hexNumber? (hexDigits4 n) = some n := by
  have hsum : ((n / 0x1000 % 16 * 16 + n / 0x100 % 16) * 16 + n / 0x10 % 16) * 16 + n % 16 = n := by
    omega
  simp [hexNumber?, hexDigits4, hexValue?_digitChar, Nat.mod_lt, hsum]

/-- The digits of a number write it. -/
lemma hexNumber?_hexDigits (n : Nat) : hexNumber? (hexDigits n) = some n := by
  induction n using Nat.strong_induction_on with
  | _ n ih =>
    rw [hexDigits]
    by_cases hsmall : n < 16
    · rw [Nat.toDigits_of_lt_base hsmall]
      simp [hexNumber?, hexValue?_digitChar n hsmall]
    · rw [Nat.toDigits_of_base_le (by decide) (by omega)]
      have hquotient := ih (n / 16) (by omega)
      exact hexNumber?_append_digitChar hquotient (by omega) (by omega)

lemma exists_of_mem_hexDigits {n : Nat} {d : Char} (h : d ∈ hexDigits n) :
    ∃ k < 16, d = Nat.digitChar k := by
  induction n using Nat.strong_induction_on with
  | _ n ih =>
    rw [hexDigits] at h
    by_cases hsmall : n < 16
    · rw [Nat.toDigits_of_lt_base hsmall, List.mem_singleton] at h
      exact ⟨n, hsmall, h⟩
    · rw [Nat.toDigits_of_base_le (by decide) (by omega), List.mem_append,
        List.mem_singleton] at h
      rcases h with h | h
      · exact ih (n / 16) (by omega) h
      · exact ⟨n % 16, by omega, h⟩

/-- A character that is no digit is in no number. -/
lemma notMem_hexDigits (hc : ∀ k < 16, Nat.digitChar k ≠ c) (n : Nat) : c ∉ hexDigits n := by
  intro h
  obtain ⟨k, hk, rfl⟩ := exists_of_mem_hexDigits h
  exact hc k hk rfl

lemma notMem_hexDigits4 (hc : ∀ k < 16, Nat.digitChar k ≠ c) (n : Nat) : c ∉ hexDigits4 n := by
  intro h
  obtain ⟨k, hk, rfl⟩ := List.mem_map.1 h
  refine hc k ?_ rfl
  simp only [List.mem_cons, List.not_mem_nil, or_false] at hk
  omega

/-- The four digits of a character, in front of anything, name the character. -/
lemma hexChar?_hexDigits4 (h : c.toNat < 0x10000) (rest : List Char) :
    hexChar? 4 (hexDigits4 c.toNat ++ rest) = some (c, rest) := by
  have hfour : (hexDigits4 c.toNat).length = 4 := rfl
  have hlength : ¬(hexDigits4 c.toNat ++ rest).length < 4 := by
    rw [List.length_append, hfour]
    omega
  have htake : (hexDigits4 c.toNat ++ rest).take 4 = hexDigits4 c.toNat := List.take_left' hfour
  have hdrop : (hexDigits4 c.toNat ++ rest).drop 4 = rest := List.drop_left' hfour
  rw [hexChar?, if_neg hlength, htake, hdrop, hexNumber?_hexDigits4 h, Option.bind_some,
    charOfCode?_toNat, Option.map_some]

lemma length_le_of_hexChar? {n : Nat} (h : hexChar? n cs = some (c, rest)) :
    rest.length ≤ cs.length := by
  rw [hexChar?] at h
  split_ifs at h
  obtain ⟨_, -, heq⟩ := Option.map_eq_some_iff.1 h
  obtain ⟨-, rfl⟩ := Prod.mk.inj heq
  rw [List.length_drop]
  omega

/-- The text up to a closing brace, and the text behind the brace. -/
def braced? (cs : List Char) : Option (List Char × List Char) :=
  match cs.dropWhile (· ≠ '\x7d') with
  | _ :: rest => some (cs.takeWhile (· ≠ '\x7d'), rest)
  | [] => none

lemma braced?_append (h : '\x7d' ∉ ds) : braced? (ds ++ '\x7d' :: rest) = some (ds, rest) := by
  have hne : ∀ d ∈ ds, (d ≠ '\x7d' : Bool) := by
    intro d hd
    simpa using ne_of_mem_of_not_mem hd h
  have hdrop : (ds ++ '\x7d' :: rest).dropWhile (· ≠ '\x7d') = '\x7d' :: rest := by
    rw [List.dropWhile_append_of_pos hne]
    rfl
  have htake : (ds ++ '\x7d' :: rest).takeWhile (· ≠ '\x7d') = ds := by
    rw [List.takeWhile_append_of_pos hne, List.takeWhile_cons_of_neg (by simp), List.append_nil]
  rw [braced?, hdrop, htake]

lemma length_lt_of_braced? (h : braced? cs = some (ds, rest)) : rest.length < cs.length := by
  rw [braced?] at h
  split at h
  · rename_i c rest' hdrop
    obtain ⟨-, rfl⟩ := Prod.mk.inj (Option.some.inj h)
    have hle := (List.dropWhile_suffix (l := cs) (· ≠ '\x7d')).length_le
    rw [hdrop, List.length_cons] at hle
    omega
  · exact nomatch h

/-- The character whose code point stands in front of a closing brace, where its digits have the
right form; underscores between them do not count. -/
def bracedChar? (hasForm : List Char → Bool) (cs : List Char) : Option (Char × List Char) :=
  (braced? cs).bind fun (ds, rest) =>
    if hasForm ds then ((hexNumber? (ds.filter (· ≠ '_'))).bind charOfCode?).map (·, rest) else none

lemma length_lt_of_bracedChar? {hasForm : List Char → Bool}
    (h : bracedChar? hasForm cs = some (c, rest)) : rest.length < cs.length := by
  obtain ⟨⟨ds, behind⟩, hbraced, h⟩ := Option.bind_eq_some_iff.1 h
  dsimp only at h
  split_ifs at h
  obtain ⟨_, -, h⟩ := Option.map_eq_some_iff.1 h
  obtain ⟨-, rfl⟩ := Prod.mk.inj h
  exact length_lt_of_braced? hbraced

/-- The digits of a character between braces name the character. -/
lemma bracedChar?_hexDigits {hasForm : List Char → Bool} (hform : hasForm (hexDigits c.toNat))
    (rest : List Char) :
    bracedChar? hasForm (hexDigits c.toNat ++ '\x7d' :: rest) = some (c, rest) := by
  have hbrace : '\x7d' ∉ hexDigits c.toNat := notMem_hexDigits (by decide) _
  have hscore : (hexDigits c.toNat).filter (· ≠ '_') = hexDigits c.toNat := by
    refine List.filter_eq_self.2 fun d h => ?_
    obtain ⟨k, hk, rfl⟩ := exists_of_mem_hexDigits h
    simp
  rw [bracedChar?, braced?_append hbrace, Option.bind_some]
  dsimp only
  rw [if_pos hform, hscore, hexNumber?_hexDigits, Option.bind_some, charOfCode?_toNat,
    Option.map_some]

end Codes

end Phrasebook.Literal
