import Phrasebook.Literal.Rust
import Phrasebook.Proofs.Literal.Reading

/-!
# How Rust reads literals

The elements of escaped string literals and of raw strings, after the Rust reference.  A carriage
return is refused: in front of a line feed the compiler would drop it.  `literal?` reads a literal
of either kind, without a suffix behind it; no limit is set to the hashes of a raw string.

* The escape of a character stands for this character, in front of any rest (`takes_escapeChar`).
* So does a character of a raw string, where its closing does not begin (`takes_rawChar`).
-/

namespace Phrasebook.Literal.Rust

open Unicode

/-- The character that a character behind a backslash stands for. -/
def namedEscape? : Char → Option Char
  | 'n' => some '\n'
  | 'r' => some '\r'
  | 't' => some '\t'
  | '\\' => some '\\'
  | '0' => some '\x00'
  | '\'' => some '\''
  | '"' => some '"'
  | _ => none

/-- The form of the digits of a Unicode escape: there are six at most, and an underscore is not the
first of them. -/
def hasForm (ds : List Char) : Bool :=
  ds ≠ [] && ds.head? ≠ some '_' && (ds.filter (· ≠ '_')).length ≤ 6

/-- An element of an escaped string literal.  A line feed behind a backslash stands for nothing, and
takes the blanks behind it along. -/
def stringElement? : List Char → Option (List Char × List Char)
  | [] => none
  | '\\' :: 'x' :: cs =>
    ((hexChar? 2 cs).filter fun x => x.1.toNat < 128).map fun (c, rest) => ([c], rest)
  | '\\' :: 'u' :: '\x7b' :: cs => (bracedChar? hasForm cs).map fun (c, rest) => ([c], rest)
  | '\\' :: '\n' :: cs => some ([], cs.dropWhile (· ∈ [' ', '\t', '\n', '\r']))
  | '\\' :: c :: cs => (namedEscape? c).map fun value => ([value], cs)
  | c :: cs => if c = '\\' ∨ c = '\r' then none else some ([c], cs)

lemma length_lt_of_stringElement? {cs values rest : List Char}
    (h : stringElement? cs = some (values, rest)) : rest.length < cs.length := by
  unfold stringElement? at h
  split at h
  · exact nomatch h
  · obtain ⟨⟨c, behind⟩, hchar, h⟩ := Option.map_eq_some_iff.1 h
    obtain ⟨-, rfl⟩ := Prod.mk.inj h
    have hle := length_le_of_hexChar? (Option.filter_eq_some_iff.1 hchar).1
    simp
    omega
  · obtain ⟨⟨c, behind⟩, hchar, h⟩ := Option.map_eq_some_iff.1 h
    obtain ⟨-, rfl⟩ := Prod.mk.inj h
    have hlt := length_lt_of_bracedChar? hchar
    simp
    omega
  · obtain ⟨-, rfl⟩ := Prod.mk.inj (Option.some.inj h)
    exact (Nat.lt_succ_of_le (List.dropWhile_suffix _).length_le).trans (Nat.lt_succ_self _)
  · obtain ⟨c, -, h⟩ := Option.map_eq_some_iff.1 h
    obtain ⟨-, rfl⟩ := Prod.mk.inj h
    simp
  · split_ifs at h
    obtain ⟨-, rfl⟩ := Prod.mk.inj (Option.some.inj h)
    simp

/-- The inside of an escaped string literal. -/
def string : Reader Char where
  closing := ['"']
  element? := stringElement?
  length_lt := length_lt_of_stringElement?

/-- The inside of a raw string that `count` hashes open.  Every character stands for itself. -/
def rawOf (count : Nat) : Reader Char where
  closing := '"' :: List.replicate count '#'
  element?
    | [] => none
    | c :: cs => if c = '\r' then none else some ([c], cs)
  length_lt := by
    intro cs values rest h
    split at h
    · cases h
    · split_ifs at h
      obtain ⟨-, rfl⟩ := Prod.mk.inj (Option.some.inj h)
      simp

/-- The literal at the beginning of a text, and the text behind it. -/
def literal? : List Char → Option (List Char × List Char)
  | '"' :: cs => string.read? cs
  | 'r' :: cs =>
    match cs.dropWhile (· = '#') with
    | '"' :: body => (rawOf (cs.takeWhile (· = '#')).length).read? body
    | _ => none
  | _ => none

section Escapes

variable {c : Char} {rest : List Char}

lemma takes_element {body values : List Char} (hclosing : (body ++ rest).head? ≠ some '"')
    (h : stringElement? (body ++ rest) = some (values, rest)) : string.Takes body values rest :=
  Reader.takes_of_head rfl hclosing h

/-- There are never more than six digits in a code point. -/
lemma hasForm_hexDigits (c : Char) : hasForm (hexDigits c.toNat) := by
  have hcode : c.toNat < 16 ^ 6 := by
    have hvalid : c.toNat < 0xD800 ∨ (0xDFFF < c.toNat ∧ c.toNat < 0x110000) := c.valid
    omega
  have hlength : (hexDigits c.toNat).length ≤ 6 :=
    (Nat.length_toDigits_le_iff (by decide) (by decide)).2 hcode
  have hne : hexDigits c.toNat ≠ [] := Nat.toDigits_ne_nil
  have hfirst : (hexDigits c.toNat).head? ≠ some '_' := fun h =>
    notMem_hexDigits (by decide) _ (List.mem_of_head? h)
  have hfilter := (List.length_filter_le (· ≠ '_') (hexDigits c.toNat)).trans hlength
  simpa [hasForm, hne, hfirst] using hfilter

/-- An escape stands for its character, whatever follows. -/
lemma takes_escapeChar (c : Char) (rest : List Char) : string.Takes (escapeChar c) [c] rest := by
  unfold escapeChar
  split_ifs with hnull htab hreturn hfeed hquote hbackslash hcode
  · subst hnull
    exact takes_element (by simp) rfl
  · subst htab
    exact takes_element (by simp) rfl
  · subst hreturn
    exact takes_element (by simp) rfl
  · subst hfeed
    exact takes_element (by simp) rfl
  · subst hquote
    exact takes_element (by simp) rfl
  · subst hbackslash
    exact takes_element (by simp) rfl
  · refine takes_element (by simp) ?_
    simp [stringElement?, bracedChar?_hexDigits (hasForm_hexDigits c)]
  · refine takes_element (by simpa using hquote) ?_
    simp [stringElement?, hbackslash, hreturn]

/-- A string literal is read as its text. -/
lemma read?_escape (cs rest : List Char) :
    string.read? (cs.flatMap escapeChar ++ '"' :: rest) = some (cs, rest) :=
  (Reader.takes_flatMap takes_escapeChar cs ('"' :: rest)).read?_eq

/-- A character of a raw string, where its closing does not begin. -/
lemma takes_rawChar {count : Nat} (hreturn : c ≠ '\r')
    (hclosing : ¬(rawOf count).closing <+: c :: rest) : (rawOf count).Takes [c] [c] rest :=
  Reader.takes_of_element? hclosing (if_neg hreturn)

end Escapes

end Phrasebook.Literal.Rust
