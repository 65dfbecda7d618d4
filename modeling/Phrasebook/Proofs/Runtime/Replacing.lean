import Phrasebook.Decimal.Nearest
import Phrasebook.Proofs.Literal.KotlinReading
import Phrasebook.Proofs.Placeholder.Patterns
import Phrasebook.Target.Js
import Phrasebook.Target.Kotlin

/-!
# The patterns that look for tokens

The bindings of JavaScript and Kotlin have a regular expression replaced in a message, and its
digits are the ASCII digits.  What takes the place of a match depends on how the runtime reads the
number in it.  JavaScript reads a double, which is rounded from `2 ^ 53` on, subtracts one from it,
which may round again, and looks for an element at this place, which need be none of an array.
Kotlin reads a number of 32 bits, or none.

Neither makes a difference: rounding never brings a number below `2 ^ 53`, where no array has
elements any more (`Js.elementAt?_minusOne?`), and what does not fit 32 bits is no index either.  So
both find the argument that the digits number (`Js.asked?_eq_numbered?`,
`Kotlin.asked?_eq_numbered?`), and replacing is substituting (`replacesTokens_spec`).

Strings are taken for sequences of characters here.  Both languages count units of 16 bits, but a
pattern of ASCII characters does not match inside of a surrogate pair.
-/

namespace Phrasebook

open Placeholder Unicode

/-- A message with its tokens of ASCII digits replaced by the arguments that they ask for. -/
def replaceTokens (asked? : List Char → Option String) (message : String) : String :=
  String.ofList (Pattern.token.replaceAll isAsciiDigit (Pattern.answer asked?) message.toList)

/-! ## JavaScript -/

namespace Js

/-- The double nearest to a natural number: a multiple of the last of 53 binary places, and the even
one of two that are equally near.  Infinity is `none`: there are no more than 1024 places. -/
def nearest? (n : Nat) : Option Nat :=
  let place := 2 ^ (n.log2 - 52)
  let m := Decimal.roundQuotient n place * place
  if m.log2 < 1024 then some m else none

/-- A double that is a natural number, less one. -/
def minusOne? : Option Nat → Option Int
  | none => none
  | some 0 => some (-1)
  | some (n + 1) => (nearest? n).map Int.ofNat

/-- The element of an array at a place that a double tells; it is undefined outside of the array. -/
def elementAt? (args : List String) : Option Int → Option String
  | some (.ofNat i) => args[i]?
  | some (.negSucc _) => none
  | none => none

/-- The argument that a token asks for. -/
def asked? (args : List String) (digits : List Char) : Option String :=
  elementAt? args (minusOne? (nearest? (Decimal.value digits)))

/-- The lines that replace the tokens of a message. -/
def replacement : List String :=
  ["    return message.replace(/" ++ Pattern.token.source ++ "/g, (placeholder, index) => \x7b",
    "        const argument = formatArgs[Number(index) - 1];",
    "        return argument === undefined ? placeholder : String(argument);",
    "    \x7d);"]

section Doubles

variable {args : List String} {n m : Nat}

/-- Numbers of 53 bits are doubles. -/
lemma nearest?_of_lt (h : n < 2 ^ 53) : nearest? n = some n := by
  have hlog : n.log2 < 53 := by
    rcases Nat.eq_zero_or_pos n with rfl | hpos
    · decide
    · exact (Nat.log2_lt hpos.ne').2 h
  have hplace : n.log2 - 52 = 0 := by omega
  have hround : Decimal.roundQuotient n 1 = n := by
    simp [Decimal.roundQuotient, Nat.mod_one]
  rw [nearest?, hplace, pow_zero, hround, Nat.mul_one, if_pos (by omega)]

/-- Rounding does not bring a number below `2 ^ 53`. -/
lemma le_of_nearest? (h : nearest? n = some m) : min n (2 ^ 53) ≤ m := by
  by_cases hsmall : n < 2 ^ 53
  · rw [nearest?_of_lt hsmall, Option.some_inj] at h
    omega
  · have hpos : n ≠ 0 := by omega
    have hlog : 53 ≤ n.log2 := by
      by_contra hlt
      exact hsmall ((Nat.log2_lt hpos).1 (by omega))
    rw [nearest?] at h
    generalize hplace : 2 ^ (n.log2 - 52) = place at h
    have hpower : 2 ^ 52 * place = 2 ^ n.log2 := by
      rw [← hplace, ← pow_add]
      congr
      omega
    have hquotient : 2 ^ 52 ≤ Decimal.roundQuotient n place := by
      have hplacepos : 0 < place := hplace ▸ Nat.two_pow_pos _
      have hdiv : 2 ^ 52 ≤ n / place := by
        rw [Nat.le_div_iff_mul_le hplacepos, hpower]
        exact Nat.log2_self_le hpos
      refine hdiv.trans ?_
      rw [Decimal.roundQuotient]
      split_ifs <;> omega
    obtain rfl : Decimal.roundQuotient n place * place = m := by
      split_ifs at h
      exact Option.some.inj h
    calc min n (2 ^ 53) ≤ 2 ^ 53 := min_le_right _ _
      _ ≤ 2 ^ n.log2 := Nat.pow_le_pow_right (by decide) hlog
      _ = 2 ^ 52 * place := hpower.symm
      _ ≤ Decimal.roundQuotient n place * place := Nat.mul_le_mul_right _ hquotient

/-- The place before a number is that of the argument with this number, however it is rounded. -/
lemma elementAt?_minusOne? (hargs : args.length < 2 ^ 53) (n : Nat) :
    elementAt? args (minusOne? (nearest? n)) = if n = 0 then none else args[n - 1]? := by
  by_cases hsmall : n < 2 ^ 53
  · rw [nearest?_of_lt hsmall]
    cases n with
    | zero => rfl
    | succ k =>
      rw [minusOne?, nearest?_of_lt (by omega)]
      rfl
  · have hnone : (if n = 0 then none else args[n - 1]?) = none := by
      rw [if_neg (by omega), List.getElem?_eq_none_iff]
      omega
    rw [hnone]
    cases hn : nearest? n with
    | none => rfl
    | some m =>
      have hm := le_of_nearest? hn
      obtain ⟨k, rfl⟩ : ∃ k, m = k + 1 := Nat.exists_eq_succ_of_ne_zero (by omega)
      rw [minusOne?]
      cases hk : nearest? k with
      | none => rfl
      | some i =>
        have hi := le_of_nearest? hk
        exact List.getElem?_eq_none (by omega)

lemma asked?_eq_numbered? (hargs : args.length < 2 ^ 53) (ds : List Char) :
    asked? args ds = numbered? args ds :=
  elementAt?_minusOne? hargs _

end Doubles

end Js

/-! ## Kotlin -/

namespace Kotlin

/-- The number that digits write, if it fits 32 bits with a sign. -/
def toInt? (digits : List Char) : Option Int :=
  if digits ≠ [] ∧ digits.all isAsciiDigit ∧ Decimal.value digits < 2 ^ 31 then
    some (Decimal.value digits)
  else none

/-- The argument that a token asks for. -/
def asked? (args : List String) (digits : List Char) : Option String :=
  let position := (toInt? digits).getD 0 - 1
  if 0 ≤ position ∧ position < args.length then args[position.toNat]? else none

/-- The string literal of the pattern, between its quotes. -/
def patternLiteral : String := "%(\\\\d+)\\\\$@"

/-- The lines that replace the tokens of a message. -/
def replacement : List String :=
  ["    return placeholderPattern.replace(message) \x7b match ->",
    "        val position = (match.groupValues[1].toIntOrNull() ?: 0) - 1",
    "        if (position in formatArgs.indices) formatArgs[position] else match.value",
    "    \x7d"]

section Numbers

variable {args : List String} {ds : List Char}

lemma getD_toInt? (hds : ds.all isAsciiDigit) : (toInt? ds).getD 0 =
    if Decimal.value ds < 2 ^ 31 then (Decimal.value ds : Int) else 0 := by
  rw [toInt?]
  by_cases hnil : ds = []
  · simp [hnil]
  · by_cases hfits : Decimal.value ds < 2 ^ 31
    · rw [if_pos ⟨hnil, hds, hfits⟩, if_pos hfits, Option.getD_some]
    · rw [if_neg fun h => hfits h.2.2, if_neg hfits, Option.getD_none]

/-- A number is in the range of the places exactly if there is an argument with it. -/
lemma asked?_eq_numbered? (hargs : args.length < 2 ^ 31) (hds : ds.all isAsciiDigit) :
    asked? args ds = numbered? args ds := by
  rw [asked?, getD_toInt? hds, numbered?]
  by_cases hrange : 0 < Decimal.value ds ∧ Decimal.value ds ≤ args.length
  · have hfits : Decimal.value ds < 2 ^ 31 := by omega
    have hplace : ((Decimal.value ds : Int) - 1).toNat = Decimal.value ds - 1 := by omega
    rw [if_pos hfits, if_pos (by omega), if_neg (by omega), hplace]
  · have hnone : (if Decimal.value ds = 0 then none else args[Decimal.value ds - 1]?) = none := by
      split_ifs with hzero
      · rfl
      · exact List.getElem?_eq_none (by omega)
    rw [hnone]
    refine if_neg ?_
    split_ifs <;> omega

end Numbers

/-- The pattern of the runtime is that of a token. -/
lemma read?_patternLiteral (index : Nat) (rest : List Char) :
    (Literal.Kotlin.stringOf index).read? (patternLiteral.toList ++ '"' :: rest) =
      some (Pattern.token.source.toList, rest) := by
  have hreads := Literal.Kotlin.readsStrings_stringOf index
  have hfront := Literal.Kotlin.takes_escape hreads "%(\\d+)\\".toList
  have hback := Literal.Kotlin.takes_escape hreads "@".toList
  have hdollar : (Literal.Kotlin.stringOf index).Takes ['$'] ['$'] ('@' :: '"' :: rest) :=
    Literal.Reader.takes_of_head rfl (by simp) rfl
  have hread := ((hfront _).append (hdollar.append (hback ('"' :: rest)))).read?_eq
  exact hread

end Kotlin

/-! ## Both runtimes substitute -/

/-- What the runtimes with a regular expression do with a message and its arguments. -/
structure ReplacesTokens (message : String) (args : List String) : Prop where
  /-- JavaScript replaces the matches of the token pattern. -/
  js_emitted : ∀ fallback, Js.replacement <:+: Js.runtime fallback
  /-- An array of JavaScript has fewer elements than `2 ^ 32`. -/
  js : args.length < 2 ^ 53 → replaceTokens (Js.asked? args) message = substitute message args
  /-- Kotlin makes a regular expression of a literal. -/
  kotlin_pattern : ∀ fallback, "private val placeholderPattern = Regex(\"" ++
    Kotlin.patternLiteral ++ "\")" ∈ Kotlin.runtime fallback
  /-- The text of this literal is the token pattern. -/
  kotlin_literal : ∀ index rest,
    (Literal.Kotlin.stringOf index).read? (Kotlin.patternLiteral.toList ++ '"' :: rest) =
      some (Pattern.token.source.toList, rest)
  /-- Kotlin replaces its matches. -/
  kotlin_emitted : ∀ fallback, Kotlin.replacement <:+: Kotlin.runtime fallback
  /-- An array of Kotlin has fewer elements than `2 ^ 31`. -/
  kotlin : args.length < 2 ^ 31 →
    replaceTokens (Kotlin.asked? args) message = substitute message args

lemma replaceTokens_eq_substitute {asked? : List Char → Option String} {args : List String}
    (hargs : args.length < 2 ^ 53)
    (hasked : ∀ ds, ds.all isAsciiDigit → asked? ds = numbered? args ds) (message : String) :
    replaceTokens asked? message = substitute message args := by
  have hlarge : 2 ^ 53 < noIndex.toNat := by decide
  rw [replaceTokens, Pattern.replaceAll_token_eq_substitute (hargs.trans hlarge) hasked,
    String.ofList_toList]

/-- Both runtimes substitute, whatever the message is. -/
theorem replacesTokens_spec (message : String) (args : List String) :
    ReplacesTokens message args := by
  constructor
  case js_emitted => exact fun fallback => ⟨(Js.runtime fallback).take 31, [_, _], rfl⟩
  case js =>
    intro h
    exact replaceTokens_eq_substitute h (fun ds _ => Js.asked?_eq_numbered? h ds) message
  case kotlin_pattern => exact fun fallback => List.mem_of_getElem? (i := 8) rfl
  case kotlin_literal => exact Kotlin.read?_patternLiteral
  case kotlin_emitted => exact fun fallback => ⟨(Kotlin.runtime fallback).take 19, [_, _], rfl⟩
  case kotlin =>
    intro h
    have hlarge : args.length < 2 ^ 53 := by omega
    exact replaceTokens_eq_substitute hlarge (fun ds => Kotlin.asked?_eq_numbered? h) message

/-- Numbers that are rounded, do not fit, or would come out right again if they wrapped around. -/
theorem replacesTokens_spec_large :
    let message := "%02$@%1$@ %0$@ %4294967297$@ %9007199254740993$@ %18446744073709551617$@ %١$@"
    let filled := "ba %0$@ %4294967297$@ %9007199254740993$@ %18446744073709551617$@ %١$@"
    ["a", "b"].length < 2 ^ 31 ∧ ["a", "b"].length < 2 ^ 53 ∧
      replaceTokens (Js.asked? ["a", "b"]) message = filled ∧
      replaceTokens (Kotlin.asked? ["a", "b"]) message = filled := by
  intro message filled
  have hspec := replacesTokens_spec message ["a", "b"]
  have hfilled : substitute message ["a", "b"] = filled := by decide +kernel
  refine ⟨by decide, by decide, ?_, ?_⟩
  · rw [hspec.js (by decide), hfilled]
  · rw [hspec.kotlin (by decide), hfilled]

end Phrasebook
