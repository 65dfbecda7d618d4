import Phrasebook.Decimal.Digits
import Phrasebook.Unicode.DecimalDigit

/-!
# Positional placeholders

A text refers to its arguments by tokens such as `%1$@`: a percent sign, one or more decimal
digits and `$@`.  Every question about the tokens of a text goes through one division of the
text into `Piece`s, so that finding, checking and replacing tokens cannot disagree.

* `pieces` divides a text, and `flatMap_chars_pieces` says that nothing is lost.
* `find` lists the tokens with their places, `maxIndex` gives the largest index.
* `firstUnaddressed?` finds the first token that none of `n` arguments answers.
* `substitute` puts the arguments in place of the tokens, in one pass: what an argument holds
  is never looked at again.
-/

namespace Phrasebook

/-- A token of a text: the argument it asks for, counted from one, and its place in bytes. -/
structure Placeholder where
  /-- The number of the argument, or `Placeholder.noIndex`. -/
  index : UInt64
  /-- The offset of the percent sign. -/
  start : Nat
  /-- The offset behind the token. -/
  stop : Nat
  deriving DecidableEq, Repr

namespace Placeholder

open Unicode

/-- The index of a token whose digits number no argument: the largest 64-bit number. -/
def noIndex : UInt64 := 18446744073709551615

/-! ## Division of a text -/

/-- A stretch of a text: one character outside all tokens, or a token. -/
inductive Piece where
  /-- A character that belongs to no token. -/
  | plain (c : Char)
  /-- A token with these digits. -/
  | token (digits : List Char)
  deriving DecidableEq, Repr

/-- The characters of a piece. -/
def Piece.chars : Piece → List Char
  | plain c => [c]
  | token digits => '%' :: digits ++ ['$', '@']

/-- The digits of the token that `cs` starts with, and what follows it. -/
def token? : List Char → Option (List Char × List Char)
  | '%' :: rest =>
    match rest.takeWhile isDecimalDigit, rest.dropWhile isDecimalDigit with
    | d :: ds, '$' :: '@' :: rest => some (d :: ds, rest)
    | _, _ => none
  | _ => none

theorem eq_of_token? {cs ds rest : List Char} (h : token? cs = some (ds, rest)) :
    cs = (Piece.token ds).chars ++ rest := by
  unfold token? at h
  split at h
  · rename_i r
    split at h
    · rename_i d ds' rest' ht hd
      cases h
      have := List.takeWhile_append_dropWhile (p := isDecimalDigit) (l := r)
      rw [ht, hd] at this
      simp [Piece.chars, ← this]
    · cases h
  · cases h

theorem length_lt_of_token? {cs ds rest : List Char} (h : token? cs = some (ds, rest)) :
    rest.length < cs.length := by
  have := congrArg List.length (eq_of_token? h)
  simp only [Piece.chars, List.length_append, List.length_cons] at this
  omega

/-- The pieces of a text, from left to right; a token is taken wherever one starts. -/
def pieces (cs : List Char) : List Piece :=
  match h : token? cs with
  | some (ds, rest) =>
    have := length_lt_of_token? h
    .token ds :: pieces rest
  | none =>
    match cs with
    | [] => []
    | c :: rest => .plain c :: pieces rest
termination_by cs.length

@[simp] theorem pieces_nil : pieces [] = [] := by
  rw [pieces]
  split
  · rename_i h
    exact nomatch h
  · rfl

theorem pieces_of_token? {cs ds rest : List Char} (h : token? cs = some (ds, rest)) :
    pieces cs = .token ds :: pieces rest := by
  rw [pieces]
  split
  · rename_i h'
    cases h.symm.trans h'
    rfl
  · rename_i h'
    cases h.symm.trans h'

theorem pieces_of_not_token? {c : Char} {rest : List Char} (h : token? (c :: rest) = none) :
    pieces (c :: rest) = .plain c :: pieces rest := by
  rw [pieces]
  split
  · rename_i h'
    cases h.symm.trans h'
  · rfl

/-- Joined, the pieces are the text again. -/
theorem flatMap_chars_pieces (cs : List Char) : (pieces cs).flatMap Piece.chars = cs := by
  fun_induction pieces cs with
  | case1 cs ds rest h _ ih => rw [List.flatMap_cons, ih]; exact (eq_of_token? h).symm
  | case2 h => rfl
  | case3 c rest h ih => rw [List.flatMap_cons, ih]; rfl

/-! ## Indices and places -/

/-- The index that `digits` stand for: their value, where they are ASCII digits and it fits in
64 bits. -/
def indexOf (digits : List Char) : UInt64 :=
  if digits.all isAsciiDigit ∧ Decimal.value digits < UInt64.size then
    UInt64.ofNat (Decimal.value digits)
  else noIndex

/-- The length of a text in bytes of UTF-8. -/
def byteLength (cs : List Char) : Nat := (cs.map Char.utf8Size).foldr (· + ·) 0

/-- The tokens among `pieces`, of which the first starts at `offset`. -/
def locate (offset : Nat) : List Piece → List Placeholder
  | [] => []
  | .plain c :: rest => locate (offset + c.utf8Size) rest
  | .token ds :: rest =>
    let stop := offset + byteLength (Piece.token ds).chars
    ⟨indexOf ds, offset, stop⟩ :: locate stop rest

/-- The tokens of a text, from left to right. -/
def find (text : String) : List Placeholder := locate 0 (pieces text.toList)

/-- The largest index in a text, or zero if it has no token. -/
def maxIndex (text : String) : UInt64 := (find text).foldl (fun n p => max n p.index) 0

/-! ## Checking -/

/-- Whether one of `count` arguments answers the index `i`. -/
def answered (count i : UInt64) : Bool := i != 0 && i != noIndex && i ≤ count

/-- The index of the first token in `text` that none of `count` arguments answers. -/
def firstUnaddressed? (text : String) (count : UInt64) : Option UInt64 :=
  ((find text).find? fun p => !answered count p.index).map (·.index)

/-! ## Substitution -/

/-- The argument with the index `i`, counted from one. -/
def argument? (args : List String) (i : UInt64) : Option String :=
  if i = 0 then none else args[i.toNat - 1]?

/-- What takes the place of a piece: a token gives way to its argument, if there is one. -/
def Piece.replaced (args : List String) : Piece → List Char
  | plain c => [c]
  | token ds =>
    match argument? args (indexOf ds) with
    | some a => a.toList
    | none => (token ds).chars

/-- The text with every token replaced by its argument; a token without one stays. -/
def substitute (text : String) (args : List String) : String :=
  String.ofList ((pieces text.toList).flatMap (Piece.replaced args))

end Placeholder

end Phrasebook
