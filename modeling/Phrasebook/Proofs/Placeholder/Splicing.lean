import Phrasebook.Proofs.Placeholder.Occurrences

/-!
# Substitution as one pass over the places

What is found in a text are places, ranges of bytes, and to substitute is to put something else
there.  `splice?` does that with slices of the text: it copies what stands between the places and
shows what it is told to in their place.  So the two ways to go through a text, to list its tokens
and to replace them, see the same tokens.

What is shown for a token is its argument, or the slice that stands there (`shown?`).  Nothing else
of an argument matters than its number, which `Piece.slots` makes plain: the row of characters and
numbers that the arguments are put into depends on how many there are, and not on what they hold.

The main result is `substitute_single_pass`.
-/

namespace Phrasebook.Placeholder

open Unicode

/-! ## Splicing -/

/-- The text `cs` from the byte `start` on, with `show? p` in the place of each `p` of the given
places; `none` if one of the slices does not exist. -/
def splice? (cs : List Char) (show? : Placeholder → Option (List Char)) (start : ℕ) :
    List Placeholder → Option (List Char)
  | [] => Rust.onward? cs start
  | p :: ps => do
    let gap ← Rust.between? cs start p.start
    let shown ← show? p
    let rest ← splice? cs show? p.stop ps
    return gap ++ shown ++ rest

/-- The argument with the index `i`, if `i` is from one up to the number of arguments. -/
def given? (args : List String) (i : UInt64) : Option String :=
  if h : 1 ≤ i.toNat ∧ i.toNat ≤ args.length then some args[i.toNat - 1] else none

/-- What is shown in the place of the token: its argument, or else the slice that stands there. -/
def shown? (text : String) (args : List String) (p : Placeholder) : Option (List Char) :=
  match given? args p.index with
  | some a => some a.toList
  | none => Rust.between? text.toList p.start p.stop

section Splicing

variable {text : String} {args more : List String} {f : List Char → List Char} {p : Placeholder}
  {ds : List Char} {show? : Placeholder → Option (List Char)}

/-- Behind `before` and the beginning `gap` of a gap, splicing fills what is left of the text. -/
lemma splice?_locate {cs : List Char} (hshow : ∀ p ds,
    Rust.between? cs p.start p.stop = some (Piece.token ds).chars → p.index = indexOf ds →
      show? p = some (f ds)) (before gap : List Char) (ps : List Piece)
    (hcs : before ++ gap ++ ps.flatMap Piece.chars = cs) :
    splice? cs show? (byteLength before) (locate (byteLength (before ++ gap)) ps) =
      some (gap ++ (Cut.ofPieces ps).fill f) := by
  induction ps generalizing before gap with
  | nil =>
    rw [List.flatMap_nil, List.append_nil] at hcs
    rw [← hcs, locate, splice?, Rust.onward?_byteLength]
    simp [Cut.ofPieces, Cut.fill]
  | cons p ps ih =>
    rw [List.flatMap_cons] at hcs
    cases p with
    | plain c =>
      have hgap : before ++ (gap ++ [c]) = before ++ gap ++ [c] := (List.append_assoc ..).symm
      have hoffset : byteLength (before ++ gap) + c.utf8Size =
          byteLength (before ++ (gap ++ [c])) := by
        rw [hgap, Rust.byteLength_append (before ++ gap)]
        rfl
      have hrest : before ++ (gap ++ [c]) ++ ps.flatMap Piece.chars = cs := by
        rw [hgap, List.append_assoc _ [c]]
        exact hcs
      rw [locate, hoffset, ih before (gap ++ [c]) hrest]
      simp [Cut.ofPieces, Cut.fill]
    | token ds =>
      rw [← List.append_assoc] at hcs
      have hstop : byteLength (before ++ gap) + byteLength (Piece.token ds).chars =
          byteLength (before ++ gap ++ (Piece.token ds).chars) := (Rust.byteLength_append ..).symm
      have hgap : Rust.between? cs (byteLength before) (byteLength (before ++ gap)) = some gap := by
        rw [← hcs, List.append_assoc (before ++ gap)]
        exact Rust.between?_byteLength before gap _
      have htoken : show? ⟨indexOf ds, byteLength (before ++ gap),
          byteLength (before ++ gap ++ (Piece.token ds).chars)⟩ = some (f ds) :=
        hshow _ ds (Rust.between?_eq_some_iff.2 ⟨_, _, hcs.symm, rfl, rfl⟩) rfl
      have hrest := ih (before ++ gap ++ (Piece.token ds).chars) [] (by rw [List.append_nil, hcs])
      rw [List.append_nil, List.nil_append] at hrest
      rw [locate, hstop, splice?, hgap, htoken, hrest, Cut.ofPieces, Cut.fill_cons]
      simp [Cut.fill]

/-- Splicing at the places of a text is filling its gaps. -/
lemma splice?_find (hshow : ∀ p ds,
    Rust.between? text.toList p.start p.stop = some (Piece.token ds).chars → p.index = indexOf ds →
      show? p = some (f ds)) :
    splice? text.toList show? 0 (find text) = some ((Cut.ofText text).fill f) :=
  splice?_locate hshow [] [] _ (flatMap_chars_pieces _)

lemma given?_eq_argument? (args : List String) (i : UInt64) : given? args i = argument? args i := by
  have hzero : i = 0 ↔ i.toNat = 0 := by rw [← UInt64.toNat_inj, UInt64.toNat_zero]
  simp only [given?, argument?, hzero]
  by_cases h : 1 ≤ i.toNat ∧ i.toNat ≤ args.length
  · have hlt : i.toNat - 1 < args.length := by omega
    rw [dif_pos h, if_neg (by omega), List.getElem?_eq_getElem hlt]
  · rw [dif_neg h]
    split_ifs with hindex
    · rfl
    · rw [eq_comm, List.getElem?_eq_none_iff]
      omega

lemma shown?_eq (h : Rust.between? text.toList p.start p.stop = some (Piece.token ds).chars)
    (hindex : p.index = indexOf ds) :
    shown? text args p = some ((Piece.token ds).replaced args) := by
  rw [shown?, given?_eq_argument?, Piece.replaced, hindex, h]
  cases argument? args (indexOf ds) <;> rfl

/-- To substitute is to show the argument of each token. -/
lemma splice?_shown? (text : String) (args : List String) :
    splice? text.toList (shown? text args) 0 (find text) =
      some (substitute text args).toList := by
  rw [toList_substitute]
  exact splice?_find fun p ds => shown?_eq

/-- An argument that is given is not lost when more are given. -/
lemma given?_append {i : UInt64} {a : String} (h : given? args i = some a) :
    given? (args ++ more) i = some a := by
  unfold given? at h
  split_ifs at h with hrange
  have hlength : (args ++ more).length = args.length + more.length := List.length_append
  rw [given?, dif_pos (by omega), ← h, List.getElem_append_left]

lemma shown?_append (h : given? args p.index ≠ none) :
    shown? text (args ++ more) p = shown? text args p := by
  obtain ⟨a, ha⟩ := Option.ne_none_iff_exists'.1 h
  rw [shown?, shown?, ha, given?_append ha]

/-- Where no token has an argument, every token stays. -/
lemma substitute_of_given?_eq_none (h : ∀ p ∈ find text, given? args p.index = none) :
    substitute text args = text := by
  have hreplaced : ∀ ds ∈ (Cut.ofText text).tokens,
      (Piece.token ds).replaced args = (Piece.token ds).chars := by
    intro ds hds
    have hindex : indexOf ds ∈ (find text).map (·.index) := by
      rw [map_index_find]
      exact List.mem_map_of_mem hds
    obtain ⟨p, hp, hindex⟩ := List.mem_map.1 hindex
    rw [Piece.replaced, ← given?_eq_argument?, ← hindex, h p hp]
  refine String.toList_inj.1 ?_
  rw [toList_substitute, Cut.fill_congr hreplaced]
  exact Cut.chars_ofPieces _

end Splicing

/-! ## The row that arguments are put into -/

/-- What a piece comes to for `n` arguments: its characters, or the place of an argument. -/
def Piece.slots (n : ℕ) : Piece → List (Char ⊕ Fin n)
  | plain c => [.inl c]
  | token ds =>
    if h : 1 ≤ (indexOf ds).toNat ∧ (indexOf ds).toNat ≤ n then
      [.inr ⟨(indexOf ds).toNat - 1, Nat.sub_one_lt_of_le h.1 h.2⟩]
    else (token ds).chars.map .inl

/-- The characters of a row with the arguments in their places. -/
def written {n : ℕ} (args : Fin n → String) (row : List (Char ⊕ Fin n)) : List Char :=
  row.flatMap (Sum.elim (fun c => [c]) fun i => (args i).toList)

lemma written_slots {n : ℕ} (args : Fin n → String) (q : Piece) :
    written args (q.slots n) = q.replaced (List.ofFn args) := by
  cases q with
  | plain c => rfl
  | token ds =>
    rw [Piece.replaced, ← given?_eq_argument?, Piece.slots, given?]
    simp only [List.length_ofFn]
    split_ifs with h
    · simp [written]
    · simp [written, List.flatMap_map]

/-! ## One pass -/

/-- How arguments are put into a text. -/
structure Substitutes (text : String) : Prop where
  /-- The gaps between the places are copied; in the place of a token comes its argument, if there
  is one, and else the token itself. -/
  spliced : ∀ args, splice? text.toList (shown? text args) 0 (find text) =
    some (substitute text args).toList
  /-- To replace the matches of the token pattern is the same. -/
  matched : ∀ args, Pattern.replaceAll isDecimalDigit .token
    (Pattern.answer fun ds => argument? args (indexOf ds)) text.toList =
      (substitute text args).toList
  /-- Where the arguments go does not depend on what they hold: they are copied into one row. -/
  verbatim : ∀ n, ∃ row : List (Char ⊕ Fin n), ∀ args : Fin n → String,
    (substitute text (List.ofFn args)).toList = written args row
  /-- A text in which no index is that of an argument stays as it is. -/
  unchanged : ∀ args : List String,
    (∀ p ∈ find text, p.index.toNat = 0 ∨ args.length < p.index.toNat) →
      substitute text args = text
  /-- With more arguments, all tokens that had an argument before come to the same. -/
  extended : ∀ args more, splice? text.toList
    (fun p => if given? args p.index = none then shown? text (args ++ more) p
      else shown? text args p) 0 (find text) = some (substitute text (args ++ more)).toList

/-- **To substitute is to go through the places of tokens once.** -/
theorem substitute_single_pass (text : String) : Substitutes text := by
  constructor
  case spliced => exact splice?_shown? text
  case matched =>
    intro args
    rw [Pattern.replaceAll_token_eq fun _ => id, substitute, String.toList_ofList]
    refine List.flatMap_congr fun q hq => ?_
    cases q with
    | plain c => rfl
    | token ds =>
      have hall : ds.all isDecimalDigit := List.all_eq_true.2 (isNumber_of_mem_pieces hq).2
      rw [Pattern.replacement, if_pos hall]
      rfl
  case verbatim =>
    intro n
    refine ⟨(pieces text.toList).flatMap (Piece.slots n), fun args => ?_⟩
    rw [substitute, String.toList_ofList, written, List.flatMap_assoc]
    exact List.flatMap_congr fun q _ => (written_slots args q).symm
  case unchanged =>
    intro args hindex
    refine substitute_of_given?_eq_none fun p hp => dif_neg ?_
    have := hindex p hp
    omega
  case extended =>
    intro args more
    rw [← splice?_shown?]
    congr 1
    funext p
    split_ifs with h
    · rfl
    · exact (shown?_append h).symm

/-- What an argument holds is not looked at, even where it completes a token. -/
example : substitute "%1$@2$@ %2$@ %3$@" ["%", "%1$@"] = "%2$@ %1$@ %3$@" := by decide +kernel

end Phrasebook.Placeholder
