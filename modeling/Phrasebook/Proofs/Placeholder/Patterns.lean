import Phrasebook.Proofs.Placeholder.Filling
import Phrasebook.Proofs.Unicode.CaseImages

/-!
# Tokens as matches of a pattern

Generated code does not divide a text into pieces.  It has a regular expression replaced wherever
it matches, by an engine whose digits may be the ASCII digits alone.  Here are patterns of the kind
that is needed (`Pattern.matchAt?`, with the backtracking of such engines) and the replacement of
all their matches (`Pattern.replaceAll`).

Two things could go wrong, and do not.  A run of digits is matched greedily and given back one by
one when the rest does not match; but behind fewer digits stands a digit, where a dollar sign is
wanted (`Pattern.matchAt?_token_iff`).  And an engine that knows fewer digits passes over tokens
that another one sees; but such a token has no number, so it stays as it is, and no match can start
inside of it (`Pattern.replaceAll_token_eq`).

So whoever replaces the matches of the token pattern, with ASCII digits or more, substitutes
arguments, if only the number of a match is read as the argument with this number
(`Pattern.replaceAll_token_eq_substitute`).
-/

namespace Phrasebook.Placeholder

open Unicode

/-! ## Patterns -/

/-- A part of a pattern. -/
inductive Atom where
  /-- The character itself. -/
  | char (c : Char)
  /-- A group of one or more digits. -/
  | digits
  deriving DecidableEq

/-- The parts of a regular expression, in order. -/
abbrev Pattern := List Atom

/-- A part as regular expressions spell it: a dollar sign would be the end of the text. -/
def Atom.source : Atom → String
  | .char c => if c = '$' then "\\$" else c.toString
  | .digits => "(\\d+)"

namespace Pattern

/-- A pattern as regular expressions spell it. -/
def source (p : Pattern) : String := String.join (p.map Atom.source)

/-- The pattern of a token. -/
def token : Pattern := [.char '%', .digits, .char '$', .char '@']

/-- The longest run of digits behind which `next` matches, and the match behind it: the run takes
all digits first, and then gives them back one by one. -/
def matchDigits? {α : Type*} (isDigit : Char → Bool) (next : List Char → Option α) :
    List Char → Option (List Char × α)
  | [] => none
  | c :: cs =>
    if isDigit c then
      match matchDigits? isDigit next cs with
      | some (ds, a) => some (c :: ds, a)
      | none => (next cs).map ([c], ·)
    else none

/-- The groups of a match at the beginning of a text, and the text behind the match. -/
def matchAt? (isDigit : Char → Bool) : Pattern → List Char → Option (List (List Char) × List Char)
  | [], cs => some ([], cs)
  | .char _ :: _, [] => none
  | .char c :: p, d :: cs => if d = c then matchAt? isDigit p cs else none
  | .digits :: p, cs =>
    (matchDigits? isDigit (matchAt? isDigit p) cs).map fun (ds, groups, rest) =>
      (ds :: groups, rest)

/-- The text with `f` in the place of every match, from left to right; `f` is given the text of the
match and its groups.  A match that is empty leaves the next character where it is. -/
def replaceAll (isDigit : Char → Bool) (p : Pattern)
    (f : List Char → List (List Char) → List Char) (cs : List Char) : List Char :=
  match p.matchAt? isDigit cs with
  | some (groups, rest) =>
    if rest.length < cs.length then
      f (cs.take (cs.length - rest.length)) groups ++ replaceAll isDigit p f rest
    else
      match cs with
      | [] => f [] groups
      | c :: cs => f [] groups ++ c :: replaceAll isDigit p f cs
  | none =>
    match cs with
    | [] => []
    | c :: cs => c :: replaceAll isDigit p f cs
termination_by cs.length

/-- The spelling of the token pattern. -/
example : source token = "%(\\d+)\\$@" := by decide

/-! ## Matches of the token pattern -/

section Token

variable {isDigit : Char → Bool} {cs ds rest : List Char} {groups : List (List Char)}

lemma matchAt?_ending_iff :
    matchAt? isDigit [.char '$', .char '@'] cs = some (groups, rest) ↔
      groups = [] ∧ cs = '$' :: '@' :: rest := by
  cases cs with
  | nil => simp [matchAt?]
  | cons c cs =>
    by_cases hc : c = '$'
    · subst hc
      cases cs with
      | nil => simp [matchAt?]
      | cons d cs =>
        by_cases hd : d = '@'
        · subst hd
          simp [matchAt?, eq_comm]
        · simp [matchAt?, hd]
    · simp [matchAt?, hc]

/-- Digits match only as far as they go: behind fewer of them there is no dollar sign. -/
lemma matchDigits?_ending_iff (hdollar : isDigit '$' = false) :
    matchDigits? isDigit (matchAt? isDigit [.char '$', .char '@']) cs = some (ds, groups, rest) ↔
      groups = [] ∧ ds ≠ [] ∧ (∀ d ∈ ds, isDigit d) ∧ cs = ds ++ '$' :: '@' :: rest := by
  constructor
  · intro h
    induction cs generalizing ds with
    | nil => exact nomatch h
    | cons c cs ih =>
      rw [matchDigits?] at h
      split_ifs at h with hc
      split at h
      · rename_i ds' a hmore
        obtain ⟨rfl, rfl⟩ := Prod.mk.inj (Option.some.inj h)
        obtain ⟨hgroups, -, hdigits, hcs⟩ := ih hmore
        exact ⟨hgroups, List.cons_ne_nil _ _, List.forall_mem_cons.2 ⟨hc, hdigits⟩,
          congrArg (c :: ·) hcs⟩
      · obtain ⟨a, hend, ha⟩ := Option.map_eq_some_iff.1 h
        obtain ⟨rfl, rfl⟩ := Prod.mk.inj ha
        obtain ⟨hgroups, hcs⟩ := matchAt?_ending_iff.1 hend
        exact ⟨hgroups, List.cons_ne_nil _ _, by simpa using hc, congrArg (c :: ·) hcs⟩
  · rintro ⟨rfl, hne, hdigits, rfl⟩
    induction ds with
    | nil => exact absurd rfl hne
    | cons d ds ih =>
      obtain ⟨hd, hds⟩ := List.forall_mem_cons.1 hdigits
      rw [List.cons_append, matchDigits?, if_pos hd]
      cases ds with
      | nil =>
        have hstop : matchDigits? isDigit (matchAt? isDigit [.char '$', .char '@'])
            ('$' :: '@' :: rest) = none := by simp [matchDigits?, hdollar]
        rw [List.nil_append, hstop]
        simp [matchAt?]
      | cons d' ds =>
        rw [ih (List.cons_ne_nil _ _) hds]

/-- The token pattern matches where a token stands whose digits the engine knows. -/
lemma matchAt?_token_iff (hdollar : isDigit '$' = false) :
    matchAt? isDigit token cs = some (groups, rest) ↔
      ∃ ds, groups = [ds] ∧ ds ≠ [] ∧ (∀ d ∈ ds, isDigit d) ∧
        cs = (Piece.token ds).chars ++ rest := by
  cases cs with
  | nil => simp [token, matchAt?, Piece.chars]
  | cons c cs =>
    by_cases hc : c = '%'
    · subst hc
      simp only [token, matchAt?, if_true, Option.map_eq_some_iff, Prod.exists, Prod.mk.injEq,
        matchDigits?_ending_iff hdollar]
      constructor
      · rintro ⟨ds, groups, rest, ⟨rfl, hne, hdigits, rfl⟩, rfl, rfl⟩
        exact ⟨ds, rfl, hne, hdigits, by simp [Piece.chars]⟩
      · rintro ⟨ds, rfl, hne, hdigits, hcs⟩
        have hcs : cs = ds ++ '$' :: '@' :: rest := by simpa [Piece.chars] using hcs
        exact ⟨ds, [], rest, ⟨rfl, hne, hdigits, hcs⟩, rfl, rfl⟩
    · have hhead : ∀ ds, c :: cs ≠ (Piece.token ds).chars ++ rest := by
        intro ds h
        exact hc (List.cons.inj h).1
      simp [token, matchAt?, hc, hhead]

end Token

/-! ## Replacing tokens -/

section Replacing

variable {isDigit : Char → Bool} {f : List Char → List (List Char) → List Char}
  {cs ds rest : List Char} {c : Char}

lemma replaceAll_nil : replaceAll isDigit token f [] = [] := by
  rw [replaceAll]
  rfl

lemma replaceAll_of_matchAt?_eq_none (h : matchAt? isDigit token (c :: cs) = none) :
    replaceAll isDigit token f (c :: cs) = c :: replaceAll isDigit token f cs := by
  rw [replaceAll, h]

/-- A match can only start at a percent sign. -/
lemma replaceAll_append_of_notMem (h : '%' ∉ cs) :
    replaceAll isDigit token f (cs ++ rest) = cs ++ replaceAll isDigit token f rest := by
  induction cs with
  | nil => rfl
  | cons c cs ih =>
    rw [List.mem_cons, not_or] at h
    have hnone : matchAt? isDigit token (c :: (cs ++ rest)) = none := by
      simp [token, matchAt?, Ne.symm h.1]
    rw [List.cons_append, replaceAll_of_matchAt?_eq_none hnone, ih h.2, List.cons_append]

lemma replaceAll_token_append (hdollar : isDigit '$' = false) (hne : ds ≠ [])
    (hdigits : ∀ d ∈ ds, isDigit d) :
    replaceAll isDigit token f ((Piece.token ds).chars ++ rest) =
      f (Piece.token ds).chars [ds] ++ replaceAll isDigit token f rest := by
  have hmatch : matchAt? isDigit token ((Piece.token ds).chars ++ rest) = some ([ds], rest) :=
    (matchAt?_token_iff hdollar).2 ⟨ds, rfl, hne, hdigits, rfl⟩
  have hshorter : rest.length < ((Piece.token ds).chars ++ rest).length := by
    simp [Piece.chars]
    omega
  have htaken : ((Piece.token ds).chars ++ rest).take
      (((Piece.token ds).chars ++ rest).length - rest.length) = (Piece.token ds).chars := by
    rw [List.length_append, Nat.add_sub_cancel, List.take_left]
  rw [replaceAll.eq_def, hmatch]
  simp only [hshorter, if_true, htaken]

/-- What takes the place of a piece for an engine that knows the digits `isDigit`. -/
def replacement (isDigit : Char → Bool) (f : List Char → List (List Char) → List Char) :
    Piece → List Char
  | .plain c => [c]
  | .token ds => if ds.all isDigit then f (Piece.token ds).chars [ds] else (Piece.token ds).chars

/-- An engine replaces the pieces of a text one by one, and leaves alone the tokens whose digits it
does not know. -/
lemma replaceAll_token_eq (hdecimal : ∀ c, isDigit c → isDecimalDigit c) (cs : List Char) :
    replaceAll isDigit token f cs = (pieces cs).flatMap (replacement isDigit f) := by
  have hdollar : isDigit '$' = false := by
    have hno : isDecimalDigit '$' = false := by decide
    cases h : isDigit '$' with
    | false => rfl
    | true => exact Bool.noConfusion ((hdecimal _ h).symm.trans hno)
  have hnumber : ∀ {groups : List (List Char)} {cs rest : List Char},
      matchAt? isDigit token cs = some (groups, rest) →
        ∃ ds, token? cs = some (ds, rest) ∧ ∀ d ∈ ds, isDigit d := by
    intro groups cs rest h
    obtain ⟨ds, -, hne, hdigits, hcs⟩ := (matchAt?_token_iff hdollar).1 h
    exact ⟨ds, token?_eq_some_iff.2 ⟨⟨hne, fun d hd => hdecimal d (hdigits d hd)⟩, hcs⟩, hdigits⟩
  fun_induction pieces cs with
  | case1 cs ds rest h _ ih =>
    obtain ⟨hds, rfl⟩ := token?_eq_some_iff.1 h
    rw [List.flatMap_cons, ← ih, replacement]
    split_ifs with hall
    · exact replaceAll_token_append hdollar hds.1 (List.all_eq_true.1 hall)
    · have hnone : matchAt? isDigit token ((Piece.token ds).chars ++ rest) = none := by
        refine Option.eq_none_iff_forall_ne_some.2 ?_
        rintro ⟨groups, rest'⟩ hmatch
        refine hall ?_
        obtain ⟨ds', htoken, hdigits⟩ := hnumber hmatch
        obtain ⟨rfl, -⟩ := Prod.mk.inj (Option.some.inj (h.symm.trans htoken))
        exact List.all_eq_true.2 hdigits
      have htail : (Piece.token ds).chars = '%' :: (Piece.token ds).chars.tail := rfl
      rw [htail, List.cons_append] at hnone ⊢
      rw [replaceAll_of_matchAt?_eq_none hnone,
        replaceAll_append_of_notMem (percent_notMem_tail hds), List.cons_append]
  | case2 h => exact replaceAll_nil
  | case3 c rest h ih =>
    have hnone : matchAt? isDigit token (c :: rest) = none := by
      refine Option.eq_none_iff_forall_ne_some.2 ?_
      rintro ⟨groups, rest'⟩ hmatch
      obtain ⟨ds, htoken, -⟩ := hnumber hmatch
      exact Option.some_ne_none _ (htoken.symm.trans h)
    rw [replaceAll_of_matchAt?_eq_none hnone, ih]
    rfl

end Replacing

end Pattern

/-! ## The argument with a number -/

/-- The argument that is numbered by these ASCII digits, counted from one. -/
def numbered? (args : List String) (ds : List Char) : Option String :=
  if Decimal.value ds = 0 then none else args[Decimal.value ds - 1]?

section Numbered

variable {args : List String} {ds : List Char}

lemma isDecimalDigit_of_isAsciiDigit {c : Char} (h : isAsciiDigit c) : isDecimalDigit c := by
  have hcodes : ∀ n < 128, isAsciiDigit (Char.ofNat n) → isDecimalDigit (Char.ofNat n) := by decide
  have halphanumeric : isAsciiAlphanumeric c := by simp [isAsciiAlphanumeric, h]
  exact of_ascii_codes (p := fun c => isAsciiDigit c → isDecimalDigit c) hcodes
    (isAscii_of_isAsciiAlphanumeric halphanumeric) h

/-- There is no argument for the index of digits that number none. -/
lemma argument?_noIndex (hargs : args.length < noIndex.toNat) : argument? args noIndex = none := by
  have hzero : noIndex ≠ 0 := by decide
  rw [argument?, if_neg hzero, List.getElem?_eq_none_iff]
  omega

/-- ASCII digits ask for the argument that they number, however long they are. -/
lemma argument?_indexOf (hargs : args.length < noIndex.toNat) (hds : ds.all isAsciiDigit) :
    argument? args (indexOf ds) = numbered? args ds := by
  have hsize : noIndex.toNat = UInt64.size - 1 := by decide
  by_cases hfits : Decimal.value ds < UInt64.size
  · have hindex : indexOf ds = UInt64.ofNat (Decimal.value ds) := if_pos ⟨hds, hfits⟩
    have hvalue : (UInt64.ofNat (Decimal.value ds)).toNat = Decimal.value ds :=
      UInt64.toNat_ofNat_of_lt' hfits
    have hzero : UInt64.ofNat (Decimal.value ds) = 0 ↔ Decimal.value ds = 0 := by
      rw [← UInt64.toNat_inj, hvalue, UInt64.toNat_zero]
    simp only [hindex, argument?, numbered?, hzero, hvalue]
  · have hindex : indexOf ds = noIndex := if_neg fun h => hfits h.2
    have hpos : Decimal.value ds ≠ 0 := by
      intro h
      rw [h] at hfits
      exact hfits (by decide)
    rw [hindex, argument?_noIndex hargs, numbered?, if_neg hpos, eq_comm,
      List.getElem?_eq_none_iff]
    omega

lemma argument?_indexOf_of_not_all (hargs : args.length < noIndex.toNat)
    (hds : ¬ds.all isAsciiDigit) : argument? args (indexOf ds) = none := by
  have hindex : indexOf ds = noIndex := if_neg fun h => hds h.1
  rw [hindex, argument?_noIndex hargs]

/-- What takes the place of a match: the argument that its group asks for, or the match itself. -/
def Pattern.answer (asked? : List Char → Option String) (found : List Char)
    (groups : List (List Char)) : List Char :=
  match asked? (groups.headD []) with
  | some argument => argument.toList
  | none => found

/-- To replace the tokens with ASCII digits by the arguments with their numbers is to substitute. -/
lemma Pattern.replaceAll_token_eq_substitute {asked? : List Char → Option String}
    (hargs : args.length < noIndex.toNat)
    (hasked : ∀ ds, ds.all isAsciiDigit → asked? ds = numbered? args ds) (text : String) :
    replaceAll isAsciiDigit token (answer asked?) text.toList =
      (substitute text args).toList := by
  have hpiece : replacement isAsciiDigit (answer asked?) = Piece.replaced args := by
    funext p
    cases p with
    | plain c => rfl
    | token ds =>
      rw [replacement, Piece.replaced]
      split_ifs with hds
      · have hasks : argument? args (indexOf ds) = asked? ds := by
          rw [argument?_indexOf hargs hds, hasked ds hds]
        cases hvalue : asked? ds <;> simp [answer, hasks, hvalue]
      · rw [argument?_indexOf_of_not_all hargs hds]
  rw [replaceAll_token_eq fun c => isDecimalDigit_of_isAsciiDigit, hpiece, substitute,
    String.toList_ofList]

end Numbered

end Phrasebook.Placeholder
