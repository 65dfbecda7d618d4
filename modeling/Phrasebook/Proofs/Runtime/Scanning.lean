import Phrasebook.Proofs.Placeholder.Patterns
import Phrasebook.Target.Rust

/-!
# The loop that looks for tokens

A Rust binding has no regular expressions.  Its `get_string` goes through a message in a loop
(`Rust.scanLoop`): it looks for a percent sign, counts the bytes of ASCII digits behind it, and
cuts the message where it has counted.  Three things could go wrong with that.  The loop might not
end; it might cut a character in two, or cut behind the end, which stops the program; and it might
find other tokens than the ones that `Placeholder.pieces` divides a text into, which knows the
digits of all scripts.

A pass of the loop is `Scan.pass`, and it is `none` where a slice does not exist.  From any state
at all a pass finds its slices, makes the rest shorter, and keeps what has been written together
with what is still to be replaced (`Scan.pass_eq`).  So the loop yields one result, and this is
what `Placeholder.substitute` gives (`scanLoop_substitutes`).
-/

namespace Phrasebook.Rust

open Placeholder Unicode

/-! ## Slices -/

/-- The bytes of a text. -/
def bytes (cs : List Char) : List UInt8 := cs.flatMap String.utf8EncodeChar

/-- The text in front of the byte `n` and the text from there on, or `none` if the text is shorter
or the byte is inside of a character. -/
def splitAtByte? : List Char → Nat → Option (List Char × List Char)
  | cs, 0 => some ([], cs)
  | [], _ + 1 => none
  | c :: cs, n + 1 =>
    if c.utf8Size ≤ n + 1 then
      (splitAtByte? cs (n + 1 - c.utf8Size)).map fun (before, after) => (c :: before, after)
    else none

/-- The slice `[..n]`. -/
def upTo? (cs : List Char) (n : Nat) : Option (List Char) := (splitAtByte? cs n).map (·.1)

/-- The slice `[n..]`. -/
def onward? (cs : List Char) (n : Nat) : Option (List Char) := (splitAtByte? cs n).map (·.2)

/-- The slice `[m..n]`. -/
def between? (cs : List Char) (m n : Nat) : Option (List Char) := (upTo? cs n).bind (onward? · m)

/-- The place of the first byte of the character, where the text has it. -/
def offsetOf? (c : Char) : List Char → Option Nat
  | [] => none
  | d :: cs => if d = c then some 0 else (offsetOf? c cs).map (d.utf8Size + ·)

/-- Whether the byte is an ASCII digit. -/
def isDigitByte (b : UInt8) : Bool := 48 ≤ b.toNat && b.toNat ≤ 57

/-- How many bytes at the beginning of the text are ASCII digits. -/
def digitCount (cs : List Char) : Nat := ((bytes cs).takeWhile isDigitByte).length

section Slices

variable {cs before after : List Char} {c : Char}

lemma byteLength_cons (c : Char) (cs : List Char) :
    byteLength (c :: cs) = c.utf8Size + byteLength cs := rfl

lemma byteLength_append (cs ds : List Char) :
    byteLength (cs ++ ds) = byteLength cs + byteLength ds := by
  induction cs with
  | nil => simp [byteLength]
  | cons c cs ih => rw [List.cons_append, byteLength_cons, byteLength_cons, ih, Nat.add_assoc]

/-- A text can be cut behind any of its characters. -/
lemma splitAtByte?_byteLength (before after : List Char) :
    splitAtByte? (before ++ after) (byteLength before) = some (before, after) := by
  induction before with
  | nil => simp [splitAtByte?, byteLength]
  | cons c before ih =>
    have hpos := c.utf8Size_pos
    obtain ⟨n, hn⟩ : ∃ n, byteLength (c :: before) = n + 1 :=
      Nat.exists_eq_succ_of_ne_zero (by rw [byteLength_cons]; omega)
    have hle : c.utf8Size ≤ n + 1 := by rw [← hn, byteLength_cons]; omega
    have hrest : n + 1 - c.utf8Size = byteLength before := by rw [← hn, byteLength_cons]; omega
    rw [hn, List.cons_append, splitAtByte?, if_pos hle, hrest, ih]
    rfl

lemma upTo?_byteLength (before after : List Char) :
    upTo? (before ++ after) (byteLength before) = some before := by
  simp [upTo?, splitAtByte?_byteLength]

lemma onward?_byteLength (before after : List Char) :
    onward? (before ++ after) (byteLength before) = some after := by
  simp [onward?, splitAtByte?_byteLength]

lemma between?_byteLength (before cs after : List Char) :
    between? (before ++ cs ++ after) (byteLength before) (byteLength (before ++ cs)) = some cs := by
  rw [between?, upTo?_byteLength, Option.bind_some, onward?_byteLength]

/-- A text is cut behind characters only. -/
lemma splitAtByte?_eq_some_iff {n : ℕ} :
    splitAtByte? cs n = some (before, after) ↔ cs = before ++ after ∧ byteLength before = n := by
  constructor
  · intro h
    fun_induction splitAtByte? cs n generalizing before with
    | case1 cs =>
      cases h
      exact ⟨rfl, rfl⟩
    | case2 n => exact nomatch h
    | case3 c cs n hle ih =>
      obtain ⟨⟨front, back⟩, hsplit, heq⟩ := Option.map_eq_some_iff.1 h
      obtain ⟨rfl, rfl⟩ := Prod.mk.inj heq
      obtain ⟨rfl, hlength⟩ := ih hsplit
      refine ⟨rfl, ?_⟩
      rw [byteLength_cons, hlength]
      omega
    | case4 c cs n hle => exact nomatch h
  · rintro ⟨rfl, rfl⟩
    exact splitAtByte?_byteLength before after

/-- A slice is what stands between the texts in front of it and behind it. -/
lemma between?_eq_some_iff {m n : ℕ} {mid : List Char} : between? cs m n = some mid ↔
    ∃ before after, cs = before ++ mid ++ after ∧ byteLength before = m ∧
      byteLength (before ++ mid) = n := by
  constructor
  · intro h
    obtain ⟨_, hfront, hback⟩ := Option.bind_eq_some_iff.1 h
    obtain ⟨⟨front, after⟩, hsplit, rfl⟩ := Option.map_eq_some_iff.1 hfront
    obtain ⟨⟨before, _⟩, hsplit', rfl⟩ := Option.map_eq_some_iff.1 hback
    obtain ⟨rfl, hstop⟩ := splitAtByte?_eq_some_iff.1 hsplit
    obtain ⟨hfront, hstart⟩ := splitAtByte?_eq_some_iff.1 hsplit'
    dsimp only at hfront hstop ⊢
    exact ⟨before, after, by rw [hfront], hstart, by rw [← hfront, hstop]⟩
  · rintro ⟨before, after, rfl, rfl, rfl⟩
    exact between?_byteLength before mid after

lemma offsetOf?_eq_none_iff : offsetOf? c cs = none ↔ c ∉ cs := by
  induction cs with
  | nil => simp [offsetOf?]
  | cons d cs ih =>
    by_cases hd : d = c
    · simp [offsetOf?, hd]
    · simp [offsetOf?, hd, ih, Ne.symm hd]

lemma offsetOf?_append (h : c ∉ before) :
    offsetOf? c (before ++ c :: after) = some (byteLength before) := by
  induction before with
  | nil => simp [offsetOf?, byteLength]
  | cons d before ih =>
    rw [List.mem_cons, not_or] at h
    rw [List.cons_append, offsetOf?, if_neg (Ne.symm h.1), ih h.2]
    rfl

lemma isAsciiDigit_eq (c : Char) :
    isAsciiDigit c = (48 ≤ c.val.toNat && c.val.toNat ≤ 57) := by
  simp only [isAsciiDigit, Char.le_def, UInt32.le_iff_toNat_le]
  rfl

/-- The first byte of a character is an ASCII digit only if the character is, and then it is the
only byte. -/
lemma utf8EncodeChar_eq_cons (c : Char) : ∃ b bs, String.utf8EncodeChar c = b :: bs ∧
    isDigitByte b = isAsciiDigit c ∧ (isAsciiDigit c → bs = []) := by
  have hbyte : ∀ n < 256, isDigitByte (UInt8.ofNat n) = (48 ≤ n && n ≤ 57) := by
    intro n hn
    rw [isDigitByte, UInt8.toNat_ofNat_of_lt' hn]
  have hlarge : ∀ n < 256, 192 ≤ n → isDigitByte (UInt8.ofNat n) = false := by
    intro n hn h
    rw [hbyte n hn]
    simp
    omega
  rw [isAsciiDigit_eq, String.utf8EncodeChar]
  generalize c.val.toNat = code
  by_cases hascii : code ≤ 127
  · exact ⟨_, [], if_pos hascii, hbyte _ (by omega), fun _ => rfl⟩
  · have hno : (48 ≤ code && code ≤ 57) = false := by
      simp
      omega
    rw [hno]
    simp only [hascii, if_false]
    -- two, three or four bytes
    split_ifs
    · exact ⟨_, _, rfl, hlarge _ (by omega) (by omega), nofun⟩
    · exact ⟨_, _, rfl, hlarge _ (by omega) (by omega), nofun⟩
    · exact ⟨_, _, rfl, hlarge _ (by omega) (by omega), nofun⟩

/-- The bytes that are digits are the characters that are. -/
lemma digitCount_eq (cs : List Char) :
    digitCount cs = byteLength (cs.takeWhile isAsciiDigit) := by
  induction cs with
  | nil => rfl
  | cons c cs ih =>
    obtain ⟨b, bs, hbytes, hb, hsingle⟩ := utf8EncodeChar_eq_cons c
    have hcons : bytes (c :: cs) = b :: (bs ++ bytes cs) := by
      rw [bytes, List.flatMap_cons, hbytes]
      rfl
    by_cases hc : isAsciiDigit c
    · have hsize : c.utf8Size = 1 := by
        rw [← String.length_utf8EncodeChar, hbytes, hsingle hc, List.length_singleton]
      rw [digitCount, hcons, List.takeWhile_cons_of_pos (hb.trans hc), hsingle hc, List.nil_append,
        List.length_cons, ← digitCount, ih, List.takeWhile_cons_of_pos hc, byteLength_cons, hsize,
        Nat.add_comm]
    · rw [digitCount, hcons, List.takeWhile_cons_of_neg (by rwa [hb]),
        List.takeWhile_cons_of_neg hc]
      rfl

end Slices

/-! ## The loop -/

/-- The number that a text writes, if it fits a machine word. -/
def parse? (cs : List Char) : Option Nat :=
  let digits := if cs.head? = some '+' then cs.tail else cs
  if digits ≠ [] ∧ digits.all isAsciiDigit ∧ Decimal.value digits < UInt64.size then
    some (Decimal.value digits)
  else none

/-- The difference of two numbers, unless it is negative. -/
def checkedSub (m n : Nat) : Option Nat := if n ≤ m then some (m - n) else none

/-- The argument that a token asks for. -/
def asked? (args : List String) (number : List Char) : Option String :=
  ((parse? number).bind (checkedSub · 1)).bind (args[·]?)

/-- The lines of the loop. -/
def scanLoop : List String :=
  [
    "    let mut out = String::with_capacity(message.len());",
    "    let mut rest = message;",
    "    while let Some(start) = rest.find('%') \x7b",
    "        out.push_str(&rest[..start]);",
    "        let tail = &rest[start + 1..];",
    "        let digits = tail.bytes().take_while(u8::is_ascii_digit).count();",
    "        if digits > 0 && tail[digits..].starts_with(\"$@\") \x7b",
    "            let argument = tail[..digits]",
    "                .parse::<usize>()",
    "                .ok()",
    "                .and_then(|n| n.checked_sub(1))",
    "                .and_then(|i| format_args.get(i));",
    "            match argument \x7b",
    "                Some(argument) => out.push_str(argument),",
    "                None => out.push_str(&rest[start..start + digits + 3]),",
    "            \x7d",
    "            rest = &tail[digits + 2..];",
    "        \x7d else \x7b",
    "            out.push('%');",
    "            rest = tail;",
    "        \x7d",
    "    \x7d",
    "    out.push_str(rest);",
    "    out"]

/-- The variables of the loop. -/
structure Scan where
  /-- What has been written. -/
  out : List Char
  /-- What is still to be read. -/
  rest : List Char

/-- What a test of the condition leads to. -/
inductive Pass where
  /-- The body has been run. -/
  | goesOn (s : Scan)
  /-- The loop has ended with a result. -/
  | ends (out : List Char)

namespace Scan

/-- The state in front of the loop. -/
def start (message : String) : Scan := ⟨[], message.toList⟩

/-- The test for a token behind a percent sign: `$@` is only looked for behind digits. -/
def endsToken? (tail : List Char) (digits : Nat) : Option Bool :=
  if 0 < digits then (onward? tail digits).map (['$', '@'].isPrefixOf ·) else some false

/-- One test of the condition, and the body or the end behind it; `none` if the program stops
because a slice does not exist. -/
def pass (args : List String) (s : Scan) : Option Pass :=
  match offsetOf? '%' s.rest with
  | none => some (.ends (s.out ++ s.rest))
  | some start => do
    let before ← upTo? s.rest start
    let tail ← onward? s.rest (start + 1)
    let digits := digitCount tail
    let isToken ← endsToken? tail digits
    if isToken then
      let number ← upTo? tail digits
      let shown ←
        match asked? args number with
        | some argument => some argument.toList
        | none => between? s.rest start (start + digits + 3)
      let rest ← onward? tail (digits + 2)
      some (.goesOn ⟨s.out ++ before ++ shown, rest⟩)
    else some (.goesOn ⟨s.out ++ before ++ ['%'], tail⟩)

/-- The loop ends with a result, after finitely many passes. -/
inductive Yields (args : List String) : Scan → List Char → Prop
  | ends {s : Scan} {out : List Char} : s.pass args = some (.ends out) → Yields args s out
  | goesOn {s s' : Scan} {out : List Char} : s.pass args = some (.goesOn s') →
      Yields args s' out → Yields args s out

/-! ## What a pass does -/

section Pass

variable {args : List String} {out before ds tail rest : List Char}

lemma pass_of_notMem (h : '%' ∉ rest) : pass args ⟨out, rest⟩ = some (.ends (out ++ rest)) := by
  simp only [pass, offsetOf?_eq_none_iff.2 h]

/-- The percent sign and the text behind it are found. -/
lemma onward?_percent (before tail : List Char) :
    onward? (before ++ '%' :: tail) (byteLength before + 1) = some tail := by
  have hsplit : before ++ '%' :: tail = (before ++ ['%']) ++ tail := by simp
  have hlength : byteLength before + 1 = byteLength (before ++ ['%']) := by
    rw [byteLength_append]
    rfl
  rw [hsplit, hlength, onward?_byteLength]

/-- Where a token stands, the pass writes its argument or the token, and goes on behind it. -/
lemma pass_token (hbefore : '%' ∉ before) (hne : ds ≠ []) (hdigits : ∀ d ∈ ds, isAsciiDigit d) :
    pass args ⟨out, before ++ ((Piece.token ds).chars ++ rest)⟩ =
      some (.goesOn
        ⟨out ++ before ++ Pattern.answer (asked? args) (Piece.token ds).chars [ds], rest⟩) := by
  have hchars : (Piece.token ds).chars ++ rest = '%' :: (ds ++ '$' :: '@' :: rest) := by
    simp [Piece.chars]
  have hcount : digitCount (ds ++ '$' :: '@' :: rest) = byteLength ds := by
    rw [digitCount_eq, List.takeWhile_append_of_pos hdigits,
      List.takeWhile_cons_of_neg (by decide), List.append_nil]
  have hpos : 0 < byteLength ds := by
    obtain ⟨d, ds, rfl⟩ := List.exists_cons_of_ne_nil hne
    have hd := d.utf8Size_pos
    rw [byteLength_cons]
    omega
  have htest : endsToken? (ds ++ '$' :: '@' :: rest) (byteLength ds) = some true := by
    rw [endsToken?, if_pos hpos, onward?_byteLength]
    rfl
  have hbehind : onward? (ds ++ '$' :: '@' :: rest) (byteLength ds + 2) = some rest := by
    have hsplit : ds ++ '$' :: '@' :: rest = (ds ++ ['$', '@']) ++ rest := by simp
    have hlength : byteLength ds + 2 = byteLength (ds ++ ['$', '@']) := by
      rw [byteLength_append]
      rfl
    rw [hsplit, hlength, onward?_byteLength]
  have htoken : between? (before ++ '%' :: (ds ++ '$' :: '@' :: rest)) (byteLength before)
      (byteLength before + byteLength ds + 3) = some (Piece.token ds).chars := by
    have hlength : byteLength before + byteLength ds + 3 =
        byteLength (before ++ (Piece.token ds).chars) := by
      have hends : byteLength ['$', '@'] = 2 := rfl
      have hpercent : '%'.utf8Size = 1 := rfl
      rw [byteLength_append, Piece.chars, List.cons_append, byteLength_cons, byteLength_append,
        hends, hpercent]
      omega
    rw [← hchars, ← List.append_assoc, hlength, between?_byteLength]
  rw [hchars]
  simp only [pass, offsetOf?_append hbefore, upTo?_byteLength, onward?_percent, hcount, htest,
    hbehind, htoken, Pattern.answer, if_true, Option.bind_eq_bind, Option.bind_some,
    List.headD_cons]
  cases asked? args ds <;> rfl

/-- Where none stands, it writes the percent sign alone. -/
lemma pass_percent (hbefore : '%' ∉ before)
    (hnone : Pattern.matchAt? isAsciiDigit .token ('%' :: tail) = none) :
    pass args ⟨out, before ++ '%' :: tail⟩ =
      some (.goesOn ⟨out ++ before ++ ['%'], tail⟩) := by
  have hcut : tail.takeWhile isAsciiDigit ++ tail.dropWhile isAsciiDigit = tail :=
    List.takeWhile_append_dropWhile
  have hbehind : onward? tail (digitCount tail) = some (tail.dropWhile isAsciiDigit) := by
    have h := onward?_byteLength (tail.takeWhile isAsciiDigit) (tail.dropWhile isAsciiDigit)
    rwa [hcut, ← digitCount_eq] at h
  have htest : endsToken? tail (digitCount tail) = some false := by
    rw [endsToken?, hbehind]
    split_ifs with hpos
    · rw [Option.map_some, Option.some_inj, ← Bool.not_eq_true, List.isPrefixOf_iff_prefix]
      rintro ⟨rest, hrest⟩
      have hdigits : ∀ d ∈ tail.takeWhile isAsciiDigit, isAsciiDigit d :=
        List.all_eq_true.1 List.all_takeWhile
      have hne : tail.takeWhile isAsciiDigit ≠ [] := by
        intro hnil
        rw [digitCount_eq, hnil] at hpos
        exact absurd hpos (by decide)
      have htail : '%' :: tail = (Piece.token (tail.takeWhile isAsciiDigit)).chars ++ rest := by
        simp only [Piece.chars, List.cons_append, List.append_assoc, hrest, hcut]
      have hmatch := (Pattern.matchAt?_token_iff (by decide)).2 ⟨_, rfl, hne, hdigits, htail⟩
      exact Option.some_ne_none _ (hmatch.symm.trans hnone)
    · rfl
  simp only [pass, offsetOf?_append hbefore, upTo?_byteLength, onward?_percent, htest,
    Option.bind_eq_bind, Option.bind_some]
  rfl

end Pass

/-! ## What the loop does -/

section Run

variable {args : List String} {s s' : Scan} {out : List Char}

/-- What is written when the loop has ended, from this state on. -/
def outcome (args : List String) (s : Scan) : List Char :=
  s.out ++ Pattern.replaceAll isAsciiDigit .token (Pattern.answer (asked? args)) s.rest

/-- A pass never stops the program.  It ends the loop with the outcome, or it makes the rest
shorter and leaves the outcome what it is. -/
lemma pass_eq (args : List String) (s : Scan) :
    s.pass args = some (.ends (s.outcome args)) ∨
      ∃ s', s.pass args = some (.goesOn s') ∧ s'.rest.length < s.rest.length ∧
        s'.outcome args = s.outcome args := by
  obtain ⟨out, rest⟩ := s
  by_cases hpercent : '%' ∈ rest
  · obtain ⟨before, tail, rfl, hbefore⟩ := List.eq_append_cons_of_mem hpercent
    right
    cases hmatch : Pattern.matchAt? isAsciiDigit .token ('%' :: tail) with
    | none =>
      refine ⟨_, pass_percent hbefore hmatch, by simp; omega, ?_⟩
      rw [outcome, outcome, Pattern.replaceAll_append_of_notMem hbefore,
        Pattern.replaceAll_of_matchAt?_eq_none hmatch]
      simp
    | some result =>
      obtain ⟨groups, rest⟩ := result
      have hdollar : isAsciiDigit '$' = false := by decide
      obtain ⟨ds, -, hne, hdigits, htail⟩ := (Pattern.matchAt?_token_iff hdollar).1 hmatch
      rw [htail]
      refine ⟨_, pass_token hbefore hne hdigits, by simp [Piece.chars]; omega, ?_⟩
      rw [outcome, outcome, Pattern.replaceAll_append_of_notMem hbefore,
        Pattern.replaceAll_token_append hdollar hne hdigits]
      simp
  · left
    have hsame : Pattern.replaceAll isAsciiDigit .token (Pattern.answer (asked? args))
        (rest ++ []) = rest := by
      rw [Pattern.replaceAll_append_of_notMem hpercent, Pattern.replaceAll_nil, List.append_nil]
    rw [List.append_nil] at hsame
    rw [pass_of_notMem hpercent, outcome, hsame]

/-- The loop ends, with the outcome. -/
lemma yields_outcome (args : List String) (s : Scan) : Yields args s (s.outcome args) := by
  induction hlength : s.rest.length using Nat.strong_induction_on generalizing s with
  | _ n ih =>
    obtain hends | ⟨s', hgoes, hshorter, houtcome⟩ := pass_eq args s
    · exact .ends hends
    · have hrest : Yields args s' (s'.outcome args) := ih _ (hlength ▸ hshorter) s' rfl
      exact .goesOn hgoes (houtcome ▸ hrest)

/-- A loop has at most one result. -/
lemma Yields.unique (h : Yields args s out) : out = s.outcome args := by
  induction h with
  | @ends s out hends =>
    obtain hends' | ⟨s', hgoes, -⟩ := pass_eq args s
    · cases hends.symm.trans hends'
      rfl
    · exact nomatch hends.symm.trans hgoes
  | @goesOn s s' out hgoes _ ih =>
    obtain hends | ⟨s'', hgoes', -, houtcome⟩ := pass_eq args s
    · exact nomatch hgoes.symm.trans hends
    · cases hgoes.symm.trans hgoes'
      exact ih.trans houtcome

end Run

end Scan

/-! ## The loop substitutes -/

section Asked

variable {args : List String} {ds : List Char}

/-- The argument that digits ask for is the one that they number: a number that does not fit a
machine word is larger than that of any argument. -/
lemma asked?_eq_numbered? (hargs : args.length < UInt64.size) (hds : ds.all isAsciiDigit) :
    asked? args ds = numbered? args ds := by
  have hplus : ds.head? ≠ some '+' := by
    intro h
    have hdigit := List.all_eq_true.1 hds '+' (List.mem_of_head? h)
    exact absurd hdigit (by decide)
  rw [asked?, parse?, if_neg hplus, numbered?]
  by_cases hzero : Decimal.value ds = 0
  · rw [if_pos hzero, hzero]
    split_ifs <;> rfl
  · have hne : ds ≠ [] := by
      rintro rfl
      exact hzero Decimal.value_nil
    rw [if_neg hzero]
    by_cases hfits : Decimal.value ds < UInt64.size
    · rw [if_pos ⟨hne, hds, hfits⟩, Option.bind_some, checkedSub, if_pos (by omega),
        Option.bind_some]
    · rw [if_neg fun h => hfits h.2.2, Option.bind_none, Option.bind_none, eq_comm,
        List.getElem?_eq_none_iff]
      omega

end Asked

/-- What the loop of a binding does with a message and its arguments. -/
structure Scan.Substitutes (args : List String) (message : String) : Prop where
  /-- Every binding has the loop. -/
  emitted : ∀ fallback, scanLoop <:+: runtime fallback
  /-- The slices that a pass takes exist, whatever state the loop is in. -/
  unbroken : ∀ s : Scan, (s.pass args).isSome
  /-- The loop ends, and with no other result than the substituted text. -/
  yields_iff : ∀ out, Scan.Yields args (.start message) out ↔
    out = (substitute message args).toList

/-- The loop substitutes, whatever the message is; a slice of arguments is always shorter than the
largest index. -/
theorem scanLoop_substitutes (message : String) (args : List String)
    (hargs : args.length < noIndex.toNat) : Scan.Substitutes args message := by
  have houtcome : (Scan.start message).outcome args = (substitute message args).toList := by
    have hsize : noIndex.toNat < UInt64.size := noIndex.toNat_lt_size
    exact Pattern.replaceAll_token_eq_substitute hargs
      (fun _ => asked?_eq_numbered? (hargs.trans hsize)) message
  constructor
  case emitted => exact fun fallback => ⟨(runtime fallback).take 39, [_, _], rfl⟩
  case unbroken =>
    intro s
    obtain hends | ⟨s', hgoes, -⟩ := s.pass_eq args
    · rw [hends]
      rfl
    · rw [hgoes]
      rfl
  case yields_iff =>
    intro out
    rw [← houtcome]
    constructor
    · exact Scan.Yields.unique
    · rintro rfl
      exact Scan.yields_outcome args _

/-- Leading zeros count for nothing; the index zero, a number that overflows, the digits of another
script and broken tokens stay. -/
theorem scanLoop_substitutes_mixed :
    ["a", "b"].length < noIndex.toNat ∧
      Scan.Yields ["a", "b"]
        (.start "%%2$@ %01$@%1$@ %0$@ %18446744073709551617$@ %٢$@ %1$ %$@ 5%")
        "%b aa %0$@ %18446744073709551617$@ %٢$@ %1$ %$@ 5%".toList :=
  have hargs : ["a", "b"].length < noIndex.toNat := by decide
  ⟨hargs, ((scanLoop_substitutes _ _ hargs).yields_iff _).2 (by decide +kernel)⟩

end Phrasebook.Rust
