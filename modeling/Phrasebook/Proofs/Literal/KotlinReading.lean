import Phrasebook.Literal.Kotlin
import Phrasebook.Proofs.Literal.Reading
import Phrasebook.Proofs.Unicode.IdentifierSets

/-!
# How Kotlin reads literals

The elements of escaped string literals and of raw strings, after the Kotlin grammar.  In an escaped
literal a dollar sign stands for the value of the longest name that follows; the name `index` is the
only one with a value here.  In a raw string the only substitution with a value is that of the
character literal of a dollar sign, and a carriage return is refused: in front of a line feed the
compiler would drop it.  `literal?` reads a literal of either kind where no name has a value.

* The escape of a character stands for this character, in front of any rest (`takes_escapeChar`).
  Whether a reader knows names is all the same for that (`ReadsStrings`).
* A reference to the index stands for its digits, unless its name goes on (`takes_index`).
* So does a character of a raw string, where no three quotes in a row begin (`takes_rawChar`).
-/

namespace Phrasebook.Literal.Kotlin

open Unicode

/-- The character that a character behind a backslash stands for. -/
def namedEscape? : Char → Option Char
  | 't' => some '\t'
  | 'b' => some '\x08'
  | 'n' => some '\n'
  | 'r' => some '\r'
  | '\'' => some '\''
  | '"' => some '"'
  | '\\' => some '\\'
  | '$' => some '$'
  | _ => none

/-- What a dollar sign stands for, read behind it, in a function of the record `index`: the value of
the longest name that follows, which is only known for the name `index`; or itself, if neither a
name nor an expression follows. -/
def reference? (index : Nat) (cs : List Char) : Option (List Char × List Char) :=
  if cs.head?.any fun c => c == '_' || isXidStart c then
    if cs.takeWhile isXidContinue = "index".toList then
      some ((toString index).toList, cs.drop 5)
    else none
  else if cs.head?.any fun c => c == '\x7b' || c == '\x60' then none
  else some (['$'], cs)

/-- An element of an escaped string literal in a function of the record `index`. -/
def stringElement? (index : Nat) : List Char → Option (List Char × List Char)
  | [] => none
  | '\\' :: 'u' :: cs => (hexChar? 4 cs).map fun (c, rest) => ([c], rest)
  | '\\' :: c :: cs => (namedEscape? c).map fun value => ([value], cs)
  | '$' :: cs => reference? index cs
  | c :: cs => if c = '\\' ∨ c = '\n' ∨ c = '\r' then none else some ([c], cs)

section Length

variable {cs values rest : List Char} {index : Nat}

lemma length_le_of_reference? (h : reference? index cs = some (values, rest)) :
    rest.length ≤ cs.length := by
  unfold reference? at h
  split_ifs at h
  · obtain ⟨-, rfl⟩ := Prod.mk.inj (Option.some.inj h)
    simp
  · obtain ⟨-, rfl⟩ := Prod.mk.inj (Option.some.inj h)
    exact le_rfl

lemma length_lt_of_stringElement? (h : stringElement? index cs = some (values, rest)) :
    rest.length < cs.length := by
  unfold stringElement? at h
  split at h
  · exact nomatch h
  · obtain ⟨⟨c, behind⟩, hchar, h⟩ := Option.map_eq_some_iff.1 h
    obtain ⟨-, rfl⟩ := Prod.mk.inj h
    have hle := length_le_of_hexChar? hchar
    simp
    omega
  · obtain ⟨c, -, h⟩ := Option.map_eq_some_iff.1 h
    obtain ⟨-, rfl⟩ := Prod.mk.inj h
    simp
  · exact Nat.lt_succ_of_le (length_le_of_reference? h)
  · split_ifs at h
    obtain ⟨-, rfl⟩ := Prod.mk.inj (Option.some.inj h)
    simp

end Length

/-- The inside of an escaped string literal in a function of the record `index`. -/
def stringOf (index : Nat) : Reader Char where
  closing := ['"']
  element? := stringElement? index
  length_lt := length_lt_of_stringElement?

/-! ## Literals outside of functions of records -/

/-- Whether what follows a dollar sign makes a reference of it, to a name or to an expression. -/
def opensReference (cs : List Char) : Bool :=
  cs.head?.any fun c => c == '_' || isXidStart c || c == '\x7b' || c == '\x60'

/-- An element of an escaped string literal where no name has a value. -/
def plainElement? : List Char → Option (List Char × List Char)
  | '$' :: cs => if opensReference cs then none else some (['$'], cs)
  | cs => stringElement? 0 cs

/-- The character literal of a dollar sign as an expression, behind the dollar sign that opens
it. -/
def dollarExpression : List Char := ['\x7b', '\'', '$', '\'', '\x7d']

/-- An element of a raw string. -/
def rawElement? : List Char → Option (List Char × List Char)
  | [] => none
  | '$' :: cs =>
    if dollarExpression.isPrefixOf cs then some (['$'], cs.drop dollarExpression.length)
    else if opensReference cs then none
    else some (['$'], cs)
  | c :: cs => if c = '\r' then none else some ([c], cs)

/-- The inside of an escaped string literal where no name has a value. -/
def string : Reader Char where
  closing := ['"']
  element? := plainElement?
  length_lt := by
    intro cs values rest h
    unfold plainElement? at h
    split at h
    · split_ifs at h
      obtain ⟨-, rfl⟩ := Prod.mk.inj (Option.some.inj h)
      simp
    · exact length_lt_of_stringElement? h

/-- The inside of a raw string. -/
def raw : Reader Char where
  closing := ['"', '"', '"']
  element? := rawElement?
  length_lt := by
    intro cs values rest h
    unfold rawElement? at h
    split at h
    · cases h
    · split_ifs at h
      · obtain ⟨-, rfl⟩ := Prod.mk.inj (Option.some.inj h)
        simp
      · obtain ⟨-, rfl⟩ := Prod.mk.inj (Option.some.inj h)
        simp
    · split_ifs at h
      obtain ⟨-, rfl⟩ := Prod.mk.inj (Option.some.inj h)
      simp

/-- The literal at the beginning of a text, and the text behind it.  Of a run of more than three
quotes the last three close a raw string, and those in front of them belong to its value. -/
def literal? : List Char → Option (List Char × List Char)
  | '"' :: '"' :: '"' :: cs => (raw.read? cs).map fun (value, rest) =>
      (value ++ rest.takeWhile (· = '"'), rest.dropWhile (· = '"'))
  | '"' :: cs => string.read? cs
  | _ => none

/-! ## What escapes stand for -/

/-- A reader of escaped string literals.  Readers differ in the names that they know. -/
structure ReadsStrings (r : Reader Char) : Prop where
  /-- A quote closes the literal. -/
  closing : r.closing = ['"']
  /-- What is no reference is read in the same way by all of them. -/
  element? : ∀ {cs}, cs.head? ≠ some '$' → r.element? cs = stringElement? 0 cs

lemma readsStrings_stringOf (index : Nat) : ReadsStrings (stringOf index) where
  closing := rfl
  element? := by
    intro cs hdollar
    change stringElement? index cs = stringElement? 0 cs
    unfold stringElement?
    split
    case h_4 => exact absurd rfl hdollar
    all_goals rfl

lemma readsStrings_string : ReadsStrings string where
  closing := rfl
  element? := by
    intro cs hdollar
    change plainElement? cs = stringElement? 0 cs
    rw [plainElement?]
    rintro cs' rfl
    exact hdollar rfl

section Escapes

variable {c : Char} {cs rest : List Char} {r : Reader Char}

lemma takes_element (hr : ReadsStrings r) {body values : List Char}
    (hclosing : (body ++ rest).head? ≠ some '"') (hdollar : (body ++ rest).head? ≠ some '$')
    (h : stringElement? 0 (body ++ rest) = some (values, rest)) : r.Takes body values rest :=
  Reader.takes_of_head hr.closing hclosing ((hr.element? hdollar).trans h)

/-- An escape stands for its character, whatever follows. -/
lemma takes_escapeChar (hr : ReadsStrings r) (c : Char) (rest : List Char) :
    r.Takes (escapeChar c) [c] rest := by
  unfold escapeChar
  split_ifs with hbackslash hquote hdollar hfeed hreturn htab hback hcontrol
  · subst hbackslash
    exact takes_element hr (by simp) (by simp) rfl
  · subst hquote
    exact takes_element hr (by simp) (by simp) rfl
  · subst hdollar
    exact takes_element hr (by simp) (by simp) rfl
  · subst hfeed
    exact takes_element hr (by simp) (by simp) rfl
  · subst hreturn
    exact takes_element hr (by simp) (by simp) rfl
  · subst htab
    exact takes_element hr (by simp) (by simp) rfl
  · subst hback
    exact takes_element hr (by simp) (by simp) rfl
  · refine takes_element hr (by simp) (by simp) ?_
    rw [List.cons_append, List.cons_append, stringElement?,
      hexChar?_hexDigits4 (toNat_lt_of_isControl hcontrol), Option.map_some]
  · refine takes_element hr (by simpa using hquote) (by simpa using hdollar) ?_
    simp [stringElement?, hbackslash, hfeed, hreturn]

/-- Escapes stand for their text, whatever follows. -/
lemma takes_escape (hr : ReadsStrings r) (cs rest : List Char) : r.Takes (escape cs) cs rest :=
  Reader.takes_flatMap (takes_escapeChar hr) cs rest

/-- A string literal is read as its text. -/
lemma read?_escape (hr : ReadsStrings r) (cs rest : List Char) :
    r.read? (escape cs ++ '"' :: rest) = some (cs, rest) := by
  have hread := (takes_escape hr cs (r.closing ++ rest)).read?_eq
  rwa [hr.closing] at hread

/-- The reference to the index, in front of anything that does not make its name longer. -/
lemma takes_index (index : Nat) (hrest : rest.head?.all fun c => !isXidContinue c) :
    (stringOf index).Takes "$index".toList (toString index).toList rest := by
  have hname : ∀ c ∈ "index".toList, isXidContinue c := List.all_eq_true.mp (by decide)
  have hstop : rest.takeWhile isXidContinue = [] := by
    cases rest with
    | nil => rfl
    | cons c rest =>
      rw [List.takeWhile_cons_of_neg]
      simpa using hrest
  have hlongest : ("index".toList ++ rest).takeWhile isXidContinue = "index".toList := by
    rw [List.takeWhile_append_of_pos hname, hstop, List.append_nil]
  have hdollar : "$index".toList ++ rest = '$' :: ("index".toList ++ rest) := rfl
  have hstart : ("index".toList ++ rest).head?.any fun c => c == '_' || isXidStart c := by
    have hi : isXidStart 'i' := by decide
    simp [hi]
  have hvalue : stringElement? index ("$index".toList ++ rest) =
      some ((toString index).toList, rest) := by
    rw [hdollar, stringElement?, reference?, if_pos hstart, if_pos hlongest]
    · rfl
  exact Reader.takes_of_head rfl (by simp) hvalue

/-- A character of a raw string, where no three quotes in a row begin. -/
lemma takes_rawChar (hreturn : c ≠ '\r') (hclosing : ¬raw.closing <+: rawChar c ++ rest) :
    raw.Takes (rawChar c) [c] rest := by
  refine Reader.takes_of_element? hclosing ?_
  by_cases hdollar : c = '$'
  · subst hdollar
    rfl
  · change rawElement? _ = _
    rw [rawChar, if_neg hdollar, List.singleton_append, rawElement?, if_neg hreturn]
    rintro rfl
    exact hdollar rfl

end Escapes

end Phrasebook.Literal.Kotlin
