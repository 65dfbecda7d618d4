import Phrasebook.Proofs.Literal.KotlinReading
import Phrasebook.Proofs.Literal.SingleLine
import Phrasebook.Target.Kotlin

/-!
# Texts in Kotlin tables

The text of an entry of a table is a raw string if it has several lines and a raw form, and an
escaped string literal otherwise.  Whatever it is, with the line end behind it that entries have,
it is one complete literal, and its value is the text (`text_read_before_line_end`).

A raw string has no escapes: it ends at the first three quotes in a row, and its carriage returns
get lost.  So a text has a raw form just if the string that is written for it is read as the text
(`hasRawForm_iff_read?`).  That it is read so goes by the characters of the text: no three quotes
begin at any of them (`not_closing_prefix_append`).  That another one is not goes by how far a
reading can get: not beyond three quotes, and not beyond a carriage return
(`length_le_of_read?_append`).
-/

namespace Phrasebook.Literal.Kotlin

open Unicode

/-! ## Raw strings -/

/-- What stands between the quotes of a raw string. -/
def rawBody (cs : List Char) : List Char := cs.flatMap rawChar

/-- The raw string of a text. -/
def rawLiteral (text : String) : String :=
  String.ofList (['"', '"', '"'] ++ rawBody text.toList ++ ['"', '"', '"'])

/-- The texts that a raw string can have for its value. -/
structure HasRawForm (cs : List Char) : Prop where
  /-- There are no three quotes in a row. -/
  triple : ¬raw.closing <:+: cs
  /-- There is no carriage return. -/
  return_notMem : '\r' ∉ cs
  /-- There is no quote at the end, which would stand in front of those that close the string. -/
  getLast? : cs.getLast? ≠ some '"'

section RawForm

variable {c : Char} {cs rest more before after values behind : List Char} {text : String}

lemma hasTripleQuote_iff : hasTripleQuote cs ↔ raw.closing <:+: cs := by
  induction cs with
  | nil => simp [hasTripleQuote, raw]
  | cons c cs ih =>
    rw [hasTripleQuote, Bool.or_eq_true, ih, List.isPrefixOf_iff_prefix, List.infix_cons_iff]
    rfl

lemma raw?_eq_some_iff {literal : String} :
    raw? text = some literal ↔ HasRawForm text.toList ∧ rawLiteral text = literal := by
  have hrefused : (hasTripleQuote text.toList ∨ '\r' ∈ text.toList ∨
      text.toList.getLast? = some '"') ↔ ¬HasRawForm text.toList := by
    rw [hasTripleQuote_iff]
    constructor
    · rintro (h | h | h) hform
      · exact hform.triple h
      · exact hform.return_notMem h
      · exact hform.getLast? h
    · contrapose!
      exact fun h => ⟨h.1, h.2.1, h.2.2⟩
  have hraw : raw? text = if hasTripleQuote text.toList ∨ '\r' ∈ text.toList ∨
      text.toList.getLast? = some '"' then none else some (rawLiteral text) := rfl
  rw [hraw]
  split_ifs with h
  · simp [hrefused.1 h]
  · simp [not_not.1 (mt hrefused.2 h)]

lemma rawBody_append (cs ds : List Char) : rawBody (cs ++ ds) = rawBody cs ++ rawBody ds :=
  List.flatMap_append

lemma rawBody_closing : rawBody raw.closing = raw.closing := by decide

lemma HasRawForm.tail (h : HasRawForm (c :: cs)) : HasRawForm cs where
  triple hmore := h.triple (hmore.trans (List.infix_cons List.infix_rfl))
  return_notMem := List.not_mem_of_not_mem_cons h.return_notMem
  getLast? hlast := h.getLast? (by simp [List.getLast?_cons, hlast])

/-- A raw string that begins with a quote is one of a text that does. -/
lemma exists_of_rawBody (hcs : cs ≠ []) (h : rawBody cs ++ rest = '"' :: more) :
    ∃ cs', cs = '"' :: cs' ∧ rawBody cs' ++ rest = more := by
  obtain ⟨c, cs, rfl⟩ := List.exists_cons_of_ne_nil hcs
  rw [rawBody, List.flatMap_cons, rawChar] at h
  split_ifs at h with hdollar
  · exact absurd (List.cons.inj h).1 (by decide)
  · obtain ⟨rfl, hmore⟩ := List.cons.inj h
    exact ⟨cs, rfl, hmore⟩

/-- Where a character of such a text stands, no three quotes in a row begin: the third would be a
character of the text as well, as a quote is not the last one. -/
lemma not_closing_prefix_append (h : HasRawForm cs) (hcs : cs ≠ []) :
    ¬raw.closing <+: rawBody cs ++ rest := by
  have hne : ∀ {cs}, HasRawForm ('"' :: cs) → cs ≠ [] := by
    rintro cs h rfl
    exact h.getLast? rfl
  rintro ⟨more, hmore⟩
  obtain ⟨cs₁, rfl, h₁⟩ := exists_of_rawBody hcs hmore.symm
  obtain ⟨cs₂, rfl, h₂⟩ := exists_of_rawBody (hne h) h₁
  obtain ⟨cs₃, rfl, h₃⟩ := exists_of_rawBody (hne h.tail) h₂
  exact h.triple ⟨[], cs₃, rfl⟩

/-- A raw string is read character by character. -/
lemma takes_rawBody (h : HasRawForm cs) : raw.Takes (rawBody cs) cs rest := by
  induction cs with
  | nil => exact .nil
  | cons c cs ih =>
    have hreturn : c ≠ '\r' := fun hc => h.return_notMem (hc ▸ List.mem_cons_self)
    have hclosing : ¬raw.closing <+: rawChar c ++ (rawBody cs ++ rest) := by
      rw [← List.append_assoc]
      exact not_closing_prefix_append h (List.cons_ne_nil c cs)
    exact (takes_rawChar hreturn hclosing).append (ih h.tail)

lemma read?_rawBody (h : HasRawForm cs) (rest : List Char) :
    raw.read? (rawBody cs ++ (raw.closing ++ rest)) = some (cs, rest) :=
  (takes_rawBody h).read?_eq

/-! ### How far a reading gets -/

/-- An element does not get beyond a character that is in no reference. -/
lemma exists_of_rawElement? (hc : c ∉ dollarExpression) (hbefore : before ≠ [])
    (h : rawElement? (before ++ c :: more) = some (values, behind)) :
    ∃ before', behind = before' ++ c :: more ∧ before'.length < before.length := by
  obtain ⟨d, before, rfl⟩ := List.exists_cons_of_ne_nil hbefore
  have hshorter : before.length < (d :: before).length := Nat.lt_succ_self _
  by_cases hdollar : d = '$'
  · subst hdollar
    rw [List.cons_append, rawElement?] at h
    split_ifs at h with hexpression hopens
    · obtain ⟨-, rfl⟩ := Prod.mk.inj (Option.some.inj h)
      obtain ⟨behind, hbehind⟩ := List.isPrefixOf_iff_prefix.1 hexpression
      rw [← hbehind, List.drop_left]
      rcases List.append_eq_append_iff.1 hbehind with ⟨inside, rfl, rfl⟩ | ⟨inside, hin, hmore⟩
      · refine ⟨inside, rfl, ?_⟩
        rw [List.length_cons, List.length_append]
        omega
      · cases inside with
        | nil => exact ⟨[], hmore.symm, Nat.succ_pos _⟩
        | cons e inside =>
          obtain ⟨rfl, -⟩ := List.cons.inj hmore
          exact absurd (hin ▸ by simp) hc
    · obtain ⟨-, rfl⟩ := Prod.mk.inj (Option.some.inj h)
      exact ⟨before, rfl, hshorter⟩
  · rw [List.cons_append, rawElement?] at h
    · split_ifs at h
      obtain ⟨-, rfl⟩ := Prod.mk.inj (Option.some.inj h)
      exact ⟨before, rfl, hshorter⟩
    · exact hdollar

/-- Where a reading that begins at some character ends at most three characters behind it, one that
begins in front of this character does, too. -/
lemma length_le_of_read?_append (hc : c ∉ dollarExpression)
    (hstop : ∀ values rest, raw.read? (c :: more) = some (values, rest) →
      (c :: more).length ≤ rest.length + 3)
    (h : raw.read? (before ++ c :: more) = some (values, rest)) :
    (c :: more).length ≤ rest.length + 3 := by
  -- The induction is on what stands in front of the character: each element takes some of it.
  induction hlength : before.length using Nat.strong_induction_on generalizing before values with
  | _ n ih =>
    by_cases hbefore : before = []
    · rw [hbefore, List.nil_append] at h
      exact hstop values rest h
    · rw [Reader.read?] at h
      split_ifs at h with hclosing
      · obtain ⟨-, rfl⟩ := Prod.mk.inj (Option.some.inj h)
        have hthree : raw.closing.length = 3 := rfl
        rw [List.length_drop, List.length_append, hthree]
        omega
      · split at h
        · rename_i found behind hfound
          obtain ⟨⟨values', rest'⟩, hread, heq⟩ := Option.map_eq_some_iff.1 h
          obtain ⟨-, rfl⟩ := Prod.mk.inj heq
          obtain ⟨before', rfl, hshorter⟩ := exists_of_rawElement? hc hbefore hfound
          exact ih _ (hlength ▸ hshorter) hread rfl
        · cases h

/-- A reading does not get beyond three quotes in a row. -/
lemma length_le_of_closing
    (h : raw.read? (before ++ (raw.closing ++ after)) = some (values, rest)) :
    after.length ≤ rest.length := by
  have hstop : ∀ values rest, raw.read? (raw.closing ++ after) = some (values, rest) →
      (raw.closing ++ after).length ≤ rest.length + 3 := by
    intro values rest h
    rw [Reader.read?_closing] at h
    obtain ⟨-, rfl⟩ := Prod.mk.inj (Option.some.inj h)
    exact le_rfl
  have hle : after.length + 3 ≤ rest.length + 3 :=
    length_le_of_read?_append (by decide) hstop h
  exact Nat.le_of_add_le_add_right hle

/-- A reading does not get to a carriage return. -/
lemma length_le_of_return (h : raw.read? (before ++ '\r' :: after) = some (values, rest)) :
    after.length ≤ rest.length + 2 := by
  have hstop : ∀ values rest, raw.read? ('\r' :: after) = some (values, rest) →
      ('\r' :: after).length ≤ rest.length + 3 := by
    intro values rest h
    have hclosing : ¬raw.closing.isPrefixOf ('\r' :: after) := by simp [raw]
    rw [Reader.read?, if_neg hclosing] at h
    cases h
  exact Nat.le_of_succ_le_succ (length_le_of_read?_append (by decide) hstop h)

/-- The texts with a raw form are those that a reader gives back from the raw string that they
would have. -/
lemma hasRawForm_iff_read? : HasRawForm cs ↔ ∀ rest,
    raw.read? (rawBody cs ++ (raw.closing ++ '\n' :: rest)) = some (cs, '\n' :: rest) := by
  constructor
  · exact fun h rest => read?_rawBody h _
  · intro h
    have hread := h []
    constructor
    · rintro ⟨before, after, rfl⟩
      rw [rawBody_append, rawBody_append, rawBody_closing, List.append_assoc,
        List.append_assoc] at hread
      have hle := length_le_of_closing hread
      simp [raw] at hle
    · intro hreturn
      obtain ⟨before, after, rfl⟩ := List.append_of_mem hreturn
      have hend : rawBody (before ++ '\r' :: after) ++ (raw.closing ++ ['\n']) =
          rawBody before ++ '\r' :: (rawBody after ++ (raw.closing ++ ['\n'])) := by
        rw [rawBody_append, List.append_assoc]
        rfl
      rw [hend] at hread
      have hle := length_le_of_return hread
      simp [raw] at hle
    · intro hlast
      obtain ⟨before, rfl⟩ := List.getLast?_eq_some_iff.1 hlast
      have hend : rawBody (before ++ ['"']) ++ (raw.closing ++ ['\n']) =
          rawBody before ++ (raw.closing ++ ['"', '\n']) := by
        rw [rawBody_append, List.append_assoc]
        rfl
      rw [hend] at hread
      have hle := length_le_of_closing hread
      simp at hle

/-- The ways in which a raw string has a character. -/
inductive RawWrites (c : Char) : List Char → Prop
  /-- As it is. -/
  | itself (hdollar : c ≠ '$') : RawWrites c [c]
  /-- By a substitution, in the case of a dollar sign. -/
  | dollar (hdollar : c = '$') : RawWrites c ('$' :: dollarExpression)

lemma rawWrites_rawChar (c : Char) : RawWrites c (rawChar c) := by
  unfold rawChar
  split_ifs with hdollar
  · exact .dollar hdollar
  · exact .itself hdollar

/-- The closing is the first run of three quotes behind the opening. -/
lemma rawBody_prefix_of_closing (h : HasRawForm cs)
    (heq : rawBody cs ++ (raw.closing ++ rest) = before ++ (raw.closing ++ after)) :
    rawBody cs <+: before := by
  have hread := read?_rawBody h rest
  rw [heq] at hread
  have hafter := length_le_of_closing hread
  have hlength := congrArg List.length heq
  simp only [List.length_append] at hlength
  refine List.prefix_of_prefix_length_le ⟨_, heq⟩ (List.prefix_append _ _) ?_
  omega

end RawForm

/-! ## Literals -/

/-- The ways in which an escaped literal has a character. -/
inductive Writes (c : Char) : List Char → Prop
  /-- As it is. -/
  | itself (hmark : c ∉ ['$', '"', '\\']) (hcontrol : ¬isControl c) : Writes c [c]
  /-- By a name behind a backslash. -/
  | named (name : Char) (hvalue : namedEscape? name = some c) : Writes c ['\\', name]
  /-- By the four digits of its code point. -/
  | coded (ds : List Char) (hlength : ds.length = 4) (hvalue : hexNumber? ds = some c.toNat) :
    Writes c (['\\', 'u'] ++ ds)

lemma writes_escapeChar (c : Char) : Writes c (escapeChar c) := by
  unfold escapeChar
  split_ifs with hbackslash hquote hdollar hfeed hreturn htab hback hcontrol
  · exact .named '\\' (congrArg some hbackslash.symm)
  · exact .named '"' (congrArg some hquote.symm)
  · exact .named '$' (congrArg some hdollar.symm)
  · exact .named 'n' (congrArg some hfeed.symm)
  · exact .named 'r' (congrArg some hreturn.symm)
  · exact .named 't' (congrArg some htab.symm)
  · exact .named 'b' (congrArg some hback.symm)
  · exact .coded _ rfl (hexNumber?_hexDigits4 (toNat_lt_of_isControl hcontrol))
  · exact .itself (by simp [hbackslash, hquote, hdollar]) hcontrol

section Literals

variable {cs : List Char} {text : String}

lemma text_eq_rawLiteral (hfeed : '\n' ∈ text.toList) (hform : HasRawForm text.toList) :
    Kotlin.text text = rawLiteral text := by
  rw [Kotlin.text, if_pos hfeed, raw?_eq_some_iff.2 ⟨hform, rfl⟩, Option.getD_some]

lemma text_eq_quoted (h : '\n' ∉ text.toList ∨ raw? text = none) :
    Kotlin.text text = quoted text := by
  by_cases hfeed : '\n' ∈ text.toList
  · rw [Kotlin.text, if_pos hfeed, h.resolve_left (not_not_intro hfeed), Option.getD_none]
  · exact if_neg hfeed

/-- A quote that two others do not follow opens an escaped literal. -/
lemma literal?_quote (h : ¬['"', '"'] <+: cs) : literal? ('"' :: cs) = string.read? cs := by
  rw [literal?]
  rintro more rfl
  exact h ⟨more, rfl⟩

lemma head?_escapeChar (c : Char) : ∃ d, d ≠ '"' ∧ (escapeChar c).head? = some d := by
  unfold escapeChar
  split_ifs with hbackslash hquote
  case neg => exact ⟨c, hquote, rfl⟩
  all_goals exact ⟨'\\', by decide, rfl⟩

lemma literal?_quoted (text : String) (rest : List Char) :
    literal? ((quoted text).toList ++ '\n' :: rest) = some (text.toList, '\n' :: rest) := by
  have hsource : (quoted text).toList ++ '\n' :: rest =
      '"' :: (escape text.toList ++ '"' :: '\n' :: rest) := by
    simp [quoted]
  have hopening : ¬['"', '"'] <+: escape text.toList ++ '"' :: '\n' :: rest := by
    cases text.toList with
    | nil => simp [escape]
    | cons c cs =>
      obtain ⟨d, hd, hhead⟩ := head?_escapeChar c
      obtain ⟨more, hmore⟩ := List.head?_eq_some_iff.1 hhead
      simp [escape, hmore, Ne.symm hd]
  rw [hsource, literal?_quote hopening, read?_escape readsStrings_string]

lemma literal?_rawLiteral (h : HasRawForm text.toList) (rest : List Char) :
    literal? ((rawLiteral text).toList ++ '\n' :: rest) = some (text.toList, '\n' :: rest) := by
  have hsource : (rawLiteral text).toList ++ '\n' :: rest =
      '"' :: '"' :: '"' :: (rawBody text.toList ++ (raw.closing ++ '\n' :: rest)) := by
    simp [rawLiteral, raw]
  rw [hsource, literal?, read?_rawBody h]
  simp

end Literals

/-- The literal of a text in a table. -/
structure TextReading (text : String) : Prop where
  /-- It stands behind the key of an entry, in front of the end of the line. -/
  entry : ∀ key, Phrasebook.Kotlin.tableEntry key text =
    "    localizations[" ++ quoted key ++ "] = " ++ Kotlin.text text ++ "\n"
  /-- In front of a line end it is one complete literal with the text for its value. -/
  read : ∀ rest, literal? ((Kotlin.text text).toList ++ '\n' :: rest) =
    some (text.toList, '\n' :: rest)
  /-- If the text has one line or no raw form, the literal has one escape or character for each of
  its characters, between quotes. -/
  escaped : '\n' ∉ text.toList ∨ raw? text = none → ∃ pieces,
    (Kotlin.text text).toList = '"' :: pieces.flatten ++ ['"'] ∧
      List.Forall₂ Writes text.toList pieces
  /-- Otherwise it is the raw string. -/
  raw : '\n' ∈ text.toList → raw? text ≠ none → Kotlin.text text = rawLiteral text
  /-- The raw string has no substitutions but those of dollar signs. -/
  rawBody : ∃ pieces, rawBody text.toList = pieces.flatten ∧
    List.Forall₂ RawWrites text.toList pieces
  /-- The first three quotes behind those that open the raw string are those behind the text. -/
  first : raw? text ≠ none → ∀ before after rest,
    Kotlin.rawBody text.toList ++ (Kotlin.raw.closing ++ rest) =
      before ++ (Kotlin.raw.closing ++ after) → Kotlin.rawBody text.toList <+: before
  /-- A raw form is only refused where the raw string, if the first three quotes close it, would be
  read as something else. -/
  raw?_eq_none_iff : raw? text = none ↔ ¬∀ rest,
    Kotlin.raw.read? (Kotlin.rawBody text.toList ++ (Kotlin.raw.closing ++ '\n' :: rest)) =
      some (text.toList, '\n' :: rest)

/-- The literal of a text, with the end of its line behind it, is read as this text. -/
theorem text_read_before_line_end (text : String) : TextReading text := by
  have hrefused : raw? text = none ↔ ¬HasRawForm text.toList := by
    rw [← not_iff_not, not_not, ← Ne, Option.ne_none_iff_exists']
    simp [raw?_eq_some_iff]
  have hform : raw? text ≠ none → HasRawForm text.toList := fun h => not_not.1 (mt hrefused.2 h)
  constructor
  case entry => exact fun _ => rfl
  case read =>
    intro rest
    by_cases hraw : '\n' ∈ text.toList ∧ raw? text ≠ none
    · rw [text_eq_rawLiteral hraw.1 (hform hraw.2)]
      exact literal?_rawLiteral (hform hraw.2) rest
    · rw [text_eq_quoted (by tauto)]
      exact literal?_quoted text rest
  case escaped =>
    intro h
    refine ⟨text.toList.map escapeChar, ?_, ?_⟩
    · rw [text_eq_quoted h, quoted, escape, String.toList_ofList, List.flatMap_def]
    · exact List.forall₂_map_right_iff.2 (List.forall₂_same.2 fun c _ => writes_escapeChar c)
  case rawBody =>
    refine ⟨text.toList.map rawChar, List.flatMap_def, ?_⟩
    exact List.forall₂_map_right_iff.2 (List.forall₂_same.2 fun c _ => rawWrites_rawChar c)
  case raw => exact fun hfeed h => text_eq_rawLiteral hfeed (hform h)
  case first => exact fun h _ _ _ => rawBody_prefix_of_closing (hform h)
  case raw?_eq_none_iff => rw [hrefused, hasRawForm_iff_read?]

end Phrasebook.Literal.Kotlin
