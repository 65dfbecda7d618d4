import Phrasebook.Proofs.Binding.Lookups
import Phrasebook.Proofs.Literal.SingleLine

/-!
# What JavaScript sources quote

Keys, texts of one line, ids, names of fields and tags of languages stand in JavaScript sources as
double-quoted string literals (`Js.Quotes`).  They may hold anything, what ends such a literal
included: quotes, backslashes and ends of lines.

None of that gets out of its literal (`Js.quoted_read`).  Reading the literal in front of any source
text gives back what is quoted, and stops just where the literal ends; so no literal is the
beginning of another one.  No character of a literal ends a line, not even behind a backslash.
-/

namespace Phrasebook.Js

open Literal.Js

/-! ## Places -/

/-- What is quoted in the sources, and where. -/
inductive Quotes : String → String → Prop
  /-- The fallback language, at the start of the binding. -/
  | fallback (language : String) : Quotes language (prologue language)
  /-- The key of an entry of a table. -/
  | key (key text : String) : Quotes key (tableEntry key text)
  /-- The text of an entry of a table, if it has one line. -/
  | text (key : String) {text : String} (hline : '\n' ∉ text.toList) :
    Quotes text (tableEntry key text)
  /-- The id that the function of a single text looks up. -/
  | id (function : String) (a : Address) (count : UInt64) : Quotes a.key (accessor function a count)
  /-- The ids that the function of a list looks up. -/
  | elementId (function : String) (a : Address) {length i : Nat} (hi : i < length) :
    Quotes (elementKey a.key i) (listAccessor function a length)
  /-- The name of a field, which is the name of a method. -/
  | field (a : Address) (field : String) : Quotes field (fieldAccessor a field)
  /-- The languages of the tables, at the end of the binding. -/
  | language {language : String} {languages : List String} (hl : language ∈ languages) :
    Quotes language (epilogue languages)

section Places

variable {part whole text source : String}

lemma hasPart_between (before part after : String) : HasPart part (before ++ part ++ after) :=
  ⟨before, after, rfl⟩

lemma hasPart_trans (h : HasPart part whole) (h' : HasPart whole source) : HasPart part source := by
  obtain ⟨before, after, rfl⟩ := h
  obtain ⟨before', after', rfl⟩ := h'
  exact ⟨before' ++ before, after ++ after', by simp only [String.append_assoc]⟩

lemma hasPart_of_call {call : String} (h : HasPart (call ++ part) source) :
    HasPart part source := by
  obtain ⟨before, after, rfl⟩ := h
  exact ⟨before ++ call, after, by simp only [String.append_assoc]⟩

/-- What is quoted stands in the source as a string literal. -/
lemma Quotes.hasPart (h : Quotes text source) : HasPart (quoted text) source := by
  cases h with
  | fallback =>
    have hline := hasPart_between "export const fallbackLanguage = " (quoted text) ";"
    refine hline.line ?_
    exact List.mem_cons_of_mem _ (List.mem_cons_of_mem _ (List.mem_cons_of_mem _
      List.mem_cons_self))
  | key text more =>
    have hstart := hasPart_between "    localizations[" (quoted text) "] = "
    exact (hstart.append (Literal.Js.text more)).append ";\n"
  | text key hline =>
    have htext : Literal.Js.text text = quoted text := if_neg hline
    refine ⟨"    localizations[" ++ quoted key ++ "] = ", ";\n", ?_⟩
    rw [← htext]
    rfl
  | id function a count => exact hasPart_of_call (Target.js.hasPart_accessor function count)
  | @elementId function a length i hi =>
    obtain ⟨indent, behind, hlines⟩ := Target.js.hasPart_listAccessor function length
    have hcall := hasPart_between indent
      (Target.js.lookupCall ++ Target.js.keyLiteral (elementKey a.key i)) behind
    refine hasPart_trans ((hasPart_of_call hcall).line ?_) hlines
    exact List.mem_map.2 ⟨i, List.mem_range.2 hi, rfl⟩
  | field a text =>
    have hline := hasPart_between (typeName a ++ ".prototype[") (quoted text)
      "] = function () \x7b"
    exact hline.line List.mem_cons_self
  | language hl =>
    have hstart := hasPart_between "    localizations[" (quoted text) "] = "
    refine ((hstart.append (tableFunction text)).append "();").line ?_
    simp only [List.mem_append, List.mem_map]
    exact .inl (.inr ⟨text, hl, rfl⟩)

end Places

/-! ## Reading -/

/-- The string literal of a text. -/
structure QuotedReading (text : String) : Prop where
  /-- In front of anything it is one complete literal with the text for its value. -/
  read : ∀ rest, literal? ((quoted text).toList ++ rest) = some (text.toList, rest)
  /-- None of its characters ends a line. -/
  notMem : ∀ c, isLineTerminator c → c ∉ (quoted text).toList
  /-- No literal of another text begins in the same way, and none is the same. -/
  unique : ∀ other rest rest',
    (quoted text).toList ++ rest = (quoted other).toList ++ rest' → text = other ∧ rest = rest'
  /-- Wherever the text is quoted, it is read back there, up to where the source goes on. -/
  place : ∀ source, Quotes text source → ∃ before after,
    source = before ++ quoted text ++ after ∧ ∀ rest,
      literal? ((quoted text ++ after).toList ++ rest) = some (text.toList, after.toList ++ rest)

lemma literal?_quoted (text : String) (rest : List Char) :
    literal? ((quoted text).toList ++ rest) = some (text.toList, rest) := by
  have hread := read?_escape text.toList rest
  simp [literal?, quoted, hread]

/-- A string literal is read as what is quoted, whatever source text follows. -/
theorem quoted_read (text : String) : QuotedReading text := by
  constructor
  case read => exact literal?_quoted text
  case notMem =>
    intro c hc
    have hends : ∀ c ∈ ['\n', '\r', '\u2028', '\u2029'], isSeparator c :=
      List.all_eq_true.1 (by decide)
    exact notMem_quoted (hends c (of_decide_eq_true hc)) text
  case unique =>
    intro other rest rest' h
    have hread := literal?_quoted text rest
    rw [h, literal?_quoted other rest', Option.some.injEq, Prod.mk.injEq] at hread
    exact ⟨(String.toList_inj.1 hread.1).symm, hread.2.symm⟩
  case place =>
    intro source hsource
    obtain ⟨before, after, rfl⟩ := hsource.hasPart
    refine ⟨before, after, rfl, fun rest => ?_⟩
    rw [String.toList_append, List.append_assoc]
    exact literal?_quoted text _

end Phrasebook.Js
