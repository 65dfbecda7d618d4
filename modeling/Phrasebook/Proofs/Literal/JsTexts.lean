import Phrasebook.Proofs.Literal.JsReading
import Phrasebook.Target.Js

/-!
# Texts of several lines in JavaScript tables

The text of an entry of a table is a template literal if it has several lines.  What such a literal
escapes is put together from three replacements, of backslashes, of backticks and of dollar signs
with a brace, each made in the text that the one before it leaves (`replaceAll_eq_escapeTemplate`).
They do not get into each other's way: no replacement makes a place for a later one.

So the literal is complete, and has no substitutions, in front of any source text.  Its value is the
text but for the ends of lines, which are line feeds in all template literals; it is the text if and
only if there is no carriage return in it (`template_read`, `template_not_read`).
-/

namespace Phrasebook.Literal.Js

/-! ## Replacements -/

/-- A text with each occurrence of `old`, which is not empty, replaced by `new`, from the left. -/
def replaceAll (old new : List Char) : List Char → List Char
  | [] => []
  | c :: cs =>
    if old.isPrefixOf (c :: cs) then new ++ replaceAll old new (cs.drop (old.length - 1))
    else c :: replaceAll old new cs
termination_by cs => cs.length

section Replacements

variable {old new cs : List Char} {c : Char}

lemma replaceAll_cons_of_isPrefix (h : old <+: c :: cs) :
    replaceAll old new (c :: cs) = new ++ replaceAll old new (cs.drop (old.length - 1)) := by
  rw [replaceAll, if_pos (List.isPrefixOf_iff_prefix.2 h)]

lemma replaceAll_cons_of_not_isPrefix (h : ¬old <+: c :: cs) :
    replaceAll old new (c :: cs) = c :: replaceAll old new cs := by
  rw [replaceAll, if_neg (mt List.isPrefixOf_iff_prefix.1 h)]

/-- A single character is replaced wherever it stands. -/
lemma replaceAll_singleton (d : Char) (new cs : List Char) :
    replaceAll [d] new cs = cs.flatMap fun c => if c = d then new else [c] := by
  induction cs with
  | nil => rw [replaceAll, List.flatMap_nil]
  | cons c cs ih =>
    rw [List.flatMap_cons, ← ih]
    by_cases hc : c = d
    · rw [if_pos hc, replaceAll_cons_of_isPrefix (by simp [hc])]
      rfl
    · rw [if_neg hc, replaceAll_cons_of_not_isPrefix (by simpa using Ne.symm hc)]
      rfl

/-- A character that does not begin the mark is kept. -/
lemma replaceAll_cons_of_ne {d : Char} (hc : c ≠ d) (old new cs : List Char) :
    replaceAll (d :: old) new (c :: cs) = c :: replaceAll (d :: old) new cs :=
  replaceAll_cons_of_not_isPrefix fun h => hc (List.cons_prefix_cons.1 h).1.symm

/-- What the first two replacements make of a character. -/
def markChar (c : Char) : List Char := if c = '\\' ∨ c = '\x60' then ['\\', c] else [c]

/-- Backslashes and backticks are replaced one after the other, and a backslash that comes with a
backtick is not replaced any more. -/
lemma replaceAll_marks (cs : List Char) :
    replaceAll ['\x60'] ['\\', '\x60'] (replaceAll ['\\'] ['\\', '\\'] cs) =
      cs.flatMap markChar := by
  rw [replaceAll_singleton, replaceAll_singleton, List.flatMap_assoc]
  refine congrArg (List.flatMap · cs) (funext fun c => ?_)
  by_cases hbackslash : c = '\\'
  · simp [markChar, hbackslash]
  · by_cases hbacktick : c = '\x60'
    · simp [markChar, hbacktick]
    · simp [markChar, hbackslash, hbacktick]

/-- A brace comes first after the first two replacements if it came first before. -/
lemma head?_flatMap_markChar (h : (cs.flatMap markChar).head? = some '\x7b') :
    cs.head? = some '\x7b' := by
  cases cs with
  | nil => exact h
  | cons c cs =>
    rw [List.flatMap_cons, markChar] at h
    split_ifs at h
    · exact absurd (Option.some.inj h) (by decide)
    · exact h

/-- The three replacements together. -/
lemma replaceAll_eq_escapeTemplate (cs : List Char) :
    replaceAll ['$', '\x7b'] ['\\', '$', '\x7b']
      (replaceAll ['\x60'] ['\\', '\x60'] (replaceAll ['\\'] ['\\', '\\'] cs)) =
        escapeTemplate cs := by
  rw [replaceAll_marks]
  fun_induction escapeTemplate cs with
  | case1 rest ih =>
    have hmarks : ('$' :: '\x7b' :: rest).flatMap markChar =
        '$' :: '\x7b' :: rest.flatMap markChar := by
      simp [markChar]
    rw [hmarks, replaceAll_cons_of_isPrefix (by simp), ← ih]
    rfl
  | case2 c rest hopens hmark ih =>
    have hdollar : c ≠ '$' := by
      rcases hmark with rfl | rfl <;> decide
    rw [List.flatMap_cons, markChar, if_pos hmark, List.cons_append, List.cons_append,
      List.nil_append, replaceAll_cons_of_ne (by decide), replaceAll_cons_of_ne hdollar, ih]
  | case3 c rest hopens hmark ih =>
    rw [List.flatMap_cons, markChar, if_neg hmark, List.cons_append, List.nil_append,
      replaceAll_cons_of_not_isPrefix, ih]
    rintro ⟨more, hmore⟩
    obtain ⟨rfl, hbrace⟩ := List.cons.inj hmore
    have hhead : (rest.flatMap markChar).head? = some '\x7b' := by
      rw [← hbrace]
      rfl
    obtain ⟨rest', rfl⟩ := List.head?_eq_some_iff.1 (head?_flatMap_markChar hhead)
    exact hopens rest' rfl rfl
  | case4 => rw [List.flatMap_nil, replaceAll]

end Replacements

/-! ## Template literals -/

lemma literal?_template (text : String) (rest : List Char) :
    literal? ((template text).toList ++ rest) = some (lineFeeds text.toList, rest) := by
  have hread := read?_escapeTemplate text.toList rest
  simp [literal?, template, hread]

lemma lineFeeds_eq_self_iff {cs : List Char} : lineFeeds cs = cs ↔ '\r' ∉ cs :=
  ⟨fun h => h ▸ notMem_lineFeeds cs, lineFeeds_of_notMem⟩

/-- The literal of a text of several lines in a table. -/
structure TemplateReading (text : String) : Prop where
  /-- It is a template literal, and stands behind the key of an entry. -/
  entry : ∀ key, Phrasebook.Js.tableEntry key text =
    "    localizations[" ++ quoted key ++ "] = " ++ template text ++ ";\n"
  /-- Three replacements make what stands between the backticks. -/
  replaced : template text = "`" ++ String.ofList (replaceAll ['$', '\x7b'] ['\\', '$', '\x7b']
    (replaceAll ['\x60'] ['\\', '\x60'] (replaceAll ['\\'] ['\\', '\\'] text.toList))) ++ "`"
  /-- In front of anything it is one complete literal without substitutions.  Its value is the text
  with a line feed for each end of a line. -/
  read : ∀ rest, literal? ((template text).toList ++ rest) = some (lineFeeds text.toList, rest)
  /-- This is the text itself, unless there is a carriage return in it. -/
  value_eq_iff : lineFeeds text.toList = text.toList ↔ '\r' ∉ text.toList

/-- The literal of a text of several lines is read as this text, but for its carriage returns. -/
theorem template_read {text : String} (hfeed : '\n' ∈ text.toList) : TemplateReading text := by
  constructor
  case entry =>
    intro key
    have htext : Js.text text = template text := if_pos hfeed
    rw [← htext]
    rfl
  case replaced =>
    rw [replaceAll_eq_escapeTemplate, ← String.toList_inj]
    simp [template]
  case read => exact literal?_template text
  case value_eq_iff => exact lineFeeds_eq_self_iff

/-- A text with all that is special in a template literal, and no carriage return. -/
theorem template_read_marks :
    '\n' ∈ "\\$\x7b`\n$$\x7bx\x7d\\`".toList ∧ TemplateReading "\\$\x7b`\n$$\x7bx\x7d\\`" :=
  ⟨by decide, template_read (by decide)⟩

/-- A text of two lines that a carriage return and a line feed divide: its literal is complete, but
has a line feed alone in its value. -/
theorem template_not_read :
    '\n' ∈ "a\r\nb".toList ∧
      literal? (Js.text "a\r\nb").toList = some ("a\nb".toList, []) ∧ "a\nb" ≠ "a\r\nb" := by
  have hread := literal?_template "a\r\nb" []
  rw [List.append_nil] at hread
  exact ⟨by decide, hread, by decide⟩

end Phrasebook.Literal.Js
