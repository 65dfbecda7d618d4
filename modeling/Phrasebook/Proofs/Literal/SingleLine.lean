import Phrasebook.Literal.Js
import Phrasebook.Literal.Kotlin
import Phrasebook.Literal.Rust
import Phrasebook.Proofs.Literal.Reading

/-!
# Quoted literals stay on one line

Whatever a text holds, its quoted literal has no control character: the escape of every character
is free of them, that of a control character included.  JavaScript literals have no line separators
either, and Rust literals nothing that cannot be shown.  So a line of generated code that holds a
quoted literal is one line.
-/

namespace Phrasebook.Literal

open Unicode

-- The test is run on the characters of the text; a statement about all of them would be decided
-- over the whole type `Char`.
/-- A text in which no character passes a test does not have one that does. -/
lemma notMem_of_any {p : Char → Bool} {d : Char} (hd : p d) {cs : List Char}
    (h : cs.any p = false) : d ∉ cs :=
  fun hmem => List.any_eq_false.1 h d hmem hd

/-- A literal has no character that is in no escape. -/
lemma notMem_of_escapes {escape : Char → List Char} {d : Char} (hquote : d ≠ '"')
    (h : ∀ c, d ∉ escape c) (text : String) :
    d ∉ (String.ofList ('"' :: text.toList.flatMap escape ++ ['"'])).toList := by
  have hbody : d ∉ text.toList.flatMap escape := by
    intro hx
    obtain ⟨c, -, hx⟩ := List.mem_flatMap.1 hx
    exact h c hx
  simp [hbody, hquote]

/-! ## JavaScript -/

/-- Whether the character is a control character or a line separator. -/
def Js.isSeparator (c : Char) : Bool := c = '\u2028' || c = '\u2029' || isControl c

lemma Js.notMem_escapeChar {d : Char} (hd : Js.isSeparator d) (c : Char) :
    d ∉ Js.escapeChar c := by
  have hdigit : ∀ k < 16, ¬Js.isSeparator (Nat.digitChar k) := by decide
  have hdigits : d ∉ hexDigits4 c.toNat :=
    notMem_hexDigits4 (fun k hk h => hdigit k hk (h ▸ hd)) _
  unfold Js.escapeChar
  split_ifs with hbackslash hquote hfeed hreturn htab hother
  · exact notMem_of_any hd (by decide)
  · exact notMem_of_any hd (by decide)
  · exact notMem_of_any hd (by decide)
  · exact notMem_of_any hd (by decide)
  · exact notMem_of_any hd (by decide)
  · have hopening : d ∉ ['\\', 'u'] := notMem_of_any hd (by decide)
    exact List.not_mem_append hopening hdigits
  · refine notMem_of_any hd ?_
    simpa [Js.isSeparator, and_assoc] using hother

lemma Js.notMem_quoted {d : Char} (hd : Js.isSeparator d) (text : String) :
    d ∉ (Js.quoted text).toList := by
  have hquote : d ≠ '"' := by
    rintro rfl
    exact absurd hd (by decide)
  exact notMem_of_escapes hquote (Js.notMem_escapeChar hd) text

lemma Js.lineFeed_notMem_quoted (text : String) : '\n' ∉ (Js.quoted text).toList :=
  Js.notMem_quoted (by decide) text

/-! ## Kotlin -/

lemma Kotlin.notMem_escapeChar {d : Char} (hd : isControl d) (c : Char) :
    d ∉ Kotlin.escapeChar c := by
  have hdigit : ∀ k < 16, ¬isControl (Nat.digitChar k) := by decide
  have hdigits : d ∉ hexDigits4 c.toNat :=
    notMem_hexDigits4 (fun k hk h => hdigit k hk (h ▸ hd)) _
  unfold Kotlin.escapeChar
  split_ifs with hbackslash hquote hdollar hfeed hreturn htab hback hcontrol
  · exact notMem_of_any hd (by decide)
  · exact notMem_of_any hd (by decide)
  · exact notMem_of_any hd (by decide)
  · exact notMem_of_any hd (by decide)
  · exact notMem_of_any hd (by decide)
  · exact notMem_of_any hd (by decide)
  · exact notMem_of_any hd (by decide)
  · have hopening : d ∉ ['\\', 'u'] := notMem_of_any hd (by decide)
    exact List.not_mem_append hopening hdigits
  · refine notMem_of_any hd ?_
    simpa using hcontrol

lemma Kotlin.lineFeed_notMem_quoted (text : String) : '\n' ∉ (Kotlin.quoted text).toList :=
  notMem_of_escapes (by decide) (Kotlin.notMem_escapeChar (by decide)) text

/-! ## Rust -/

lemma Rust.notMem_escapeChar {d : Char} (hd : !isPrintable d) (c : Char) :
    d ∉ Rust.escapeChar c := by
  have hplain : ∀ {cs : List Char}, (cs.any fun e => !isPrintable e) = false → d ∉ cs :=
    notMem_of_any (p := fun e => !isPrintable e) hd
  have hdigit : ∀ k < 16, ¬(!isPrintable (Nat.digitChar k)) := by decide
  have hdigits : d ∉ hexDigits c.toNat :=
    notMem_hexDigits (fun k hk h => hdigit k hk (h ▸ hd)) _
  unfold Rust.escapeChar
  split_ifs with hnull htab hreturn hfeed hquote hbackslash hcode
  · exact hplain (by decide)
  · exact hplain (by decide)
  · exact hplain (by decide)
  · exact hplain (by decide)
  · exact hplain (by decide)
  · exact hplain (by decide)
  · have hopening : d ∉ ['\\', 'u', '\x7b'] := hplain (by decide)
    have hclosing : d ∉ ['\x7d'] := hplain (by decide)
    exact List.not_mem_append (List.not_mem_append hopening hdigits) hclosing
  · rw [not_or, not_not] at hcode
    refine hplain ?_
    simp [hcode.2]

lemma Rust.notMem_quoted {d : Char} (hd : !isPrintable d) (text : String) :
    d ∉ (Rust.quoted text).toList := by
  have hquote : d ≠ '"' := by
    rintro rfl
    exact absurd hd (by decide)
  exact notMem_of_escapes hquote (Rust.notMem_escapeChar hd) text

lemma Rust.lineFeed_notMem_quoted (text : String) : '\n' ∉ (Rust.quoted text).toList :=
  Rust.notMem_quoted (by decide) text

end Phrasebook.Literal
