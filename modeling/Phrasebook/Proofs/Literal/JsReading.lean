import Phrasebook.Literal.Js
import Phrasebook.Proofs.Literal.Reading
import Phrasebook.Unicode.DecimalDigit

/-!
# How JavaScript reads literals

The elements of double-quoted string literals and of template literals, after the grammar of
ECMAScript.  An escape of half a surrogate pair has no value here, and neither has a substitution of
anything else than the index of a record.  `literal?` reads a literal that has no substitutions at
all.

* The escape of a character stands for this character, in front of any rest (`takes_escapeChar`).
* What is escaped for a template literal stands for the text with every carriage return turned into
  a line feed (`takes_escapeTemplate`), as no line end of a template literal stands for itself.
  Whether a reader knows substitutions is all the same for that (`ReadsTemplates`).
-/

namespace Phrasebook.Literal.Js

open Unicode

/-- The characters that end a line. -/
def isLineTerminator (c : Char) : Bool := c ∈ ['\n', '\r', '\u2028', '\u2029']

/-- The character that a letter behind a backslash stands for. -/
def namedEscape? : Char → Option Char
  | 'b' => some '\x08'
  | 't' => some '\t'
  | 'n' => some '\n'
  | 'v' => some '\x0b'
  | 'f' => some '\x0c'
  | 'r' => some '\r'
  | _ => none

/-- The character of a Unicode escape: its digits stand between braces, or there are four. -/
def unicodeEscape? : List Char → Option (Char × List Char)
  | '\x7b' :: cs => bracedChar? (fun ds => ds ≠ [] && '_' ∉ ds) cs
  | cs => hexChar? 4 cs

/-- What an escape stands for, read behind its backslash.  A line end behind a backslash stands for
nothing, and a character that is no escape stands for itself. -/
def escape? : List Char → Option (List Char × List Char)
  | [] => none
  | '\r' :: '\n' :: cs => some ([], cs)
  | '0' :: cs => if cs.head?.any isAsciiDigit then none else some (['\x00'], cs)
  | 'x' :: cs => (hexChar? 2 cs).map fun (c, rest) => ([c], rest)
  | 'u' :: cs => (unicodeEscape? cs).map fun (c, rest) => ([c], rest)
  | c :: cs =>
    if isLineTerminator c then some ([], cs)
    else if isAsciiDigit c then none
    else some ([(namedEscape? c).getD c], cs)

/-- An element of a double-quoted string literal. -/
def stringElement? : List Char → Option (List Char × List Char)
  | [] => none
  | '\\' :: cs => escape? cs
  | c :: cs => if isLineTerminator c then none else some ([c], cs)

/-- An element of a template literal in a method of the record `index`.  Line ends are read as line
feeds; the only substitution that is known is that of the index. -/
def templateElement? (index : Nat) : List Char → Option (List Char × List Char)
  | [] => none
  | '\\' :: cs => escape? cs
  | '$' :: '\x7b' :: cs =>
    if "this.index\x7d".toList.isPrefixOf cs then some ((toString index).toList, cs.drop 11)
    else none
  | '\r' :: '\n' :: cs => some (['\n'], cs)
  | '\r' :: cs => some (['\n'], cs)
  | c :: cs => some ([c], cs)

section Length

variable {cs values rest : List Char} {c : Char} {index : Nat}

lemma length_le_of_unicodeEscape? (h : unicodeEscape? cs = some (c, rest)) :
    rest.length ≤ cs.length := by
  unfold unicodeEscape? at h
  split at h
  · exact (length_lt_of_bracedChar? h).le.trans (Nat.le_succ _)
  · exact length_le_of_hexChar? h

lemma length_lt_of_escape? (h : escape? cs = some (values, rest)) : rest.length < cs.length := by
  unfold escape? at h
  split at h
  · exact nomatch h
  · obtain ⟨-, rfl⟩ := Prod.mk.inj (Option.some.inj h)
    simp
  · split_ifs at h
    obtain ⟨-, rfl⟩ := Prod.mk.inj (Option.some.inj h)
    simp
  · obtain ⟨⟨c, behind⟩, hchar, h⟩ := Option.map_eq_some_iff.1 h
    obtain ⟨-, rfl⟩ := Prod.mk.inj h
    exact Nat.lt_succ_of_le (length_le_of_hexChar? hchar)
  · obtain ⟨⟨c, behind⟩, hchar, h⟩ := Option.map_eq_some_iff.1 h
    obtain ⟨-, rfl⟩ := Prod.mk.inj h
    exact Nat.lt_succ_of_le (length_le_of_unicodeEscape? hchar)
  · split_ifs at h
    · obtain ⟨-, rfl⟩ := Prod.mk.inj (Option.some.inj h)
      simp
    · obtain ⟨-, rfl⟩ := Prod.mk.inj (Option.some.inj h)
      simp

lemma length_lt_of_stringElement? (h : stringElement? cs = some (values, rest)) :
    rest.length < cs.length := by
  unfold stringElement? at h
  split at h
  · exact nomatch h
  · exact (length_lt_of_escape? h).trans (Nat.lt_succ_self _)
  · split_ifs at h
    obtain ⟨-, rfl⟩ := Prod.mk.inj (Option.some.inj h)
    simp

lemma length_lt_of_templateElement? (h : templateElement? index cs = some (values, rest)) :
    rest.length < cs.length := by
  unfold templateElement? at h
  split at h
  · exact nomatch h
  · exact (length_lt_of_escape? h).trans (Nat.lt_succ_self _)
  · split_ifs at h
    obtain ⟨-, rfl⟩ := Prod.mk.inj (Option.some.inj h)
    simp
    omega
  all_goals
    obtain ⟨-, rfl⟩ := Prod.mk.inj (Option.some.inj h)
    simp

end Length

/-- The inside of a double-quoted string literal. -/
def string : Reader Char where
  closing := ['"']
  element? := stringElement?
  length_lt := length_lt_of_stringElement?

/-- The inside of a template literal in a method of the record `index`. -/
def templateOf (index : Nat) : Reader Char where
  closing := ['\x60']
  element? := templateElement? index
  length_lt := length_lt_of_templateElement?

/-- The inside of a template literal without substitutions. -/
def plainTemplate : Reader Char where
  closing := ['\x60']
  element? cs := if ['$', '\x7b'].isPrefixOf cs then none else templateElement? 0 cs
  length_lt := by
    intro cs values rest h
    split_ifs at h
    exact length_lt_of_templateElement? h

/-- The literal at the beginning of a text, and the text behind it.  A template literal with a
substitution has no value. -/
def literal? : List Char → Option (List Char × List Char)
  | '"' :: cs => string.read? cs
  | '\x60' :: cs => plainTemplate.read? cs
  | _ => none

section Escapes

variable {c : Char} {rest : List Char} {index : Nat}

/-- The first digit of a code point is no brace. -/
lemma unicodeEscape?_hexDigits4 (h : c.toNat < 0x10000) (rest : List Char) :
    unicodeEscape? (hexDigits4 c.toNat ++ rest) = some (c, rest) := by
  have hbrace : ∀ d < 16, Nat.digitChar d ≠ '\x7b' := by decide
  rw [unicodeEscape?.eq_2, hexChar?_hexDigits4 h]
  intro cs hcs
  exact hbrace _ (Nat.mod_lt _ (by decide)) (List.cons.inj hcs).1

lemma takes_escape {body values : List Char} (h : escape? (body ++ rest) = some (values, rest)) :
    string.Takes ('\\' :: body) values rest :=
  Reader.takes_of_head rfl (by simp) h

/-- An escape stands for its character, whatever follows. -/
lemma takes_escapeChar (c : Char) (rest : List Char) : string.Takes (escapeChar c) [c] rest := by
  have hcode : c.toNat < 0x10000 →
      string.Takes ('\\' :: 'u' :: hexDigits4 c.toNat) [c] rest := by
    intro h
    refine takes_escape ?_
    rw [List.cons_append, escape?, unicodeEscape?_hexDigits4 h]
    rfl
  unfold escapeChar
  split_ifs with hbackslash hquote hfeed hreturn htab hother
  · subst hbackslash
    exact takes_escape rfl
  · subst hquote
    exact takes_escape rfl
  · exact hfeed ▸ takes_escape rfl
  · exact hreturn ▸ takes_escape rfl
  · exact htab ▸ takes_escape rfl
  · refine hcode ?_
    rcases hother with rfl | rfl | hcontrol
    · decide
    · decide
    · exact toNat_lt_of_isControl hcontrol
  · simp only [not_or] at hother
    have hline : isLineTerminator c = false := by
      simp [isLineTerminator, hfeed, hreturn, hother]
    refine Reader.takes_of_head rfl (by simpa using hquote) ?_
    simp [string, stringElement?, hline]

/-- A string literal is read as its text. -/
lemma read?_escape (cs rest : List Char) :
    string.read? (escape cs ++ '"' :: rest) = some (cs, rest) :=
  (Reader.takes_flatMap takes_escapeChar cs ('"' :: rest)).read?_eq

end Escapes

/-! ### Template literals -/

/-- A text with line feeds for all its line ends, as template literals have them. -/
def lineFeeds : List Char → List Char
  | [] => []
  | '\r' :: '\n' :: cs => '\n' :: lineFeeds cs
  | c :: cs => (if c = '\r' then '\n' else c) :: lineFeeds cs

section Template

variable {c : Char} {cs rest : List Char} {index : Nat}

lemma escapeTemplate_cons (c : Char) (cs : List Char) : escapeTemplate (c :: cs) =
    (if c = '\\' ∨ c = '\x60' ∨ (c = '$' ∧ cs.head? = some '\x7b') then ['\\', c] else [c]) ++
      escapeTemplate cs := by
  by_cases hopens : c = '$' ∧ cs.head? = some '\x7b'
  · obtain ⟨rfl, hhead⟩ := hopens
    obtain ⟨cs, rfl⟩ := List.head?_eq_some_iff.1 hhead
    simp [escapeTemplate]
  · rw [escapeTemplate]
    · by_cases hmark : c = '\\' ∨ c = '\x60'
      · simp [hmark, ← or_assoc]
      · simp [hmark, hopens]
    · rintro cs' rfl rfl
      exact hopens ⟨rfl, rfl⟩

/-- What is escaped begins as the text does, or with a backslash. -/
lemma head?_escapeTemplate_append (cs rest : List Char) :
    (escapeTemplate cs ++ rest).head? = (cs ++ rest).head? ∨
      (escapeTemplate cs ++ rest).head? = some '\\' := by
  cases cs with
  | nil => exact .inl rfl
  | cons c cs =>
    rw [escapeTemplate_cons]
    split_ifs
    · exact .inr rfl
    · exact .inl rfl

lemma head?_escapeTemplate_append_ne {d : Char} (hd : d ≠ '\\') (h : (cs ++ rest).head? ≠ some d) :
    (escapeTemplate cs ++ rest).head? ≠ some d := by
  rcases head?_escapeTemplate_append cs rest with hhead | hhead
  · rwa [hhead]
  · rw [hhead]
    simpa using Ne.symm hd

/-- A reader of template literals.  Readers differ in the substitutions that they know. -/
structure ReadsTemplates (r : Reader Char) : Prop where
  /-- A backtick closes the literal. -/
  closing : r.closing = ['\x60']
  /-- What opens no substitution is read in the same way by all of them. -/
  element? : ∀ {cs}, ¬['$', '\x7b'] <+: cs → r.element? cs = templateElement? 0 cs

lemma readsTemplates_templateOf (index : Nat) : ReadsTemplates (templateOf index) where
  closing := rfl
  element? := by
    intro cs hopens
    change templateElement? index cs = templateElement? 0 cs
    unfold templateElement?
    split
    case h_3 => exact absurd (by simp) hopens
    all_goals rfl

lemma readsTemplates_plainTemplate : ReadsTemplates plainTemplate where
  closing := rfl
  element? hopens := if_neg (by rwa [List.isPrefixOf_iff_prefix])

variable {r : Reader Char}

/-- An element of a template literal that is none of its closing, and no substitution. -/
lemma takes_template (hr : ReadsTemplates r) {body values : List Char}
    (hclosing : (body ++ rest).head? ≠ some '\x60') (hopens : ¬['$', '\x7b'] <+: body ++ rest)
    (h : templateElement? 0 (body ++ rest) = some (values, rest)) : r.Takes body values rest :=
  Reader.takes_of_head hr.closing hclosing ((hr.element? hopens).trans h)

/-- A character that stands for itself. -/
lemma takes_template_char (hr : ReadsTemplates r) (hmark : c ≠ '\x60' ∧ c ≠ '\\' ∧ c ≠ '\r')
    (hdollar : c = '$' → rest.head? ≠ some '\x7b') : r.Takes [c] [c] rest := by
  have hopens : ¬['$', '\x7b'] <+: [c] ++ rest := by
    rintro ⟨more, hmore⟩
    obtain ⟨rfl, rfl⟩ := List.cons.inj hmore
    exact hdollar rfl rfl
  refine takes_template hr (by simpa using hmark.1) hopens ?_
  rw [List.singleton_append, templateElement?]
  · exact hmark.2.1
  · rintro cs rfl rfl
    exact hdollar rfl rfl
  · rintro cs rfl rfl
    exact hmark.2.2 rfl
  · exact hmark.2.2

/-- The substitution of the index. -/
lemma takes_template_index (index : Nat) (rest : List Char) : (templateOf index).Takes
    "$\x7bthis.index\x7d".toList (toString index).toList rest :=
  Reader.takes_of_head rfl (by simp) rfl

/-- What is escaped for a template literal stands for the text with line feeds for its line ends,
in front of anything that does not begin with a brace or a line feed. -/
lemma takes_escapeTemplate (hr : ReadsTemplates r) (cs : List Char)
    (hbrace : rest.head? ≠ some '\x7b') (hfeed : rest.head? ≠ some '\n') :
    r.Takes (escapeTemplate cs) (lineFeeds cs) rest := by
  fun_induction lineFeeds cs with
  | case1 => exact .nil
  | case2 cs ih =>
    have hescaped : escapeTemplate ('\r' :: '\n' :: cs) = ['\r', '\n'] ++ escapeTemplate cs := by
      simp [escapeTemplate_cons]
    have hend : r.Takes ['\r', '\n'] ['\n'] (escapeTemplate cs ++ rest) :=
      takes_template hr (by simp) (by simp) rfl
    rw [hescaped]
    exact hend.append ih
  | case3 c cs hpair ih =>
    have hhead : ∀ d, rest.head? ≠ some d → (cs.head? ≠ some d) → d ≠ '\\' →
        (escapeTemplate cs ++ rest).head? ≠ some d := by
      intro d hrest hcs hd
      refine head?_escapeTemplate_append_ne hd ?_
      rw [List.head?_append]
      cases cs with
      | nil => exact hrest
      | cons c cs => exact hcs
    have hchar : r.Takes
        (if c = '\\' ∨ c = '\x60' ∨ (c = '$' ∧ cs.head? = some '\x7b') then ['\\', c] else [c])
        [if c = '\r' then '\n' else c] (escapeTemplate cs ++ rest) := by
      by_cases hreturn : c = '\r'
      · subst hreturn
        have hnext : cs.head? ≠ some '\n' := by
          intro h
          obtain ⟨cs', rfl⟩ := List.head?_eq_some_iff.1 h
          exact hpair cs' rfl rfl
        refine takes_template hr (by simp) (by simp) ?_
        rw [if_neg (by simp), List.singleton_append, templateElement?.eq_5, if_pos rfl]
        rintro cs' hcs'
        exact hhead '\n' hfeed hnext (by decide) (hcs' ▸ rfl)
      · rw [if_neg hreturn]
        split_ifs with hescape
        · refine takes_template hr (by simp) (by simp) ?_
          rcases hescape with rfl | rfl | ⟨rfl, -⟩ <;> rfl
        · simp only [not_or, not_and] at hescape
          refine takes_template_char hr ⟨hescape.2.1, hescape.1, hreturn⟩ fun hdollar => ?_
          exact hhead '\x7b' hbrace (hescape.2.2 hdollar) (by decide)
    rw [escapeTemplate_cons]
    exact hchar.append ih

/-- A template literal without substitutions is read as its text, with line feeds for its line
ends. -/
lemma read?_escapeTemplate (cs rest : List Char) :
    plainTemplate.read? (escapeTemplate cs ++ '\x60' :: rest) = some (lineFeeds cs, rest) := by
  have htakes : plainTemplate.Takes (escapeTemplate cs) (lineFeeds cs) ('\x60' :: rest) :=
    takes_escapeTemplate readsTemplates_plainTemplate cs (by simp) (by simp)
  exact htakes.read?_eq

lemma notMem_lineFeeds (cs : List Char) : '\r' ∉ lineFeeds cs := by
  fun_induction lineFeeds cs with
  | case1 => exact List.not_mem_nil
  | case2 cs ih => simp [ih]
  | case3 c cs _ ih =>
    rw [List.mem_cons, not_or]
    refine ⟨?_, ih⟩
    split_ifs with hc
    · decide
    · exact Ne.symm hc

lemma lineFeeds_of_notMem (h : '\r' ∉ cs) : lineFeeds cs = cs := by
  fun_induction lineFeeds cs with
  | case1 => rfl
  | case2 cs ih => exact absurd List.mem_cons_self h
  | case3 c cs _ ih =>
    rw [List.mem_cons, not_or] at h
    rw [ih h.2, if_neg (Ne.symm h.1)]

end Template

end Phrasebook.Literal.Js
