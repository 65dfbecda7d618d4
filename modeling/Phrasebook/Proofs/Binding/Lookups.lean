import Phrasebook.Proofs.Binding.SameContent
import Phrasebook.Proofs.Literal.JsReading
import Phrasebook.Proofs.Literal.KotlinReading
import Phrasebook.Proofs.Literal.RustReading

/-!
# What accessors look up

An accessor finds its text by an expression for the id: a string literal, or, in a method of a
record, an expression that the index of the record goes into.  `Target.evaluate?` evaluates such
expressions as the language of the target does, with the literals read as it reads them.

The expressions are made from names that may hold anything: quotes, backslashes, dollar signs,
braces, backticks, control characters.  Nearly all of that comes back (`Target.idsOf_spec`).  The
ids of single texts and of the elements of lists do always, and so do those of fields in Kotlin and
in Rust.  In JavaScript the id of a field is a template literal, which has a carriage return of the
key or the field as it is, and a template literal has line feeds for carriage returns.  Such a field
is looked up under an id with a line feed (`Tree.exists_fieldId_not_filed`).
-/

namespace Phrasebook

open Spelling

/-! ## Formatting -/

namespace Rust

/-- An argument of `format!` in a method of the record `index`, and the text behind it: a string
literal or the field with the index. -/
def argument? (index : Nat) : List Char → Option (List Char × List Char)
  | '"' :: cs => Literal.Rust.string.read? cs
  | cs =>
    if "self.index".toList.isPrefixOf cs then some ((toString index).toList, cs.drop 10) else none

lemma length_le_of_argument? {index : Nat} {cs value rest : List Char}
    (h : argument? index cs = some (value, rest)) : rest.length ≤ cs.length := by
  unfold argument? at h
  split at h
  · exact (Literal.Reader.length_le_of_read? h).trans (Nat.le_succ _)
  · split_ifs at h
    obtain ⟨-, rfl⟩ := Prod.mk.inj (Option.some.inj h)
    simp

/-- The arguments behind a format string. -/
def argumentsOf (index : Nat) : Literal.Reader (List Char) where
  closing := [')']
  element?
    | ',' :: ' ' :: cs => (argument? index cs).map fun (value, rest) => ([value], rest)
    | _ => none
  length_lt := by
    intro cs values rest h
    split at h
    · obtain ⟨⟨value, behind⟩, hvalue, h⟩ := Option.map_eq_some_iff.1 h
      obtain ⟨-, rfl⟩ := Prod.mk.inj h
      exact (Nat.lt_succ_of_le (length_le_of_argument? hvalue)).trans (Nat.lt_succ_self _)
    · exact nomatch h

/-- What a format string gives for its arguments: each pair of braces gives way to the next of them,
and a doubled brace is a brace. -/
def format? : List Char → List (List Char) → Option (List Char)
  | [], [] => some []
  | [], _ :: _ => none
  | '\x7b' :: '\x7b' :: cs, args => (format? cs args).map ('\x7b' :: ·)
  | '\x7d' :: '\x7d' :: cs, args => (format? cs args).map ('\x7d' :: ·)
  | '\x7b' :: '\x7d' :: cs, arg :: args => (format? cs args).map (arg ++ ·)
  | c :: cs, args =>
    if c = '\x7b' ∨ c = '\x7d' then none else (format? cs args).map (c :: ·)

/-- The value of a `format!`, read behind the quote that opens its format string, and the text
behind it. -/
def formatted? (index : Nat) (cs : List Char) : Option (List Char × List Char) := do
  let (form, rest) ← Literal.Rust.string.read? cs
  let (args, rest) ← (argumentsOf index).read? rest
  let value ← format? form args
  some (value, rest)

end Rust

/-! ## Expressions for ids -/

namespace Target

/-- The value of an expression for an id in a method of the record `index`, and the text behind
it. -/
def evaluate? (target : Target) (index : Nat) (cs : List Char) : Option (String × List Char) :=
  let value? :=
    match target, cs with
    | .js, '"' :: cs => Literal.Js.string.read? cs
    | .js, '\x60' :: cs => (Literal.Js.templateOf index).read? cs
    | .kotlin, '"' :: cs => (Literal.Kotlin.stringOf index).read? cs
    | .rust, '"' :: cs => Literal.Rust.string.read? cs
    | .rust, cs =>
      if "&format!(\"".toList.isPrefixOf cs then Rust.formatted? index (cs.drop 10) else none
    | _, _ => none
  value?.map fun (value, rest) => (String.ofList value, rest)

/-- The call that looks a text up, in front of the id. -/
def lookupCall : Target → String
  | .js | .kotlin => "getString("
  | .rust => "get_string("

/-- The expression for the id of a field. -/
def fieldExpression : Target → Address → String → String
  | .js => Js.fieldLookup
  | .kotlin => Kotlin.fieldLookup
  | .rust => Rust.fieldLookup

/-- The id under which the method of a field looks its text up. -/
def fieldId (target : Target) (a : Address) (index : Nat) (field : String) : String :=
  match target with
  | .js =>
    let read (s : String) := String.ofList (Literal.Js.lineFeeds s.toList)
    fieldKey (read a.key) index (read field)
  | .kotlin | .rust => fieldKey a.key index field

section Evaluate

variable {target : Target} {a : Address} {index : Nat} {field : String}

lemma evaluate?_keyLiteral (target : Target) (index : Nat) (key : String) (rest : List Char) :
    target.evaluate? index ((target.keyLiteral key).toList ++ rest) = some (key, rest) := by
  cases target with
  | js =>
    have hread := Literal.Js.read?_escape key.toList rest
    simp [evaluate?, keyLiteral, Literal.Js.quoted, hread]
  | kotlin =>
    have hread :=
      Literal.Kotlin.read?_escape (Literal.Kotlin.readsStrings_stringOf index) key.toList rest
    simp [evaluate?, keyLiteral, Literal.Kotlin.quoted, hread]
  | rust =>
    have hread := Literal.Rust.read?_escape key.toList rest
    simp [evaluate?, keyLiteral, Literal.Rust.quoted, hread]

/-- The parts of an id make up the key of a field. -/
lemma ofList_fieldKey (key field : List Char) (index : Nat) :
    String.ofList (key ++ (['.'] ++ ((toString index).toList ++ (['.'] ++ field)))) =
      fieldKey (String.ofList key) index (String.ofList field) := by
  rw [← String.toList_inj, toList_fieldKey]
  simp

lemma evaluate?_js_fieldLookup (a : Address) (index : Nat) (field : String) (rest : List Char) :
    Target.js.evaluate? index ((Js.fieldLookup a field).toList ++ rest) =
      some (Target.js.fieldId a index field, rest) := by
  have hreads := Literal.Js.readsTemplates_templateOf index
  have hdot : ∀ rest, (Literal.Js.templateOf index).Takes ['.'] ['.'] rest := fun rest =>
    Literal.Js.takes_template_char hreads (by decide) fun h => nomatch h
  have hfield : (Literal.Js.templateOf index).Takes (Literal.Js.escapeTemplate field.toList)
      (Literal.Js.lineFeeds field.toList) ((Literal.Js.templateOf index).closing ++ rest) :=
    Literal.Js.takes_escapeTemplate hreads _ (by simp [Literal.Js.templateOf])
      (by simp [Literal.Js.templateOf])
  have hplace := (hdot _).append ((Literal.Js.takes_template_index index _).append
    ((hdot _).append hfield))
  have hkey : ∀ rest, (Literal.Js.templateOf index).Takes
      (Literal.Js.escapeTemplate a.key.toList) (Literal.Js.lineFeeds a.key.toList)
      ('.' :: rest) := fun rest => Literal.Js.takes_escapeTemplate hreads _ (by simp) (by simp)
  have hread := ((hkey _).append hplace).read?_eq
  have htext : (Js.fieldLookup a field).toList ++ rest = '\x60' ::
      (Literal.Js.escapeTemplate a.key.toList ++ (['.'] ++ ("$\x7bthis.index\x7d".toList ++
        (['.'] ++ Literal.Js.escapeTemplate field.toList))) ++
          ((Literal.Js.templateOf index).closing ++ rest)) := by
    simp [Js.fieldLookup, Js.templateText, Literal.Js.templateOf]
  simp only [htext, evaluate?, hread, Option.map_some, ofList_fieldKey, fieldId]

lemma evaluate?_kotlin_fieldLookup (a : Address) (index : Nat) (field : String)
    (rest : List Char) :
    Target.kotlin.evaluate? index ((Kotlin.fieldLookup a field).toList ++ rest) =
      some (fieldKey a.key index field, rest) := by
  have hreads := Literal.Kotlin.readsStrings_stringOf index
  have hdot : ∀ rest, (Literal.Kotlin.stringOf index).Takes ['.'] ['.'] rest :=
    Literal.Kotlin.takes_escapeChar hreads '.'
  have hstop : Unicode.isXidContinue '.' = false := by decide
  have hfield := Literal.Kotlin.takes_escape hreads field.toList
    ((Literal.Kotlin.stringOf index).closing ++ rest)
  have hindex : ∀ rest, (Literal.Kotlin.stringOf index).Takes "$index".toList
      (toString index).toList ('.' :: rest) := fun rest =>
    Literal.Kotlin.takes_index index (by simp [hstop])
  have hplace := (hdot _).append ((hindex _).append ((hdot _).append hfield))
  have hread := ((Literal.Kotlin.takes_escape hreads a.key.toList _).append hplace).read?_eq
  have htext : (Kotlin.fieldLookup a field).toList ++ rest = '"' ::
      (Literal.Kotlin.escape a.key.toList ++ (['.'] ++ ("$index".toList ++
        (['.'] ++ Literal.Kotlin.escape field.toList))) ++
          ((Literal.Kotlin.stringOf index).closing ++ rest)) := by
    simp [Kotlin.fieldLookup, Literal.Kotlin.escaped, Literal.Kotlin.stringOf]
  simp only [htext, evaluate?, hread, Option.map_some, ofList_fieldKey, String.ofList_toList]

/-- An argument behind others. -/
lemma takes_argument {body value rest : List Char}
    (h : Rust.argument? index (body ++ rest) = some (value, rest)) :
    (Rust.argumentsOf index).Takes ([',', ' '] ++ body) [value] rest := by
  refine Literal.Reader.takes_of_element? (by simp [Rust.argumentsOf]) ?_
  rw [List.append_assoc]
  simp [Rust.argumentsOf, h]

lemma argument?_quoted (index : Nat) (s : String) (rest : List Char) :
    Rust.argument? index ((Literal.Rust.quoted s).toList ++ rest) = some (s.toList, rest) := by
  have hread := Literal.Rust.read?_escape s.toList rest
  simp [Rust.argument?, Literal.Rust.quoted, hread]

/-- The format string of an id, between its quotes. -/
def idForm : List Char := ['\x7b', '\x7d', '.', '\x7b', '\x7d', '.', '\x7b', '\x7d']

/-- What the format string of an id is given, behind it. -/
def idArguments (a : Address) (field : String) : List Char :=
  [',', ' '] ++ (Literal.Rust.quoted a.key).toList ++ ([',', ' '] ++ "self.index".toList ++
    ([',', ' '] ++ (Literal.Rust.quoted field).toList))

lemma read?_idForm (rest : List Char) :
    Literal.Rust.string.read? (idForm ++ '"' :: rest) = some (idForm, rest) := by
  have hplain : idForm.flatMap Literal.Rust.escapeChar = idForm := by decide +kernel
  have hread := Literal.Rust.read?_escape idForm rest
  rwa [hplain] at hread

lemma read?_idArguments (a : Address) (index : Nat) (field : String) (rest : List Char) :
    (Rust.argumentsOf index).read? (idArguments a field ++ ')' :: rest) =
      some ([a.key.toList, (toString index).toList, field.toList], rest) := by
  have hindex : ∀ rest, Rust.argument? index ("self.index".toList ++ rest) =
      some ((toString index).toList, rest) := fun rest => by
    simp [Rust.argument?]
  exact ((takes_argument (argument?_quoted index a.key _)).append
    ((takes_argument (hindex _)).append (takes_argument (argument?_quoted index field
      ((Rust.argumentsOf index).closing ++ rest))))).read?_eq

lemma format?_idForm (key index field : List Char) :
    Rust.format? idForm [key, index, field] =
      some (key ++ (['.'] ++ (index ++ (['.'] ++ field)))) := by
  have hpieces : Rust.format? idForm [key, index, field] =
      some (key ++ (['.'] ++ (index ++ (['.'] ++ (field ++ []))))) := rfl
  rw [hpieces, List.append_nil]

lemma evaluate?_rust_fieldLookup (a : Address) (index : Nat) (field : String)
    (rest : List Char) :
    Target.rust.evaluate? index ((Rust.fieldLookup a field).toList ++ rest) =
      some (fieldKey a.key index field, rest) := by
  have htext : (Rust.fieldLookup a field).toList ++ rest = "&format!(\"".toList ++
      (idForm ++ '"' :: (idArguments a field ++ ')' :: rest)) := by
    have hstart : "&format!(\"\x7b\x7d.\x7b\x7d.\x7b\x7d\", ".toList =
        "&format!(\"".toList ++ (idForm ++ ['"', ',', ' ']) := by
      rw [idForm]
      decide +kernel
    have hmiddle : ", self.index, ".toList =
        [',', ' '] ++ ("self.index".toList ++ [',', ' ']) := by decide +kernel
    unfold Rust.fieldLookup idArguments
    simp only [String.toList_append, hstart, hmiddle, List.append_assoc, List.cons_append,
      List.nil_append]
    rfl
  have hopening : ∀ cs, Target.rust.evaluate? index ("&format!(\"".toList ++ cs) =
      (Rust.formatted? index cs).map fun (value, rest) => (String.ofList value, rest) :=
    fun _ => rfl
  simp only [htext, hopening, Rust.formatted?, read?_idForm, read?_idArguments, format?_idForm,
    Option.bind_eq_bind, Option.bind_some, Option.map_some, ofList_fieldKey, String.ofList_toList]

lemma evaluate?_fieldExpression (target : Target) (a : Address) (index : Nat) (field : String)
    (rest : List Char) :
    target.evaluate? index ((target.fieldExpression a field).toList ++ rest) =
      some (target.fieldId a index field, rest) := by
  cases target with
  | js => exact evaluate?_js_fieldLookup a index field rest
  | kotlin => exact evaluate?_kotlin_fieldLookup a index field rest
  | rust => exact evaluate?_rust_fieldLookup a index field rest

/-- Only a carriage return keeps the id of a field from being its key. -/
lemma fieldId_eq_fieldKey_iff : target.fieldId a index field = fieldKey a.key index field ↔
    (target = .js → '\r' ∉ a.key.toList ∧ '\r' ∉ field.toList) := by
  cases target with
  | kotlin | rust => simp [fieldId]
  | js =>
    simp only [fieldId, forall_const]
    constructor
    · intro h
      have hread := congrArg String.toList h
      rw [toList_fieldKey, toList_fieldKey, String.toList_ofList, String.toList_ofList] at hread
      have hdigits : '\r' ∉ Nat.toDigits 10 index := by
        intro hmem
        exact absurd (Nat.isDigit_of_mem_toDigits (by decide) (by decide) hmem) (by decide)
      have hno : '\r' ∉ a.key.toList ++ '.' :: (Nat.toDigits 10 index ++ '.' :: field.toList) := by
        rw [← hread]
        simp [Literal.Js.notMem_lineFeeds, hdigits]
      simp only [List.mem_append, List.mem_cons, not_or] at hno
      exact ⟨hno.1, hno.2.2.2.2⟩
    · rintro ⟨hkey, hfield⟩
      rw [Literal.Js.lineFeeds_of_notMem hkey, Literal.Js.lineFeeds_of_notMem hfield,
        String.ofList_toList, String.ofList_toList]

end Evaluate

/-! ## Accessors -/

end Target

/-- The text has this part. -/
def HasPart (part text : String) : Prop := ∃ before after, text = before ++ part ++ after

section HasPart

variable {part s l opening call : String} {ls : List String}

lemma HasPart.append (h : HasPart part s) (after : String) : HasPart part (s ++ after) := by
  obtain ⟨before, after', rfl⟩ := h
  exact ⟨before, after' ++ after, String.append_assoc⟩

lemma HasPart.behind (h : HasPart part s) (before : String) : HasPart part (before ++ s) := by
  obtain ⟨before', after, rfl⟩ := h
  exact ⟨before ++ before', after, by simp only [String.append_assoc]⟩

lemma HasPart.line (h : HasPart part l) (hl : l ∈ ls) : HasPart part (lines ls) := by
  obtain ⟨above, below, rfl⟩ := List.append_of_mem hl
  rw [lines_append, lines_cons]
  exact ((h.append "\n").append _).behind _

lemma hasPart_lines (above ls below : List String) :
    HasPart (lines ls) (lines (above ++ ls ++ below)) :=
  ⟨lines above, lines below, by rw [lines_append, lines_append]⟩

lemma call_eq {before : String} (h : opening = before ++ call) (x after : String) :
    before ++ (call ++ x) ++ after = opening ++ x ++ after := by
  rw [h]
  simp only [String.append_assoc]

/-- A call with its argument is where it is opened. -/
lemma hasPart_call (before : String) (h : opening = before ++ call) (x : String) :
    HasPart (call ++ x) (opening ++ x) :=
  ⟨before, "", by rw [h, String.append_empty, String.append_assoc]⟩

/-- The first of several arguments is where the call is opened. -/
lemma hasPart_arguments (before : String) (h : opening = before ++ call) (s x : String)
    (xs : List String) : HasPart (call ++ x) (opening ++ s.intercalate (x :: xs)) := by
  cases xs with
  | nil => exact hasPart_call before h x
  | cons y ys =>
    rw [String.intercalate_cons_of_ne_nil (List.cons_ne_nil _ _), String.append_assoc,
      ← String.append_assoc]
    exact (hasPart_call before h x).append _

end HasPart

namespace Target

/-- The ids that the accessors of an address look up. -/
structure IdsOf (target : Target) (a : Address) : Prop where
  /-- The accessor of a single text has one literal. -/
  accessor : ∀ function count, HasPart (target.lookupCall ++ target.keyLiteral a.key)
    (target.dialect.accessor function a count)
  /-- The accessor of a list has a line with a literal for each element, in order. -/
  listAccessor : ∀ function length, ∃ indent behind,
    HasPart (lines ((List.range length).map fun i =>
      indent ++ (target.lookupCall ++ target.keyLiteral (elementKey a.key i)) ++ behind))
      (target.dialect.listAccessor function a length)
  /-- The method of a field has one expression. -/
  fieldAccessor : ∀ field, HasPart (target.lookupCall ++ target.fieldExpression a field)
    (target.dialect.fieldAccessor a field)
  /-- A literal has its key for its value, whatever follows. -/
  key : ∀ index rest, target.evaluate? index ((target.keyLiteral a.key).toList ++ rest) =
    some (a.key, rest)
  /-- So have the literals of elements. -/
  element : ∀ i index rest,
    target.evaluate? index ((target.keyLiteral (elementKey a.key i)).toList ++ rest) =
      some (elementKey a.key i, rest)
  /-- The expression of a field has the id for its value. -/
  field : ∀ field index rest,
    target.evaluate? index ((target.fieldExpression a field).toList ++ rest) =
      some (target.fieldId a index field, rest)
  /-- The id is the key of the field, unless a template literal has a carriage return in it. -/
  fieldId_eq_iff : ∀ field index, target.fieldId a index field = fieldKey a.key index field ↔
    (target = .js → '\r' ∉ a.key.toList ∧ '\r' ∉ field.toList)

section IdsOf

variable {target : Target} {a : Address} {field : String}

lemma hasPart_accessor (function : String) (count : UInt64) :
    HasPart (target.lookupCall ++ target.keyLiteral a.key)
      (target.dialect.accessor function a count) := by
  cases target with
  | js =>
    have hopening : "    return getString(" = "    return " ++ "getString(" := rfl
    have hcall := hasPart_arguments _ hopening ", " (Literal.Js.quoted a.key) (parameters count)
    exact (hcall.append ");").line (List.mem_cons_of_mem _ List.mem_cons_self)
  | kotlin =>
    have hopening : ∀ front : String,
        front ++ "): String = getString(" = front ++ "): String = " ++ "getString(" := fun front =>
      String.append_assoc ▸ rfl
    have hcall := fun front => hasPart_arguments _ (hopening front) ", "
      (Literal.Kotlin.quoted a.key) (parameters count)
    exact ((hcall _).append ")").line List.mem_cons_self
  | rust =>
    have hopening : "    get_string(" = "    " ++ "get_string(" := rfl
    have hcall := hasPart_call _ hopening (Literal.Rust.quoted a.key)
    exact (((hcall.append ", &[").append _).append "])").line
      (List.mem_cons_of_mem _ List.mem_cons_self)

lemma hasPart_listAccessor (function : String) (length : Nat) : ∃ indent behind,
    HasPart (lines ((List.range length).map fun i =>
      indent ++ (target.lookupCall ++ target.keyLiteral (elementKey a.key i)) ++ behind))
      (target.dialect.listAccessor function a length) := by
  cases target with
  | js =>
    have hopening : "        getString(" = "        " ++ "getString(" := rfl
    refine ⟨"        ", "),", ?_⟩
    simp only [lookupCall, call_eq hopening]
    exact hasPart_lines _ _ _
  | kotlin =>
    have hopening : "    getString(" = "    " ++ "getString(" := rfl
    refine ⟨"    ", "),", ?_⟩
    simp only [lookupCall, call_eq hopening]
    exact hasPart_lines _ _ _
  | rust =>
    have hopening : "        get_string(" = "        " ++ "get_string(" := rfl
    refine ⟨"        ", ", &[]),", ?_⟩
    simp only [lookupCall, call_eq hopening]
    exact hasPart_lines _ _ _

lemma hasPart_fieldAccessor : HasPart (target.lookupCall ++ target.fieldExpression a field)
    (target.dialect.fieldAccessor a field) := by
  cases target with
  | js =>
    have hopening : "    return getString(" = "    return " ++ "getString(" := rfl
    have hcall := hasPart_call _ hopening (Js.fieldLookup a field)
    exact (hcall.append ");").line (List.mem_cons_of_mem _ List.mem_cons_self)
  | kotlin =>
    have hopening : ∀ front : String,
        front ++ "(): String = getString(" = front ++ "(): String = " ++ "getString(" :=
      fun front => String.append_assoc ▸ rfl
    have hcall := fun front => hasPart_call _ (hopening front) (Kotlin.fieldLookup a field)
    exact ((hcall _).append ")").line List.mem_cons_self
  | rust =>
    have hopening : "        get_string(" = "        " ++ "get_string(" := rfl
    have hcall := hasPart_call _ hopening (Rust.fieldLookup a field)
    exact (hcall.append ", &[])").line
      (List.mem_cons_of_mem _ (List.mem_cons_of_mem _ List.mem_cons_self))

end IdsOf

/-- Accessors look up the keys that the plan files their texts under, but for fields in JavaScript
that have a carriage return in their key. -/
theorem idsOf_spec (target : Target) (a : Address) : target.IdsOf a := by
  constructor
  case accessor => exact hasPart_accessor
  case listAccessor => exact hasPart_listAccessor
  case fieldAccessor => exact fun _ => hasPart_fieldAccessor
  case key => exact fun index rest => evaluate?_keyLiteral target index a.key rest
  case element => exact fun i index rest => evaluate?_keyLiteral target index _ rest
  case field => exact fun field index rest => evaluate?_fieldExpression target a index field rest
  case fieldId_eq_iff => exact fun _ _ => fieldId_eq_fieldKey_iff

end Target

/-- A key with a carriage return: the only text is filed under this key, and its field is looked up
under another one. -/
theorem Tree.exists_fieldId_not_filed :
    ∃ t, Tree.ofDocument "nl" (.object [("a\rb", .array [.object [("t", .string "x")]])]) = .ok t ∧
      .fieldAccessor "t" ⟨[], "a\rb"⟩ "x" ∈ t.plan.steps ∧
      t.filings.map (·.key) = ["a\rb.0.t"] ∧
      Target.js.evaluate? 0 (Js.fieldLookup ⟨[], "a\rb"⟩ "t").toList = some ("a\nb.0.t", []) := by
  refine ⟨_, rfl, by decide +kernel, by decide +kernel, ?_⟩
  have hvalue := Target.evaluate?_fieldExpression .js ⟨[], "a\rb"⟩ 0 "t" []
  have hid : Target.js.fieldId ⟨[], "a\rb"⟩ 0 "t" = "a\nb.0.t" := by decide +kernel
  rwa [List.append_nil, hid] at hvalue

end Phrasebook
