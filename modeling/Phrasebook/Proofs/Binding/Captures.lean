import Phrasebook.Proofs.Binding.NamesApart

/-!
# Names that a binding borrows

A binding has names of its own, which are reserved, and names that it takes from the language or
imports, which are not.  A function or a type that is declared under a borrowed name captures it:
from then on the binding means the declaration where it says the name.

* `Target.borrowed` lists the names, and a binding does use them (`Tree.standsIn_contents`).
* A type is declared under a borrowed name exactly if the words of a list of records spell it, each
  with a capital (`Target.typeName_eq_borrowed_iff`).
* A function is declared under one only if it is the one borrowed name with a small letter
  (`Target.accessorName_eq_borrowed_iff`).

`Tree.borrowedNames_spec` puts this together; `Tree.exists_borrowed_captured` is a document with
both kinds of captures.
-/

namespace Phrasebook

open Spelling

/-! ## Names in a text -/

/-- The name stands in the text, between characters that no name has. -/
def StandsIn (name text : String) : Prop :=
  ∃ before after : List Char, text.toList = before ++ name.toList ++ after ∧
    (∀ c ∈ before.getLast?, Target.isNameChar c = false) ∧
    ∀ c ∈ after.head?, Target.isNameChar c = false

/-- The text is made of lines. -/
def IsLines (s : String) : Prop := ∃ ls, s = lines ls

/-- The text is made of lines, and the name stands in one of them. -/
def UsedIn (name s : String) : Prop := ∃ ls, s = lines ls ∧ ∃ l ∈ ls, StandsIn name l

section Lines

variable {l s s' name : String} {ss : List String}

lemma IsLines.append (h : IsLines s) (h' : IsLines s') : IsLines (s ++ s') := by
  obtain ⟨ls, rfl⟩ := h
  obtain ⟨ls', rfl⟩ := h'
  exact ⟨ls ++ ls', (lines_append ls ls').symm⟩

lemma isLines_join (h : ∀ s ∈ ss, IsLines s) : IsLines (String.join ss) := by
  induction ss with
  | nil => exact ⟨[], rfl⟩
  | cons s rest ih =>
    obtain ⟨hs, hrest⟩ := List.forall_mem_cons.1 h
    rw [String.join_cons]
    exact hs.append (ih hrest)

lemma UsedIn.append (h : UsedIn name s) (h' : IsLines s') : UsedIn name (s ++ s') := by
  obtain ⟨ls, rfl, l, hl, hname⟩ := h
  obtain ⟨ls', rfl⟩ := h'
  exact ⟨ls ++ ls', (lines_append ls ls').symm, l, List.mem_append_left _ hl, hname⟩

lemma UsedIn.behind (h : UsedIn name s) (h' : IsLines s') : UsedIn name (s' ++ s) := by
  obtain ⟨ls, rfl, l, hl, hname⟩ := h
  obtain ⟨ls', rfl⟩ := h'
  exact ⟨ls' ++ ls, (lines_append ls' ls).symm, l, List.mem_append_right _ hl, hname⟩

lemma UsedIn.join (h : UsedIn name s) (hs : s ∈ ss) (hss : ∀ s ∈ ss, IsLines s) :
    UsedIn name (String.join ss) := by
  obtain ⟨before, after, rfl⟩ := List.append_of_mem hs
  obtain ⟨hbefore, hafter⟩ := List.forall_mem_append.1 hss
  rw [String.join_append, String.join_cons]
  exact (h.append (isLines_join (List.forall_mem_cons.1 hafter).2)).behind (isLines_join hbefore)

lemma getLast?_lines (ls : List String) : ∀ c ∈ (lines ls).toList.getLast?, c = '\n' := by
  rcases List.eq_nil_or_concat ls with rfl | ⟨ls, l, rfl⟩
  · exact nofun
  · intro c hc
    have hlast : (lines [l]).toList.getLast? = some '\n' := by
      simp [lines, String.toList_append]
    rw [List.concat_eq_append, lines_append, String.toList_append, List.getLast?_append, hlast] at hc
    exact (Option.some.inj hc).symm

lemma standsIn_cut {before after : String}
    (hbefore : ∀ c ∈ before.toList.getLast?, Target.isNameChar c = false)
    (hafter : ∀ c ∈ after.toList.head?, Target.isNameChar c = false) :
    StandsIn name (before ++ name ++ after) :=
  ⟨before.toList, after.toList, by simp only [String.toList_append], hbefore, hafter⟩

lemma standsIn_behind {before after : String} {c d : Char}
    (hbefore : before.toList.getLast? = some c) (hc : Target.isNameChar c = false)
    (hafter : after.toList.head? = some d) (hd : Target.isNameChar d = false) (x : String) :
    StandsIn name (x ++ (before ++ name ++ after)) := by
  refine ⟨x.toList ++ before.toList, after.toList, ?_, ?_, ?_⟩
  · simp only [String.toList_append, List.append_assoc]
  · intro e he
    rw [List.getLast?_append, hbefore] at he
    exact (Option.some.inj he) ▸ hc
  · intro e he
    rw [hafter] at he
    exact (Option.some.inj he) ▸ hd

/-- A name that stands in a line stands in the text. -/
lemma UsedIn.standsIn (h : UsedIn name s) : StandsIn name s := by
  have hfeed : Target.isNameChar '\n' = false := by decide
  obtain ⟨ls, rfl, l, hl, before, after, hcut, hbefore, hafter⟩ := h
  obtain ⟨above, below, rfl⟩ := List.append_of_mem hl
  refine ⟨(lines above).toList ++ before, after ++ '\n' :: (lines below).toList, ?_, ?_, ?_⟩
  · rw [lines_append, lines_cons, String.toList_append, String.toList_append,
      String.toList_append, hcut]
    simp
  · intro c hc
    rw [List.getLast?_append] at hc
    cases hlast : before.getLast? with
    | none =>
      rw [hlast] at hc
      exact (getLast?_lines above c hc) ▸ hfeed
    | some d =>
      rw [hlast] at hc
      exact hbefore c (hlast ▸ hc)
  · intro c hc
    rw [List.head?_append] at hc
    cases hhead : after.head? with
    | none =>
      rw [hhead] at hc
      exact (Option.some.inj hc) ▸ hfeed
    | some d =>
      rw [hhead] at hc
      exact hafter c (hhead ▸ hc)

end Lines

/-! ## Borrowed names -/

namespace Target

/-- The names that a binding takes from the language or imports. -/
def borrowed : Target → List String
  | .js => ["Object", "Number", "String", "undefined"]
  | .kotlin => ["String", "Int", "List", "Map", "Regex"]
  | .rust => ["String", "Option", "Vec", "HashMap", "LazyLock", "RwLock", "PoisonError"]

/-- A line in the runtime or in the epilogue of every binding, cut around a name that it borrows. -/
def sightings : Target → List (String × String × String)
  | .js => [
      ("        if (table !== undefined && ", "Object",
        ".prototype.hasOwnProperty.call(table, key)) \x7b"),
      ("        const argument = formatArgs[", "Number", "(index) - 1];"),
      ("        return argument === undefined ? placeholder : ", "String", "(argument);"),
      ("    return ", "undefined", ";")]
  | .kotlin => [
      ("var currentLanguage: ", "String", "? = null"),
      ("private val localizations: ", "Map", "<String, Map<String, String>> by lazy \x7b"),
      ("private val placeholderPattern = ", "Regex", "(\"%(\\\\d+)\\\\$@\")")]
  | .rust => [
      ("pub fn current_language() -> Option<", "String", "> \x7b"),
      ("pub fn current_language() -> ", "Option", "<String> \x7b"),
      ("use std::collections::", "HashMap", ";"),
      ("use std::sync::\x7b", "LazyLock", ", PoisonError, RwLock\x7d;"),
      ("use std::sync::\x7bLazyLock, PoisonError, ", "RwLock", "\x7d;"),
      ("use std::sync::\x7bLazyLock, ", "PoisonError", ", RwLock\x7d;")]

lemma standsIn_of_mem_sightings {target : Target} {x : String × String × String}
    (hx : x ∈ target.sightings) : StandsIn x.2.1 (x.1 ++ x.2.1 ++ x.2.2) := by
  have hcut : ∀ x ∈ target.sightings,
      x.1.toList.getLast?.all (isNameChar · == false) ∧
        x.2.2.toList.head?.all (isNameChar · == false) := by
    cases target <;> decide +kernel
  obtain ⟨hbefore, hafter⟩ := hcut x hx
  refine standsIn_cut (fun c hc => ?_) (fun c hc => ?_)
  · exact eq_of_beq ((Option.all_eq_true ..).1 hbefore c hc)
  · exact eq_of_beq ((Option.all_eq_true ..).1 hafter c hc)

lemma usedIn_of_mem_sightings {target : Target} {x : String × String × String}
    (hx : x ∈ target.sightings) (fallback : String) (languages : List String) :
    UsedIn x.2.1 (lines (target.runtime fallback)) ∨
      UsedIn x.2.1 (target.epilogue languages) := by
  have hstands := standsIn_of_mem_sightings hx
  -- the line stands in the runtime behind `n` others
  have hline : ∀ n, (target.runtime fallback)[n]? = some (x.1 ++ x.2.1 ++ x.2.2) →
      UsedIn x.2.1 (lines (target.runtime fallback)) := fun n hn =>
    ⟨_, rfl, _, List.mem_of_getElem? hn, hstands⟩
  cases target with
  | js =>
    simp only [sightings, List.mem_cons, List.not_mem_nil, or_false] at hx
    rcases hx with rfl | rfl | rfl | rfl
    · exact .inl (hline 19 rfl)
    · exact .inl (hline 32 rfl)
    · exact .inl (hline 33 rfl)
    · exact .inl (hline 23 rfl)
  | kotlin =>
    simp only [sightings, List.mem_cons, List.not_mem_nil, or_false] at hx
    rcases hx with rfl | rfl | rfl
    · exact .inl (hline 4 rfl)
    · exact .inr ⟨_, rfl, _, List.mem_cons_self, hstands⟩
    · exact .inl (hline 8 rfl)
  | rust =>
    simp only [sightings, List.mem_cons, List.not_mem_nil, or_false] at hx
    rcases hx with rfl | rfl | rfl | rfl | rfl | rfl
    · exact .inl (hline 16 rfl)
    · exact .inl (hline 16 rfl)
    · exact .inl (hline 2 rfl)
    · exact .inl (hline 3 rfl)
    · exact .inl (hline 3 rfl)
    · exact .inl (hline 3 rfl)

end Target

/-! ## What a binding uses -/

namespace Step

variable {target : Target} {seen : List String} {s : Step} {steps : List Step}
  {d : Declaration × String}

/-- What steps declare is what some of them declare, at their places. -/
lemma mem_declaredAll_iff : d ∈ declaredAll target seen steps ↔
    ∃ (before : List Step) (s : Step) (after : List Step), steps = before ++ s :: after ∧
      d ∈ s.declared target (before.foldl (seenAfter target) seen) := by
  induction steps generalizing seen with
  | nil => simp [declaredAll]
  | cons s rest ih =>
    rw [declaredAll, List.mem_append, ih]
    constructor
    · rintro (h | ⟨before, s', after, rfl, h⟩)
      · exact ⟨[], s, rest, rfl, h⟩
      · exact ⟨s :: before, s', after, rfl, h⟩
    · rintro ⟨before, s', after, hsteps, h⟩
      cases before with
      | nil =>
        obtain ⟨rfl, rfl⟩ := List.cons.inj hsteps
        exact .inl h
      | cons x before =>
        obtain ⟨rfl, rfl⟩ := List.cons.inj hsteps
        exact .inr ⟨before, s', after, rfl, h⟩

/-- The text of a declaration is made of lines. -/
lemma isLines_of_mem_declared (h : d ∈ s.declared target seen) : IsLines d.2 := by
  cases s with
  | accessor function a count text =>
    obtain rfl := List.mem_singleton.1 h
    cases target <;> exact ⟨_, rfl⟩
  | listAccessor function a values language =>
    obtain rfl := List.mem_singleton.1 h
    cases target with
    | js =>
      simp only [Target.dialect, Js.dialect, Js.listAccessor]
      exact ⟨_, rfl⟩
    | kotlin => exact ⟨_, rfl⟩
    | rust =>
      simp only [Target.dialect, Rust.dialect, Rust.listAccessor]
      exact ⟨_, rfl⟩
  | fieldAccessor field a text =>
    rcases List.mem_append.1 h with h | h
    · split at h
      · exact absurd h List.not_mem_nil
      · obtain rfl := List.mem_singleton.1 h
        cases target <;> exact ⟨_, rfl⟩
    · obtain rfl := List.mem_singleton.1 h
      cases target <;> exact ⟨_, rfl⟩
  | text key wording language => exact absurd h List.not_mem_nil
  | finish => exact absurd h List.not_mem_nil

end Step

namespace Tree

variable {t : Tree} {target : Target} {name : String}

/-- The plan declares the accessor of a list of texts. -/
def HasList (t : Tree) : Prop :=
  ∃ function a values language, .listAccessor function a values language ∈ t.plan.steps

lemma isLines_of_mem_declarationTexts {text : String} (h : text ∈ t.declarationTexts target) :
    IsLines text := by
  obtain ⟨d, hd, rfl⟩ := List.mem_map.1 h
  obtain ⟨_, _, _, -, hd⟩ := Step.mem_declaredAll_iff.1 hd
  exact Step.isLines_of_mem_declared hd

/-- What a declaration uses, the binding uses. -/
lemma usedIn_join {text : String} (htext : text ∈ t.declarationTexts target)
    (h : UsedIn name text) : UsedIn name (String.join (t.declarationTexts target)) :=
  h.join htext fun _ => isLines_of_mem_declarationTexts

lemma exists_listAccessor_mem (h : t.HasList) : ∃ function a length,
    target.dialect.listAccessor function a length ∈ t.declarationTexts target := by
  obtain ⟨function, a, values, language, hs⟩ := h
  obtain ⟨before, after, hsplit⟩ := List.append_of_mem hs
  refine ⟨function, a, values.length, List.mem_map.2 ⟨(.function (target.functionName function a),
    target.dialect.listAccessor function a values.length), ?_, rfl⟩⟩
  exact Step.mem_declaredAll_iff.2 ⟨before, _, after, hsplit, List.mem_cons_self⟩

lemma exists_typeDeclaration_mem (h : t.types target ≠ []) : ∃ name,
    target.dialect.typeDeclaration name ∈ t.declarationTexts target := by
  obtain ⟨name, hname⟩ := List.exists_mem_of_ne_nil _ h
  obtain ⟨d, hd, htype⟩ := List.mem_filterMap.1 hname
  obtain ⟨x, hx, rfl⟩ := List.mem_map.1 hd
  refine ⟨name, List.mem_map.2 ⟨x, hx, ?_⟩⟩
  obtain ⟨_, s, _, -, hx⟩ := Step.mem_declaredAll_iff.1 hx
  cases s with
  | accessor | listAccessor =>
    obtain rfl := List.mem_singleton.1 hx
    exact nomatch htype
  | fieldAccessor field a text =>
    rcases List.mem_append.1 hx with hx | hx
    · split at hx
      · exact nomatch hx
      · obtain rfl := List.mem_singleton.1 hx
        rw [← Option.some.inj htype]
    · obtain rfl := List.mem_singleton.1 hx
      exact nomatch htype
  | text | finish => exact nomatch hx

/-- A class is declared with the type of its only field. -/
lemma usedIn_int (h : t.types .kotlin ≠ []) :
    UsedIn "Int" (String.join (t.declarationTexts .kotlin)) := by
  obtain ⟨name, hmem⟩ := exists_typeDeclaration_mem h
  have hstands : StandsIn "Int" ("class " ++ name ++ ("(val index: " ++ "Int" ++ ")")) :=
    standsIn_behind rfl (by decide) rfl (by decide) _
  exact usedIn_join hmem ⟨_, rfl, _, List.mem_cons_self, hstands⟩

/-- A list of texts is declared with the type of what it gives. -/
lemma usedIn_list (h : t.HasList) :
    UsedIn "List" (String.join (t.declarationTexts .kotlin)) := by
  obtain ⟨function, a, length, hmem⟩ := @exists_listAccessor_mem t .kotlin h
  have hstands : StandsIn "List"
      ("fun " ++ Kotlin.identifier function ++ ("(): " ++ "List" ++ "<String> = listOf(")) :=
    standsIn_behind rfl (by decide) rfl (by decide) _
  exact usedIn_join hmem ⟨_, rfl, _, List.mem_cons_self, hstands⟩

lemma usedIn_vec (h : t.HasList) :
    UsedIn "Vec" (String.join (t.declarationTexts .rust)) := by
  obtain ⟨function, a, length, hmem⟩ := @exists_listAccessor_mem t .rust h
  simp only [Target.dialect, Rust.dialect] at hmem
  have hstands : StandsIn "Vec"
      ("pub fn " ++ Rust.identifier a.snakeCase ++ ("() -> " ++ "Vec" ++ "<String> \x7b")) :=
    standsIn_behind rfl (by decide) rfl (by decide) _
  exact usedIn_join hmem ⟨_, rfl, _, List.mem_cons_self, hstands⟩

/-- A binding uses the names that it borrows, except that of a type that it has no use for. -/
lemma standsIn_contents (t : Tree) (c : Config) (hname : name ∈ target.borrowed)
    (hint : name = "Int" → t.types target ≠ []) (hlist : name = "List" ∨ name = "Vec" → t.HasList) :
    StandsIn name (target.dialect.generate t c).sources.binding.contents := by
  have hopening : IsLines (target.opening c.packageName) := by
    cases target with
    | js | rust => exact ⟨[], rfl⟩
    | kotlin => exact ⟨_, rfl⟩
  have hepilogue : IsLines (target.epilogue (target.dialect.generate t c).sources.tables.keys) := by
    cases target <;> exact ⟨_, rfl⟩
  have hruntime : IsLines (lines (target.runtime c.defaultLanguage)) := ⟨_, rfl⟩
  have hjoin : IsLines (String.join (t.declarationTexts target)) :=
    isLines_join fun _ => isLines_of_mem_declarationTexts
  have hkinds : ∀ name ∈ target.borrowed, name ∈ target.sightings.map (·.2.1) ∨
      target = .kotlin ∧ name = "Int" ∨ target = .kotlin ∧ name = "List" ∨
        target = .rust ∧ name = "Vec" := by
    cases target <;> decide
  rw [t.binding_contents c target]
  refine UsedIn.standsIn ?_
  rcases hkinds name hname with hmem | ⟨rfl, rfl⟩ | ⟨rfl, rfl⟩ | ⟨rfl, rfl⟩
  · obtain ⟨x, hx, rfl⟩ := List.mem_map.1 hmem
    rcases Target.usedIn_of_mem_sightings hx c.defaultLanguage
      (target.dialect.generate t c).sources.tables.keys with hused | hused
    · exact ((hused.behind hopening).append hjoin).append hepilogue
    · exact hused.behind ((hopening.append hruntime).append hjoin)
  · exact ((usedIn_int (hint rfl)).behind (hopening.append hruntime)).append hepilogue
  · exact ((usedIn_list (hlist (.inl rfl))).behind (hopening.append hruntime)).append hepilogue
  · exact ((usedIn_vec (hlist (.inr rfl))).behind (hopening.append hruntime)).append hepilogue

end Tree

/-! ## Which nodes take a borrowed name -/

namespace Target

open Naming Unicode

/-- A spelling that begins with a letter is the identifier. -/
lemma finish_eq_iff {cs : List Char} {name : String} {c : Char} (h : name.toList.head? = some c)
    (hmark : c ≠ '_') (hdigit : isAsciiDigit c = false) : finish cs = name ↔ cs = name.toList := by
  constructor
  · rintro rfl
    refine (toList_finish_of_head ?_).symm
    rw [h]
    exact fun h => hmark (Option.some.inj h)
  · rintro rfl
    obtain ⟨rest, hrest⟩ := List.head?_eq_some_iff.1 h
    rw [hrest, finish, hdigit, if_neg Bool.false_ne_true, ← hrest, String.ofList_toList]

/-- What the borrowed names have in common: all but one begin with a capital, no target marks them,
and they do not look marked. -/
lemma borrowed_spec (target : Target) : ∀ name ∈ target.borrowed,
    (∃ c ∈ name.toList.head?, c ≠ '_' ∧ isAsciiDigit c = false ∧
      (name ≠ "undefined" ∧ 0x41 ≤ c.toNat ∧ c.toNat ≤ 0x5A ∨
        target = .js ∧ name = "undefined")) ∧
    target.marks name = false ∧ name.toList.getLast? ≠ some '_' := by
  have hheads : ∀ name ∈ target.borrowed,
      name.toList.head?.any (fun c => c ≠ '_' ∧ isAsciiDigit c = false ∧
        (name ≠ "undefined" ∧ 0x41 ≤ c.toNat ∧ c.toNat ≤ 0x5A ∨
          target = .js ∧ name = "undefined")) ∧
      target.marks name = false ∧ name.toList.getLast? ≠ some '_' := by
    cases target <;> decide
  intro name h
  obtain ⟨hhead, hrest⟩ := hheads name h
  obtain ⟨c, hc, hspec⟩ := (Option.any_eq_true ..).1 hhead
  exact ⟨⟨c, hc, of_decide_eq_true hspec⟩, hrest⟩

lemma identifier_eq_borrowed_iff {target : Target} {name : String} (h : name ∈ target.borrowed)
    (x : String) : target.identifier x = name ↔ x = name := by
  obtain ⟨-, hmarks, hlast⟩ := target.borrowed_spec name h
  rw [identifier_eq_mark, mark]
  split_ifs with hx
  · refine iff_of_false ?_ ?_
    · rintro rfl
      exact hlast (by simp [String.toList_append])
    · rintro rfl
      rw [hmarks] at hx
      exact Bool.false_ne_true hx
  · exact Iff.rfl

/-- A type has a borrowed name exactly if the words of its key spell it, each with a capital. -/
lemma typeName_eq_borrowed_iff {target : Target} {name : String} (h : name ∈ target.borrowed)
    (a : Address) :
    target.typeName a = name ↔ (allWords a.segments).flatMap capitalize = name.toList := by
  obtain ⟨⟨c, hhead, hmark, hdigit, -⟩, -⟩ := target.borrowed_spec name h
  rw [typeName, identifier_eq_borrowed_iff h, Address.typeName, Naming.typeName,
    finish_eq_iff hhead hmark hdigit]

/-- A function has a borrowed name only if the name begins with a small letter. -/
lemma accessorName_eq_borrowed_iff {target : Target} {name : String} (h : name ∈ target.borrowed)
    (a : Address) :
    target.accessorName a = name ↔
      target = .js ∧ name = "undefined" ∧ a.lowerCamel = "undefined" := by
  obtain ⟨⟨c, hhead, -, -, hcapital⟩, -⟩ := target.borrowed_spec name h
  rcases hcapital with ⟨hname, hcapital⟩ | ⟨rfl, rfl⟩
  · have hne : target.accessorName a ≠ name := by
      intro heq
      cases target with
      | js =>
        have heq := (identifier_eq_borrowed_iff h _).1 heq
        rw [← heq] at hhead
        exact not_capital_head_lowerCamel hhead hcapital
      | kotlin =>
        have heq := (identifier_eq_borrowed_iff h _).1 heq
        rw [← heq] at hhead
        exact not_capital_head_lowerCamel hhead hcapital
      | rust =>
        rw [← heq] at hhead
        exact not_capital_of_mem_accessorName (List.mem_of_head? hhead) hcapital
    exact iff_of_false hne fun hundefined => hname hundefined.2.1
  · have hidentifier : accessorName .js a = identifier .js a.lowerCamel := rfl
    rw [hidentifier, identifier_eq_borrowed_iff h]
    simp

end Target

/-! ## The result -/

/-- Which of its borrowed names the binding of `t` captures, where `out` is what comes out of `t`
and `c` for `target`. -/
structure Tree.BorrowedNames (t : Tree) (c : Config) (target : Target) (out : TargetOutput) :
    Prop where
  /-- The binding has the functions and types of `t`. -/
  declared : t.DeclaredIn c target out
  /-- The binding uses each name that it borrows, except that of a type that it has no use for. -/
  used : ∀ name ∈ target.borrowed, (name = "Int" → t.types target ≠ []) →
    (name = "List" ∨ name = "Vec" → t.HasList) → StandsIn name out.sources.binding.contents
  /-- One borrowed name can be that of a function. -/
  functions : ∀ name ∈ target.borrowed, name ∈ t.functions target ↔
    target = .js ∧ name = "undefined" ∧ ∃ a ∈ t.accessorNodes, a.lowerCamel = "undefined"
  /-- A type has a borrowed name if the words of a list of records spell it. -/
  types : ∀ name ∈ target.borrowed, name ∈ t.types target ↔
    ∃ a ∈ t.listNodes, (Naming.allWords a.segments).flatMap Naming.capitalize = name.toList

namespace Tree

/-- **When a binding captures what it borrows.** A type is declared under a name that the binding
takes from the language or imports exactly if the words of a list of records, each with a capital,
spell that name; a function only under the one such name that begins with a small letter. -/
theorem borrowedNames_spec {t : Tree} {c : Config} {target : Target} {out : TargetOutput}
    (h : generateTarget t c target = .ok out) : t.BorrowedNames c target out := by
  have hdeclared := declaredIn h
  obtain ⟨-, rfl⟩ := (generateTarget_eq_ok_iff ..).1 h
  constructor
  case declared => exact hdeclared
  case used => exact fun name hname => t.standsIn_contents c hname
  case functions =>
    intro name hname
    rw [t.functions_eq_map, List.mem_map]
    simp only [Target.accessorName_eq_borrowed_iff hname]
    tauto
  case types =>
    intro name hname
    rw [mem_types_iff]
    simp only [Target.typeName_eq_borrowed_iff hname]

theorem borrowedNames_spec_marked :
    ∃ out, generateTarget marked (.ofLanguage "nl") .kotlin = .ok out ∧
      marked.BorrowedNames (.ofLanguage "nl") .kotlin out ∧
      marked.types .kotlin = ["Items"] := by
  have hout := (generateTarget_eq_ok_iff marked (.ofLanguage "nl") .kotlin _).2 ⟨vet_marked, rfl⟩
  exact ⟨_, hout, borrowedNames_spec hout, by decide +kernel⟩

/-- A document with a list of records that takes the name of a global object, and a text that takes
the name of a global value, both of which the binding uses. -/
theorem exists_borrowed_captured :
    ∃ t out, Tree.ofDocument "nl" (.object
        [("object", .array [.object [("t", .string "x")]]), ("undefined", .string "y")]) = .ok t ∧
      generateTarget t (.ofLanguage "nl") .js = .ok out ∧
      t.types .js = ["Object"] ∧ t.functions .js = ["undefined"] ∧
      StandsIn "Object" out.sources.binding.contents ∧
      StandsIn "undefined" out.sources.binding.contents := by
  refine ⟨_, _, rfl,
    (generateTarget_eq_ok_iff ..).2 ⟨vet_of_values (by decide) (by decide +kernel), rfl⟩,
    ?_, ?_, ?_, ?_⟩
  · decide +kernel
  · decide +kernel
  · exact standsIn_contents _ _ (by decide) nofun nofun
  · exact standsIn_contents _ _ (by decide) nofun nofun

end Tree

end Phrasebook
