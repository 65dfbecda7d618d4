import Phrasebook.Proofs.Binding.NamesApart
import Phrasebook.Proofs.Naming.Spellable

/-!
# Which names of a binding are legal

A name is legal if it is an identifier, if the language does not forbid it, and if it is not what
the language takes for no name at all, such as a lone underscore.  Names are made for that: words
are joined, a digit gets an underscore in front and a reserved name gets one behind.  Three things
are still left to the keys of a document.

* The words of a key have to be spellable (`Naming.Spellable`), since alphanumeric characters are
  not the characters of identifiers.  The words of an ASCII key are (`Naming.IsAscii.spellable`).
* A target has not reserved all that its language forbids.  `Target.unguarded` lists what is missing
  (`Target.mem_unguarded_iff`), and a name in that list is declared as it is.
* A key without words is spelled with an underscore and nothing else, which only one of the
  languages takes for a name.

`Target.isLegal_identifier_iff` says so for a single name, and `Tree.legalNames_spec` for all names
of a binding.  In JavaScript a member is a property with the text of its field for a key, and no
identifier, so that all fields will do there.
-/

namespace Phrasebook

/-! ## Legal names -/

namespace Target

open Naming Unicode

/-- The words that the language of a target forbids as names of functions and types. -/
def forbidden : Target → List String
  | .js =>
    ["await", "break", "case", "catch", "class", "const", "continue", "debugger", "default",
     "delete", "do", "else", "enum", "export", "extends", "false", "finally", "for", "function",
     "if", "import", "in", "instanceof", "new", "null", "return", "super", "switch", "this",
     "throw", "true", "try", "typeof", "var", "void", "while", "with",
     -- in strict code
     "implements", "interface", "let", "package", "private", "protected", "public", "static",
     "yield", "arguments", "eval"]
  | .kotlin =>
    ["as", "break", "class", "continue", "do", "else", "false", "for", "fun", "if", "in",
     "interface", "is", "null", "object", "package", "return", "super", "this", "throw", "true",
     "try", "typealias", "typeof", "val", "var", "when", "while"]
  | .rust =>
    ["as", "async", "await", "break", "const", "continue", "crate", "dyn", "else", "enum", "extern",
     "false", "fn", "for", "if", "impl", "in", "let", "loop", "match", "mod", "move", "mut", "pub",
     "ref", "return", "self", "Self", "static", "struct", "super", "trait", "true", "type",
     "unsafe", "use", "where", "while",
     -- kept for later
     "abstract", "become", "box", "do", "final", "gen", "macro", "override", "priv", "try",
     "typeof", "unsized", "virtual", "yield"]

/-- The forbidden words that a target has not reserved. -/
def unguarded : Target → List String
  | .js => ["arguments", "eval"]
  | .kotlin => []
  | .rust =>
    ["Self", "abstract", "become", "do", "final", "macro", "override", "priv", "typeof", "unsized",
     "virtual"]

/-- An identifier that the language does not take for a name. -/
def IsBlank (target : Target) (name : String) : Prop :=
  match target with
  | .js => False
  | .kotlin => ∀ c ∈ name.toList, c = '_'
  | .rust => name = "_"

/-- A function or a type may have the name. -/
structure IsLegal (target : Target) (name : String) : Prop where
  /-- The name is an identifier. -/
  isIdentifier : IsIdentifier name
  /-- The language does not forbid it. -/
  allowed : name ∉ target.forbidden
  /-- The language takes it for a name. -/
  notBlank : ¬target.IsBlank name

instance (target : Target) : DecidablePred target.IsBlank :=
  match target with
  | .js => fun _ => .isFalse id
  | .kotlin => fun name => decidable_of_iff (name.toList.all (· == '_')) (by simp [IsBlank])
  | .rust => fun name => inferInstanceAs (Decidable (name = "_"))

lemma isLegal_iff {target : Target} {name : String} :
    target.IsLegal name ↔
      IsIdentifier name ∧ name ∉ target.forbidden ∧ ¬target.IsBlank name := by
  constructor
  · rintro ⟨hidentifier, hallowed, hblank⟩
    exact ⟨hidentifier, hallowed, hblank⟩
  · rintro ⟨hidentifier, hallowed, hblank⟩
    exact ⟨hidentifier, hallowed, hblank⟩

instance (target : Target) : DecidablePred target.IsLegal := fun _ =>
  decidable_of_iff' _ isLegal_iff

lemma mem_unguarded_iff {target : Target} {name : String} :
    name ∈ target.unguarded ↔ name ∈ target.forbidden ∧ target.marks name = false := by
  have hguarded : ∀ n ∈ target.forbidden, target.marks n = false → n ∈ target.unguarded := by
    cases target <;> decide
  have hunguarded : ∀ n ∈ target.unguarded, n ∈ target.forbidden ∧ target.marks n = false := by
    cases target <;> decide
  exact ⟨hunguarded name, fun h => hguarded name h.1 h.2⟩

/-- An underscore behind a name leaves an identifier what it is. -/
lemma isIdentifier_append_underscore {name : String} (h : name ≠ "") :
    IsIdentifier (name ++ "_") ↔ IsIdentifier name := by
  have hmark : isXidContinue '_' = true := by decide
  obtain ⟨c, rest, hname⟩ := List.exists_cons_of_ne_nil (mt String.toList_eq_nil_iff.1 h)
  have hlist : (name ++ "_").toList = c :: (rest ++ ['_']) := by
    rw [String.toList_append, hname]
    rfl
  simp [IsIdentifier, hname, hlist, hmark, or_imp, forall_and]

/-- A name with another character than an underscore is taken for a name. -/
lemma not_isBlank_of_exists {target : Target} {name : String} (h : ∃ c ∈ name.toList, c ≠ '_') :
    ¬target.IsBlank name := by
  obtain ⟨c, hc, hne⟩ := h
  intro hblank
  cases target with
  | js => exact hblank
  | kotlin => exact hne (hblank c hc)
  | rust =>
    obtain rfl := hblank
    exact hne (List.mem_singleton.1 hc)

lemma exists_ne_underscore_of_marks {target : Target} {name : String} (h : target.marks name) :
    ∃ c ∈ name.toList, c ≠ '_' := by
  have hnames : ∀ n ∈ target.reservedNames, n.toList.any (· != '_') := by
    cases target <;> decide
  have hreserved : ∀ n ∈ target.reservedNames, ∃ c ∈ n.toList, c ≠ '_' := by
    intro n hn
    obtain ⟨c, hc, hne⟩ := List.any_eq_true.1 (hnames n hn)
    exact ⟨c, hc, bne_iff_ne.1 hne⟩
  cases target with
  | js => exact hreserved name (of_decide_eq_true h)
  | kotlin => exact hreserved name (of_decide_eq_true h)
  | rust =>
    rcases Bool.or_eq_true_iff.1 h with htable | hname
    · exact ⟨'l', (List.isPrefixOf_iff_prefix.1 htable).subset (by decide), by decide⟩
    · exact hreserved name (of_decide_eq_true hname)

/-- A name that is marked is legal exactly if it is an identifier. -/
lemma isLegal_append_underscore_iff {target : Target} {name : String} (h : target.marks name) :
    target.IsLegal (name ++ "_") ↔ IsIdentifier name := by
  have hends : ∀ n ∈ target.forbidden, n.toList.getLast? ≠ some '_' := by
    cases target <;> decide
  obtain ⟨c, hc, hne⟩ := exists_ne_underscore_of_marks h
  have hempty : name ≠ "" := by
    rintro rfl
    exact absurd hc List.not_mem_nil
  rw [← isIdentifier_append_underscore hempty]
  constructor
  · exact fun hlegal => hlegal.isIdentifier
  · intro hidentifier
    constructor
    case isIdentifier => exact hidentifier
    case allowed => exact fun hname => hends _ hname (by simp [String.toList_append])
    case notBlank => exact not_isBlank_of_exists ⟨c, by simp [String.toList_append, hc], hne⟩

/-- A name is legal as it is declared exactly if it is an identifier, if the target has reserved it
in case it is forbidden, and if the language takes it for a name. -/
lemma isLegal_identifier_iff (target : Target) (name : String) :
    target.IsLegal (target.identifier name) ↔
      IsIdentifier name ∧ name ∉ target.unguarded ∧ ¬target.IsBlank name := by
  rw [identifier_eq_mark, mark]
  split_ifs with hmark
  · -- a name that is marked is reserved, and is no blank
    have hunguarded : name ∉ target.unguarded := fun hname => by
      rw [(mem_unguarded_iff.1 hname).2] at hmark
      exact Bool.false_ne_true hmark
    rw [isLegal_append_underscore_iff hmark, and_iff_left]
    exact ⟨hunguarded, not_isBlank_of_exists (exists_ne_underscore_of_marks hmark)⟩
  · have hguarded : name ∈ target.unguarded ↔ name ∈ target.forbidden := by
      rw [mem_unguarded_iff, Bool.eq_false_iff]
      exact and_iff_left hmark
    rw [hguarded]
    exact isLegal_iff

/-! ## Names of nodes -/

/-- The name of the function for the node at `a`, before it is marked. -/
def plainName (target : Target) (a : Address) : String :=
  match target with
  | .js => a.lowerCamel
  | .kotlin => a.lowerCamel
  | .rust => a.snakeCase

/-- A name that is a lone underscore without words, and with words is not, is taken for a name
exactly if there are words, except in JavaScript. -/
lemma not_isBlank_iff {target : Target} {name : String} {segments : List String}
    (hwords : (∃ c ∈ name.toList, c ≠ '_') ↔ allWords segments ≠ [])
    (hnone : allWords segments = [] → name = "_") :
    ¬target.IsBlank name ↔ (target ≠ .js → allWords segments ≠ []) := by
  constructor
  · intro hblank htarget hnil
    obtain rfl := hnone hnil
    cases target with
    | js => exact htarget rfl
    | kotlin => exact hblank fun c hc => List.mem_singleton.1 hc
    | rust => exact hblank rfl
  · intro h
    by_cases htarget : target = .js
    · subst htarget
      exact id
    · exact not_isBlank_of_exists (hwords.2 (h htarget))

/-- The function for a node has a legal name exactly if the words of its key are spellable, do not
spell an unguarded name, and are there, if the language wants them. -/
lemma isLegal_accessorName_iff (target : Target) (a : Address) :
    target.IsLegal (target.accessorName a) ↔
      Spellable (canBegin · = true) (allWords a.segments) ∧
        target.plainName a ∉ target.unguarded ∧ (target ≠ .js → allWords a.segments ≠ []) := by
  have hcamel : ¬target.IsBlank a.lowerCamel ↔ (target ≠ .js → allWords a.segments ≠ []) :=
    not_isBlank_iff (exists_ne_underscore_lowerCamel _)
      fun h => (eq_underscore_of_allWords_eq_nil _ h).1
  have hsnake : ¬target.IsBlank a.snakeCase ↔ (target ≠ .js → allWords a.segments ≠ []) :=
    not_isBlank_iff (exists_ne_underscore_snakeCase _)
      fun h => (eq_underscore_of_allWords_eq_nil _ h).2.1
  have hname : target.accessorName a = target.identifier (target.plainName a) := by
    cases target <;> rfl
  rw [hname, isLegal_identifier_iff]
  cases target with
  | js =>
    rw [plainName, hcamel, Address.lowerCamel, isIdentifier_lowerCamel_iff]
  | kotlin =>
    rw [plainName, hcamel, Address.lowerCamel, isIdentifier_lowerCamel_iff]
  | rust =>
    rw [plainName, hsnake, Address.snakeCase, isIdentifier_snakeCase_iff]

/-- The same for the type of a list of records, whose name begins with a capital. -/
lemma isLegal_typeName_iff (target : Target) (a : Address) :
    target.IsLegal (target.typeName a) ↔
      Spellable CapitalBegins (allWords a.segments) ∧
        a.typeName ∉ target.unguarded ∧ (target ≠ .js → allWords a.segments ≠ []) := by
  have hblank : ¬target.IsBlank a.typeName ↔ (target ≠ .js → allWords a.segments ≠ []) :=
    not_isBlank_iff (exists_ne_underscore_typeName _)
      fun h => (eq_underscore_of_allWords_eq_nil _ h).2.2
  rw [typeName, isLegal_identifier_iff, hblank, Address.typeName, isIdentifier_typeName_iff]

/-! ## Names of the target itself -/

/-- A name that begins like that of a table and goes on with characters of names is legal. -/
lemma isLegal_tableMark_append (target : Target) {s : String}
    (h : ∀ c ∈ s.toList, isXidContinue c) : target.IsLegal (Rust.tableMark ++ s) := by
  have hlist : (Rust.tableMark ++ s).toList = Rust.tableMark.toList ++ s.toList :=
    String.toList_append
  constructor
  case isIdentifier =>
    have hmark : ∀ c ∈ Rust.tableMark.toList.tail, isXidContinue c :=
      List.all_eq_true.1 (by decide)
    refine ⟨'l', Rust.tableMark.toList.tail ++ s.toList, hlist, .inr (by decide), ?_⟩
    exact List.forall_mem_append.2 ⟨hmark, h⟩
  case allowed =>
    have hother : ∀ n ∈ target.forbidden, ¬Rust.tableMark.toList <+: n.toList := by
      cases target <;> decide
    exact fun hname => hother _ hname ⟨s.toList, hlist.symm⟩
  case notBlank =>
    refine not_isBlank_of_exists ⟨'l', ?_, by decide⟩
    rw [hlist]
    exact List.mem_cons_self

lemma isLegal_tableFunction (target : Target) (language : String) :
    target.IsLegal (target.tableFunction language) := by
  have htag : ∀ c ∈ (languageIdentifier language).toList, isXidContinue c := by
    intro c hc
    rcases isNameChar_languageIdentifier hc with rfl | hc
    · decide
    · exact isXidContinue_of_isAsciiAlphanumeric hc
  cases target with
  | js => exact isLegal_tableMark_append .js htag
  | kotlin => exact isLegal_tableMark_append .kotlin htag
  | rust =>
    refine isLegal_tableMark_append .rust ?_
    rw [asciiLowercase, String.toList_map, List.forall_mem_map]
    exact fun c hc => asciiLower_induction (isXidContinue ·) (htag c hc) (by decide)

/-- The names that the runtime declares are legal. -/
lemma isLegal_of_mem_runtimeNames {target : Target} :
    ∀ name ∈ target.runtimeNames, target.IsLegal name := by
  cases target <;> decide +kernel

/-- The names that the epilogue declares are legal. -/
lemma isLegal_of_mem_epilogueNames {target : Target} {languages : List String} :
    ∀ name ∈ target.epilogueNames languages, target.IsLegal name := by
  cases target with
  | js =>
    rw [epilogueNames, List.forall_mem_append, List.forall_mem_map, List.forall_mem_singleton]
    exact ⟨fun language _ => isLegal_tableFunction .js language, by decide +kernel⟩
  | kotlin => exact List.forall_mem_singleton.2 (by decide +kernel)
  | rust => exact List.forall_mem_singleton.2 (by decide +kernel)

/-! ## Names of members -/

/-- The characters of a field may stand where they do, if they are alphanumeric, and one is. -/
structure SpellableField (field : String) : Prop where
  /-- The alphanumeric characters may go on with a name. -/
  continues : ∀ c ∈ field.toList, isAlphanumeric c → isXidContinue c
  /-- The first character may begin one, if it is alphanumeric. -/
  head : ∀ c ∈ field.toList.head?, isAlphanumeric c → canBegin c
  /-- Not all of them become underscores. -/
  notBlank : ∃ c ∈ field.toList, isAlphanumeric c

/-- In Kotlin a member keeps the spelling of its field, and all forbidden words are reserved. -/
lemma isLegal_memberName_kotlin_iff (field : String) :
    IsLegal .kotlin (memberName .kotlin field) ↔ SpellableField field := by
  have hblank : ¬IsBlank .kotlin (Naming.memberName field) ↔
      ∃ c ∈ field.toList, isAlphanumeric c := by
    rw [← exists_ne_underscore_memberName]
    simp [IsBlank]
  have hname : memberName .kotlin field = identifier .kotlin (Naming.memberName field) := rfl
  rw [hname, isLegal_identifier_iff, hblank, isIdentifier_memberName_iff]
  constructor
  · rintro ⟨⟨hcontinues, hhead⟩, -, hmem⟩
    exact ⟨hcontinues, hhead, hmem⟩
  · rintro ⟨hcontinues, hhead, hmem⟩
    exact ⟨⟨hcontinues, hhead⟩, List.not_mem_nil, hmem⟩

/-- In Rust a member is spelled like a function for the field alone. -/
lemma isLegal_memberName_rust_iff (field : String) :
    IsLegal .rust (memberName .rust field) ↔
      Spellable (canBegin · = true) (allWords [field]) ∧
        snakeCase [field] ∉ unguarded .rust ∧ allWords [field] ≠ [] := by
  have hname : memberName .rust field = accessorName .rust ⟨[], field⟩ := rfl
  rw [hname, isLegal_accessorName_iff]
  simp [plainName, Address.snakeCase, Address.segments]

end Target

/-! ## The result -/

/-- Which names of the binding of `t` are legal, where `out` is what comes out of `t` and `c` for
`target`. -/
structure Tree.LegalNames (t : Tree) (c : Config) (target : Target) (out : TargetOutput) :
    Prop where
  /-- The binding has the functions, types and members of `t`. -/
  declared : t.DeclaredIn c target out
  /-- The names that the runtime declares are legal. -/
  runtime : ∀ name ∈ target.topLevelNames (Spelling.lines (target.runtime c.defaultLanguage)),
    target.IsLegal name
  /-- The names that the epilogue declares are legal. -/
  epilogue : ∀ name ∈ target.topLevelNames (target.epilogue out.sources.tables.keys),
    target.IsLegal name
  /-- The function of a table has a legal name. -/
  tables : ∀ l ∈ out.sources.tables.keys, target.IsLegal (target.tableFunction l)
  /-- There is a function for each text and each list of texts with an accessor. -/
  functionNodes : t.functions target = t.accessorNodes.map target.accessorName
  /-- The name of a function is legal exactly if the words of its key are spellable, do not spell an
  unguarded name, and are there, if the language wants them. -/
  functions : ∀ a ∈ t.accessorNodes, target.IsLegal (target.accessorName a) ↔
    Naming.Spellable (Unicode.canBegin · = true) (Naming.allWords a.segments) ∧
      target.plainName a ∉ target.unguarded ∧ (target ≠ .js → Naming.allWords a.segments ≠ [])
  /-- An ASCII key has spellable words. -/
  asciiFunctions : ∀ a ∈ t.accessorNodes, Naming.IsAscii a.segments →
    (target.IsLegal (target.accessorName a) ↔
      target.plainName a ∉ target.unguarded ∧ (target ≠ .js → Naming.allWords a.segments ≠ []))
  /-- The types are those of the lists of records with members. -/
  typeNodes : ∀ name, name ∈ t.types target ↔ ∃ a ∈ t.listNodes, target.typeName a = name
  /-- The name of a type is legal exactly if the words of its key are spellable with a capital, do
  not spell an unguarded name, and are there, if the language wants them. -/
  types : ∀ a ∈ t.listNodes, target.IsLegal (target.typeName a) ↔
    Naming.Spellable Naming.CapitalBegins (Naming.allWords a.segments) ∧
      a.typeName ∉ target.unguarded ∧ (target ≠ .js → Naming.allWords a.segments ≠ [])
  /-- An ASCII key has words that are spellable with a capital. -/
  asciiTypes : ∀ a ∈ t.listNodes, Naming.IsAscii a.segments →
    (target.IsLegal (target.typeName a) ↔
      a.typeName ∉ target.unguarded ∧ (target ≠ .js → Naming.allWords a.segments ≠ []))
  /-- There is a member for each field with an accessor. -/
  memberFields : t.members target = t.plan.steps.filterMap (Step.memberName? target)
  /-- In Kotlin the name of a member is legal exactly if the characters of its field are. -/
  kotlinMembers : target = .kotlin → ∀ field a text, .fieldAccessor field a text ∈ t.plan.steps →
    (target.IsLegal (target.memberName field) ↔ Target.SpellableField field)
  /-- In Rust the name of a member is legal exactly if that of a function for its field is. -/
  rustMembers : target = .rust → ∀ field a text, .fieldAccessor field a text ∈ t.plan.steps →
    (target.IsLegal (target.memberName field) ↔
      Naming.Spellable (Unicode.canBegin · = true) (Naming.allWords [field]) ∧
        Naming.snakeCase [field] ∉ target.unguarded ∧ Naming.allWords [field] ≠ [])

namespace Tree

/-- **Which names of a binding are legal.**  A function, a type or a member has a legal name exactly
if its key or its field has words, if these have no characters but those of identifiers, and if they
do not spell one of the forbidden words that the target has not reserved. -/
theorem legalNames_spec {t : Tree} {c : Config} {target : Target} {out : TargetOutput}
    (h : generateTarget t c target = .ok out) : t.LegalNames c target out := by
  constructor
  case declared => exact declaredIn h
  case runtime =>
    rw [Target.topLevelNames_runtime]
    exact Target.isLegal_of_mem_runtimeNames
  case epilogue =>
    rw [Target.topLevelNames_epilogue]
    exact Target.isLegal_of_mem_epilogueNames
  case tables => exact fun l _ => target.isLegal_tableFunction l
  case functionNodes => exact t.functions_eq_map target
  case functions => exact fun a _ => target.isLegal_accessorName_iff a
  case asciiFunctions =>
    intro a _ hascii
    rw [target.isLegal_accessorName_iff]
    exact and_iff_right hascii.spellable
  case typeNodes => exact fun name => mem_types_iff
  case types => exact fun a _ => target.isLegal_typeName_iff a
  case asciiTypes =>
    intro a _ hascii
    rw [target.isLegal_typeName_iff]
    exact and_iff_right hascii.spellable.capitalBegins
  case memberFields => exact t.members_eq target
  case kotlinMembers =>
    rintro rfl field - - -
    exact Target.isLegal_memberName_kotlin_iff field
  case rustMembers =>
    rintro rfl field - - -
    exact Target.isLegal_memberName_rust_iff field

theorem legalNames_spec_marked :
    ∃ out, generateTarget marked (.ofLanguage "nl") .kotlin = .ok out ∧
      marked.LegalNames (.ofLanguage "nl") .kotlin out ∧
      marked.functions .kotlin = ["lookup_"] ∧ marked.members .kotlin = [("Items", "class_")] ∧
      ∀ name ∈ ["lookup_", "Items", "class_"], Target.IsLegal .kotlin name := by
  have hout := (generateTarget_eq_ok_iff marked (.ofLanguage "nl") .kotlin _).2 ⟨vet_marked, rfl⟩
  exact ⟨_, hout, legalNames_spec hout, by decide +kernel, by decide +kernel, by decide +kernel⟩

/-- A document with a list of records and a field whose names are forbidden words that the target
has not reserved. -/
theorem exists_forbidden_declared :
    ∃ t out, Tree.ofDocument "nl" (.object
        [("self", .array [.object [("final", .string "x")]])]) = .ok t ∧
      generateTarget t (.ofLanguage "nl") .rust = .ok out ∧
      t.types .rust = ["Self"] ∧ t.members .rust = [("Self", "final")] ∧
      ¬Target.IsLegal .rust "Self" ∧ ¬Target.IsLegal .rust "final" := by
  refine ⟨_, _, rfl,
    (generateTarget_eq_ok_iff ..).2 ⟨vet_of_values (by decide) (by decide +kernel), rfl⟩,
    ?_, ?_, ?_, ?_⟩
  · decide +kernel
  · decide +kernel
  · decide +kernel
  · decide +kernel

end Tree

end Phrasebook
