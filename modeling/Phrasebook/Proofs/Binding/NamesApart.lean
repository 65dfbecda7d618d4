import Phrasebook.Proofs.Binding.TableFiles
import Phrasebook.Proofs.Binding.TopLevel
import Phrasebook.Proofs.Naming.Identifiers

/-!
# The names of a binding are apart

Whether an accessor may have its name is settled once for all targets, before any of them marks the
names that it has reserved.  So a name that is free may still meet another one when it is marked.

The names of accessors and types do not: a marked name ends with an underscore, and none of these
names ends with one of its own.  A member may, but then it shares its words with the member that is
marked, and words compete as well.

The names of tables are another matter.  They come from language tags, and a variant of four
characters that begins with a digit may end with any character (`en-1ab.`), for which the name of
the table has an underscore.  Where every name that begins like that of a table is marked, such a
table gets the name of an accessor (`Target.accessorName_eq_tableFunction_iff`).
-/

namespace Phrasebook

/-! ## Nodes with a function or a type -/

/-- The node for which a step declares a function. -/
def Step.node? : Step → Option Address
  | .accessor _ a _ _ => some a
  | .listAccessor _ a _ _ => some a
  | .fieldAccessor .. => none
  | .text .. => none
  | .finish => none

/-- The list of records for which a step declares a member. -/
def Step.list? : Step → Option Address
  | .fieldAccessor _ a _ => some a
  | .accessor .. => none
  | .listAccessor .. => none
  | .text .. => none
  | .finish => none

/-- The nodes for which the plan of `t` declares a function: texts and lists of texts. -/
def Tree.accessorNodes (t : Tree) : List Address := t.plan.steps.filterMap Step.node?

/-- The nodes for which the plan of `t` declares members, each as often as it has one. -/
def Tree.listNodes (t : Tree) : List Address := t.plan.steps.filterMap Step.list?

/-- The name of the function for the node at `a`. -/
def Target.accessorName (target : Target) (a : Address) : String :=
  target.functionName a.lowerCamel a

namespace Tree

variable {t : Tree} {target : Target}

lemma functionName?_of_mem_steps {s : Step} (h : s ∈ t.plan.steps) :
    s.functionName? target = s.node?.map target.accessorName := by
  by_cases hform : s.form? = none
  · cases s with
    | accessor | listAccessor | fieldAccessor => exact nomatch hform
    | text | finish => rfl
  · obtain ⟨u, hu, -, -, haccessor⟩ := exists_turn_of_mem_steps h hform
    obtain ⟨_, _, _, -, hue⟩ := mem_turns_iff.1 hu
    rcases Entry.request_cases hue with ⟨v, hr⟩ | ⟨vs, hr⟩ | hr | ⟨-, -, rs, field, hr⟩ <;>
      rw [hr] at haccessor <;> cases haccessor <;> rfl

lemma functions_eq_map (t : Tree) (target : Target) :
    t.functions target = t.accessorNodes.map target.accessorName := by
  rw [functions_eq, accessorNodes, List.map_filterMap]
  exact List.filterMap_congr fun s hs => functionName?_of_mem_steps hs

lemma mem_types_iff {name : String} :
    name ∈ t.types target ↔ ∃ a ∈ t.listNodes, target.typeName a = name := by
  have htype : ∀ s : Step, s.typeName? target = s.list?.map target.typeName := by
    intro s
    cases s <;> rfl
  rw [types_eq, Step.mem_types_iff, List.filterMap_congr fun s _ => htype s, listNodes,
    ← List.map_filterMap, List.mem_map]
  exact and_iff_right List.not_mem_nil

/-- A list of records with members got the name of its type. -/
lemma exists_getsType_of_mem_listNodes {a : Address} (h : a ∈ t.listNodes) :
    ∃ before rs, t.GetsType before a rs := by
  obtain ⟨s, hs, hlist⟩ := List.mem_filterMap.1 h
  cases s with
  | fieldAccessor field b text =>
    obtain rfl := Option.some.inj hlist
    obtain ⟨u, hu, hsu, -, -⟩ := exists_turn_of_mem_steps hs nofun
    obtain ⟨before, rs, htype, -, -⟩ := exists_getsType hu hsu
    exact ⟨before, rs, htype⟩
  | accessor | listAccessor | text | finish => exact nomatch hlist

/-- Accessors have different names, in camel case and in snake case. -/
lemma pairwise_accessorNodes (t : Tree) :
    t.accessorNodes.Pairwise fun a b =>
      [a.lowerCamel, a.snakeCase].Disjoint [b.lowerCamel, b.snakeCase] := by
  refine List.pairwise_filterMap.2 (t.pairwise_steps.imp fun {s s'} h a ha b hb => ?_)
  have hnames : ∀ {s : Step} {a}, s.node? = some a →
      s.scope? = some .accessors ∧ s.names = [a.lowerCamel, a.snakeCase] := by
    intro s a ha
    cases s <;> cases ha <;> exact ⟨rfl, rfl⟩
  obtain ⟨hscope, hs⟩ := hnames ha
  obtain ⟨hscope', hs'⟩ := hnames hb
  have hapart := h (hscope.trans hscope'.symm) (by rw [hscope]; exact nofun)
  rwa [hs, hs'] at hapart

end Tree

/-! ## Marked names -/

namespace Target

open Naming Unicode

/-- The names that a target has reserved. -/
def reservedNames : Target → List String
  | .js => Js.reserved
  | .kotlin => Kotlin.reserved
  | .rust => Rust.reserved

/-- Whether a target marks `name`. -/
def marks (target : Target) (name : String) : Bool :=
  match target with
  | .js => name ∈ Js.reserved
  | .kotlin => name ∈ Kotlin.reserved
  | .rust => Rust.tableMark.toList.isPrefixOf name.toList || name ∈ Rust.reserved

lemma identifier_eq_mark (target : Target) (name : String) :
    target.identifier name = mark (target.marks · = true) name := by
  cases target with
  | js => simp [identifier, Js.identifier, escapeReserved, mark, marks]
  | kotlin => simp [identifier, Kotlin.identifier, escapeReserved, mark, marks]
  | rust =>
    by_cases h : Rust.tableMark.toList.isPrefixOf name.toList
    · simp [identifier, Rust.identifier, mark, marks, h]
    · simp [identifier, Rust.identifier, escapeReserved, mark, marks, h]

lemma identifier_inj {target : Target} {x y : String} (hx : Unmarked x) (hy : Unmarked y)
    (h : target.identifier x = target.identifier y) : x = y := by
  have hempty : ¬target.marks "" = true := by cases target <;> decide
  rw [identifier_eq_mark, identifier_eq_mark] at h
  exact mark_inj hempty hx hy h

/-- No name is reserved as it is declared. -/
lemma identifier_notMem_reservedNames (target : Target) (name : String) :
    target.identifier name ∉ target.reservedNames := by
  -- a reserved name is marked, and a marked name ends as no reserved name does
  have hends : ∀ r ∈ target.reservedNames, r.toList.getLast? ≠ some '_' := by
    cases target <;> decide
  have hmarks : ∀ n ∈ target.reservedNames, target.marks n := by
    intro n hn
    cases target with
    | js => exact decide_eq_true hn
    | kotlin => exact decide_eq_true hn
    | rust => exact Bool.or_eq_true_iff.2 (.inr (decide_eq_true hn))
  intro h
  rw [identifier_eq_mark, mark] at h
  split_ifs at h with hmark
  · exact hends _ h (by simp [String.toList_append])
  · exact hmark (hmarks _ h)

lemma typeName_inj {target : Target} {a b : Address}
    (h : target.typeName a = target.typeName b) : a.typeName = b.typeName :=
  identifier_inj (typeName_jointless _).unmarked (typeName_jointless _).unmarked h

/-- Accessors with one function have a name in common. -/
lemma not_disjoint_of_accessorName {target : Target} {a b : Address}
    (h : target.accessorName a = target.accessorName b) :
    ¬[a.lowerCamel, a.snakeCase].Disjoint [b.lowerCamel, b.snakeCase] := by
  have hcamel : ∀ c : Address, Unmarked c.lowerCamel := fun c =>
    (lowerCamel_jointless c.segments).unmarked
  have hsnake : ∀ c : Address, Unmarked c.snakeCase := fun c => snakeCase_unmarked c.segments
  intro hapart
  cases target with
  | js =>
    have heq := @identifier_inj .js _ _ (hcamel a) (hcamel b) h
    exact hapart List.mem_cons_self (heq ▸ List.mem_cons_self)
  | kotlin =>
    have heq := @identifier_inj .kotlin _ _ (hcamel a) (hcamel b) h
    exact hapart List.mem_cons_self (heq ▸ List.mem_cons_self)
  | rust =>
    have heq := @identifier_inj .rust _ _ (hsnake a) (hsnake b) h
    exact @hapart a.snakeCase (by simp) (by simp [heq])

/-- Fields with one member have a name in common. -/
lemma not_disjoint_of_memberName {target : Target} {f g : String}
    (h : target.memberName f = target.memberName g) :
    ¬[Naming.memberName f, snakeCase [f]].Disjoint [Naming.memberName g, snakeCase [g]] := by
  intro hapart
  have hsnake : snakeCase [f] ≠ snakeCase [g] := fun heq =>
    @hapart (snakeCase [f]) (by simp) (by simp [heq])
  have hmember : Naming.memberName f ≠ Naming.memberName g := fun heq =>
    @hapart (Naming.memberName f) (by simp) (by simp [heq])
  cases target with
  | js => exact hmember (congrArg Naming.memberName h)
  | kotlin =>
    -- a member may end with an underscore, so that marking another one can give its name
    have hreserved : ∀ r ∈ Kotlin.reserved, '_' ∉ r.toList ∧ r ≠ "" := by decide
    have hmarked : ∀ {f g : String}, Naming.memberName f ∈ Kotlin.reserved →
        Naming.memberName g = Naming.memberName f ++ "_" → snakeCase [g] = snakeCase [f] := by
      intro f g hf hg
      obtain ⟨hunderscore, hempty⟩ := hreserved _ hf
      exact snakeCase_eq_of_memberName hunderscore hempty hg
    simp only [memberName, Kotlin.identifier, escapeReserved] at h
    split_ifs at h with hf hg hg
    · exact hmember ((String.append_left_inj _).1 h)
    · exact hsnake (hmarked hf h.symm).symm
    · exact hsnake (hmarked hg h)
    · exact hmember h
  | rust => exact hsnake (@identifier_inj .rust _ _ (snakeCase_unmarked _) (snakeCase_unmarked _) h)

/-! ## Names of the target itself -/

lemma accessorName_notMem_reservedNames (target : Target) (a : Address) :
    target.accessorName a ∉ target.reservedNames := by
  cases target with
  | js => exact identifier_notMem_reservedNames .js _
  | kotlin => exact identifier_notMem_reservedNames .kotlin _
  | rust => exact identifier_notMem_reservedNames .rust _

lemma accessorName_rust (a : Address) :
    accessorName .rust a = mark (marks .rust · = true) a.snakeCase :=
  identifier_eq_mark .rust _

lemma not_capital_of_mem_accessorName {a : Address} {x : Char}
    (hx : x ∈ (accessorName .rust a).toList) : ¬(0x41 ≤ x.toNat ∧ x.toNat ≤ 0x5A) := by
  rw [accessorName_rust, mark] at hx
  split_ifs at hx
  · rw [String.toList_append, List.mem_append] at hx
    rcases hx with hx | hx
    · exact not_capital_of_mem_snakeCase _ hx
    · obtain rfl := List.mem_singleton.1 hx
      decide
  · exact not_capital_of_mem_snakeCase _ hx

/-- A name that is reserved or, where functions are spelled in small letters, has a capital. -/
def isOwn (target : Target) (name : String) : Bool :=
  name ∈ target.reservedNames ||
    target = .rust && name.toList.any fun x => 0x41 ≤ x.toNat && x.toNat ≤ 0x5A

lemma isOwn_accessorName (target : Target) (a : Address) :
    target.isOwn (target.accessorName a) = false := by
  rw [isOwn, Bool.or_eq_false_iff, Bool.and_eq_false_imp]
  refine ⟨decide_eq_false (target.accessorName_notMem_reservedNames a), fun htarget => ?_⟩
  obtain rfl : target = .rust := of_decide_eq_true htarget
  refine List.any_eq_false.2 fun x hx hcapital => not_capital_of_mem_accessorName hx ?_
  simpa using hcapital

/-- No accessor has the name of a function or a variable of the runtime. -/
lemma accessorName_notMem_runtimeNames (target : Target) (a : Address) :
    target.accessorName a ∉ target.runtimeNames := by
  have hown : ∀ name ∈ target.runtimeNames, target.isOwn name := by
    cases target <;> decide
  intro h
  have hname := hown _ h
  rw [isOwn_accessorName] at hname
  exact nomatch hname

/-! ## Names of tables -/

lemma prefix_of_append_singleton {α : Type*} {n m cs : List α} {c : α} (h : n ++ [c] = m ++ cs)
    (hcs : cs ≠ []) : m <+: n := by
  have hprefix : m <+: n ++ [c] := ⟨cs, h.symm⟩
  rcases List.prefix_concat_iff.1 hprefix with hm | hm
  · rw [h] at hm
    exact absurd (List.self_eq_append_right.1 hm) hcs
  · exact hm

lemma exists_tableFunction (target : Target) {language : String} (h : language ≠ "") :
    ∃ cs ≠ [], (target.tableFunction language).toList = Rust.tableMark.toList ++ cs := by
  have hlanguage : language.toList ≠ [] := fun hnil => h (String.toList_eq_nil_iff.1 hnil)
  have hidentifier : (languageIdentifier language).toList ≠ [] := by
    rw [languageIdentifier, String.toList_map]
    exact fun hnil => hlanguage (List.map_eq_nil_iff.1 hnil)
  cases target with
  | js => exact ⟨_, hidentifier, String.toList_append⟩
  | kotlin => exact ⟨_, hidentifier, String.toList_append⟩
  | rust =>
    refine ⟨_, ?_, String.toList_append⟩
    rw [asciiLowercase, String.toList_map]
    exact fun hnil => hidentifier (List.map_eq_nil_iff.1 hnil)

/-- A name with underscores at its head alone is not that of a table, marked or not. -/
lemma identifier_ne_tableFunction (target : Target) {name language : String}
    (hname : Jointless name) (h : language ≠ "") :
    target.identifier name ≠ target.tableFunction language := by
  have hmark : ¬Rust.tableMark.toList <+: name.toList := by
    rintro ⟨rest, hrest⟩
    have hjoint : '_' ∈ Rust.tableMark.toList.tail := by decide
    rw [Jointless, ← hrest, List.tail_append_of_ne_nil (by decide)] at hname
    exact hname (List.mem_append_left _ hjoint)
  obtain ⟨cs, hcs, htable⟩ := target.exists_tableFunction h
  intro heq
  rw [← heq, identifier_eq_mark, mark] at htable
  split_ifs at htable
  · -- the underscore of the mark is not in the prefix, since a tag has characters
    rw [String.toList_append] at htable
    exact hmark (prefix_of_append_singleton htable hcs)
  · exact hmark ⟨cs, htable.symm⟩

/-- An accessor has the name of a table only where names in snake case are marked for it. -/
lemma accessorName_eq_tableFunction_iff {target : Target} {a : Address} {language : String}
    (h : language ≠ "") :
    target.accessorName a = target.tableFunction language ↔
      target = .rust ∧ a.snakeCase ++ "_" = Rust.tableFunction language := by
  have hcamel := lowerCamel_jointless a.segments
  cases target with
  | js =>
    refine iff_of_false ?_ nofun
    exact identifier_ne_tableFunction .js hcamel h
  | kotlin =>
    refine iff_of_false ?_ nofun
    exact identifier_ne_tableFunction .kotlin hcamel h
  | rust =>
    obtain ⟨cs, hcs, htable⟩ := exists_tableFunction .rust h
    have hmarks : Rust.tableMark.toList <+: a.snakeCase.toList → marks .rust a.snakeCase :=
      fun hprefix => Bool.or_eq_true_iff.2 (.inl (List.isPrefixOf_iff_prefix.2 hprefix))
    rw [accessorName_rust, tableFunction, mark]
    split_ifs with hmark
    · simp
    · -- an accessor that is not marked does not begin like a table
      rw [tableFunction] at htable
      refine iff_of_false (fun heq => ?_) (fun heq => ?_)
      · rw [← heq] at htable
        exact hmark (hmarks ⟨cs, htable.symm⟩)
      · rw [← heq.2, String.toList_append] at htable
        exact hmark (hmarks (prefix_of_append_singleton htable hcs))

lemma asciiLower_ne_underscore {c : Char} (h : c ≠ '_') : asciiLower c ≠ '_' :=
  asciiLower_induction (· ≠ '_') h (by decide)

/-- The name of a table does not end with an underscore if its tag ends with an ASCII letter or a
digit. -/
lemma append_ne_tableFunction {language : String} {c : Char}
    (hc : language.toList.getLast? = some c) (halphanumeric : isAsciiAlphanumeric c) (n : String) :
    n ++ "_" ≠ Rust.tableFunction language := by
  have hne : c ≠ '_' := by
    rintro rfl
    exact absurd halphanumeric (by decide)
  have hlast : (asciiLowercase (languageIdentifier language)).toList.getLast? =
      some (asciiLower c) := by
    simp [asciiLowercase, languageIdentifier, String.toList_map, hc, halphanumeric]
  intro h
  have hlist := congrArg (fun s : String => s.toList.getLast?) h
  simp only [Rust.tableFunction, String.toList_append] at hlist
  rw [List.getLast?_append, List.getLast?_append, hlast] at hlist
  exact asciiLower_ne_underscore hne (Option.some.inj hlist).symm

/-- No accessor has the name of something in the epilogue. -/
lemma accessorName_notMem_epilogueNames {languages : List String} (h : ∀ l ∈ languages, l ≠ "")
    (target : Target) (a : Address) : target.accessorName a ∉ target.epilogueNames languages := by
  have hown : ∀ {name}, target.isOwn name → target.accessorName a ≠ name := by
    rintro _ hname rfl
    rw [isOwn_accessorName] at hname
    exact nomatch hname
  cases target with
  | js =>
    rw [epilogueNames, List.mem_append, List.mem_map, List.mem_singleton, not_or]
    refine ⟨?_, hown (by decide)⟩
    rintro ⟨l, hl, heq⟩
    exact nomatch ((accessorName_eq_tableFunction_iff (h l hl)).1 heq.symm).1
  | kotlin => exact fun hname => hown (by decide) (List.mem_singleton.1 hname)
  | rust => exact fun hname => hown (by decide) (List.mem_singleton.1 hname)

end Target

/-! ## All names of a binding -/

/-- The names that the binding of `t` declares are apart, where `out` is what comes out of `t` and
`c` for `target`. -/
structure Tree.BindingNames (t : Tree) (c : Config) (target : Target) (out : TargetOutput) :
    Prop where
  /-- The binding is a runtime, the texts of its declarations, and an epilogue for its tables. -/
  contents : out.sources.binding.contents =
    target.opening c.packageName ++ Spelling.lines (target.runtime c.defaultLanguage) ++
      String.join (t.declarationTexts target) ++ target.epilogue out.sources.tables.keys
  /-- The text of a declaration begins with its heading, which has its name. -/
  headings : List.Forall₂ (fun d s => BeginsWith (target.heading d) s) (t.declarations target)
    (t.declarationTexts target)
  /-- The file of a table begins with its header, which has the name of its function. -/
  headers : ∀ x ∈ out.sources.tables.toList,
    BeginsWith (target.dialect.tableHeader c.packageName x.1) x.2.contents
  /-- There is a function for each text and each list of texts with an accessor. -/
  functionNodes : t.functions target = t.accessorNodes.map target.accessorName
  /-- No two functions of accessors have one name. -/
  functions : (t.functions target).Nodup
  /-- No function has a name that the runtime declares. -/
  runtime : (t.functions target).Disjoint
    (target.topLevelNames (Spelling.lines (target.runtime c.defaultLanguage)))
  /-- No function has a name that the epilogue declares. -/
  epilogue : (t.functions target).Disjoint
    (target.topLevelNames (target.epilogue out.sources.tables.keys))
  /-- A function has the name of a table only in one target, and there exactly if it gets it by its
  mark. -/
  tables : ∀ l ∈ out.sources.tables.keys, target.tableFunction l ∈ t.functions target ↔
    target = .rust ∧ ∃ a ∈ t.accessorNodes, a.snakeCase ++ "_" = Rust.tableFunction l
  /-- No function has the name of the table of a tag that ends with a letter or a digit. -/
  plainTables : ∀ l ∈ out.sources.tables.keys, ∀ x, l.toList.getLast? = some x →
    Unicode.isAsciiAlphanumeric x → target.tableFunction l ∉ t.functions target
  /-- No two types have one name. -/
  types : (t.types target).Nodup
  /-- The types are those of the lists of records with members, all of which got their names. -/
  typeNodes : ∀ name, name ∈ t.types target ↔
    ∃ a ∈ t.listNodes, target.typeName a = name ∧ ∃ before rs, t.GetsType before a rs
  /-- No two lists of records share the name of a type. -/
  lists : ∀ before a rs before' b ss, t.GetsType before a rs → t.GetsType before' b ss →
    target.typeName a = target.typeName b → before = before' ∧ a = b ∧ rs = ss
  /-- There is a member for each field with an accessor. -/
  memberFields : t.members target = t.plan.steps.filterMap (Step.memberName? target)
  /-- No two members of one type have one name. -/
  members : (t.members target).Nodup

namespace Tree

variable {t : Tree} {target : Target}

lemma nodup_functions (t : Tree) (target : Target) : (t.functions target).Nodup := by
  rw [t.functions_eq_map, List.Nodup, List.pairwise_map]
  exact t.pairwise_accessorNodes.imp fun hapart heq =>
    Target.not_disjoint_of_accessorName heq hapart

lemma nodup_members (t : Tree) (target : Target) : (t.members target).Nodup := by
  rw [t.members_eq, List.Nodup, List.pairwise_filterMap]
  refine t.pairwise_steps.imp fun {s s'} hapart x hx y hy heq => ?_
  cases s with
  | fieldAccessor field a text =>
    cases s' with
    | fieldAccessor field' b text' =>
      cases hx
      cases hy
      obtain ⟨htype, hmember⟩ := Prod.mk.inj heq
      have hscope : a.typeName = b.typeName := Target.typeName_inj htype
      refine Target.not_disjoint_of_memberName hmember (hapart ?_ nofun)
      exact congrArg (fun n => some (Scope.members n)) hscope
    | accessor | listAccessor | text | finish => exact nomatch hy
  | accessor | listAccessor | text | finish => exact nomatch hx

/-- **The names of a binding are apart.**  Accessors have different functions, none of which is one
of the runtime, of the epilogue or, but for one target and tags that end with neither a letter nor a
digit, of a table; lists of records have different types, and the fields of a type different
members. -/
theorem bindingNames_apart {t : Tree} {c : Config} {target : Target} {out : TargetOutput}
    (h : generateTarget t c target = .ok out) : t.BindingNames c target out := by
  obtain ⟨hvet, rfl⟩ := (generateTarget_eq_ok_iff ..).1 h
  have hempty := t.ne_empty_of_mem_tables (checkTree_of_vet hvet) target
  have hfunctions : ∀ name ∈ t.functions target, ∃ a ∈ t.accessorNodes,
      target.accessorName a = name := fun name hname =>
    List.mem_map.1 (t.functions_eq_map target ▸ hname)
  have htables : ∀ l ∈ (target.dialect.generate t c).sources.tables.keys,
      target.tableFunction l ∈ t.functions target ↔
        target = .rust ∧ ∃ a ∈ t.accessorNodes, a.snakeCase ++ "_" = Rust.tableFunction l := by
    intro l hl
    rw [t.functions_eq_map, List.mem_map]
    simp only [Target.accessorName_eq_tableFunction_iff (hempty l hl)]
    tauto
  constructor
  case contents => exact t.binding_contents c target
  case headings => exact t.forall₂_heading target
  case headers => exact fun _ => beginsWith_tableHeader
  case functionNodes => exact t.functions_eq_map target
  case functions => exact t.nodup_functions target
  case runtime =>
    intro name hname hruntime
    obtain ⟨a, -, rfl⟩ := hfunctions name hname
    rw [Target.topLevelNames_runtime] at hruntime
    exact target.accessorName_notMem_runtimeNames a hruntime
  case epilogue =>
    intro name hname hepilogue
    obtain ⟨a, -, rfl⟩ := hfunctions name hname
    rw [Target.topLevelNames_epilogue] at hepilogue
    exact target.accessorName_notMem_epilogueNames hempty a hepilogue
  case tables => exact htables
  case plainTables =>
    intro l hl x hx halphanumeric hmem
    obtain ⟨-, a, -, heq⟩ := (htables l hl).1 hmem
    exact Target.append_ne_tableFunction hx halphanumeric _ heq
  case types => exact Step.nodup_types
  case typeNodes =>
    intro name
    rw [mem_types_iff]
    constructor
    · rintro ⟨a, ha, hname⟩
      exact ⟨a, ha, hname, exists_getsType_of_mem_listNodes ha⟩
    · rintro ⟨a, ha, hname, -⟩
      exact ⟨a, ha, hname⟩
  case lists =>
    intro before a rs before' b ss ha hb hname
    exact ha.eq hb (Target.typeName_inj hname)
  case memberFields => exact t.members_eq target
  case members => exact t.nodup_members target

/-- A tree with two names that are marked: that of an accessor, and that of a field beside which a
field with the marked name is left out. -/
def marked : Tree where
  defaultLanguage := "nl"
  nodes :=
    [.entry ⟨⟨[], "lookup"⟩, .text ⟨"Zoek", 0, .empty⟩⟩,
      .entry ⟨⟨[], "items"⟩,
        .records [⟨[("class", ⟨"Klas", 0, .empty⟩), ("class_", ⟨"Klasse", 0, .empty⟩)]⟩]⟩]

lemma vet_marked : marked.vet (.ofLanguage "nl") = .ok () :=
  vet_of_values (by decide) (by decide)

theorem bindingNames_apart_marked :
    ∃ out, generateTarget marked (.ofLanguage "nl") .kotlin = .ok out ∧
      marked.BindingNames (.ofLanguage "nl") .kotlin out ∧
      marked.functions .kotlin = ["lookup_"] ∧ marked.members .kotlin = [("Items", "class_")] := by
  have hout := (generateTarget_eq_ok_iff marked (.ofLanguage "nl") .kotlin _).2 ⟨vet_marked, rfl⟩
  exact ⟨_, hout, bindingNames_apart hout, by decide +kernel, by decide +kernel⟩

/-- A document with an accessor that gets the name of a table: that of the tag `en-1ab.` ends with
an underscore, and so does the name of the text `localizations.en_1ab` when it is marked. -/
theorem exists_function_named_as_table :
    ∃ t out, Tree.ofDocument "nl" (.object
        [("localizations", .object [("en_1ab", .string "x")]),
          ("title", .object [("nl", .string "y"), ("en-1ab.", .string "z")])]) = .ok t ∧
      generateTarget t (.ofLanguage "nl") .rust = .ok out ∧
      ∃ l ∈ out.sources.tables.keys, Rust.tableFunction l ∈ t.functions .rust := by
  refine ⟨_, _, rfl,
    (generateTarget_eq_ok_iff ..).2 ⟨vet_of_values (by decide) (by decide +kernel), rfl⟩,
    "en-1ab.", ?_, ?_⟩
  · decide +kernel
  · decide +kernel

end Tree

end Phrasebook
