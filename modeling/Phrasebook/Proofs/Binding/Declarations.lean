import Phrasebook.Generation
import Phrasebook.Proofs.Generation.Overflow
import Phrasebook.Proofs.Plan.Accessors

/-!
# What a binding declares

A binding is put together from three parts: a runtime, one text for each declaration, and an
epilogue that names the tables.  Which declarations there are depends on the target only in how
their names are spelled, and can be read off the steps of the plan (`Step.declared`).

Every declaration stands here beside the text that makes it.  The text begins with the heading of
the declaration (`Tree.forall₂_heading`), so the names in a list of declarations are the names in
the source; and the binding is the runtime, these texts and the epilogue
(`Tree.binding_contents`).
-/

namespace Phrasebook

/-! ## Declarations -/

/-- Something that a binding declares under a name. -/
inductive Declaration where
  /-- The function of a text or of a list of texts. -/
  | function (name : String)
  /-- The type of a list of records. -/
  | type (name : String)
  /-- The member of the type `type` for a field. -/
  | member (type name : String)
  deriving DecidableEq

namespace Declaration

/-- The name of a function. -/
def function? : Declaration → Option String
  | function name => some name
  | type _ => none
  | member .. => none

/-- The name of a type. -/
def type? : Declaration → Option String
  | function _ => none
  | type name => some name
  | member .. => none

/-- The type and the name of a member. -/
def member? : Declaration → Option (String × String)
  | function _ => none
  | type _ => none
  | member owner name => some (owner, name)

end Declaration

namespace Target

/-- A name as the target declares it: marked if it is reserved. -/
def identifier : Target → String → String
  | .js => Js.identifier
  | .kotlin => Kotlin.identifier
  | .rust => Rust.identifier

/-- The name of the function for the accessor `function` of the node at `a`. -/
def functionName (target : Target) (function : String) (a : Address) : String :=
  match target with
  | .js => Js.identifier function
  | .kotlin => Kotlin.identifier function
  | .rust => Rust.identifier a.snakeCase

/-- The name of the type of the records at `a`. -/
def typeName (target : Target) (a : Address) : String := target.identifier a.typeName

/-- The name of the member for `field`. -/
def memberName (target : Target) (field : String) : String :=
  match target with
  | .js => field
  | .kotlin => Kotlin.identifier (Naming.memberName field)
  | .rust => Rust.identifier (Naming.snakeCase [field])

/-- The name of the function that makes the table of a language. -/
def tableFunction : Target → String → String
  | .js => Js.tableFunction
  | .kotlin => Kotlin.tableFunction
  | .rust => Rust.tableFunction

/-- How the text of a declaration begins. -/
def heading (target : Target) : Declaration → String
  | .function name =>
    match target with
    | .js => "export function " ++ name ++ "("
    | .kotlin => "fun " ++ name ++ "("
    | .rust => "pub fn " ++ name ++ "("
  | .type name =>
    match target with
    | .js => "export class " ++ name ++ " \x7b"
    | .kotlin => "class " ++ name ++ "("
    | .rust => "#[derive(Debug, Clone, Copy, PartialEq, Eq)]" ++ "\n" ++
        ("pub struct " ++ name ++ " \x7b")
  | .member type name =>
    match target with
    | .js => type ++ ".prototype[" ++ Literal.Js.quoted name ++ "] = function () \x7b"
    | .kotlin => "fun " ++ type ++ "." ++ name ++ "("
    | .rust => "impl " ++ type ++ " \x7b" ++ "\n" ++ ("    pub fn " ++ name ++ "(")

/-- What a binding begins with before its runtime: a package, for the target that has one. -/
def opening (target : Target) (package : Option String) : String :=
  match target with
  | .js => ""
  | .kotlin => Spelling.lines
      (["// Generated localization bindings. Do not edit.", ""] ++
        Kotlin.packageDeclaration package)
  | .rust => ""

/-- The lines of a binding that select a language and look texts up. -/
def runtime : Target → String → List String
  | .js => Js.runtime
  | .kotlin => Kotlin.runtime
  | .rust => Rust.runtime

/-- The part of a binding that puts the tables of these languages together. -/
def epilogue (target : Target) (languages : List String) : String :=
  target.dialect.epilogue languages

end Target

/-! ## Declarations of steps -/

namespace Step

/-- What a step declares, each with its text, where the types `seen` are declared already. -/
def declared (target : Target) (seen : List String) : Step → List (Declaration × String)
  | .accessor function a count _ =>
    [(.function (target.functionName function a), target.dialect.accessor function a count)]
  | .listAccessor function a values _ =>
    [(.function (target.functionName function a),
      target.dialect.listAccessor function a values.length)]
  | .fieldAccessor field a _ =>
    (if target.typeName a ∈ seen then []
      else [(.type (target.typeName a), target.dialect.typeDeclaration (target.typeName a))]) ++
    [(.member (target.typeName a) (target.memberName field),
      target.dialect.fieldAccessor a field)]
  | .text .. => []
  | .finish => []

/-- The types that are declared after a step. -/
def seenAfter (target : Target) (seen : List String) : Step → List String
  | .fieldAccessor _ a _ =>
    if target.typeName a ∈ seen then seen else target.typeName a :: seen
  | .accessor .. => seen
  | .listAccessor .. => seen
  | .text .. => seen
  | .finish => seen

/-- What steps declare, in order. -/
def declaredAll (target : Target) (seen : List String) : List Step → List (Declaration × String)
  | [] => []
  | s :: rest => s.declared target seen ++ declaredAll target (s.seenAfter target seen) rest

end Step

/-- What the binding of `t` declares, in order. -/
def Tree.declarations (t : Tree) (target : Target) : List Declaration :=
  (Step.declaredAll target [] t.plan.steps).map (·.1)

/-- The text of each declaration, in order. -/
def Tree.declarationTexts (t : Tree) (target : Target) : List String :=
  (Step.declaredAll target [] t.plan.steps).map (·.2)

namespace Tree

/-- The names of the functions that the binding of `t` declares, in order. -/
def functions (t : Tree) (target : Target) : List String :=
  (t.declarations target).filterMap Declaration.function?

/-- The names of the types that the binding of `t` declares, in order. -/
def types (t : Tree) (target : Target) : List String :=
  (t.declarations target).filterMap Declaration.type?

/-- The members that the binding of `t` declares, each with its type, in order. -/
def members (t : Tree) (target : Target) : List (String × String) :=
  (t.declarations target).filterMap Declaration.member?

end Tree

/-! ## Headings -/

/-- The text `s` begins with `h`. -/
def BeginsWith (h s : String) : Prop := ∃ rest, s = h ++ rest

namespace BeginsWith

variable {h s : String}

lemma self (h : String) : BeginsWith h h := ⟨"", by simp⟩

lemma append (hs : BeginsWith h s) (t : String) : BeginsWith h (s ++ t) := by
  obtain ⟨rest, rfl⟩ := hs
  exact ⟨rest ++ t, String.append_assoc ..⟩

lemma behind (hs : BeginsWith h s) (t : String) : BeginsWith (t ++ h) (t ++ s) := by
  obtain ⟨rest, rfl⟩ := hs
  exact ⟨rest, (String.append_assoc ..).symm⟩

end BeginsWith

namespace Spelling

lemma lines_cons (l : String) (ls : List String) : lines (l :: ls) = l ++ "\n" ++ lines ls := by
  simp [lines, String.join_cons]

lemma lines_append (ls ls' : List String) : lines (ls ++ ls') = lines ls ++ lines ls' := by
  simp [lines, String.join_append]

lemma beginsWith_lines {h l : String} (hl : BeginsWith h l) (ls : List String) :
    BeginsWith h (lines (l :: ls)) := by
  rw [lines_cons]
  exact (hl.append _).append _

lemma beginsWith_lines_cons {h l : String} (hl : BeginsWith h l) (l' : String) (ls : List String) :
    BeginsWith (l' ++ "\n" ++ h) (lines (l' :: l :: ls)) := by
  rw [lines_cons]
  exact (beginsWith_lines hl ls).behind _

end Spelling

namespace Target

open Spelling

lemma heading_accessor (target : Target) (function : String) (a : Address) (count : UInt64) :
    BeginsWith (target.heading (.function (target.functionName function a)))
      (target.dialect.accessor function a count) := by
  cases target with
  | js => exact beginsWith_lines (((BeginsWith.self _).append _).append _) _
  | kotlin =>
    exact beginsWith_lines (((((BeginsWith.self _).append _).append _).append _).append _) _
  | rust => exact beginsWith_lines (((BeginsWith.self _).append _).append _) _

lemma heading_listAccessor (target : Target) (function : String) (a : Address) (length : ℕ) :
    BeginsWith (target.heading (.function (target.functionName function a)))
      (target.dialect.listAccessor function a length) := by
  cases target with
  | js => exact beginsWith_lines (BeginsWith.behind ⟨") \x7b", rfl⟩ _) _
  | kotlin => exact beginsWith_lines (BeginsWith.behind ⟨"): List<String> = listOf(", rfl⟩ _) _
  | rust =>
    simp only [dialect, Rust.dialect, Rust.listAccessor]
    exact beginsWith_lines (BeginsWith.behind ⟨") -> Vec<String> \x7b", rfl⟩ _) _

lemma heading_typeDeclaration (target : Target) (name : String) :
    BeginsWith (target.heading (.type name)) (target.dialect.typeDeclaration name) := by
  cases target with
  | js => exact beginsWith_lines (BeginsWith.self _) _
  | kotlin => exact beginsWith_lines (BeginsWith.behind ⟨"val index: Int)", rfl⟩ _) _
  | rust => exact beginsWith_lines_cons (BeginsWith.self _) _ _

lemma heading_fieldAccessor (target : Target) (a : Address) (field : String) :
    BeginsWith (target.heading (.member (target.typeName a) (target.memberName field)))
      (target.dialect.fieldAccessor a field) := by
  cases target with
  | js => exact beginsWith_lines (BeginsWith.self _) _
  | kotlin =>
    exact beginsWith_lines
      (((BeginsWith.behind ⟨"): String = getString(", rfl⟩ _).append _).append _) _
  | rust =>
    simp only [dialect, Rust.dialect, Rust.fieldAccessor]
    exact beginsWith_lines_cons (BeginsWith.behind ⟨"&self) -> String \x7b", rfl⟩ _) _ _

/-- The text of a declaration begins with its heading. -/
lemma heading_of_mem_declared {target : Target} {seen : List String} {s : Step}
    {d : Declaration × String} (h : d ∈ s.declared target seen) :
    BeginsWith (target.heading d.1) d.2 := by
  cases s with
  | accessor function a count text =>
    obtain rfl := List.mem_singleton.1 h
    exact target.heading_accessor function a count
  | listAccessor function a values language =>
    obtain rfl := List.mem_singleton.1 h
    exact target.heading_listAccessor function a values.length
  | fieldAccessor field a text =>
    rcases List.mem_append.1 h with h | h
    · split at h
      · exact nomatch h
      · obtain rfl := List.mem_singleton.1 h
        exact target.heading_typeDeclaration _
    · obtain rfl := List.mem_singleton.1 h
      exact target.heading_fieldAccessor a field
  | text key wording language => exact nomatch h
  | finish => exact nomatch h

end Target

/-- The texts of declarations begin with the headings of these. -/
lemma Tree.forall₂_heading (t : Tree) (target : Target) :
    List.Forall₂ (fun d s => BeginsWith (target.heading d) s) (t.declarations target)
      (t.declarationTexts target) := by
  have hall : ∀ (steps : List Step) (seen : List String),
      ∀ d ∈ Step.declaredAll target seen steps, BeginsWith (target.heading d.1) d.2 := by
    intro steps
    induction steps with
    | nil => exact fun _ _ h => nomatch h
    | cons s rest ih =>
      intro seen d hd
      rcases List.mem_append.1 hd with hd | hd
      · exact Target.heading_of_mem_declared hd
      · exact ih _ d hd
  rw [declarations, declarationTexts, List.forall₂_map_left_iff, List.forall₂_map_right_iff,
    List.forall₂_same]
  exact hall _ _

/-! ## Names of one kind -/

namespace Step

/-- The name of the function that a step declares. -/
def functionName? (target : Target) : Step → Option String
  | .accessor function a _ _ => some (target.functionName function a)
  | .listAccessor function a _ _ => some (target.functionName function a)
  | .fieldAccessor .. => none
  | .text .. => none
  | .finish => none

/-- The name of the type that a step needs. -/
def typeName? (target : Target) : Step → Option String
  | .fieldAccessor _ a _ => some (target.typeName a)
  | .accessor .. => none
  | .listAccessor .. => none
  | .text .. => none
  | .finish => none

/-- The type and the name of the member that a step declares. -/
def memberName? (target : Target) : Step → Option (String × String)
  | .fieldAccessor field a _ => some (target.typeName a, target.memberName field)
  | .accessor .. => none
  | .listAccessor .. => none
  | .text .. => none
  | .finish => none

section Kinds

variable {target : Target} {seen : List String} {steps : List Step}

lemma filterMap_function?_declared (s : Step) :
    ((s.declared target seen).map (·.1)).filterMap Declaration.function? =
      (s.functionName? target).toList := by
  cases s with
  | accessor | listAccessor | text | finish => rfl
  | fieldAccessor field a text =>
    rw [declared]
    split <;> rfl

lemma filterMap_member?_declared (s : Step) :
    ((s.declared target seen).map (·.1)).filterMap Declaration.member? =
      (s.memberName? target).toList := by
  cases s with
  | accessor | listAccessor | text | finish => rfl
  | fieldAccessor field a text =>
    rw [declared]
    split <;> rfl

/-- What is picked from the declarations of single steps is picked from those of all. -/
lemma filterMap_declaredAll {β : Type*} {f : Declaration → Option β} {g : Step → Option β}
    (h : ∀ {seen} s, ((s.declared target seen).map (·.1)).filterMap f = (g s).toList)
    (steps : List Step) :
    ((declaredAll target seen steps).map (·.1)).filterMap f = steps.filterMap g := by
  induction steps generalizing seen with
  | nil => rfl
  | cons s rest ih =>
    rw [declaredAll, List.map_append, List.filterMap_append, h, ih, List.filterMap_cons]
    cases g s <;> rfl

lemma filterMap_type?_declared (s : Step) :
    ((s.declared target seen).map (·.1)).filterMap Declaration.type? =
      ((s.typeName? target).filter (· ∉ seen)).toList := by
  cases s with
  | accessor | listAccessor | text | finish => rfl
  | fieldAccessor field a text =>
    by_cases h : target.typeName a ∈ seen <;> simp [declared, typeName?, Option.filter, h] <;> rfl

lemma seenAfter_eq (s : Step) :
    s.seenAfter target seen = ((s.typeName? target).filter (· ∉ seen)).toList ++ seen := by
  cases s with
  | accessor | listAccessor | text | finish => rfl
  | fieldAccessor field a text =>
    by_cases h : target.typeName a ∈ seen <;> simp [seenAfter, typeName?, Option.filter, h]

/-- The types that steps declare, where the types `seen` are declared already. -/
def types (target : Target) (seen : List String) (steps : List Step) : List String :=
  ((declaredAll target seen steps).map (·.1)).filterMap Declaration.type?

lemma types_cons (s : Step) :
    types target seen (s :: steps) = ((s.typeName? target).filter (· ∉ seen)).toList ++
      types target (((s.typeName? target).filter (· ∉ seen)).toList ++ seen) steps := by
  rw [types, declaredAll, List.map_append, List.filterMap_append, filterMap_type?_declared,
    seenAfter_eq]
  rfl

/-- The types that are declared are those that are needed and not declared yet. -/
lemma mem_types_iff {name : String} :
    name ∈ types target seen steps ↔
      name ∉ seen ∧ name ∈ steps.filterMap (typeName? target) := by
  induction steps generalizing seen with
  | nil => simp [types, declaredAll]
  | cons s rest ih =>
    rw [types_cons, List.mem_append, ih, List.filterMap_cons]
    cases s.typeName? target with
    | none => simp
    | some n => by_cases h : n ∈ seen <;> simp [Option.filter, h] <;> grind

/-- Each type is declared once. -/
lemma nodup_types : (types target seen steps).Nodup := by
  induction steps generalizing seen with
  | nil => exact .nil
  | cons s rest ih =>
    rw [types_cons, List.nodup_append']
    refine ⟨?_, ih, ?_⟩
    · cases (s.typeName? target).filter (· ∉ seen) with
      | none => exact .nil
      | some n => exact List.nodup_singleton n
    · intro n hn hrest
      exact (mem_types_iff.1 hrest).1 (List.mem_append_left _ hn)

end Kinds

end Step

namespace Tree

variable (t : Tree) (target : Target)

lemma functions_eq : t.functions target = t.plan.steps.filterMap (Step.functionName? target) :=
  Step.filterMap_declaredAll Step.filterMap_function?_declared _

lemma members_eq : t.members target = t.plan.steps.filterMap (Step.memberName? target) :=
  Step.filterMap_declaredAll Step.filterMap_member?_declared _

lemma types_eq : t.types target = Step.types target [] t.plan.steps := rfl

end Tree

/-! ## The whole binding -/

namespace Step

lemma declaredAll_append_finish (target : Target) (seen : List String) (steps : List Step) :
    declaredAll target seen (steps ++ [.finish]) = declaredAll target seen steps := by
  induction steps generalizing seen with
  | nil => rfl
  | cons s rest ih => rw [List.cons_append, declaredAll, ih, declaredAll]

end Step

namespace Dialect

variable {target : Target} {g : Draft} {s : Step}

lemma typeName_eq (target : Target) (a : Address) :
    target.dialect.typeName a = target.typeName a := by
  cases target <;> rfl

/-- A step appends to the binding what it declares. -/
lemma step_of_ne_finish (hs : s ≠ .finish) :
    (target.dialect.step g s).binding =
        g.binding ++ String.join ((s.declared target g.types).map (·.2)) ∧
      (target.dialect.step g s).types = s.seenAfter target g.types := by
  cases s with
  | text key wording language => simp [step, Step.declared, Step.seenAfter]
  | accessor function a count text =>
    simp [step, declare, Step.declared, Step.seenAfter, String.join_cons]
  | listAccessor function a values language =>
    simp [step, declare, Step.declared, Step.seenAfter, String.join_cons]
  | fieldAccessor field a text =>
    simp only [step, declareType, typeName_eq, Step.declared, Step.seenAfter]
    split
    · simp [declare, String.join_cons]
    · simp [declare, String.join_cons, String.append_assoc]
  | finish => exact absurd rfl hs

lemma run_of_finish_notMem {steps : List Step} (hs : .finish ∉ steps) :
    (target.dialect.run g steps).binding =
      g.binding ++ String.join ((Step.declaredAll target g.types steps).map (·.2)) := by
  induction steps generalizing g with
  | nil => simp [run, Step.declaredAll]
  | cons s rest ih =>
    rw [List.mem_cons, not_or] at hs
    obtain ⟨hbinding, htypes⟩ := @step_of_ne_finish target g s (Ne.symm hs.1)
    have hrun : target.dialect.run g (s :: rest) =
        target.dialect.run (target.dialect.step g s) rest := rfl
    rw [hrun, ih hs.2, hbinding, htypes, Step.declaredAll, List.map_append, String.join_append,
      String.append_assoc]

lemma sources_keys (d : Dialect) (g : Draft) : (d.sources g).tables.keys = g.tables.languages := by
  simp [sources, SortedMap.keys, Buffers.languages, Function.comp_def]

end Dialect

/-- A binding is a runtime, the texts of its declarations, and an epilogue for its tables. -/
lemma Tree.binding_contents (t : Tree) (c : Config) (target : Target) :
    (target.dialect.generate t c).sources.binding.contents =
      target.opening c.packageName ++ Spelling.lines (target.runtime c.defaultLanguage) ++
        String.join (t.declarationTexts target) ++
        target.epilogue (target.dialect.generate t c).sources.tables.keys := by
  obtain ⟨steps, hsteps, hfinish⟩ := t.exists_steps_eq
  have hprologue : target.dialect.prologue c.packageName c.defaultLanguage =
      target.opening c.packageName ++ Spelling.lines (target.runtime c.defaultLanguage) := by
    cases target with
    | js => exact (String.empty_append ..).symm
    | kotlin => exact Spelling.lines_append ..
    | rust => exact (String.empty_append ..).symm
  set g := target.dialect.run (target.dialect.start c.packageName c.defaultLanguage) steps with hg
  have hrun : target.dialect.run (target.dialect.start c.packageName c.defaultLanguage)
      t.plan.steps = target.dialect.step g .finish := by
    rw [hsteps, Dialect.run, List.foldl_append]
    rfl
  have hbinding : g.binding = target.dialect.prologue c.packageName c.defaultLanguage ++
      String.join (t.declarationTexts target) := by
    rw [hg, Dialect.run_of_finish_notMem hfinish, declarationTexts, hsteps,
      Step.declaredAll_append_finish]
    rfl
  have hkeys : (target.dialect.generate t c).sources.tables.keys =
      (g.tables.closeAll target.dialect.tableClosing).languages := by
    rw [Dialect.generate, hrun, Dialect.sources_keys]
    rfl
  have hcontents : (target.dialect.generate t c).sources.binding.contents =
      g.binding ++ target.epilogue (g.tables.closeAll target.dialect.tableClosing).languages := by
    rw [Dialect.generate, hrun]
    rfl
  rw [hcontents, hkeys, hbinding, hprologue]

/-- What comes out of `t` and `c` for `target` declares what `t` says: the binding in `out` has the
text of each declaration, and the text begins with the heading. -/
structure Tree.DeclaredIn (t : Tree) (c : Config) (target : Target) (out : TargetOutput) : Prop where
  /-- The binding is a runtime, the texts of its declarations, and an epilogue for its tables. -/
  contents : out.sources.binding.contents =
    target.opening c.packageName ++ Spelling.lines (target.runtime c.defaultLanguage) ++
      String.join (t.declarationTexts target) ++ target.epilogue out.sources.tables.keys
  /-- The text of a declaration begins with its heading, which has its name. -/
  headings : List.Forall₂ (fun d s => BeginsWith (target.heading d) s) (t.declarations target)
    (t.declarationTexts target)

lemma Tree.declaredIn {t : Tree} {c : Config} {target : Target} {out : TargetOutput}
    (h : generateTarget t c target = .ok out) : t.DeclaredIn c target out := by
  obtain ⟨-, rfl⟩ := (generateTarget_eq_ok_iff ..).1 h
  exact ⟨t.binding_contents c target, t.forall₂_heading target⟩

end Phrasebook
