import Phrasebook.Unicode.CaseMapping
import Phrasebook.Unicode.WhiteSpace

/-!
# Targets

The languages that sources are generated in, and `PerTarget`, a table with a place for each.

* `Target.ofName?` reads a target by any of its names, in any case and with blanks around it.
* `Target.ofTag?` reads the one name that files and serialized forms use.
-/

namespace Phrasebook

/-- A language that sources are generated in. -/
inductive Target where
  /-- An ES module for web front ends. -/
  | js
  /-- Kotlin files for mobile front ends. -/
  | kotlin
  /-- A Rust module for native front ends. -/
  | rust
  deriving DecidableEq, Repr, Inhabited

namespace Target

/-- All targets, in their order. -/
def all : List Target := [js, kotlin, rust]

/-- The name of a target. -/
def name : Target → String
  | js => "js"
  | kotlin => "kotlin"
  | rust => "rust"

instance : ToString Target := ⟨name⟩

/-- The extension of the files of a target. -/
def extension : Target → String
  | js => "js"
  | kotlin => "kt"
  | rust => "rs"

/-- All names of a target, in small letters. -/
def aliases : Target → List String
  | js => ["js", "javascript", "web"]
  | kotlin => ["kotlin", "kt", "mobile"]
  | rust => ["rust", "rs", "native"]

/-- The target with the name `tag`, spelled exactly so. -/
def ofTag? (tag : String) : Option Target := all.find? fun t => t.name = tag

/-- A name that belongs to no target, without the blanks around it and in small letters. -/
structure Unknown where
  /-- The name. -/
  name : String
  deriving DecidableEq, Repr

/-- The wording of the error. -/
def Unknown.message (u : Unknown) : String := s!"unknown target `{u.name}`"

/-- The target that `s` names, whatever its case and the blanks around it. -/
def ofName? (s : String) : Except Unknown Target :=
  let name := Unicode.asciiLowercase (Unicode.trim s)
  match all.find? fun t => name ∈ t.aliases with
  | some t => .ok t
  | none => .error ⟨name⟩

end Target

/-- A table with at most one value for each target. -/
structure PerTarget (α : Type u) where
  /-- The value for `Target.js`. -/
  js : Option α
  /-- The value for `Target.kotlin`. -/
  kotlin : Option α
  /-- The value for `Target.rust`. -/
  rust : Option α
  deriving DecidableEq, Repr, Inhabited

namespace PerTarget

variable {α β : Type u}

/-- The table without values. -/
def empty : PerTarget α := ⟨none, none, none⟩

/-- The value for a target. -/
def get? (p : PerTarget α) : Target → Option α
  | .js => p.js
  | .kotlin => p.kotlin
  | .rust => p.rust

/-- The table with another value for a target. -/
def set (p : PerTarget α) (t : Target) (a : α) : PerTarget α :=
  match t with
  | .js => { p with js := some a }
  | .kotlin => { p with kotlin := some a }
  | .rust => { p with rust := some a }

/-- The values with their targets, in the order of the targets. -/
def toList (p : PerTarget α) : List (Target × α) :=
  Target.all.filterMap fun t => (p.get? t).map (t, ·)

/-- The table of these values, of which a later one replaces an earlier one. -/
def ofList (l : List (Target × α)) : PerTarget α := l.foldl (fun p e => p.set e.1 e.2) empty

/-- Whether the table has no value. -/
def isEmpty (p : PerTarget α) : Bool := p.js.isNone && p.kotlin.isNone && p.rust.isNone

/-- The table with `f` applied to every value. -/
def map (f : α → β) (p : PerTarget α) : PerTarget β := ⟨p.js.map f, p.kotlin.map f, p.rust.map f⟩

/-- A value is set for one target alone. -/
theorem get?_set (p : PerTarget α) (t t' : Target) (a : α) :
    (p.set t a).get? t' = if t' = t then some a else p.get? t' := by
  cases t <;> cases t' <;> rfl

end PerTarget

end Phrasebook
