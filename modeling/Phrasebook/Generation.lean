import Phrasebook.Config
import Phrasebook.Target.Js
import Phrasebook.Target.Kotlin
import Phrasebook.Target.Rust

/-!
# Generating sources

From a tree and settings to the files of one target (`generateTarget`) and of several
(`generateSources`), gathered in a `Report`.

Before anything is generated, `checkTree` makes sure that the languages are well formed: the
names of tables come from the tags, so `en-us` beside `en-US` would write one file twice.  It does
not look at the plan, so a target can still break off at a step that does not fit.

* `generate` also wants an output directory for each target before it begins.
* `generateEach` does the same, but checks the tree once for each target instead of once for all,
  so it has nothing to check where there are no targets.
-/

namespace Phrasebook

/-- How a target spells its sources. -/
def Target.dialect : Target → Dialect
  | .js => Js.dialect
  | .kotlin => Kotlin.dialect
  | .rust => Rust.dialect

/-- The files of one target, and the errors of the keys that they leave out. -/
structure TargetOutput where
  /-- The files. -/
  sources : Sources
  /-- The errors. -/
  errors : List KeyError
  deriving DecidableEq

/-- The outcome of a generation for several targets. -/
structure Report where
  /-- The files of each target. -/
  outputs : PerTarget Sources
  /-- The errors of the keys that are left out, each of them once. -/
  errors : List KeyError
  deriving DecidableEq

namespace Report

/-- The report before the first target. -/
def empty : Report := ⟨.empty, []⟩

/-- Whether no key was left out. -/
def isClean (r : Report) : Bool := r.errors.isEmpty

/-- `errors` with those of `more` that are not among them. -/
def addErrors (errors : List KeyError) : List KeyError → List KeyError
  | [] => errors
  | e :: more => addErrors (if e ∈ errors then errors else errors ++ [e]) more

/-- The report with the files of one target more. -/
def add (r : Report) (o : TargetOutput) : Report :=
  ⟨r.outputs.set o.sources.target o.sources, addErrors r.errors o.errors⟩

end Report

/-! ## Checks -/

/-- Refuses the first language that is not well formed. -/
def checkLanguages : List String → Except GenerationError Unit
  | [] => .ok ()
  | l :: rest => do
    checkLanguage l
    checkLanguages rest

/-- Refuses a tree with an ill-formed language, or with another default language than the one
that is set. -/
def checkTree (t : Tree) (c : Config) : Except GenerationError Unit := do
  c.check
  if t.defaultLanguage ≠ c.defaultLanguage then
    throw (.languageMismatch t.defaultLanguage c.defaultLanguage)
  checkLanguages t.languages

/-! ## Generation -/

namespace Dialect

/-- The files for a tree: what the steps of its plan write. -/
def generate (d : Dialect) (t : Tree) (c : Config) : TargetOutput :=
  let plan := t.plan
  ⟨d.sources (d.run (d.start c.packageName c.defaultLanguage) plan.steps), plan.errors⟩

/-- The files for a tree, unless a step of its plan does not fit. -/
def generate? (d : Dialect) (t : Tree) (c : Config) : Option TargetOutput :=
  let plan := t.plan
  (d.run? (d.start c.packageName c.defaultLanguage) plan.steps).map fun g =>
    ⟨d.sources g, plan.errors⟩

end Dialect

/-- The files of one target. -/
def generateTarget (t : Tree) (c : Config) (target : Target) :
    Except GenerationError TargetOutput := do
  checkTree t c
  match target.dialect.generate? t c with
  | some output => return output
  | none => throw .overflow

/-- The files of several targets. -/
def generateSources (t : Tree) (c : Config) (targets : List Target) :
    Except GenerationError Report := do
  checkTree t c
  targets.foldlM (fun r target => return r.add (← generateTarget t c target)) .empty

/-- The files of several targets, each of which must have an output directory. -/
def generate (isDirectory : String → Bool) (t : Tree) (c : Config) (targets : List Target) :
    Except GenerationError Report := do
  c.checkDirectories isDirectory targets
  generateSources t c targets

/-- The files of several targets, each made for itself; each must have an output directory. -/
def generateEach (isDirectory : String → Bool) (t : Tree) (c : Config) (targets : List Target) :
    Except GenerationError Report := do
  c.checkDirectories isDirectory targets
  let outputs ← targets.mapM (generateTarget t c)
  return outputs.foldl Report.add .empty

end Phrasebook
