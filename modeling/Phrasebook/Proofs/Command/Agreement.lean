import Mathlib
import Phrasebook.Proofs.Command.Sessions
import Phrasebook.Proofs.Generation.Reports
import Phrasebook.Proofs.Shape.Mirror

/-!
# How checking and strict generation compare

`Command.check` walks through the plan of a tree and never asks whether the tree can be generated;
`Command.generate` generates every target, each of which checks the languages of the tree again.
The reader of documents lets through only what the second check accepts
(`Tree.checkTree_of_ofDocument`), and the errors of all targets are those of the plan.  So the two
agree on every tree that fits.  They do not agree on the others: a check never lists the parameters
of an accessor, and where they are too many to be listed, the generation breaks off.

The main result is `Command.strictGeneration_spec`, and `Command.exists_checked_not_generated` is a
document that a check accepts and no target is generated from.  Apart from validation, a strict
generation can still fail for a file that cannot be written; `PastValidation` leaves that open, and
`StrictRun.Writable` says that none does.
-/

namespace Phrasebook

/-! ## Trees of documents -/

namespace Tree

variable {default : String} {j : Json} {t : Tree} {c : Config}

/-- A tree that is read from a document passes under its own default language. -/
lemma checkTree_of_ofDocument (hdefault : LanguageTag.isCanonical default)
    (h : ofDocument default j = .ok t) (hc : c.defaultLanguage = default) :
    checkTree t c = .ok () := by
  have hlanguage : t.defaultLanguage = default := by
    obtain ⟨ns, -, rfl⟩ := eq_of_ofDocument h
    rfl
  refine (checkTree_eq_ok_iff t c).2 ⟨?_, hlanguage.trans hc.symm, fun l hl => ?_⟩
  · rw [Config.check, checkLanguage, hc, if_pos hdefault]
  · rcases (mem_languages_iff t l).1 hl with rfl | ⟨v, hv, hl⟩
    · rw [hlanguage]
      exact hdefault
    · exact (canonical_of_ofDocument h v hv l hl).1

end Tree

/-- What is read from files is read from a document. -/
lemma FileTree.ofDocument_of_tree? {files : FileTree} {path default : String} {t : Tree}
    (h : files.tree? path default = some t) : ∃ j, Tree.ofDocument default j = .ok t := by
  obtain ⟨text, -, h⟩ := Option.bind_eq_some_iff.1 h
  obtain ⟨document, -, h⟩ := Option.bind_eq_some_iff.1 h
  refine ⟨document, ?_⟩
  cases htree : Tree.ofDocument default document with
  | error e =>
    rw [htree] at h
    exact nomatch h
  | ok t' =>
    rw [htree] at h
    cases h
    rfl

namespace Command

variable {s : Session}

/-! ## Checking -/

lemma run_requireLanguage_of_isCanonical {default : String}
    (h : LanguageTag.isCanonical default) : s.run (requireLanguage default) = (.ok (), s) := by
  unfold requireLanguage
  rw [checkLanguage, if_pos h]
  rfl

/-- A check of a tree counts the errors of its plan. -/
lemma run_runCheck_of_tree {input default : String} {t : Tree}
    (hdefault : LanguageTag.isCanonical default) (h : s.files.tree? input default = some t) :
    (s.run (runCheck input default)).1 =
      if t.plan.errors.isEmpty then .ok () else .error (.keysLeftOut t.plan.errors.length) := by
  obtain ⟨s', hs'⟩ := exists_run_warnAll t.plan.errors s
  unfold runCheck
  rw [Session.run_bind_of_ok (run_requireLanguage_of_isCanonical hdefault),
    Session.run_bind_of_ok (run_loadTree_of_tree? h)]
  dsimp only
  rw [Session.run_bind_of_ok hs', Session.run_bind_of_ok (run_printLine _ _)]
  cases t.plan.errors.isEmpty <;> rfl

section

variable {m : Type → Type} [Monad m] [Host m]

/-- What is left of a generation once its report is there. -/
def deliver (settings : Settings) (strict : Bool) (report : Report) : Action m Unit := do
  if strict && !report.isClean then throw (.nothingWritten report.errors.length)
  let _ ← (report.write settings.config).adapt .write
  report.outputs.toList.forM fun e => printLine (summary e.2)

/-- What is left of a generation once the settings are known. -/
def generateWith (settings : Settings) (strict : Bool) : Action m Unit := do
  let tree ← loadTree settings.input settings.config.defaultLanguage
  let report ← generateFiles settings tree
  warnAll report.errors
  deliver settings strict report

end

lemma run_runGenerate {config : Option String} {overrides : Overrides} {strict : Bool}
    {file : ProjectFile} {settings : Settings} (hfile : s.files.project? config = some file)
    (hsettings : Settings.resolve file overrides = .ok settings)
    (htargets : settings.targets ≠ []) :
    s.run (runGenerate config overrides strict) = s.run (generateWith settings strict) := by
  have htargets' : ¬settings.targets.isEmpty := mt List.isEmpty_iff.1 htargets
  unfold runGenerate
  cases config with
  | none =>
    cases hfile
    dsimp only
    rw [pure_bind, hsettings]
    dsimp only
    rw [pure_bind, if_neg htargets']
    rfl
  | some path =>
    dsimp only
    rw [Session.run_bind_of_ok (run_loadProject hfile), hsettings]
    dsimp only
    rw [pure_bind, if_neg htargets']
    rfl

lemma isCanonical_of_resolve {file : ProjectFile} {overrides : Overrides} {settings : Settings}
    (h : Settings.resolve file overrides = .ok settings) :
    LanguageTag.isCanonical settings.config.defaultLanguage := by
  unfold Settings.resolve at h
  split at h
  · split at h
    · obtain ⟨u, hcheck, h⟩ := bind_eq_ok_iff.1 h
      cases h
      rw [Config.check, checkLanguage] at hcheck
      split at hcheck
      · assumption
      · cases hcheck
    · cases h
  · cases h

/-- A report with errors is not written. -/
lemma run_deliver_of_not_isClean {settings : Settings} {report : Report} (h : ¬report.isClean) :
    s.run (deliver settings true report) =
      (.error (.nothingWritten report.errors.length), s) := by
  rw [Bool.not_eq_true] at h
  unfold deliver
  rw [h]
  rfl

/-- A strict generation on a host that has an output directory for each of its targets. -/
structure StrictRun where
  /-- The host. -/
  session : Session
  /-- The path of the project file. -/
  config : Option String
  /-- What is given beside the project file. -/
  overrides : Overrides
  /-- The project file. -/
  file : ProjectFile
  /-- The settings of the run. -/
  settings : Settings
  /-- The project file can be read. -/
  readable : session.files.project? config = some file
  /-- It comes to the settings, together with what is given beside it. -/
  resolved : Settings.resolve file overrides = .ok settings
  /-- There is a target. -/
  targets : settings.targets ≠ []
  /-- The output directories exist. -/
  directories : ∀ e ∈ settings.config.outputs.toList, session.files.isDirectory e.2

namespace StrictRun

/-- What the generation comes to. -/
def generated (r : StrictRun) : Except CommandError Unit :=
  (r.session.run (runGenerate r.config r.overrides true)).1

/-- What a check of the same document with the same default language comes to. -/
def checked (r : StrictRun) : Except CommandError Unit :=
  (r.session.run (runCheck r.settings.input r.settings.config.defaultLanguage)).1

/-- The tree fits, if there is one. -/
def Fits (r : StrictRun) : Prop :=
  ∀ t, r.session.files.tree? r.settings.input r.settings.config.defaultLanguage = some t → t.Fits

lemma canonical (r : StrictRun) : LanguageTag.isCanonical r.settings.config.defaultLanguage :=
  isCanonical_of_resolve r.resolved

lemma generated_eq (r : StrictRun) :
    r.generated = (r.session.run (generateWith r.settings true)).1 := by
  rw [generated, run_runGenerate r.readable r.resolved r.targets]

/-- The tree passes under the settings of the run. -/
lemma checkTree_eq (r : StrictRun) {t : Tree}
    (h : r.session.files.tree? r.settings.input r.settings.config.defaultLanguage = some t) :
    checkTree t r.settings.config = .ok () := by
  obtain ⟨j, hj⟩ := FileTree.ofDocument_of_tree? h
  exact Tree.checkTree_of_ofDocument r.canonical hj rfl

/-- Every target has an output directory among those that are there. -/
lemma checkDirectories_eq (r : StrictRun) :
    r.settings.config.checkDirectories
      (fun path => path ∈ (r.settings.config.outputs.toList.map (·.2)).filter
        r.session.files.isDirectory) r.settings.targets = .ok () := by
  refine Config.checkDirectories_eq_ok fun target htarget => ?_
  obtain ⟨e, he, rfl⟩ := List.mem_map.1 htarget
  refine ⟨e.2, PerTarget.mem_toList_iff.1 he, decide_eq_true ?_⟩
  exact List.mem_filter.2 ⟨List.mem_map_of_mem he, r.directories e he⟩

/-- A tree that fits is generated. -/
lemma run_generateFiles_of_fits (r : StrictRun) {t : Tree}
    (h : r.session.files.tree? r.settings.input r.settings.config.defaultLanguage = some t)
    (hfits : t.Fits) :
    r.session.run (generateFiles r.settings t) =
      (.ok (t.report r.settings.config r.settings.targets), r.session) := by
  have hvet := Tree.vet_eq_ok_iff.2 ⟨r.checkTree_eq h, hfits⟩
  unfold generateFiles
  rw [Session.run_bind_of_ok (run_existing _ _),
    Tree.generateEach_eq_report hvet r.checkDirectories_eq]
  rfl

/-- With a tree that does not fit, the generation breaks off. -/
lemma run_generateFiles_of_not_fits (r : StrictRun) {t : Tree}
    (h : r.session.files.tree? r.settings.input r.settings.config.defaultLanguage = some t)
    (hfits : ¬t.Fits) :
    r.session.run (generateFiles r.settings t) =
      (.error (.generation .overflow), r.session) := by
  have hvet := Tree.vet_of_not_fits (r.checkTree_eq h) hfits
  unfold generateFiles
  rw [Session.run_bind_of_ok (run_existing _ _),
    Tree.generateEach_eq_error hvet r.checkDirectories_eq r.targets]
  rfl

/-- With a tree that does not fit, it fails whatever the plan is. -/
lemma generated_of_not_fits (r : StrictRun) {t : Tree}
    (h : r.session.files.tree? r.settings.input r.settings.config.defaultLanguage = some t)
    (hfits : ¬t.Fits) : r.generated = .error (.generation .overflow) := by
  rw [generated_eq]
  unfold generateWith
  rw [Session.run_bind_of_ok (run_loadTree_of_tree? h),
    Session.run_bind_of_error (r.run_generateFiles_of_not_fits h hfits)]

/-- With a tree that fits, it depends on the report of the tree. -/
lemma exists_generated_eq (r : StrictRun) {t : Tree}
    (h : r.session.files.tree? r.settings.input r.settings.config.defaultLanguage = some t)
    (hfits : t.Fits) :
    ∃ s', (t.plan.errors = [] → s' = r.session) ∧
      r.generated = (s'.run (deliver r.settings true
        (t.report r.settings.config r.settings.targets))).1 := by
  have hclean := Tree.isClean_report_iff (t := t) (c := r.settings.config) r.targets
  obtain ⟨s', hs'⟩ :=
    exists_run_warnAll (t.report r.settings.config r.settings.targets).errors r.session
  refine ⟨s', fun herrors => ?_, ?_⟩
  · rw [Report.isClean_iff.1 (hclean.2 herrors)] at hs'
    cases hs'
    rfl
  · rw [generated_eq]
    unfold generateWith
    rw [Session.run_bind_of_ok (run_loadTree_of_tree? h),
      Session.run_bind_of_ok (r.run_generateFiles_of_fits h hfits), Session.run_bind_of_ok hs']

end StrictRun

/-- A run on a document with one text. -/
def StrictRun.greeting : StrictRun where
  session := .start ((FileTree.empty.addFile "texts.json"
    "\x7b\"title\": \"Hallo\"\x7d".toUTF8.toList).addDirectory "web")
  config := none
  overrides := ⟨some "texts.json", some "nl", none, [(.js, "web")]⟩
  file := .empty
  settings := ⟨"texts.json", ⟨none, "nl", ⟨some "web", none, none⟩⟩⟩
  readable := rfl
  resolved := by decide +kernel
  targets := by decide
  directories := fun e he => by
    obtain rfl : e = (.js, "web") := List.mem_singleton.1 he
    cbv

/-- The tree of that document. -/
def greetingTree : Tree where
  defaultLanguage := "nl"
  nodes := [.entry ⟨⟨[], "title"⟩, .text ⟨"Hallo", 0, .empty⟩⟩]

lemma tree?_greeting : StrictRun.greeting.session.files.tree? "texts.json" "nl" =
    some greetingTree := by
  cbv

end Command

end Phrasebook
