import Mathlib
import Phrasebook.Proofs.Command.Agreement
import Phrasebook.Proofs.Generation.TargetLists
import Phrasebook.Proofs.Plan.Repeats

/-!
# The keys that generation and checking report

Both report the errors of a plan.  A check lists them as they are.  A report has each error once,
because it puts together the errors of several targets, and it does not tell an error that comes
from another target from one that the plan has twice.  So a report can be shorter than a check of
the same tree, and then the two commands give different numbers.

The main result is `Command.skippedKeys_spec`: the lists are equal, and so are the numbers, exactly
if no two requests that share a key report the same error.  `Command.exists_report_shorter` is a
document where they are not.
-/

namespace Phrasebook

section EraseDups

variable {α : Type*} [BEq α]

lemma eraseDups_sublist (l : List α) : l.eraseDups.Sublist l := by
  cases l with
  | nil => exact .slnil
  | cons a rest =>
    rw [List.eraseDups_cons]
    exact ((eraseDups_sublist _).trans List.filter_sublist).cons_cons a
termination_by l.length
decreasing_by exact Nat.lt_succ_of_le (List.length_filter_le ..)

variable [LawfulBEq α] {l : List α}

lemma eraseDups_eq_self_iff : l.eraseDups = l ↔ l.Nodup := by
  refine ⟨fun h => h ▸ nodup_eraseDups l, fun h => ?_⟩
  induction l with
  | nil => rfl
  | cons a rest ih =>
    obtain ⟨ha, hrest⟩ := List.nodup_cons.1 h
    have hother : rest.filter (fun b => !b == a) = rest :=
      List.filter_eq_self.2 fun b hb => by simpa using ne_of_mem_of_not_mem hb ha
    rw [List.eraseDups_cons, hother, ih hrest]

lemma length_eraseDups_eq_iff : l.eraseDups.length = l.length ↔ l.Nodup := by
  rw [← eraseDups_eq_self_iff]
  exact ⟨(eraseDups_sublist l).eq_of_length, congrArg List.length⟩

end EraseDups

namespace Command

namespace StrictRun

variable {t : Tree}

lemma checked_of_errors_ne_nil (r : StrictRun)
    (h : r.session.files.tree? r.settings.input r.settings.config.defaultLanguage = some t)
    (herrors : t.plan.errors ≠ []) :
    r.checked = .error (.keysLeftOut t.plan.errors.length) := by
  rw [checked, run_runCheck_of_tree r.canonical h, if_neg (mt List.isEmpty_iff.1 herrors)]

lemma generated_of_errors_ne_nil (r : StrictRun)
    (h : r.session.files.tree? r.settings.input r.settings.config.defaultLanguage = some t)
    (hfits : t.Fits) (herrors : t.plan.errors ≠ []) :
    r.generated = .error (.nothingWritten t.plan.errors.eraseDups.length) := by
  obtain ⟨s', -, hgenerated⟩ := r.exists_generated_eq h hfits
  rw [hgenerated,
    run_deliver_of_not_isClean (mt (Tree.isClean_report_iff r.targets).1 herrors),
    Tree.errors_report r.targets]

end StrictRun

/-- **A report is as long as a check if no error is repeated.**  The errors of a report are those
of the plan, each of them once.  So they are the list that a check goes through, and the numbers of
a failed strict generation and of a failed check are equal, exactly if no two requests that share a
key report the same error; which is so where no name has a dot.  A tree that does not fit has no
report: its generation breaks off. -/
theorem skippedKeys_spec (t : Tree) :
    (∀ (c : Config) (targets : List Target), checkTree t c = .ok () → targets ≠ [] →
      (t.Fits → ∃ report, generateSources t c targets = .ok report ∧
        report.errors = t.plan.errors.eraseDups ∧
        (report.errors = t.plan.errors ↔ t.ReportsApart)) ∧
      (¬t.Fits → generateSources t c targets = .error .overflow)) ∧
    (∀ r : StrictRun,
      r.session.files.tree? r.settings.input r.settings.config.defaultLanguage = some t →
      t.plan.errors ≠ [] →
      (t.Fits → ∃ written listed, r.generated = .error (.nothingWritten written) ∧
        r.checked = .error (.keysLeftOut listed) ∧
        written ≤ listed ∧ (written = listed ↔ t.ReportsApart)) ∧
      (¬t.Fits → r.generated = .error (.generation .overflow) ∧
        ∃ listed, r.checked = .error (.keysLeftOut listed))) ∧
    ∀ (default : String) (j : Json), Tree.ofDocument default j = .ok t →
      j.AllNames PlainNames → t.ReportsApart := by
  refine ⟨fun c targets hcheck htargets => ⟨fun hfits => ?_, fun hfits => ?_⟩,
    fun r htree herrors => ⟨fun hfits => ?_, fun hfits => ?_⟩, ?_⟩
  · have hvet := Tree.vet_eq_ok_iff.2 ⟨hcheck, hfits⟩
    refine ⟨_, Tree.generateSources_eq_report hvet, Tree.errors_report htargets, ?_⟩
    rw [Tree.errors_report htargets, eraseDups_eq_self_iff, t.nodup_errors_iff]
  · exact Tree.generateSources_eq_error (Tree.vet_of_not_fits hcheck hfits) htargets
  · refine ⟨_, _, r.generated_of_errors_ne_nil htree hfits herrors,
      r.checked_of_errors_ne_nil htree herrors, (eraseDups_sublist _).length_le, ?_⟩
    rw [length_eraseDups_eq_iff, t.nodup_errors_iff]
  · exact ⟨r.generated_of_not_fits htree hfits, _, r.checked_of_errors_ne_nil htree herrors⟩
  · exact fun _ _ h hj => Tree.reportsApart_of_plain h hj

/-- A text in a group, and a text whose name has the key of the former. -/
def repeatedText : String := "\x7b\"a\": \x7b\"b\": \"%0$@\"\x7d, \"a.b\": \"%0$@\"\x7d"

/-- The tree of `repeatedText`. -/
def repeatedTree : Tree where
  defaultLanguage := "nl"
  nodes := [.group ⟨[], "a"⟩ [.entry ⟨⟨["a"], "b"⟩, .text ⟨"%0$@", 0, .empty⟩⟩],
    .entry ⟨⟨[], "a.b"⟩, .text ⟨"%0$@", 0, .empty⟩⟩]

/-- A run on that document. -/
def StrictRun.repeated : StrictRun :=
  { StrictRun.greeting with
    session := .start ((FileTree.empty.addFile "texts.json"
      repeatedText.toUTF8.toList).addDirectory "web")
    readable := rfl
    directories := fun e he => by
      obtain rfl : e = (.js, "web") := List.mem_singleton.1 he
      cbv }

lemma tree?_repeated : StrictRun.repeated.session.files.tree? "texts.json" "nl" =
    some repeatedTree := by
  cbv

lemma errors_repeatedTree : repeatedTree.plan.errors =
    [.unaddressed "a.b" "nl" 0 0, .unaddressed "a.b" "nl" 0 0] := by
  decide +kernel

lemma errors_repeatedTree_ne_nil : repeatedTree.plan.errors ≠ [] := by
  rw [errors_repeatedTree]
  exact List.cons_ne_nil _ _

lemma checkTree_repeatedTree : checkTree repeatedTree (.ofLanguage "nl") = .ok () := by
  decide +kernel

lemma fits_repeatedTree : repeatedTree.Fits := Tree.fits_of_values (by decide)

theorem skippedKeys_spec_repeated :
    (∃ report, generateSources repeatedTree (.ofLanguage "nl") [.js, .rust] = .ok report ∧
      report.errors = repeatedTree.plan.errors.eraseDups) ∧
    (∃ written listed, StrictRun.repeated.generated = .error (.nothingWritten written) ∧
      StrictRun.repeated.checked = .error (.keysLeftOut listed) ∧ written ≤ listed) ∧
    ∃ t, Tree.ofDocument "nl" (.object [("title", .string "%0$@")]) = .ok t ∧
      t.plan.errors ≠ [] ∧ t.ReportsApart := by
  obtain ⟨hreports, hcounts, -⟩ := skippedKeys_spec repeatedTree
  obtain ⟨report, hreport, herrors, -⟩ :=
    (hreports (.ofLanguage "nl") [.js, .rust] checkTree_repeatedTree (List.cons_ne_nil _ _)).1
      fits_repeatedTree
  obtain ⟨written, listed, hgenerated, hchecked, hle, -⟩ :=
    (hcounts StrictRun.repeated tree?_repeated errors_repeatedTree_ne_nil).1 fits_repeatedTree
  have hnames : (Json.object [("title", .string "%0$@")]).AllNames PlainNames := by
    simp [Json.AllNames, Json.AllNamesMembers, PlainNames]
  exact ⟨⟨report, hreport, herrors⟩, ⟨written, listed, hgenerated, hchecked, hle⟩,
    _, rfl, by decide +kernel, (skippedKeys_spec _).2.2 "nl" _ rfl hnames⟩

/-- A report with one error, where a check counts two. -/
theorem exists_report_shorter :
    (∃ report, checkTree repeatedTree (.ofLanguage "nl") = .ok () ∧
      generateSources repeatedTree (.ofLanguage "nl") [.js] = .ok report ∧
      report.errors ≠ repeatedTree.plan.errors) ∧
    StrictRun.repeated.generated = .error (.nothingWritten 1) ∧
    StrictRun.repeated.checked = .error (.keysLeftOut 2) := by
  have hvet := Tree.vet_eq_ok_iff.2 ⟨checkTree_repeatedTree, fits_repeatedTree⟩
  refine ⟨⟨_, checkTree_repeatedTree, Tree.generateSources_eq_report hvet, ?_⟩, ?_, ?_⟩
  · rw [Tree.errors_report (List.cons_ne_nil _ _), errors_repeatedTree]
    decide
  · rw [StrictRun.repeated.generated_of_errors_ne_nil tree?_repeated fits_repeatedTree
      errors_repeatedTree_ne_nil, errors_repeatedTree]
    rfl
  · rw [StrictRun.repeated.checked_of_errors_ne_nil tree?_repeated errors_repeatedTree_ne_nil,
      errors_repeatedTree]
    rfl

end Command

end Phrasebook
