import Mathlib.Data.List.Basic
import Phrasebook.Command

/-!
# Commands in a session

A session is a value, so what a command does in it can be read off its definition: `Session.run`
gives the outcome of an action together with the session it leaves behind.  Reading leaves the
session as it was; what is read depends on the files alone, which `FileTree.project?` and
`FileTree.tree?` say without a host.
-/

namespace Phrasebook

namespace Session

variable {ε α β : Type} {s s' : Session}

/-- What an action comes to in a session, and the session behind it. -/
def run (s : Session) (x : ExceptT ε (StateM Session) α) : Except ε α × Session :=
  StateT.run (m := Id) (ExceptT.run x) s

lemma run_bind (s : Session) (x : ExceptT ε (StateM Session) α)
    (f : α → ExceptT ε (StateM Session) β) :
    s.run (x >>= f) =
      match s.run x with
      | (.ok a, s') => s'.run (f a)
      | (.error e, s') => (.error e, s') := by
  change (ExceptT.bindCont f (s.run x).1).run (s.run x).2 = _
  rcases s.run x with ⟨_ | _, _⟩ <;> rfl

lemma run_bind_of_ok {x : ExceptT ε (StateM Session) α} {f : α → ExceptT ε (StateM Session) β}
    {a : α} (h : s.run x = (.ok a, s')) : s.run (x >>= f) = s'.run (f a) := by
  rw [run_bind, h]

lemma run_bind_of_error {x : ExceptT ε (StateM Session) α}
    {f : α → ExceptT ε (StateM Session) β} {e : ε} (h : s.run x = (.error e, s')) :
    s.run (x >>= f) = (.error e, s') := by
  rw [run_bind, h]

/-- Going through a list of actions that cannot fail does not fail. -/
lemma exists_run_forM (as : List α) {f : α → ExceptT ε (StateM Session) Unit}
    (h : ∀ a (s : Session), ∃ s', s.run (f a) = (.ok (), s')) (s : Session) :
    ∃ s', s.run (as.forM f) = (.ok (), s') := by
  induction as generalizing s with
  | nil => exact ⟨s, rfl⟩
  | cons a rest ih =>
    obtain ⟨s', hs'⟩ := h a s
    obtain ⟨s'', hs''⟩ := ih s'
    exact ⟨s'', (run_bind_of_ok hs').trans hs''⟩

/-- A list is filtered by a test that changes nothing. -/
lemma run_filterM {as : List α} {f : α → ExceptT ε (StateM Session) Bool} {p : α → Bool}
    (h : ∀ a, s.run (f a) = (.ok (p a), s)) : s.run (as.filterM f) = (.ok (as.filter p), s) := by
  suffices haux : ∀ acc, s.run (as.filterAuxM f acc) = (.ok ((as.filter p).reverse ++ acc), s) by
    rw [List.filterM, run_bind_of_ok (haux []), List.append_nil]
    change (Except.ok (as.filter p).reverse.reverse, s) = _
    rw [List.reverse_reverse]
  induction as with
  | nil => exact fun acc => rfl
  | cons a rest ih =>
    intro acc
    rw [List.filterAuxM, run_bind_of_ok (h a), ih]
    cases ha : p a <;> simp [ha]

end Session

/-! ## Reading -/

namespace FileTree

/-- The project file at a path, whose paths lead from the directory it is in; without a path, the
file with nothing in it. -/
def project? (files : FileTree) : Option String → Option ProjectFile
  | none => some .empty
  | some path => do
    let text ← (files.read path).toOption
    let file ← ProjectFile.parse? text
    return file.within (Path.directory path)

/-- The tree that the document at `path` stands for. -/
def tree? (files : FileTree) (path defaultLanguage : String) : Option Tree := do
  let text ← (files.read path).toOption
  let document ← (Format.ofPath path).parse? text
  (Tree.ofDocument defaultLanguage document).toOption

end FileTree

namespace Command

variable {s : Session}

lemma run_loadProject {path : String} {file : ProjectFile}
    (h : s.files.project? (some path) = some file) : s.run (loadProject path) = (.ok file, s) := by
  obtain ⟨text, htext, h⟩ := Option.bind_eq_some_iff.1 h
  obtain ⟨parsed, hparsed, h⟩ := Option.bind_eq_some_iff.1 h
  cases h
  cases hread : s.files.read path with
  | error e =>
    rw [hread] at htext
    exact nomatch htext
  | ok text' =>
    rw [hread] at htext
    cases htext
    have hhost : s.run (liftM (Host.readText path : StateM Session _) : Action (StateM Session) _) =
        (.ok (.ok text), s) := by
      rw [← hread]
      rfl
    unfold loadProject
    rw [Session.run_bind_of_ok hhost]
    dsimp only
    rw [pure_bind, hparsed]
    rfl

/-- Reading a tree leaves the session as it is, and succeeds exactly if the document stands for
one. -/
lemma run_loadTree (path default : String) (s : Session) :
    (∃ t, s.run (loadTree path default) = (.ok t, s) ∧ s.files.tree? path default = some t) ∨
      ∃ e, s.run (loadTree path default) = (.error e, s) ∧ s.files.tree? path default = none ∧
        ∀ e', e ≠ .write e' := by
  have hhost : s.run (liftM (Host.readText path : StateM Session _) : Action (StateM Session) _) =
      (.ok (s.files.read path), s) := rfl
  unfold loadTree FileTree.tree?
  rw [Session.run_bind_of_ok hhost]
  cases s.files.read path with
  | error e => exact .inr ⟨_, rfl, rfl, nofun⟩
  | ok text =>
    simp only [pure_bind]
    cases hdocument : (Format.ofPath path).parse? text with
    | none => exact .inr ⟨_, rfl, by simp [Except.toOption, hdocument], nofun⟩
    | some document =>
      simp only [Except.toOption, Option.bind_eq_bind, Option.bind_some, hdocument]
      cases Tree.ofDocument default document with
      | error e => exact .inr ⟨_, rfl, rfl, nofun⟩
      | ok tree => exact .inl ⟨_, rfl, rfl⟩

/-- A tree that can be read is loaded. -/
lemma run_loadTree_of_tree? {path default : String} {s : Session} {t : Tree}
    (h : s.files.tree? path default = some t) : s.run (loadTree path default) = (.ok t, s) := by
  rcases run_loadTree path default s with ⟨t', hload, ht'⟩ | ⟨e, -, hnone, -⟩
  · cases h.symm.trans ht'
    exact hload
  · exact nomatch h.symm.trans hnone

lemma run_existing (c : Config) (s : Session) :
    s.run (existing c) =
      (.ok ((c.outputs.toList.map (·.2)).filter s.files.isDirectory), s) :=
  Session.run_filterM fun _ => rfl

lemma run_printLine (text : String) (s : Session) :
    s.run (printLine text) = (.ok (), { s with output := s.output ++ (text ++ "\n") }) := rfl

lemma exists_run_warnAll (errors : List KeyError) (s : Session) :
    ∃ s', s.run (warnAll errors) = (.ok (), s') :=
  Session.exists_run_forM _ (fun _ _ => ⟨_, rfl⟩) s

end Command

end Phrasebook
