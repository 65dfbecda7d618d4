import Phrasebook.Proofs.Naming.KeyWords
import Phrasebook.Proofs.Plan.Arguments

/-!
# One entry for each key

Different nodes may have the same key: the text `b` in the group `a`, and the text `a.b`.  Nothing
looks at the keys themselves when a tree is walked, and yet only one of the two gets its accessor.
The names that it has to claim are made from the key (`Address.allWords_eq_splitOn`), so that both
claim the same ones (`Entry.exists_common_name`), and a name is given once (`Tree.Grants.eq`).

An entry that was refused its names makes no steps (`Tree.grants_of_stepsAt`).  So no two texts or
lists of texts with one key are in a plan, and no two lists of records (`Tree.one_for_each_key`).
-/

namespace Phrasebook

namespace Address

variable {a b : Address}

lemma snakeCase_eq_of_key_eq (h : a.key = b.key) : a.snakeCase = b.snakeCase := by
  rw [snakeCase, snakeCase, Naming.snakeCase, Naming.snakeCase, allWords_eq_of_key_eq h]

lemma typeName_eq_of_key_eq (h : a.key = b.key) : a.typeName = b.typeName := by
  rw [typeName, typeName, Naming.typeName, Naming.typeName, allWords_eq_of_key_eq h]

end Address

/-! ## What entries compete for -/

/-- Whether an entry is a list of records, so that it claims the name of a type. -/
def Content.isRecords : Content → Bool
  | .text _ => false
  | .list _ => false
  | .records _ => true

namespace Entry

variable {e f : Entry}

lemma first_of_not_isRecords (default : String) (h : e.content.isRecords = false) :
    (e.first default).scope = .accessors ∧
      (e.first default).names = [e.address.lowerCamel, e.address.snakeCase] := by
  obtain ⟨a, content⟩ := e
  cases content with
  | text v => exact ⟨rfl, rfl⟩
  | list vs => exact ⟨rfl, rfl⟩
  | records rs => exact nomatch h

lemma first_of_isRecords (default : String) (h : e.content.isRecords = true) :
    (e.first default).scope = .types ∧ (e.first default).names = [e.address.typeName] := by
  obtain ⟨a, content⟩ := e
  cases content with
  | text v => exact nomatch h
  | list vs => exact nomatch h
  | records rs => exact ⟨rfl, rfl⟩

/-- Entries of one kind that have the same key claim the same name. -/
lemma exists_common_name (default : String) (hkind : e.content.isRecords = f.content.isRecords)
    (hkey : e.address.key = f.address.key) :
    (e.first default).scope = (f.first default).scope ∧
      ∃ name, name ∈ (e.first default).names ∧ name ∈ (f.first default).names := by
  cases he : e.content.isRecords with
  | false =>
    obtain ⟨hscope, hnames⟩ := first_of_not_isRecords default he
    obtain ⟨hscope', hnames'⟩ := first_of_not_isRecords default (hkind.symm.trans he)
    refine ⟨hscope.trans hscope'.symm, e.address.lowerCamel, ?_, ?_⟩
    · simp [hnames]
    · simp [hnames', Address.lowerCamel_eq_of_key_eq hkey]
  | true =>
    obtain ⟨hscope, hnames⟩ := first_of_isRecords default he
    obtain ⟨hscope', hnames'⟩ := first_of_isRecords default (hkind.symm.trans he)
    refine ⟨hscope.trans hscope'.symm, e.address.typeName, ?_, ?_⟩
    · simp [hnames]
    · simp [hnames', Address.typeName_eq_of_key_eq hkey]

end Entry

/-! ## Entries in a plan -/

namespace Tree

variable {t : Tree} {before before' after : List Entry} {e f : Entry}

lemma Grants.eq_of_key_eq (h : t.Grants before e) (h' : t.Grants before' f)
    (hkind : e.content.isRecords = f.content.isRecords) (hkey : e.address.key = f.address.key) :
    before = before' ∧ e = f := by
  obtain ⟨hscope, name, he, hf⟩ := Entry.exists_common_name t.defaultLanguage hkind hkey
  exact h.eq h' hscope he hf

/-- An entry that is refused what it asks for first makes no steps. -/
lemma grants_of_stepsAt (h : t.entries = before ++ e :: after) (hsteps : t.stepsAt before e ≠ []) :
    t.Grants before e := by
  refine ⟨⟨after, h⟩, ?_⟩
  by_contra hg
  rw [stepsAt, turnsAt, Entry.turns, if_neg hg, List.flatMap_singleton] at hsteps
  exact hsteps (Request.steps_of_not_granted (by simpa using hg))

/-- A step of a plan is made for an entry, unless it is the last one. -/
lemma exists_stepsAt {s : Step} (h : s ∈ t.plan.steps) (hs : s ≠ .finish) :
    ∃ before e after, t.entries = before ++ e :: after ∧ s ∈ t.stepsAt before e := by
  rw [t.plan_eq_turns] at h
  rcases List.mem_append.1 h with h | h
  · obtain ⟨u, hu, hsu⟩ := List.mem_flatMap.1 h
    obtain ⟨before, e, after, hentries, hue⟩ := mem_turns_iff.1 hu
    exact ⟨before, e, after, hentries, List.mem_flatMap.2 ⟨u, hue, hsu⟩⟩
  · exact absurd (List.mem_singleton.1 h) hs

/-! ## The result -/

/-- Names depend on keys alone, and no two entries of one kind and key are in a plan. -/
structure OneForEachKey (t : Tree) : Prop where
  /-- The words of an address are those of the pieces of its key between the dots. -/
  words : ∀ a : Address,
    Naming.allWords a.segments = (a.key.toList.splitOn '.').flatMap Naming.words
  /-- The names of an address depend on its key alone. -/
  names : ∀ a b : Address, a.key = b.key →
    a.lowerCamel = b.lowerCamel ∧ a.snakeCase = b.snakeCase ∧ a.typeName = b.typeName
  /-- A step of a plan is made for an entry, unless it is the last one. -/
  steps : ∀ s ∈ t.plan.steps, s ≠ .finish →
    ∃ before e after, t.entries = before ++ e :: after ∧ s ∈ t.stepsAt before e
  /-- If two texts or lists of texts with the same key have steps in a plan, then they are one. -/
  accessors : ∀ before e after before' f after', t.entries = before ++ e :: after →
    t.entries = before' ++ f :: after' → e.content.isRecords = false →
    f.content.isRecords = false → e.address.key = f.address.key → t.stepsAt before e ≠ [] →
    t.stepsAt before' f ≠ [] → before = before' ∧ e = f
  /-- A list of records that has steps in a plan got the name of its type. -/
  listSteps : ∀ before a rs after, t.entries = before ++ ⟨a, .records rs⟩ :: after →
    t.stepsAt before ⟨a, .records rs⟩ ≠ [] → t.GetsType before a rs
  /-- If two lists of records with the same key got the names of their types, then they are one. -/
  lists : ∀ before a rs before' b ss, t.GetsType before a rs → t.GetsType before' b ss →
    a.key = b.key → before = before' ∧ a = b ∧ rs = ss

/-- **One entry for each key.**  The names of an entry depend on its key alone.  So of the texts and
lists of texts with one key a single one is in a plan, and of the lists of records as well. -/
theorem one_for_each_key (t : Tree) : t.OneForEachKey where
  words := Address.allWords_eq_splitOn
  names _ _ hkey := ⟨Address.lowerCamel_eq_of_key_eq hkey, Address.snakeCase_eq_of_key_eq hkey,
    Address.typeName_eq_of_key_eq hkey⟩
  steps _ := exists_stepsAt
  accessors := by
    intro before e after before' f after' h h' he hf hkey hsteps hsteps'
    have hgrants := grants_of_stepsAt h hsteps
    exact hgrants.eq_of_key_eq (grants_of_stepsAt h' hsteps') (he.trans hf.symm) hkey
  listSteps _ _ _ _ := grants_of_stepsAt
  lists _ _ _ _ _ _ h h' hkey := h.eq h' (Address.typeName_eq_of_key_eq hkey)

end Tree

end Phrasebook
