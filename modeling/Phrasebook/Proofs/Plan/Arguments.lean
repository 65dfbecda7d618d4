import Phrasebook.Proofs.Placeholder.Filling
import Phrasebook.Proofs.Plan.Accessors

/-!
# The accessor of a text fills it

A text is checked against the number of arguments of its value, and the accessor of a single text
takes that many.  So whatever it is given, no token is left: `Tree.leaves_filled`.

Both halves of that come from one fact about requests.  A request is granted only if no text of its
values has a token that strays (`Request.faults_eq_nil_iff`); then all of its steps are made, and
otherwise none of them.
-/

namespace Phrasebook

open Placeholder

/-! ## Texts that are not objected to -/

lemma Value.errors_eq_nil_iff {v : Value} {default key : String} :
    v.errors default key = [] ↔ ∀ x ∈ v.texts default, ¬HasStray v.argumentCount x.2 := by
  simp only [errors, List.filterMap_eq_nil_iff, Option.map_eq_none_iff,
    firstUnaddressed?_eq_none_iff]

lemma Request.faults_eq_nil_iff {r : Request} {default : String} :
    r.faults default = [] ↔
      ∀ x ∈ r.values, ∀ y ∈ x.2.texts default, ¬HasStray x.2.argumentCount y.2 := by
  simp only [faults, List.flatMap_eq_nil_iff, Value.errors_eq_nil_iff]

/-! ## The steps of an entry -/

/-- Only an entry that is a single text asks for an accessor of one. -/
lemma Entry.eq_text_of_accessor? {default function text : String} {past : List Turn} {e : Entry}
    {u : Turn} {a : Address} {count : UInt64} (hu : u ∈ e.turns default past)
    (hs : u.request.accessor? = some (.accessor function a count text)) :
    ∃ v, e = ⟨a, .text v⟩ := by
  have hask := mayAsk_of_mem_turns hu
  generalize u.request = r at hask hs
  cases hask with
  | text b v =>
    obtain ⟨-, rfl, -⟩ := Step.accessor.inj (Option.some.inj hs)
    exact ⟨v, rfl⟩
  | list b vs => exact nomatch hs
  | type b rs => exact nomatch hs
  | field b rs field => exact nomatch hs

namespace Tree

/-- The steps that are made for the entry `e`, which comes after the entries `before`. -/
def stepsAt (t : Tree) (before : List Entry) (e : Entry) : List Step :=
  (t.turnsAt before e).flatMap (·.plan.steps)

variable {t : Tree} {before after : List Entry} {e : Entry} {a : Address} {v : Value}

lemma stepsAt_infix (h : t.entries = before ++ e :: after) :
    t.stepsAt before e <:+: t.plan.steps := by
  have hturns : t.turnsAt before e <:+: t.turns := by
    rw [turns, h, Entry.turnsAll_append, Entry.turnsAll, List.nil_append, ← List.append_assoc]
    exact List.infix_append ..
  obtain ⟨us, ws, hsplit⟩ := hturns
  rw [t.plan_eq_turns, ← hsplit, List.flatMap_append, List.flatMap_append, List.append_assoc]
  exact List.infix_append ..

/-- For a single text all steps are made or none, and none unless its value answers all tokens. -/
lemma stepsAt_text_cases (t : Tree) (before : List Entry) (a : Address) (v : Value) :
    t.stepsAt before ⟨a, .text v⟩ = [] ∨
      (∀ x ∈ v.texts t.defaultLanguage, ¬HasStray v.argumentCount x.2) ∧
        t.stepsAt before ⟨a, .text v⟩ = v.steps t.defaultLanguage a.key ++
          [.accessor a.lowerCamel a v.argumentCount v.defaultText] := by
  set past := Entry.turnsAll t.defaultLanguage [] before with hpast
  set r := Request.ofBlock .accessors (.ofText a v) with hr
  have hsteps : t.stepsAt before ⟨a, .text v⟩ = (r.outcome t.defaultLanguage past).steps := by
    simp [stepsAt, turnsAt, Entry.turns, Entry.first, Entry.further, Request.turns, Request.turn,
      ← hpast, ← hr]
  have hvalues : r.values = [(a.key, v)] := rfl
  rw [hsteps]
  obtain ⟨hplan, hfaults, -⟩ | ⟨-, hnone⟩ := r.outcome_cases t.defaultLanguage past
  · rw [Request.faults_eq_nil_iff, hvalues, List.forall_mem_singleton] at hfaults
    refine .inr ⟨hfaults, ?_⟩
    rw [hplan, Request.steps, hvalues, List.flatMap_singleton]
    rfl
  · exact .inl hnone

/-! ## The result -/

/-- Every accessor of a single text fills all of its texts. -/
structure LeavesFilled (t : Tree) : Prop where
  /-- The steps of an entry are a part of the plan. -/
  part : ∀ before e after, t.entries = before ++ e :: after →
    t.stepsAt before e <:+: t.plan.steps
  /-- An accessor of a single text is declared for an entry that is one. -/
  declared : ∀ function a count default, .accessor function a count default ∈ t.plan.steps →
    ∃ before v after, t.entries = before ++ ⟨a, .text v⟩ :: after ∧
      .accessor function a count default ∈ t.stepsAt before ⟨a, .text v⟩
  /-- An entry that is a single text is left out, or all its texts are filed and its accessor is
  declared. -/
  whole : ∀ before a v after, t.entries = before ++ ⟨a, .text v⟩ :: after →
    t.stepsAt before ⟨a, .text v⟩ = [] ∨
      t.stepsAt before ⟨a, .text v⟩ =
        ((v.texts t.defaultLanguage).map fun (language, text) => .text a.key text language) ++
          [.accessor a.lowerCamel a v.argumentCount v.defaultText]
  /-- As many arguments as the accessor takes fill every text that is filed with it. -/
  filled : ∀ before a v after, t.entries = before ++ ⟨a, .text v⟩ :: after →
    ∀ function b count default,
      .accessor function b count default ∈ t.stepsAt before ⟨a, .text v⟩ →
    ∀ key text language, .text key text language ∈ t.stepsAt before ⟨a, .text v⟩ →
      Fillable count text
  /-- If a token of one of its texts strays, the entry is left out. -/
  leftOut : ∀ before a v after, t.entries = before ++ ⟨a, .text v⟩ :: after →
    ∀ language text, (language, text) ∈ v.texts t.defaultLanguage →
      HasStray v.argumentCount text → t.stepsAt before ⟨a, .text v⟩ = []

/-- **The accessor of a text fills it.** An accessor of a single text takes as many arguments as
fill each of its texts, in every language: with that many, or more, no token is left.  A text with
a token that they would not answer keeps its whole entry out of the plan. -/
theorem leaves_filled (t : Tree) : t.LeavesFilled := by
  constructor
  case part => exact fun before e after => stepsAt_infix
  case declared =>
    intro function a count default hs
    obtain ⟨u, hu, hstep, -, haccessor⟩ := exists_turn_of_mem_steps hs nofun
    obtain ⟨before, e, after, hentries, hue⟩ := mem_turns_iff.1 hu
    obtain ⟨v, rfl⟩ := Entry.eq_text_of_accessor? hue haccessor
    exact ⟨before, v, after, hentries, List.mem_flatMap.2 ⟨u, hue, hstep⟩⟩
  case whole =>
    intro before a v after _
    rcases t.stepsAt_text_cases before a v with h | ⟨-, h⟩
    · exact .inl h
    · exact .inr h
  case filled =>
    intro before a v after _ function b count default haccessor key text language htext
    rcases t.stepsAt_text_cases before a v with h | ⟨hstray, h⟩
    · rw [h] at haccessor
      exact nomatch haccessor
    · obtain ⟨-, -, rfl, -⟩ : function = a.lowerCamel ∧ b = a ∧ count = v.argumentCount ∧
          default = v.defaultText := by
        simpa [h, Value.steps] using haccessor
      obtain ⟨hmem, -⟩ : (language, text) ∈ v.texts t.defaultLanguage ∧ a.key = key := by
        simpa [h, Value.steps] using htext
      exact fillable_of_not_hasStray (hstray _ hmem)
  case leftOut =>
    intro before a v after _ language text htext hstray
    rcases t.stepsAt_text_cases before a v with h | ⟨hnone, -⟩
    · exact h
    · exact absurd hstray (hnone _ htext)

end Tree

end Phrasebook
