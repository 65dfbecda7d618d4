import Phrasebook.Proofs.Catalog.Completeness
import Phrasebook.Proofs.Plan.Arguments
import Phrasebook.Shape

/-!
# The accessors of lists and of fields fill nothing

A text is checked against the number of arguments of its value, wherever it stands.  The accessors
of lists and of fields take no arguments, whatever their values ask for.  So a text with a token is
accepted, filed and declared there, and whoever reads it gets the token.

`Tree.forwards_none` says how far what is checked and what is forwarded are apart: an accessor of
a list or of a field fills a text exactly if there is no token in the text.
`Tree.exists_text_not_filled` is a document where there is one.
-/

namespace Phrasebook

open Placeholder

/-- Whether a step declares the accessor of a list or of a field. -/
def Step.IsPlural (s : Step) : Prop := s.form? ≠ none ∧ s.form? ≠ some .text

/-- The catalog `c` of the tree `t` gives no argument to a text of a list or of a field. -/
structure Catalog.ForwardsNone (c : Catalog) (t : Tree) : Prop where
  /-- The accessor of a list or of a field is declared in a turn of the tree. -/
  declared : ∀ s ∈ t.plan.steps, s.IsPlural → ∃ u ∈ t.turns, s ∈ u.plan.steps
  /-- It is in the catalog, and takes no arguments. -/
  recorded : ∀ u ∈ t.turns, ∀ s ∈ u.plan.steps, s.IsPlural →
    ∃ a ∈ c.accessors, accessorOf? s = some a ∧ a.argumentCount = 0
  /-- A text that is filed in a turn is filled by the arguments that its own value asks for. -/
  checked : ∀ u ∈ t.turns, ∀ key text language, .text key text language ∈ u.plan.steps →
    ∃ v, (key, v) ∈ u.request.values ∧ (language, text) ∈ v.texts t.defaultLanguage ∧
      Fillable v.argumentCount text
  /-- The arguments that the accessor forwards fill the text exactly if it has no token. -/
  fillable_iff : ∀ u ∈ t.turns, ∀ s ∈ u.plan.steps, s.IsPlural → ∀ a ∈ accessorOf? s,
    ∀ key text language, .text key text language ∈ u.plan.steps →
      (Fillable a.argumentCount text ↔ TokenFree text.toList)
  /-- What is read without arguments is the text as it was filed. -/
  text_nil : ∀ requested key, c.text requested key [] = (c.resolve? requested key).getD ""

/-- The accessors of lists and of fields take no arguments. -/
lemma Step.IsPlural.exists_accessor {s : Step} (h : s.IsPlural) :
    ∃ a, Catalog.accessorOf? s = some a ∧ a.argumentCount = 0 := by
  cases s with
  | text | finish => exact absurd rfl h.1
  | accessor => exact absurd rfl h.2
  | listAccessor | fieldAccessor => exact ⟨_, rfl, rfl⟩

/-- Without arguments the text is read as it was filed. -/
lemma Catalog.text_nil (c : Catalog) (requested : Option String) (key : String) :
    c.text requested key [] = (c.resolve? requested key).getD "" := by
  rw [text]
  cases c.resolve? requested key with
  | none => rfl
  | some message => exact substitute_nil message

namespace Tree

variable {t : Tree} {u : Turn}

/-- A text is filed only where the arguments of its value fill it. -/
lemma fillable_of_mem_steps {key text language : String} (hu : u ∈ t.turns)
    (h : .text key text language ∈ u.plan.steps) :
    ∃ v, (key, v) ∈ u.request.values ∧ (language, text) ∈ v.texts t.defaultLanguage ∧
      Fillable v.argumentCount text := by
  have hfiling : (⟨language, key, text⟩ : Filing) ∈ u.plan.steps.filterMap Step.filing? :=
    List.mem_filterMap.2 ⟨_, h, rfl⟩
  rw [Turn.filings_eq hu] at hfiling
  split at hfiling
  · rename_i hd
    obtain ⟨⟨_, v⟩, hv, hmem⟩ := List.mem_flatMap.1 hfiling
    obtain ⟨⟨_, _⟩, hx, heq⟩ := List.mem_map.1 hmem
    obtain ⟨rfl, rfl, rfl⟩ := Filing.mk.inj heq
    obtain ⟨before, hturn⟩ := t.settled_turns.exists_turn hu
    have hg : (u.request.turn t.defaultLanguage before).granted :=
      hturn ▸ t.settled_turns.granted_of_declares hu hd
    have hfaults := (Request.turn_granted_iff.1 hg).1
    exact ⟨v, hv, hx, fillable_of_not_hasStray (Request.faults_eq_nil_iff.1 hfaults _ hv _ hx)⟩
  · exact nomatch hfiling

/-- **The accessors of lists and of fields fill nothing.** Each text behind such an accessor could
be filled by the arguments that its value asks for, but the accessor forwards none.  It fills
exactly the texts without a token, and every other one is read as it was filed. -/
theorem forwards_none (t : Tree) : t.catalog.ForwardsNone t := by
  constructor
  case declared =>
    intro s hs hplural
    obtain ⟨u, hu, hstep, -⟩ := exists_turn_of_mem_steps hs hplural.1
    exact ⟨u, hu, hstep⟩
  case recorded =>
    intro u hu s hs hplural
    obtain ⟨a, ha, hcount⟩ := hplural.exists_accessor
    have hmem : s ∈ t.plan.steps := by
      rw [t.plan_eq_turns]
      exact List.mem_append_left _ (List.mem_flatMap.2 ⟨u, hu, hs⟩)
    refine ⟨a, ?_, ha, hcount⟩
    rw [catalog, Catalog.accessors_run]
    exact List.mem_append_right _ (List.mem_filterMap.2 ⟨s, hmem, ha⟩)
  case checked => exact fun u hu key text language h => fillable_of_mem_steps hu h
  case fillable_iff =>
    intro u hu s hs hplural a ha key text language _
    obtain ⟨b, hb, hcount⟩ := hplural.exists_accessor
    obtain rfl : b = a := Option.some.inj (hb.symm.trans ha)
    rw [hcount]
    exact fillable_zero_iff
  case text_nil => exact t.catalog.text_nil

/-- A document that is accepted without an error: its list has a text with a token, and the
accessor of the list, which takes no arguments, gives the token to whoever reads it. -/
theorem exists_text_not_filled :
    ∃ t, Tree.ofDocument "nl" (.object [("greetings", .array [.string "Hallo %1$@"])]) = .ok t ∧
      t.plan.errors = [] ∧ .text "greetings.0" "Hallo %1$@" "nl" ∈ t.plan.steps ∧
      t.catalog.accessors = [⟨"greetings", ["greetings.0"], 0⟩] ∧
      (find "Hallo %1$@").map (·.index) = [1] ∧
      t.catalog.text none "greetings.0" [] = "Hallo %1$@" := by
  refine ⟨⟨"nl", [.entry ⟨⟨[], "greetings"⟩, .list [.ofText "Hallo %1$@"]⟩]⟩, rfl, ?_, ?_, ?_,
    ?_, ?_⟩
  · decide +kernel
  · decide +kernel
  · decide +kernel
  · decide +kernel
  · decide +kernel

end Tree

end Phrasebook
