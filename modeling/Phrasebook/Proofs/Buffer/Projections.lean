import Mathlib.Data.List.TakeWhile
import Phrasebook.Buffer
import Phrasebook.Proofs.Tree.Languages

/-!
# Buffers as projections of a run

The buffers of a target grow in one run of operations, in which the languages take turns in any
order.  What the run does to one of them is a list of its own: the headers, texts and closings that
are meant for this language, a closing of all buffers being meant for each (`BufferOp.projection`).
`get?_run` says that the buffer of a language comes from this list alone.

A buffer begins with the first header and is closed by the first closing behind it; what is appended
in between is kept, in order (`BufferEvent.foldl_on_none`).  A run may append to open buffers only,
which is `AppendsToOpen`.

Headers are made by an action.  `Buffers.runM` is a run that performs these actions, and
`run_runM_ask` counts how often that happens.

The main result is `BufferOp.run_projects`.
-/

namespace Phrasebook

/-! ## What happens to one buffer -/

/-- What an operation does to the buffer of one language. -/
inductive BufferEvent where
  /-- The buffer is opened with a header, unless it is there already. -/
  | header (text : String)
  /-- A text is appended. -/
  | text (text : String)
  /-- The buffer is closed, unless it is closed already. -/
  | closing (text : String)
  deriving DecidableEq

namespace BufferEvent

/-- What becomes of a buffer, or of there being none. -/
def on (b? : Option Buffer) : BufferEvent → Option Buffer
  | header h => some (b?.getD (.start h))
  | text t => b?.map (·.push t)
  | closing c => b?.map (·.close c)

/-- The text of a header. -/
def header? : BufferEvent → Option String
  | header h => some h
  | _ => none

/-- A text that is appended. -/
def text? : BufferEvent → Option String
  | text t => some t
  | _ => none

/-- The text of a closing. -/
def closing? : BufferEvent → Option String
  | closing c => some c
  | _ => none

/-- The first header. -/
def firstHeader (es : List BufferEvent) : Option String := es.findSome? header?

/-- The texts that are appended, in order. -/
def texts (es : List BufferEvent) : List String := es.filterMap text?

/-- The first closing behind the first header. -/
def firstClosing (es : List BufferEvent) : Option String :=
  (es.dropWhile (·.header?.isNone)).findSome? closing?

/-- Whether a text is appended only where there is a buffer that is open. -/
def isPermitted (b? : Option Buffer) : BufferEvent → Bool
  | text _ => b?.any (!·.closed)
  | _ => true

/-- Whether all texts are appended to a buffer that is open at that time. -/
def appendsToOpen : Option Buffer → List BufferEvent → Bool
  | _, [] => true
  | b?, e :: es => e.isPermitted b? && appendsToOpen (e.on b?) es

section Laws

variable {b? : Option Buffer} {b : Buffer} {e : BufferEvent} {es : List BufferEvent}

/-- Nothing more happens to a buffer that is closed. -/
lemma foldl_on_of_closed (hb : b.closed) (hes : appendsToOpen (some b) es) :
    es.foldl on (some b) = some b ∧ texts es = [] := by
  induction es with
  | nil => exact ⟨rfl, rfl⟩
  | cons e es ih =>
    obtain ⟨hpermitted, htail⟩ := Bool.and_eq_true_iff.1 hes
    cases e with
    | header h => exact ih htail
    | text t => simp [isPermitted, hb] at hpermitted
    | closing c =>
      have hkept : on (some b) (closing c) = some b := by simp [on, Buffer.close, hb]
      rw [hkept] at htail
      rw [List.foldl_cons, hkept]
      exact ih htail

/-- An open buffer takes the texts and the first closing. -/
lemma foldl_on_of_open (hb : b.closed = false) (hes : appendsToOpen (some b) es) :
    es.foldl on (some b) =
      some ⟨b.text ++ String.join (texts es) ++ (es.findSome? closing?).getD "",
        (es.findSome? closing?).isSome⟩ := by
  induction es generalizing b with
  | nil => simp [texts, String.join, ← hb]
  | cons e es ih =>
    obtain ⟨-, htail⟩ := Bool.and_eq_true_iff.1 hes
    cases e with
    | header h => exact ih hb htail
    | text t =>
      rw [List.foldl_cons]
      refine (ih (b := b.push t) hb htail).trans ?_
      simp [texts, text?, List.findSome?_cons, closing?, Buffer.push, String.join_cons,
        String.append_assoc]
    | closing c =>
      have hclosed : on (some b) (closing c) = some ⟨b.text ++ c, true⟩ := by
        simp [on, Buffer.close, hb]
      rw [hclosed] at htail
      obtain ⟨hkept, hnone⟩ := foldl_on_of_closed rfl htail
      have hnone' : texts (closing c :: es) = [] := hnone
      rw [List.foldl_cons, hclosed, hkept, hnone']
      simp [List.findSome?_cons, closing?, String.join]

/-- Where there is no buffer, the first header makes one, and what is in front of it is without
effect. -/
lemma foldl_on_none (hes : appendsToOpen none es) :
    es.foldl on none = (firstHeader es).map fun h =>
      ⟨h ++ String.join (texts es) ++ (firstClosing es).getD "", (firstClosing es).isSome⟩ := by
  induction es with
  | nil => rfl
  | cons e es ih =>
    obtain ⟨hpermitted, htail⟩ := Bool.and_eq_true_iff.1 hes
    cases e with
    | header h => exact foldl_on_of_open rfl htail
    | text t => exact absurd hpermitted Bool.false_ne_true
    | closing c => exact ih htail

/-! ### Which closing it is -/

/-- Whether there is a buffer, and whether it is closed, does not depend on what is appended. -/
lemma closed_foldl_on (b : Buffer) (es : List BufferEvent) :
    (es.foldl on (some b)).map (·.closed) =
      some (b.closed || (es.findSome? closing?).isSome) := by
  induction es generalizing b with
  | nil => simp
  | cons e es ih =>
    cases e with
    | header h => exact ih b
    | text t => exact ih (b.push t)
    | closing c =>
      refine (ih (b.close c)).trans ?_
      cases hb : b.closed <;> simp [closing?, Buffer.close, hb]

lemma closed_foldl_on_none (es : List BufferEvent) :
    (es.foldl on none).map (·.closed) =
      (firstHeader es).map fun _ => (firstClosing es).isSome := by
  induction es with
  | nil => rfl
  | cons e es ih =>
    cases e with
    | header h => exact closed_foldl_on (.start h) es
    | text t => exact ih
    | closing c => exact ih

lemma firstHeader_append (es fs : List BufferEvent) :
    firstHeader (es ++ fs) = (firstHeader es).or (firstHeader fs) := List.findSome?_append

/-- Behind a first header, the first closing is the first one there is. -/
lemma firstClosing_append {es : List BufferEvent} (hes : (firstHeader es).isSome)
    (fs : List BufferEvent) :
    firstClosing (es ++ fs) = (firstClosing es).or (fs.findSome? closing?) := by
  have hsome : (es.dropWhile (·.header?.isNone)).isEmpty = false := by
    obtain ⟨e, he, hh⟩ := List.findSome?_isSome_iff.1 hes
    rw [Bool.eq_false_iff, ne_eq, List.isEmpty_iff, List.dropWhile_eq_nil_iff]
    intro hall
    have := hall e he
    rw [Option.isNone_iff_eq_none] at this
    rw [this] at hh
    contradiction
  rw [firstClosing, List.dropWhile_append, hsome]
  exact List.findSome?_append

/-- The first closing behind the first header is the one that finds the buffer open. -/
lemma firstClosing_eq_some_iff (es : List BufferEvent) (c : String) :
    firstClosing es = some c ↔ ∃ before after, es = before ++ closing c :: after ∧
      ∃ b, before.foldl on none = some b ∧ b.closed = false := by
  have hopen : ∀ before, (∃ b, before.foldl on none = some b ∧ b.closed = false) ↔
      (firstHeader before).isSome ∧ firstClosing before = none := by
    intro before
    have h := closed_foldl_on_none before
    cases hb : before.foldl on none <;> cases hh : firstHeader before <;>
      cases hc : firstClosing before <;> simp_all
  constructor
  · intro h
    obtain ⟨inner, e, after, hsplit, he, hinner⟩ := List.findSome?_eq_some_iff.1 h
    have hclosing : e = closing c := by
      cases e <;> simp_all [closing?]
    subst hclosing
    -- The list begins with a header, behind what was dropped.
    obtain ⟨h', rest, hrest⟩ : ∃ h' rest, inner = header h' :: rest := by
      have hhead := List.head?_dropWhile_not (fun e : BufferEvent => e.header?.isNone) es
      rw [hsplit] at hhead
      cases inner with
      | nil => simp [header?] at hhead
      | cons e rest =>
        cases e <;> simp_all [header?]
    subst hrest
    have hdropped : ∀ e ∈ es.takeWhile (·.header?.isNone), e.header?.isNone = true :=
      fun e => List.mem_takeWhile_imp (p := fun e : BufferEvent => e.header?.isNone)
    refine ⟨es.takeWhile (·.header?.isNone) ++ header h' :: rest, after, ?_, (hopen _).2 ⟨?_, ?_⟩⟩
    · rw [List.append_assoc, ← hsplit, List.takeWhile_append_dropWhile]
    · rw [firstHeader_append]
      simp [firstHeader, header?]
    · rw [firstClosing, List.dropWhile_append_of_pos hdropped]
      exact List.findSome?_eq_none_iff.2 hinner
  · rintro ⟨before, after, rfl, hb⟩
    obtain ⟨hh, hc⟩ := (hopen before).1 hb
    rw [firstClosing_append hh, hc]
    rfl

end Laws

end BufferEvent

/-! ## Operations on all buffers -/

/-- An operation on the buffers of a target. -/
inductive BufferOp where
  /-- Opens the buffer of a language, unless it has one. -/
  | enter (language header : String)
  /-- Appends to the buffer of a language. -/
  | push (language text : String)
  /-- Closes the buffer of a language. -/
  | close (language closing : String)
  /-- Closes all buffers. -/
  | closeAll (closing : String)
  deriving DecidableEq

namespace BufferOp

/-- The language that an operation is meant for; there is none for one that is meant for all. -/
def language? : BufferOp → Option String
  | enter l _ | push l _ | close l _ => some l
  | closeAll _ => none

/-- What an operation does to each buffer that it is meant for. -/
def event : BufferOp → BufferEvent
  | enter _ h => .header h
  | push _ t => .text t
  | close _ c | closeAll c => .closing c

/-- Whether an operation is meant for a language. -/
def concerns (op : BufferOp) (language : String) : Bool := op.language?.all (language == ·)

/-- What a run does to the buffer of one language. -/
def projection (language : String) (ops : List BufferOp) : List BufferEvent :=
  (ops.filter (·.concerns language)).map event

end BufferOp

namespace Buffers

/-- Whether a language has a buffer that is not closed yet. -/
def isOpen (bs : Buffers) (language : String) : Bool :=
  (bs.byLanguage.get? language).any (!·.closed)

/-- Carries out an operation. -/
def apply (bs : Buffers) : BufferOp → Buffers
  | .enter l h => bs.enter l h
  | .push l t => bs.push l t
  | .close l c => bs.close l c
  | .closeAll c => bs.closeAll c

/-- Carries out operations one after the other, beginning without buffers. -/
def run (ops : List BufferOp) : Buffers := ops.foldl apply empty

/-- Whether a text is appended only to a buffer that is open. -/
def permits (bs : Buffers) : BufferOp → Bool
  | .push l _ => bs.isOpen l
  | _ => true

/-- Whether all operations are permitted when their turn comes. -/
def permitsAll : Buffers → List BufferOp → Bool
  | _, [] => true
  | bs, op :: ops => bs.permits op && (bs.apply op).permitsAll ops

/-! ### Actions that make headers -/

/-- Opens the buffer of a language, with a header that is made only if there is no buffer yet. -/
def enterM [Monad m] (bs : Buffers) (language : String) (header : m String) : m Buffers :=
  if bs.has language then pure bs
  else return ⟨bs.byLanguage.insert language (.start (← header))⟩

/-- Carries out an operation, with headers that are made by an action. -/
def applyM [Monad m] (header : String → String → m String) (bs : Buffers) :
    BufferOp → m Buffers
  | .enter l h => bs.enterM l (header l h)
  | .push l t => return bs.push l t
  | .close l c => return bs.close l c
  | .closeAll c => return bs.closeAll c

/-- Carries out operations one after the other, with headers that are made by an action. -/
def runM [Monad m] (header : String → String → m String) (ops : List BufferOp) : m Buffers :=
  ops.foldlM (applyM header) empty

/-- Makes a header, and notes the language it was asked for. -/
def ask (language header : String) : StateM (List String) String :=
  modifyGet fun asked => (header, asked ++ [language])

/-! ### Each buffer by itself -/

section Projections

variable {bs : Buffers} {ops : List BufferOp} {language language' : String}

lemma get?_enter (header : String) :
    (bs.enter language' header).byLanguage.get? language =
      if language = language' then some ((bs.byLanguage.get? language').getD (.start header))
      else bs.byLanguage.get? language := by
  unfold enter has SortedMap.contains
  cases hb : bs.byLanguage.get? language' with
  | none => simp [SortedMap.get?_insert]
  | some b =>
    simp only [Option.isSome_some, if_true, Option.getD_some]
    split
    · rename_i h
      rw [h, hb]
    · rfl

lemma get?_modify (f : Buffer → Buffer) :
    (bs.modify language' f).byLanguage.get? language =
      if language = language' then (bs.byLanguage.get? language').map f
      else bs.byLanguage.get? language := by
  unfold modify
  cases hb : bs.byLanguage.get? language' with
  | none =>
    by_cases h : language = language'
    · simp [h, hb]
    · simp [h]
  | some b => simp [SortedMap.get?_insert]

lemma get?_push (text : String) :
    (bs.push language' text).byLanguage.get? language =
      if language = language' then (bs.byLanguage.get? language').map (·.push text)
      else bs.byLanguage.get? language := get?_modify _

lemma get?_close (closing : String) :
    (bs.close language' closing).byLanguage.get? language =
      if language = language' then (bs.byLanguage.get? language').map (·.close closing)
      else bs.byLanguage.get? language := get?_modify _

lemma get?_closeAll (closing : String) :
    (bs.closeAll closing).byLanguage.get? language =
      (bs.byLanguage.get? language).map (·.close closing) := SortedMap.get?_map _ _ _

/-- An operation does to the buffer of a language what it does to each buffer that it is meant for,
and nothing if it is not meant for this one. -/
lemma get?_apply (bs : Buffers) (op : BufferOp) (language : String) :
    (bs.apply op).byLanguage.get? language =
      if op.concerns language then op.event.on (bs.byLanguage.get? language)
      else bs.byLanguage.get? language := by
  cases op with
  | closeAll c => exact get?_closeAll c
  | enter l _ | push l _ | close l _ =>
    by_cases hl : language = l
    · simp [hl, apply, get?_enter, get?_push, get?_close, BufferOp.concerns,
        BufferOp.language?, BufferOp.event, BufferEvent.on]
    · simp [hl, apply, get?_enter, get?_push, get?_close, BufferOp.concerns,
        BufferOp.language?]

/-- The buffer of a language comes from what the run does to it. -/
lemma get?_foldl_apply (bs : Buffers) (ops : List BufferOp) (language : String) :
    (ops.foldl apply bs).byLanguage.get? language =
      (BufferOp.projection language ops).foldl BufferEvent.on (bs.byLanguage.get? language) := by
  induction ops generalizing bs with
  | nil => rfl
  | cons op ops ih =>
    rw [List.foldl_cons, ih, get?_apply, BufferOp.projection, BufferOp.projection]
    cases h : op.concerns language <;> simp [h]

lemma get?_run (ops : List BufferOp) (language : String) :
    (run ops).byLanguage.get? language =
      (BufferOp.projection language ops).foldl BufferEvent.on none := get?_foldl_apply _ ops language

lemma appendsToOpen_projection (h : bs.permitsAll ops) (language : String) :
    BufferEvent.appendsToOpen (bs.byLanguage.get? language)
      (BufferOp.projection language ops) := by
  induction ops generalizing bs with
  | nil => rfl
  | cons op ops ih =>
    obtain ⟨hop, hops⟩ := Bool.and_eq_true_iff.1 h
    have hrest := ih hops
    rw [get?_apply] at hrest
    cases hmeant : op.concerns language with
    | false => simpa [BufferOp.projection, hmeant] using hrest
    | true =>
      have hevent : op.event.isPermitted (bs.byLanguage.get? language) := by
        cases op with
        | push l t =>
          have hl : language = l := by
            simpa [BufferOp.concerns, BufferOp.language?] using hmeant
          rw [hl]
          exact hop
        | enter l h | close l c | closeAll c => rfl
      simp only [hmeant, if_true] at hrest
      simpa [BufferOp.projection, hmeant, BufferEvent.appendsToOpen, hevent] using hrest

lemma mem_languages_apply (bs : Buffers) (op : BufferOp) (language : String) :
    language ∈ (bs.apply op).languages ↔
      language ∈ bs.languages ∨ op.concerns language ∧ op.event.header?.isSome := by
  rw [languages, languages, SortedMap.mem_keys_iff, SortedMap.mem_keys_iff, get?_apply]
  cases op.concerns language with
  | false => simp
  | true => cases op.event <;> simp [BufferEvent.on, BufferEvent.header?]

end Projections

/-! ### The headers that are asked for -/

/-- The headers of the languages with a buffer have been asked for, each of them once. -/
def AskedFor (bs : Buffers) (asked : List String) : Prop :=
  asked.Nodup ∧ ∀ l, l ∈ asked ↔ l ∈ bs.languages

lemma AskedFor.perm {bs : Buffers} {asked : List String} (h : bs.AskedFor asked) :
    asked.Perm bs.languages :=
  (List.perm_ext_iff_of_nodup h.1 (bs.byLanguage.keys_pairwise.imp ne_of_text_lt)).2 h.2

lemma run_applyM_ask {bs : Buffers} {asked : List String} (hasked : bs.AskedFor asked)
    (op : BufferOp) : ∃ asked', (bs.applyM ask op).run asked = (bs.apply op, asked') ∧
      (bs.apply op).AskedFor asked' := by
  obtain ⟨hnodup, hmem⟩ := hasked
  cases op with
  | enter l h =>
    by_cases hhas : bs.has l
    · refine ⟨asked, ?_, ?_⟩
      · rw [applyM, enterM, if_pos hhas, apply, enter, if_pos hhas]
        rfl
      · simpa [apply, enter, hhas] using ⟨hnodup, hmem⟩
    · have hnew : l ∉ asked := by
        rw [hmem, languages, SortedMap.mem_keys_iff]
        exact hhas
      refine ⟨asked ++ [l], ?_, ?_, fun l' => ?_⟩
      · rw [applyM, enterM, if_neg hhas, apply, enter, if_neg hhas]
        rfl
      · exact List.nodup_append.2 ⟨hnodup, List.pairwise_singleton _ l, fun a ha b hb hab =>
          hnew (List.mem_singleton.1 hb ▸ hab ▸ ha)⟩
      · rw [List.mem_append, List.mem_singleton, hmem, mem_languages_apply]
        simp [BufferOp.concerns, BufferOp.language?, BufferOp.event, BufferEvent.header?]
  | push l t | close l c | closeAll c =>
    refine ⟨asked, rfl, hnodup, fun l' => ?_⟩
    rw [hmem, mem_languages_apply]
    simp [BufferOp.event, BufferEvent.header?]

lemma run_foldlM_ask {bs : Buffers} {asked : List String} (hasked : bs.AskedFor asked)
    (ops : List BufferOp) : ∃ asked', (ops.foldlM (applyM ask) bs).run asked =
      (ops.foldl apply bs, asked') ∧ (ops.foldl apply bs).AskedFor asked' := by
  induction ops generalizing bs asked with
  | nil => exact ⟨asked, rfl, hasked⟩
  | cons op ops ih =>
    obtain ⟨asked₁, hop, hasked₁⟩ := run_applyM_ask hasked op
    obtain ⟨asked₂, hops, hasked₂⟩ := ih hasked₁
    refine ⟨asked₂, ?_, hasked₂⟩
    rw [List.foldlM_cons, StateT.run_bind, hop]
    exact hops

/-- A run that makes its headers when they are needed does the same, and asks for the header of
each of its languages once. -/
lemma run_runM_ask (ops : List BufferOp) :
    ∃ asked, (runM ask ops).run [] = (run ops, asked) ∧ asked.Perm (run ops).languages := by
  have hnone : empty.AskedFor [] := ⟨.nil, fun _ => Iff.rfl⟩
  obtain ⟨asked, hrun, hasked⟩ := run_foldlM_ask hnone ops
  exact ⟨asked, hrun, hasked.perm⟩

end Buffers

/-! ## The whole run -/

namespace BufferOp

/-- The first closing of a buffer is by the operation that finds it open. -/
lemma firstClosing_projection_iff (ops : List BufferOp) (language closing : String) :
    BufferEvent.firstClosing (projection language ops) = some closing ↔
      ∃ before op after, ops = before ++ op :: after ∧ op.concerns language ∧
        op.event = .closing closing ∧ (Buffers.run before).isOpen language := by
  rw [BufferEvent.firstClosing_eq_some_iff]
  constructor
  · rintro ⟨before, after, hsplit, b, hb, hopen⟩
    obtain ⟨ops₁, ops₂, hops, rfl, htail⟩ := List.map_eq_append_iff.1 hsplit
    obtain ⟨op, ops₃, rfl, hevent, -⟩ := List.map_eq_cons_iff.1 htail
    obtain ⟨before, rest, rfl, rfl, hrest⟩ := List.filter_eq_append_iff.1 hops
    obtain ⟨skipped, after, rfl, hskipped, hop, -⟩ := List.filter_eq_cons_iff.1 hrest
    refine ⟨before ++ skipped, op, after, by simp, hop, hevent, ?_⟩
    have hnone : skipped.filter (·.concerns language) = [] :=
      List.filter_eq_nil_iff.2 hskipped
    have hprojection : projection language (before ++ skipped) =
        (before.filter (·.concerns language)).map event := by
      rw [projection, List.filter_append, hnone, List.append_nil]
    rw [Buffers.isOpen, Buffers.get?_run, hprojection, hb]
    simp [hopen]
  · rintro ⟨before, op, after, rfl, hop, hevent, hopen⟩
    obtain ⟨b, hb, hopen⟩ := (Option.any_eq_true _ _).1 hopen
    refine ⟨projection language before, projection language after, ?_, b, ?_, by simpa using hopen⟩
    · simp [projection, hop, hevent]
    · rw [← Buffers.get?_run, hb]

lemma get?_run_of_permitsAll {ops : List BufferOp} (h : Buffers.empty.permitsAll ops)
    (language : String) : (Buffers.run ops).byLanguage.get? language =
      (BufferEvent.firstHeader (projection language ops)).map fun header =>
        ⟨header ++ String.join (BufferEvent.texts (projection language ops)) ++
            (BufferEvent.firstClosing (projection language ops)).getD "",
          (BufferEvent.firstClosing (projection language ops)).isSome⟩ := by
  rw [Buffers.get?_run]
  exact BufferEvent.foldl_on_none (Buffers.appendsToOpen_projection h language)

/-- What a run leaves in the buffers. -/
structure Projects (ops : List BufferOp) : Prop where
  /-- The buffer of a language is the header of its first entry, the texts appended to it in order,
  and the closing that found it open. -/
  buffer : ∀ language, (Buffers.run ops).byLanguage.get? language =
    (BufferEvent.firstHeader (projection language ops)).map fun header =>
      ⟨header ++ String.join (BufferEvent.texts (projection language ops)) ++
          (BufferEvent.firstClosing (projection language ops)).getD "",
        (BufferEvent.firstClosing (projection language ops)).isSome⟩
  /-- This closing is the one by the operation that found the buffer open. -/
  closing : ∀ language closing,
    BufferEvent.firstClosing (projection language ops) = some closing ↔
      ∃ before op after, ops = before ++ op :: after ∧ op.concerns language ∧
        op.event = .closing closing ∧ (Buffers.run before).isOpen language
  /-- The header of each language is asked for once. -/
  asked : ∃ asked, (Buffers.runM Buffers.ask ops).run [] = (Buffers.run ops, asked) ∧
    asked.Perm (Buffers.run ops).languages
  /-- Closing does nothing to a buffer that is closed. -/
  closed : ∀ (bs : Buffers) (language : String) (b : Buffer),
    bs.byLanguage.get? language = some b → b.closed → ∀ closing,
      bs.close language closing = bs ∧
        (bs.closeAll closing).byLanguage.get? language = some b
  /-- An operation on one language does nothing to the others. -/
  others : ∀ (bs : Buffers) (op : BufferOp) (language language' : String),
    op.language? = some language → language' ≠ language →
      (bs.apply op).byLanguage.get? language' = bs.byLanguage.get? language'
  /-- The languages that were entered are listed, in increasing order and none of them twice. -/
  sorted : (Buffers.run ops).languages.Pairwise (· < ·)
  listed : ∀ language, language ∈ (Buffers.run ops).languages ↔
    (BufferEvent.firstHeader (projection language ops)).isSome

/-- A run that appends to open buffers only leaves in each buffer the projection of the run to its
language. -/
theorem run_projects (ops : List BufferOp) (h : Buffers.empty.permitsAll ops) : Projects ops where
  buffer := get?_run_of_permitsAll h
  closing := firstClosing_projection_iff ops
  asked := Buffers.run_runM_ask ops
  closed bs language b hb hclosed c := by
    have hkept : b.close c = b := by rw [Buffer.close, if_pos hclosed]
    constructor
    · have hsame : (bs.close language c).byLanguage = bs.byLanguage := by
        refine SortedMap.ext_get? fun l => ?_
        rw [Buffers.get?_close]
        split
        · rename_i hl
          rw [hl, hb, Option.map_some, hkept]
        · rfl
      exact congrArg Buffers.mk hsame
    · rw [Buffers.get?_closeAll, hb, Option.map_some, hkept]
  others bs op language language' hop hne := by
    have hother : op.concerns language' = false := by
      simp [concerns, hop, hne]
    rw [Buffers.get?_apply, hother]
    rfl
  sorted := SortedMap.keys_pairwise _
  listed language := by
    rw [Buffers.languages, SortedMap.mem_keys_iff, get?_run_of_permitsAll h, Option.isSome_map]

/-- A language is entered again behind the closing, and another one for the first time. -/
theorem run_projects_of_turns :
    Buffers.empty.permitsAll [.enter "nl" "<", .push "nl" "a", .closeAll ">", .enter "nl" "<<",
      .enter "de" "(", .push "de" "b"] ∧
    Projects [.enter "nl" "<", .push "nl" "a", .closeAll ">", .enter "nl" "<<",
      .enter "de" "(", .push "de" "b"] :=
  ⟨by decide +kernel, run_projects _ (by decide +kernel)⟩

end BufferOp

end Phrasebook
