import Mathlib.Data.List.SplitBy
import Phrasebook.Proofs.Naming.Identifiers

/-!
# Where words are cut

The words of a segment are what one gets by reading it from left to right.  A character that is not
alphanumeric ends a word and is dropped; a capital right behind a small letter or a digit begins a
new one; any other character goes on with the word before it, if there is one.

* `words_concat_of_not_isAlphanumeric`, `words_concat_of_goesOn` and `words_concat_of_not_goesOn`
  say what one character more does to the words of a segment.
* `Cutting` is a pass over the segment that remembers the words that are complete, the one that is
  not, and whether a capital would begin a new one.  `Tracks.foldl_take` is its invariant.
* `numbered` gives each character of a list of words the number of its word.  A character more adds
  one pair at the end (`numbered_concat`), so that the numbers of a segment can be read off its
  beginnings.

The main result is `words_cut`: nothing but separators is lost, and two neighbours among the
characters that are kept belong to different words exactly if something stood between them or the
second is a capital behind a small letter or a digit.
-/

namespace Phrasebook

namespace Naming

open Unicode

/-! ## One character more -/

/-- Whether `d` goes on with a word when it stands behind `front`. -/
def goesOn (front : List Char) (d : Char) : Bool := front.getLast?.any fun c => continues c d

section Concat

variable {front : List Char} {c d : Char}

@[simp] lemma words_nil : words [] = [] := rfl

lemma words_concat_of_not_isAlphanumeric (hd : isAlphanumeric d = false) :
    words (front ++ [d]) = words front := by
  rw [words_append_cons hd, words_nil, List.append_nil]

lemma words_concat_of_not_goesOn (hd : isAlphanumeric d) (h : goesOn front d = false) :
    words (front ++ [d]) = words front ++ [[d]] := by
  have hcut : ∀ c ∈ front.getLast?, continues c d = false := by
    intro c hc
    rw [goesOn, Option.mem_def.1 hc] at h
    exact h
  have hone : [d].splitBy continues = [[d]] := rfl
  rw [words, List.splitBy_append_cons [] hcut, hone, List.filter_append]
  simp [words, hd]

/-- A run in which each character goes on with the word of the one before is of one kind. -/
lemma all_isAlphanumeric_concat {run : List Char} (hrun : (run ++ [c]).IsChain fun x y =>
    continues x y) (hc : isAlphanumeric c) : (run ++ [c]).all isAlphanumeric := by
  have hstep : ∀ x y, continues x y = true → isAlphanumeric x = true := by
    intro x y h
    simp only [continues, Bool.and_eq_true] at h
    exact h.1.1
  rw [List.all_append, Bool.and_eq_true]
  refine ⟨?_, by simpa using hc⟩
  induction run with
  | nil => rfl
  | cons x rest ih =>
    have hrest := List.IsChain.tail hrun
    have hx : isAlphanumeric x := by
      cases rest with
      | nil => exact hstep x c (List.isChain_cons_cons.1 hrun).1
      | cons y rest => exact hstep x y (List.isChain_cons_cons.1 hrun).1
    rw [List.all_cons, hx, ih hrest]
    rfl

/-- The last run of a segment grows by a character that goes on with it. -/
lemma splitBy_concat_of_continues (front : List Char) (h : continues c d) :
    ∃ runs run, (front ++ [c]).splitBy continues = runs ++ [run ++ [c]] ∧
      (front ++ [c] ++ [d]).splitBy continues = runs ++ [run ++ [c] ++ [d]] := by
  have hne : (front ++ [c]).splitBy continues ≠ [] := List.splitBy_ne_nil.2 (by simp)
  obtain ⟨runs, last, hsplit⟩ := (List.eq_nil_or_concat' _).resolve_left hne
  obtain ⟨hflat, hnil, hchain, hborders⟩ := List.splitBy_eq_iff.1 hsplit
  obtain ⟨run, rfl⟩ : ∃ run, last = run ++ [c] := by
    have hne : last ≠ [] := fun hlast => hnil (by simp [hlast])
    refine ⟨last.dropLast, ?_⟩
    have hlast := congrArg List.getLast? hflat
    rw [List.flatten_append, List.flatten_singleton, List.getLast?_append_of_ne_nil _ hne,
      List.getLast?_concat] at hlast
    exact (List.dropLast_append_getLast? c hlast.symm).symm
  refine ⟨runs, run, hsplit, List.splitBy_eq_iff.2 ⟨?_, ?_, ?_, ?_⟩⟩
  · rw [hflat]
    simp
  · simp only [List.mem_append, List.mem_singleton, not_or] at hnil ⊢
    exact ⟨hnil.1, by simp⟩
  · intro m hm
    rcases List.mem_append.1 hm with hm | hm
    · exact hchain m (List.mem_append_left _ hm)
    · obtain rfl := List.mem_singleton.1 hm
      refine List.isChain_append.2 ⟨hchain _ (by simp), List.isChain_singleton _, ?_⟩
      simpa using h
  · rw [List.isChain_append] at hborders ⊢
    refine ⟨hborders.1, List.isChain_singleton _, fun x hx y hy => ?_⟩
    obtain rfl : run ++ [c] ++ [d] = y := by simpa using hy
    obtain ⟨hxne, hrun, hborder⟩ := hborders.2.2 x hx (run ++ [c]) (by simp)
    refine ⟨hxne, by simp, ?_⟩
    rwa [List.head_append_of_ne_nil hrun]

lemma words_concat_of_goesOn (h : goesOn front d) :
    ∃ ws w, words front = ws ++ [w] ∧ words (front ++ [d]) = ws ++ [w ++ [d]] := by
  obtain ⟨c, hlast, hcd⟩ := (Option.any_eq_true ..).1 h
  obtain ⟨before, rfl⟩ := List.getLast?_eq_some_iff.1 hlast
  obtain ⟨runs, run, hsplit, hsplit'⟩ := splitBy_concat_of_continues before hcd
  have hmem : run ++ [c] ∈ (before ++ [c]).splitBy continues := by simp [hsplit]
  have hcd' := hcd
  simp only [continues, Bool.and_eq_true] at hcd'
  have hrun : (run ++ [c]).all isAlphanumeric :=
    all_isAlphanumeric_concat (List.isChain_of_mem_splitBy hmem) hcd'.1.1
  refine ⟨runs.filter (·.all isAlphanumeric), run ++ [c], ?_, ?_⟩
  · rw [words, hsplit, List.filter_append, List.filter_singleton, hrun, cond_true]
  · have hrun' : (run ++ [c] ++ [d]).all isAlphanumeric := by
      rw [List.all_append, hrun]
      simpa using hcd'.1.2
    rw [words, hsplit', List.filter_append, List.filter_singleton, hrun', cond_true]

lemma flatten_words (segment : List Char) :
    (words segment).flatten = segment.filter isAlphanumeric := by
  induction segment using List.reverseRecOn with
  | nil => rfl
  | append_singleton front d ih =>
    rw [List.filter_append, ← ih]
    cases hd : isAlphanumeric d with
    | false => simp [words_concat_of_not_isAlphanumeric hd, hd]
    | true =>
      cases h : goesOn front d with
      | false => simp [words_concat_of_not_goesOn hd h, hd]
      | true =>
        obtain ⟨ws, w, hws, hws'⟩ := words_concat_of_goesOn h
        simp [hws, hws', hd]

end Concat

/-! ## A pass over the segment -/

/-- What is known of the words of a segment when a part of it has been read. -/
structure Cutting where
  /-- The words that are complete. -/
  complete : List (List Char)
  /-- The word that is being read. -/
  current : List Char
  /-- Whether the last character was a small letter or a digit of a word. -/
  afterLower : Bool

namespace Cutting

/-- Nothing has been read. -/
def start : Cutting := ⟨[], [], false⟩

/-- The words, if nothing else follows. -/
def words (s : Cutting) : List (List Char) :=
  if s.current.isEmpty then s.complete else s.complete ++ [s.current]

/-- Reads a character. -/
def take (s : Cutting) (d : Char) : Cutting :=
  if isAlphanumeric d then
    if isUppercase d && s.afterLower && !s.current.isEmpty then
      ⟨s.complete ++ [s.current], [d], isLowercase d || isAsciiDigit d⟩
    else ⟨s.complete, s.current ++ [d], isLowercase d || isAsciiDigit d⟩
  else ⟨s.words, [], false⟩

section Take

variable {s : Cutting} {d : Char}

/-- A character of a word goes on with the word that is being read, or begins one. -/
lemma words_take (hd : isAlphanumeric d) :
    (s.take d).words =
      if !s.current.isEmpty && !(isUppercase d && s.afterLower) then
        s.complete ++ [s.current ++ [d]]
      else s.words ++ [[d]] := by
  rw [take, if_pos hd, words]
  cases hcurrent : s.current.isEmpty with
  | true =>
    rw [List.isEmpty_iff] at hcurrent
    simp [words, hcurrent]
  | false =>
    have hne : s.current ≠ [] := by simpa using hcurrent
    cases isUppercase d && s.afterLower <;> simp [words, hne]

lemma isEmpty_current_take (hd : isAlphanumeric d) : (s.take d).current.isEmpty = false := by
  rw [take, if_pos hd]
  split <;> simp

lemma afterLower_take (hd : isAlphanumeric d) :
    (s.take d).afterLower = (isLowercase d || isAsciiDigit d) := by
  rw [take, if_pos hd]
  split <;> rfl

end Take

/-- `s` is what is known when `front` has been read. -/
structure Tracks (s : Cutting) (front : List Char) : Prop where
  /-- The words so far are those of `front`. -/
  words_eq : s.words = Naming.words front
  /-- A word is being read if the last character belongs to one. -/
  isEmpty_eq : s.current.isEmpty = !front.getLast?.any isAlphanumeric
  /-- The last character decides whether a capital begins a word. -/
  afterLower_eq : s.afterLower =
    front.getLast?.any fun c => isAlphanumeric c && (isLowercase c || isAsciiDigit c)

lemma tracks_start : start.Tracks [] := ⟨rfl, rfl, rfl⟩

/-- A character of a word goes on with the one that is being read, unless it is a capital behind a
small letter or a digit. -/
lemma Tracks.goesOn_eq {s : Cutting} {front : List Char} {d : Char} (h : s.Tracks front)
    (hd : isAlphanumeric d) :
    goesOn front d = (!s.current.isEmpty && !(isUppercase d && s.afterLower)) := by
  rw [h.isEmpty_eq, h.afterLower_eq, goesOn]
  cases front.getLast? with
  | none => rfl
  | some c => cases hc : isAlphanumeric c <;> simp [continues, isHump, hc, hd]

/-- Reading a character keeps track. -/
lemma Tracks.take {s : Cutting} {front : List Char} (h : s.Tracks front) (d : Char) :
    (s.take d).Tracks (front ++ [d]) := by
  cases hd : isAlphanumeric d with
  | false =>
    rw [Cutting.take, hd, if_neg Bool.false_ne_true]
    refine ⟨?_, by simp [hd], by simp [hd]⟩
    rw [words_concat_of_not_isAlphanumeric hd, ← h.words_eq]
    rfl
  | true =>
    refine ⟨?_, by simp [isEmpty_current_take hd, hd], by simp [afterLower_take hd, hd]⟩
    have hgoes := h.goesOn_eq hd
    rw [words_take hd, ← hgoes]
    cases hfront : goesOn front d with
    | false => rw [words_concat_of_not_goesOn hd hfront, ← h.words_eq, if_neg Bool.false_ne_true]
    | true =>
      obtain ⟨ws, w, hws, hws'⟩ := words_concat_of_goesOn hfront
      have hcurrent : s.current.isEmpty = false := by
        rw [hfront, Eq.comm, Bool.and_eq_true] at hgoes
        simpa using hgoes.1
      have hwords := h.words_eq.trans hws
      rw [Cutting.words, hcurrent, if_neg Bool.false_ne_true] at hwords
      obtain ⟨rfl, hw⟩ := List.append_inj' hwords rfl
      obtain rfl : s.current = w := by simpa using hw
      rw [hws', if_pos rfl]

/-- Reading several characters keeps track. -/
lemma Tracks.foldl_take {s : Cutting} {front : List Char} (h : s.Tracks front)
    (more : List Char) : (more.foldl Cutting.take s).Tracks (front ++ more) := by
  induction more generalizing s front with
  | nil => simpa using h
  | cons d rest ih => simpa using ih (h.take d)

end Cutting

/-! ## Numbers of words -/

/-- The characters of some words, each with the number of its word. -/
def numbered (ws : List (List Char)) : List (ℕ × Char) :=
  ws.zipIdx.flatMap fun (w, i) => w.map (i, ·)

/-- The number of the last word of a segment. -/
def lastNumber (segment : List Char) : ℕ := (words segment).length - 1

section Numbered

variable {front : List Char} {c d : Char}

lemma numbered_append_singleton (ws : List (List Char)) (w : List Char) :
    numbered (ws ++ [w]) = numbered ws ++ w.map (ws.length, ·) := by
  simp [numbered, List.zipIdx_append]

lemma map_snd_numbered (ws : List (List Char)) : (numbered ws).map (·.2) = ws.flatten := by
  induction ws using List.reverseRecOn with
  | nil => rfl
  | append_singleton ws w ih => simp [numbered_append_singleton, ih, Function.comp_def]

/-- A character more is the last one of the last word. -/
lemma numbered_concat (hd : isAlphanumeric d) :
    numbered (words (front ++ [d])) =
      numbered (words front) ++ [(lastNumber (front ++ [d]), d)] := by
  cases h : goesOn front d with
  | false => simp [lastNumber, words_concat_of_not_goesOn hd h, numbered_append_singleton]
  | true =>
    obtain ⟨ws, w, hws, hws'⟩ := words_concat_of_goesOn h
    simp [lastNumber, hws, hws', numbered_append_singleton]

lemma length_numbered_words (segment : List Char) :
    (numbered (words segment)).length = (segment.filter isAlphanumeric).length := by
  rw [← flatten_words, ← map_snd_numbered, List.length_map]

lemma words_concat_ne_nil (front : List Char) (hd : isAlphanumeric d) : words (front ++ [d]) ≠ [] := by
  intro h
  have hflat := flatten_words (front ++ [d])
  simp [h, hd] at hflat

/-- A character that does not go on with a word begins one. -/
lemma length_words_concat (front : List Char) (hd : isAlphanumeric d) :
    (words (front ++ [d])).length = (words front).length + if goesOn front d then 0 else 1 := by
  cases h : goesOn front d with
  | false => simp [words_concat_of_not_goesOn hd h]
  | true =>
    obtain ⟨ws, w, hws, hws'⟩ := words_concat_of_goesOn h
    simp [hws, hws']

/-- The numbers of a segment begin with those of its beginnings. -/
lemma numbered_prefix (front more : List Char) :
    numbered (words front) <+: numbered (words (front ++ more)) := by
  induction more using List.reverseRecOn with
  | nil => simp
  | append_singleton more d ih =>
    rw [← List.append_assoc]
    cases hd : isAlphanumeric d with
    | false => rwa [words_concat_of_not_isAlphanumeric hd]
    | true => exact (numbered_concat hd) ▸ ih.trans (List.prefix_append _ _)

lemma words_append_gap {gap : List Char} (hgap : ∀ x ∈ gap, isAlphanumeric x = false) :
    words (front ++ c :: gap) = words (front ++ [c]) := by
  induction gap using List.reverseRecOn with
  | nil => rfl
  | append_singleton gap x ih =>
    rw [← List.cons_append, ← List.append_assoc,
      words_concat_of_not_isAlphanumeric (hgap x (by simp)), ih fun y hy => hgap y (by simp [hy])]

/-- Behind a gap nothing goes on with a word. -/
lemma goesOn_append_cons (front : List Char) {gap : List Char} (hgap : ∀ x ∈ gap, isAlphanumeric x = false)
    (hc : isAlphanumeric c) (hd : isAlphanumeric d) :
    goesOn (front ++ c :: gap) d = true ↔ gap = [] ∧ isHump c d = false := by
  cases gap using List.reverseRecOn with
  | nil => simp [goesOn, continues, hc, hd]
  | append_singleton gap x =>
    have hx := hgap x (by simp)
    have hlast : (front ++ c :: (gap ++ [x])).getLast? = some x := by
      rw [← List.cons_append, ← List.append_assoc, List.getLast?_concat]
    simp [goesOn, hlast, continues, hx]

/-- Two neighbours among the characters that are kept have the numbers that they had when they were
read. -/
lemma numbered_neighbours (before after : List Char) {gap : List Char}
    (hgap : ∀ x ∈ gap, isAlphanumeric x = false) (hc : isAlphanumeric c) (hd : isAlphanumeric d) :
    ∃ rest, numbered (words (before ++ c :: (gap ++ d :: after))) = numbered (words before) ++
      (lastNumber (before ++ [c]), c) :: (lastNumber (before ++ c :: gap ++ [d]), d) :: rest := by
  obtain ⟨rest, hrest⟩ := numbered_prefix (before ++ c :: gap ++ [d]) after
  rw [numbered_concat hd, words_append_gap hgap, numbered_concat hc] at hrest
  refine ⟨rest, ?_⟩
  have hsplit : before ++ c :: (gap ++ d :: after) = before ++ c :: gap ++ [d] ++ after := by simp
  rw [hsplit, ← hrest]
  simp

/-- The second of two neighbours begins a word behind a gap, and where it is a hump. -/
lemma lastNumber_ne_iff {before gap : List Char} (hgap : ∀ x ∈ gap, isAlphanumeric x = false)
    (hc : isAlphanumeric c) (hd : isAlphanumeric d) :
    lastNumber (before ++ [c]) ≠ lastNumber (before ++ c :: gap ++ [d]) ↔
      gap ≠ [] ∨ isHump c d = true := by
  have hpos := List.length_pos_iff.2 (words_concat_ne_nil before hc)
  have hcount := length_words_concat (before ++ c :: gap) hd
  have hgoes := goesOn_append_cons before hgap hc hd
  rw [words_append_gap hgap] at hcount
  rw [lastNumber, lastNumber, hcount]
  by_cases hjoined : gap = [] ∧ isHump c d = false
  · rw [if_pos (hgoes.2 hjoined)]
    simp [hjoined]
  · rw [if_neg (mt hgoes.1 hjoined)]
    rw [not_and_or, Bool.not_eq_false] at hjoined
    exact iff_of_true (by omega) hjoined

end Numbered

/-! ## The words of a segment -/

/-- `ws` are the words that `segment` is cut into. -/
structure CutInto (segment : List Char) (ws : List (List Char)) : Prop where
  /-- No word is empty. -/
  nonempty : ∀ w ∈ ws, w ≠ []
  /-- All is kept but the characters that are not alphanumeric. -/
  flatten_eq : ws.flatten = segment.filter isAlphanumeric
  /-- Of two neighbours among the characters that are kept, the second begins a word exactly if
  something was between them, or if it is a capital behind a small letter or a digit. -/
  cut_iff : ∀ before c gap d after, segment = before ++ c :: (gap ++ d :: after) →
    isAlphanumeric c → isAlphanumeric d → (∀ x ∈ gap, isAlphanumeric x = false) →
    ∃ i j, (numbered ws)[(before.filter isAlphanumeric).length]? = some (i, c) ∧
      (numbered ws)[(before.filter isAlphanumeric).length + 1]? = some (j, d) ∧
      (i ≠ j ↔ gap ≠ [] ∨ (isUppercase d ∧ (isLowercase c ∨ isAsciiDigit c)))
  /-- A single pass over the segment gives the words. -/
  onePass : (segment.foldl Cutting.take .start).words = ws

/-- **Where words are cut.** -/
theorem words_cut (segment : List Char) : CutInto segment (words segment) := by
  constructor
  case nonempty => exact fun w => ne_nil_of_mem_words
  case flatten_eq => exact flatten_words segment
  case onePass => simpa using (Cutting.tracks_start.foldl_take segment).words_eq
  case cut_iff =>
    rintro before c gap d after rfl hc hd hgap
    obtain ⟨rest, hrest⟩ := numbered_neighbours before after hgap hc hd
    refine ⟨lastNumber (before ++ [c]), lastNumber (before ++ c :: gap ++ [d]), ?_, ?_, ?_⟩
    · simp [hrest, ← length_numbered_words]
    · simp [hrest, ← length_numbered_words]
    · rw [lastNumber_ne_iff hgap hc hd]
      simp [isHump]

example : words "v2API.subTitle".toList = ["v2", "API", "sub", "Title"].map (·.toList) := by
  decide +kernel

end Naming

end Phrasebook
