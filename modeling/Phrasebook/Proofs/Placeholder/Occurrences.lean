import Phrasebook.Proofs.Runtime.Scanning

/-!
# Where tokens stand

Tokens are looked for once, from left to right, each one behind the one before.  Such a search could
pass over a token: it might begin inside of what was taken for another one, or behind a percent sign
and digits that came to nothing, as in `%1%2$@`.  It does not.  A percent sign stands only at the
head of a token, so it ends whatever is in front of it (`pieces_append_percent`), and a token is
found wherever it stands (`pieces_append_token`).

A place is a range of bytes.  `StandsAt` says what stands there by the slice of the text alone, and
`mem_find_iff` that the places which are found are those at which a token stands.  What is asked of
the tokens after that, the largest index and the first that no argument answers, is asked of this
list.  The main result is `find_occurrences`.
-/

namespace Phrasebook.Placeholder

open Unicode

/-! ## Tokens inside of a text -/

section Pieces

variable {cs ds rest : List Char}

/-- A percent sign ends whatever is in front of it: no token goes on over it. -/
lemma token?_append_percent (h : token? cs = none) (hcs : cs ≠ []) :
    token? (cs ++ '%' :: rest) = none := by
  refine Option.eq_none_iff_forall_ne_some.2 ?_
  rintro ⟨ds, rest'⟩ htoken
  obtain ⟨hds, hcut⟩ := token?_eq_some_iff.1 htoken
  rcases List.append_eq_append_iff.1 hcut with ⟨tail, hhead, htail⟩ | ⟨more, rfl, -⟩
  · cases tail with
    | nil =>
      rw [List.append_nil] at hhead
      rw [← hhead, token?_eq_some_iff.2 ⟨hds, (List.append_nil _).symm⟩] at h
      exact nomatch h
    | cons x tail =>
      -- the token would have the percent sign behind its head
      obtain rfl : '%' = x := (List.cons.inj htail).1
      obtain ⟨c, cs, rfl⟩ := List.exists_cons_of_ne_nil hcs
      refine percent_notMem_tail hds ?_
      rw [hhead, List.cons_append, List.tail_cons]
      exact List.mem_append_right _ List.mem_cons_self
  · rw [token?_append hds] at h
    exact nomatch h

lemma pieces_append_percent (cs rest : List Char) :
    pieces (cs ++ '%' :: rest) = pieces cs ++ pieces ('%' :: rest) := by
  fun_induction pieces cs with
  | case1 cs ds more h _ ih =>
    obtain ⟨hds, rfl⟩ := token?_eq_some_iff.1 h
    rw [List.append_assoc, pieces_of_token? (token?_append hds), ih, List.cons_append]
  | case2 h => rfl
  | case3 c more h ih =>
    have hnone : token? (c :: (more ++ '%' :: rest)) = none :=
      token?_append_percent h (List.cons_ne_nil c more)
    rw [List.cons_append]
    rw [pieces_of_not_token? hnone, ih, List.cons_append]

/-- A token is found wherever it stands. -/
lemma pieces_append_token (hds : IsNumber ds) (cs rest : List Char) :
    pieces (cs ++ (Piece.token ds).chars ++ rest) = pieces cs ++ .token ds :: pieces rest := by
  have hpercent : (Piece.token ds).chars ++ rest = '%' :: (ds ++ ['$', '@'] ++ rest) := rfl
  rw [List.append_assoc, hpercent, pieces_append_percent, ← hpercent,
    pieces_of_token? (token?_append hds)]

/-- What is taken for a token is one. -/
lemma isNumber_of_mem_pieces (h : .token ds ∈ pieces cs) : IsNumber ds :=
  Cut.isNumber_ofPieces cs ds (Cut.mem_tokens_ofPieces_iff.2 h)

end Pieces

/-! ## Places -/

section Places

variable {offset : ℕ} {p : Placeholder} {ps : List Piece}

/-- The places of tokens are counted on from one piece to the next. -/
lemma locate_append (offset : ℕ) (ps qs : List Piece) :
    locate offset (ps ++ qs) =
      locate offset ps ++ locate (offset + byteLength (ps.flatMap Piece.chars)) qs := by
  induction ps generalizing offset with
  | nil => rfl
  | cons p ps ih =>
    cases p with
    | plain c =>
      rw [List.cons_append, locate, locate, ih, List.flatMap_cons, Rust.byteLength_append,
        Nat.add_assoc]
      rfl
    | token ds =>
      rw [List.cons_append, locate, locate, ih, List.flatMap_cons, Rust.byteLength_append,
        Nat.add_assoc]
      rfl

lemma mem_locate_iff : p ∈ locate offset ps ↔ ∃ before ds after,
    ps = before ++ .token ds :: after ∧ p = ⟨indexOf ds,
      offset + byteLength (before.flatMap Piece.chars),
      offset + byteLength (before.flatMap Piece.chars) + byteLength (Piece.token ds).chars⟩ := by
  constructor
  · intro h
    induction ps generalizing offset with
    | nil => exact nomatch h
    | cons q ps ih =>
      cases q with
      | plain c =>
        obtain ⟨before, ds, after, rfl, rfl⟩ := ih h
        refine ⟨.plain c :: before, ds, after, rfl, ?_⟩
        rw [List.flatMap_cons, Rust.byteLength_append, ← Nat.add_assoc offset]
        rfl
      | token ds =>
        rcases List.mem_cons.1 h with rfl | h
        · exact ⟨[], ds, ps, rfl, rfl⟩
        · obtain ⟨before, ds', after, rfl, rfl⟩ := ih h
          refine ⟨.token ds :: before, ds', after, rfl, ?_⟩
          rw [List.flatMap_cons, Rust.byteLength_append, ← Nat.add_assoc offset]
  · rintro ⟨before, ds, after, rfl, rfl⟩
    rw [locate_append]
    exact List.mem_append_right _ List.mem_cons_self

lemma le_start_of_mem_locate (h : p ∈ locate offset ps) : offset ≤ p.start := by
  obtain ⟨before, ds, after, -, rfl⟩ := mem_locate_iff.1 h
  exact Nat.le_add_right _ _

lemma pairwise_locate (offset : ℕ) (ps : List Piece) :
    (locate offset ps).Pairwise fun p q => p.stop ≤ q.start := by
  induction ps generalizing offset with
  | nil => exact .nil
  | cons q ps ih =>
    cases q with
    | plain c => exact ih _
    | token ds => exact .cons (fun p hp => le_start_of_mem_locate hp) (ih _)

end Places

/-! ## Tokens that stand in a text -/

/-- The slice of the text from the byte `start` to the byte `stop` is a token with the digits
`ds`. -/
def StandsAt (text : String) (start stop : ℕ) (ds : List Char) : Prop :=
  IsNumber ds ∧ Rust.between? text.toList start stop = some (Piece.token ds).chars

/-- The index of a token is the number that its digits write, where they are ASCII digits and the
number fits in 64 bits, and `noIndex` for any other token. -/
structure Numbers (ds : List Char) (index : UInt64) : Prop where
  /-- The digits write the index. -/
  value : (∀ d ∈ ds, isAsciiDigit d) → Decimal.value ds < UInt64.size →
    index.toNat = Decimal.value ds
  /-- The digits write no index. -/
  none : ¬((∀ d ∈ ds, isAsciiDigit d) ∧ Decimal.value ds < UInt64.size) → index = noIndex

section Occurrences

variable {text : String} {start stop start' stop' : ℕ} {ds ds' : List Char} {p q : Placeholder}
  {count : UInt64}

lemma numbers_indexOf (ds : List Char) : Numbers ds (indexOf ds) := by
  constructor
  · intro hascii hsize
    rw [indexOf, if_pos ⟨List.all_eq_true.2 hascii, hsize⟩]
    exact UInt64.toNat_ofNat_of_lt' hsize
  · intro h
    rw [indexOf, if_neg fun h' => h ⟨List.all_eq_true.1 h'.1, h'.2⟩]

/-- A token is found exactly if it stands in the text. -/
lemma mem_find_iff :
    p ∈ find text ↔ ∃ ds, StandsAt text p.start p.stop ds ∧ p.index = indexOf ds := by
  rw [find, mem_locate_iff]
  constructor
  · rintro ⟨before, ds, after, hpieces, rfl⟩
    have hmem : .token ds ∈ pieces text.toList := by
      rw [hpieces]
      exact List.mem_append_right _ List.mem_cons_self
    have htext : text.toList = before.flatMap Piece.chars ++ (Piece.token ds).chars ++
        after.flatMap Piece.chars := by
      rw [← flatMap_chars_pieces text.toList, hpieces, List.flatMap_append, List.flatMap_cons,
        List.append_assoc]
    refine ⟨ds, ⟨isNumber_of_mem_pieces hmem,
      Rust.between?_eq_some_iff.2 ⟨_, _, htext, ?_, ?_⟩⟩, rfl⟩
    · exact (Nat.zero_add _).symm
    · rw [Rust.byteLength_append, Nat.zero_add]
  · rintro ⟨ds, ⟨hds, hslice⟩, hindex⟩
    obtain ⟨before, after, htext, hstart, hstop⟩ := Rust.between?_eq_some_iff.1 hslice
    refine ⟨pieces before, ds, pieces after, by rw [htext, pieces_append_token hds], ?_⟩
    obtain ⟨index, start, stop⟩ := p
    subst hindex hstart hstop
    rw [flatMap_chars_pieces, Rust.byteLength_append, Nat.zero_add]

/-- A place determines the token that stands there. -/
lemma StandsAt.unique (h : StandsAt text start stop ds) (h' : StandsAt text start stop ds') :
    ds = ds' := by
  have hchars : (Piece.token ds).chars = (Piece.token ds').chars :=
    Option.some.inj (h.2.symm.trans h'.2)
  exact List.append_cancel_right (List.cons.inj hchars).2

lemma pairwise_find (text : String) : (find text).Pairwise fun p q => p.stop ≤ q.start :=
  pairwise_locate 0 _

lemma eq_or_apart (hp : p ∈ find text) (hq : q ∈ find text) :
    p = q ∨ p.stop ≤ q.start ∨ q.stop ≤ p.start := by
  have hpair := List.pairwise_iff_getElem.1 (pairwise_find text)
  obtain ⟨i, hi, rfl⟩ := List.getElem_of_mem hp
  obtain ⟨j, hj, rfl⟩ := List.getElem_of_mem hq
  rcases Nat.lt_trichotomy i j with h | rfl | h
  · exact .inr (.inl (hpair i j hi hj h))
  · exact .inl rfl
  · exact .inr (.inr (hpair j i hj hi h))

/-- Two tokens stand at one place or apart. -/
lemma StandsAt.apart (h : StandsAt text start stop ds) (h' : StandsAt text start' stop' ds') :
    start = start' ∧ stop = stop' ∨ stop ≤ start' ∨ stop' ≤ start := by
  have hp : ⟨indexOf ds, start, stop⟩ ∈ find text := mem_find_iff.2 ⟨ds, h, rfl⟩
  have hq : ⟨indexOf ds', start', stop'⟩ ∈ find text := mem_find_iff.2 ⟨ds', h', rfl⟩
  exact (eq_or_apart hp hq).imp_left fun heq => by
    obtain ⟨-, hstart, hstop⟩ := Placeholder.mk.inj heq
    exact ⟨hstart, hstop⟩

lemma start_lt_stop (h : p ∈ find text) : p.start < p.stop := by
  obtain ⟨ds, ⟨-, hslice⟩, -⟩ := mem_find_iff.1 h
  obtain ⟨before, after, -, hstart, hstop⟩ := Rust.between?_eq_some_iff.1 hslice
  have hpercent : byteLength (Piece.token ds).chars =
      '%'.utf8Size + byteLength (ds ++ ['$', '@']) := rfl
  have hpos := '%'.utf8Size_pos
  rw [Rust.byteLength_append] at hstop
  omega

/-! ## The largest index -/

lemma toNat_max (i j : UInt64) : (max i j).toNat = max i.toNat j.toNat := by
  have hmax : max i j = if i ≤ j then j else i := rfl
  rw [hmax, Nat.max_def]
  simp only [UInt64.le_iff_toNat_le]
  split <;> rfl

/-- The largest of `n` and the indices of `ps` is none smaller than these, and one of them. -/
lemma foldl_max_index (n : UInt64) (ps : List Placeholder) :
    n ≤ ps.foldl (fun n p => max n p.index) n ∧
      (∀ p ∈ ps, p.index ≤ ps.foldl (fun n p => max n p.index) n) ∧
      (ps.foldl (fun n p => max n p.index) n = n ∨
        ∃ p ∈ ps, p.index = ps.foldl (fun n p => max n p.index) n) := by
  induction ps generalizing n with
  | nil => exact ⟨UInt64.le_refl n, nofun, .inl rfl⟩
  | cons q ps ih =>
    obtain ⟨hle, hall, heq⟩ := ih (max n q.index)
    rw [UInt64.le_iff_toNat_le, toNat_max] at hle
    refine ⟨?_, List.forall_mem_cons.2 ⟨?_, hall⟩, ?_⟩
    · exact UInt64.le_iff_toNat_le.2 ((Nat.le_max_left _ _).trans hle)
    · exact UInt64.le_iff_toNat_le.2 ((Nat.le_max_right _ _).trans hle)
    · rcases heq with heq | ⟨p, hp, heq⟩
      · rw [List.foldl_cons, heq]
        rcases ite_eq_or_eq (n ≤ q.index) q.index n with hmax | hmax
        · exact .inr ⟨q, List.mem_cons_self, hmax.symm⟩
        · exact .inl hmax
      · exact .inr ⟨p, List.mem_cons_of_mem _ hp, heq⟩

/-- The largest index is found in the text, or it is zero because none is found. -/
lemma exists_maxIndex (text : String) :
    (∃ p ∈ find text, p.index = maxIndex text) ∨ find text = [] ∧ maxIndex text = 0 := by
  obtain ⟨-, hall, hzero | hmem⟩ := foldl_max_index 0 (find text)
  · cases hfind : find text with
    | nil =>
      rw [maxIndex, hfind]
      exact .inr ⟨rfl, rfl⟩
    | cons p ps =>
      have hp : p.index ≤ maxIndex text := hall p (hfind ▸ List.mem_cons_self)
      rw [maxIndex, hzero] at hp ⊢
      exact .inl ⟨p, List.mem_cons_self, UInt64.le_zero_iff.1 hp⟩
  · exact .inl hmem

/-! ## What is found -/

/-- One of `count` arguments answers the index. -/
def Answered (count index : UInt64) : Prop := 1 ≤ index ∧ index ≤ count ∧ index ≠ noIndex

lemma answered_eq_true_iff {index : UInt64} : answered count index ↔ Answered count index := by
  have hpos : 1 ≤ index ↔ index ≠ 0 := by
    rw [UInt64.le_iff_toNat_le, ← UInt64.pos_iff_ne_zero, UInt64.lt_iff_toNat_lt]
    rfl
  simp only [answered, Answered, hpos, Bool.and_eq_true, bne_iff_ne, decide_eq_true_eq]
  tauto

/-- What is found in a text, and what is asked of it. -/
structure FindsTokens (text : String) : Prop where
  /-- The places are in increasing order, and none overlaps another. -/
  ordered : (∀ p ∈ find text, p.start < p.stop) ∧
    (find text).Pairwise fun p q => p.stop ≤ q.start
  /-- The places are those at which a token stands. -/
  found_iff : ∀ start stop, (∃ p ∈ find text, p.start = start ∧ p.stop = stop) ↔
    ∃ ds, StandsAt text start stop ds
  /-- Tokens that stand in the text do not overlap. -/
  apart : ∀ start stop ds start' stop' ds', StandsAt text start stop ds →
    StandsAt text start' stop' ds' →
      start = start' ∧ stop = stop' ∧ ds = ds' ∨ stop ≤ start' ∨ stop' ≤ start
  /-- The index that is found is the one that the digits write. -/
  index : ∀ p ∈ find text, ∀ ds, StandsAt text p.start p.stop ds → Numbers ds p.index
  /-- The largest index is one that is found, none being larger, or zero where none is found. -/
  largest : (∀ p ∈ find text, p.index ≤ maxIndex text) ∧
    ((∃ p ∈ find text, p.index = maxIndex text) ∨ find text = [] ∧ maxIndex text = 0)
  /-- Nothing is objected to if all indices are answered. -/
  accepted_iff : ∀ count, firstUnaddressed? text count = none ↔
    ∀ p ∈ find text, Answered count p.index
  /-- What is objected to is the leftmost index that is not answered. -/
  refused_iff : ∀ count index, firstUnaddressed? text count = some index ↔
    ∃ before p after, find text = before ++ p :: after ∧ p.index = index ∧
      ¬Answered count index ∧ ∀ q ∈ before, Answered count q.index

/-- **What is found in a text are exactly the tokens that stand in it.** -/
theorem find_occurrences (text : String) : FindsTokens text := by
  constructor
  case ordered => exact ⟨fun p => start_lt_stop, pairwise_find text⟩
  case found_iff =>
    intro start stop
    constructor
    · rintro ⟨p, hp, rfl, rfl⟩
      obtain ⟨ds, hds, -⟩ := mem_find_iff.1 hp
      exact ⟨ds, hds⟩
    · rintro ⟨ds, hds⟩
      exact ⟨⟨indexOf ds, start, stop⟩, mem_find_iff.2 ⟨ds, hds, rfl⟩, rfl, rfl⟩
  case apart =>
    intro start stop ds start' stop' ds' h h'
    refine (h.apart h').imp_left ?_
    rintro ⟨rfl, rfl⟩
    exact ⟨rfl, rfl, h.unique h'⟩
  case index =>
    intro p hp ds hds
    obtain ⟨ds', hds', hindex⟩ := mem_find_iff.1 hp
    rw [hindex, hds'.unique hds]
    exact numbers_indexOf ds
  case largest => exact ⟨(foldl_max_index 0 (find text)).2.1, exists_maxIndex text⟩
  case accepted_iff =>
    intro count
    simp only [firstUnaddressed?, Option.map_eq_none_iff, List.find?_eq_none, Bool.not_eq_true',
      Bool.not_eq_false, answered_eq_true_iff]
  case refused_iff =>
    intro count index
    simp only [firstUnaddressed?, Option.map_eq_some_iff, List.find?_eq_some_iff_append,
      Bool.not_not, Bool.not_eq_true', ← Bool.not_eq_true, answered_eq_true_iff]
    constructor
    · rintro ⟨p, ⟨hrefused, before, after, hsplit, hbefore⟩, rfl⟩
      exact ⟨before, p, after, hsplit, rfl, hrefused, hbefore⟩
    · rintro ⟨before, p, after, hsplit, rfl, hrefused, hbefore⟩
      exact ⟨p, ⟨hrefused, before, after, hsplit, hbefore⟩, rfl⟩

/-- A token begins behind digits that came to nothing; places are counted in bytes, and digits that
are not ASCII number no argument. -/
example : find "é%1%٢$@ %3$@" = [⟨noIndex, 4, 9⟩, ⟨3, 10, 14⟩] := by decide +kernel

end Occurrences

end Phrasebook.Placeholder
