import Mathlib.Data.List.Infix
import Mathlib.Tactic.Common
import Phrasebook.Placeholder

/-!
# Tokens and the gaps between them

A text is a row of tokens with gaps in front of, between and behind them.  A `Cut` is such a row,
and it divides a text if the row spells the text, every token is one, and no token is left inside a
gap (`Cut.Divides`).  That says nothing of how tokens are looked for, and still leaves no choice:
every text has exactly one such cut, the one that `pieces` finds (`Cut.divides_iff`).

* A cut can be filled: `Cut.fill f` puts `f ds` in the place of the token with the digits `ds`.
* To substitute arguments is to fill the cut (`toList_substitute`), and the places that are found in
  a text are those of its tokens (`map_index_find`).
-/

namespace Phrasebook.Placeholder

open Unicode

/-! ## Tokens -/

/-- The digits of a token: decimal digits, and at least one. -/
def IsNumber (ds : List Char) : Prop := ds ≠ [] ∧ ∀ d ∈ ds, isDecimalDigit d

/-- No token stands anywhere in `cs`. -/
def TokenFree (cs : List Char) : Prop := ∀ ds, IsNumber ds → ¬(Piece.token ds).chars <:+: cs

section Token

variable {cs ds rest : List Char}

lemma token?_append (h : IsNumber ds) :
    token? ((Piece.token ds).chars ++ rest) = some (ds, rest) := by
  obtain ⟨hne, hdigits⟩ := h
  have hstop : isDecimalDigit '$' = false := by decide
  have hsplit : (Piece.token ds).chars ++ rest = '%' :: (ds ++ '$' :: '@' :: rest) := by
    simp [Piece.chars]
  have htake : (ds ++ '$' :: '@' :: rest).takeWhile isDecimalDigit = ds := by
    rw [List.takeWhile_append_of_pos hdigits, List.takeWhile_cons_of_neg (by simp [hstop]),
      List.append_nil]
  have hdrop : (ds ++ '$' :: '@' :: rest).dropWhile isDecimalDigit = '$' :: '@' :: rest := by
    rw [List.dropWhile_append_of_pos hdigits, List.dropWhile_cons_of_neg (by simp [hstop])]
  obtain ⟨d, ds, rfl⟩ := List.exists_cons_of_ne_nil hne
  rw [hsplit]
  simp only [token?, htake, hdrop]

/-- A text starts with a token exactly if a token is read there. -/
lemma token?_eq_some_iff :
    token? cs = some (ds, rest) ↔ IsNumber ds ∧ cs = (Piece.token ds).chars ++ rest := by
  constructor
  · intro h
    refine ⟨?_, eq_of_token? h⟩
    unfold token? at h
    split at h
    · split at h
      · rename_i d ds' _ htake _
        cases h
        refine ⟨List.cons_ne_nil _ _, fun x hx => ?_⟩
        rw [← htake] at hx
        exact List.all_eq_true.1 List.all_takeWhile x hx
      · exact nomatch h
    · exact nomatch h
  · rintro ⟨hds, rfl⟩
    exact token?_append hds

lemma tokenFree_nil : TokenFree [] := fun _ _ h => nomatch List.infix_nil.1 h

lemma TokenFree.of_infix (h : TokenFree cs) (hrest : rest <:+: cs) : TokenFree rest :=
  fun ds hds hstands => h ds hds (hstands.trans hrest)

/-- A percent sign stands only at the head of a token. -/
lemma percent_notMem_tail (h : IsNumber ds) : '%' ∉ (Piece.token ds).chars.tail := by
  have hpercent : isDecimalDigit '%' = false := by decide
  intro hmem
  simp only [Piece.chars, List.cons_append, List.tail_cons, List.mem_append] at hmem
  rcases hmem with hmem | hmem
  · simp [h.2 _ hmem] at hpercent
  · exact absurd hmem (by decide)

end Token

/-! ## Cuts -/

/-- A row of gaps and tokens. -/
structure Cut where
  /-- The gap in front of the first token. -/
  gap : List Char
  /-- The digits of each token, with the gap behind it. -/
  rest : List (List Char × List Char)

namespace Cut

variable {k : Cut} {cs ds : List Char}

/-- The digits of the tokens, in order. -/
def tokens (k : Cut) : List (List Char) := k.rest.map (·.1)

/-- The gaps, in order; there is one more of them than there are tokens. -/
def gaps (k : Cut) : List (List Char) := k.gap :: k.rest.map (·.2)

/-- The gaps with `f ds` in the place of the token with the digits `ds`. -/
def fill (f : List Char → List Char) (k : Cut) : List Char :=
  k.gap ++ k.rest.flatMap fun (ds, gap) => f ds ++ gap

/-- The text that a cut spells. -/
def chars (k : Cut) : List Char := k.fill fun ds => (Piece.token ds).chars

/-- The cut `k` spells `cs`, and all tokens of `cs` are among its tokens. -/
structure Divides (k : Cut) (cs : List Char) : Prop where
  /-- The cut spells the text. -/
  chars_eq : k.chars = cs
  /-- Tokens are tokens. -/
  isNumber : ∀ ds ∈ k.tokens, IsNumber ds
  /-- No token stands in a gap. -/
  tokenFree : ∀ gap ∈ k.gaps, TokenFree gap

/-- The cut of a text that has been divided into pieces. -/
def ofPieces : List Piece → Cut
  | [] => ⟨[], []⟩
  | .plain c :: ps => ⟨c :: (ofPieces ps).gap, (ofPieces ps).rest⟩
  | .token ds :: ps => ⟨[], (ds, (ofPieces ps).gap) :: (ofPieces ps).rest⟩

/-- The cut of a text at its tokens. -/
def ofText (text : String) : Cut := ofPieces (pieces text.toList)

lemma fill_cons (f : List Char → List Char) (ds gap : List Char)
    (rest : List (List Char × List Char)) :
    (Cut.mk [] ((ds, gap) :: rest)).fill f = f ds ++ (Cut.mk gap rest).fill f := by
  simp [fill]

lemma fill_congr {f g : List Char → List Char} (h : ∀ ds ∈ k.tokens, f ds = g ds) :
    k.fill f = k.fill g := by
  have hrest : ∀ x ∈ k.rest, f x.1 ++ x.2 = g x.1 ++ x.2 := fun x hx => by
    rw [h x.1 (List.mem_map_of_mem hx)]
  rw [fill, fill, List.flatMap_congr hrest]

/-- To fill a cut is to replace pieces one by one. -/
lemma fill_ofPieces {f : List Char → List Char} {g : Piece → List Char}
    (hplain : ∀ c, g (.plain c) = [c]) (htoken : ∀ ds, g (.token ds) = f ds) (ps : List Piece) :
    (ofPieces ps).fill f = ps.flatMap g := by
  induction ps with
  | nil => rfl
  | cons p ps ih =>
    cases p with
    | plain c => rw [List.flatMap_cons, hplain, ← ih]; rfl
    | token ds => rw [List.flatMap_cons, htoken, ← ih, ofPieces, fill_cons]

/-! ## The one cut of a text -/

lemma chars_ofPieces (cs : List Char) : (ofPieces (pieces cs)).chars = cs := by
  rw [chars, fill_ofPieces (g := Piece.chars) (fun _ => rfl) (fun _ => rfl), flatMap_chars_pieces]

lemma mem_tokens_ofPieces_iff {ds : List Char} {ps : List Piece} :
    ds ∈ (ofPieces ps).tokens ↔ .token ds ∈ ps := by
  induction ps with
  | nil => simp [ofPieces, tokens]
  | cons p ps ih =>
    rw [List.mem_cons, ← ih]
    cases p <;> simp [ofPieces, tokens]

lemma isNumber_ofPieces (cs : List Char) : ∀ ds ∈ (ofPieces (pieces cs)).tokens, IsNumber ds := by
  fun_induction pieces cs with
  | case1 cs ds rest h _ ih => exact List.forall_mem_cons.2 ⟨(token?_eq_some_iff.1 h).1, ih⟩
  | case2 h => exact fun _ hds => absurd hds List.not_mem_nil
  | case3 c rest h ih => exact ih

lemma tokenFree_ofPieces (cs : List Char) :
    ∀ gap ∈ (ofPieces (pieces cs)).gaps, TokenFree gap := by
  fun_induction pieces cs with
  | case1 cs ds rest h _ ih => exact List.forall_mem_cons.2 ⟨tokenFree_nil, ih⟩
  | case2 h =>
    exact List.forall_mem_cons.2 ⟨tokenFree_nil, fun _ hgap => absurd hgap List.not_mem_nil⟩
  | case3 c rest h ih =>
    obtain ⟨hgap, hrest⟩ := List.forall_mem_cons.1 ih
    refine List.forall_mem_cons.2 ⟨fun ds hds hstands => ?_, hrest⟩
    rcases List.infix_cons_iff.1 hstands with hstarts | hstands
    · -- a token at the head of the gap would have been read at the head of the text
      have hspells : (ofPieces (pieces rest)).gap <+: rest := ⟨_, chars_ofPieces rest⟩
      obtain ⟨more, hmore⟩ := hstarts.trans ((List.prefix_cons_inj c).2 hspells)
      rw [token?_eq_some_iff.2 ⟨hds, hmore.symm⟩] at h
      cases h
    · exact hgap ds hds hstands

/-- The tokens of a text stand in it. -/
lemma Divides.infix_of_mem_tokens (h : k.Divides cs) (hds : ds ∈ k.tokens) :
    (Piece.token ds).chars <:+: cs := by
  obtain ⟨⟨_, gap⟩, hmem, rfl⟩ := List.mem_map.1 hds
  rw [← h.chars_eq, chars, fill, List.flatMap_def]
  refine .trans ?_ (List.suffix_append ..).isInfix
  exact (List.prefix_append _ gap).isInfix.trans
    (List.infix_of_mem_flatten (List.mem_map_of_mem hmem))

/-- A text that starts with a token has no gap in front of it. -/
lemma Divides.gap_eq_nil (h : k.Divides cs) (hds : IsNumber ds)
    (hstarts : (Piece.token ds).chars <+: cs) : k.gap = [] := by
  have hgap : TokenFree k.gap := h.tokenFree _ List.mem_cons_self
  have hself : k.gap <+: cs := by
    rw [← h.chars_eq]
    exact List.prefix_append ..
  rcases List.prefix_or_prefix_of_prefix hstarts hself with hin | ⟨tail, htail⟩
  · exact absurd hin.isInfix (hgap ds hds)
  · by_contra hne
    obtain ⟨c, gap, hcons⟩ := List.exists_cons_of_ne_nil hne
    -- the token goes on behind the gap, where another token starts
    have hrest : tail <+: k.rest.flatMap fun (ds, gap) => (Piece.token ds).chars ++ gap := by
      rw [← List.prefix_append_right_inj k.gap, htail]
      rw [← h.chars_eq] at hstarts
      exact hstarts
    have htailin : tail ⊆ (Piece.token ds).chars.tail := by
      rw [← htail, hcons]
      exact List.subset_append_right _ _
    cases tail with
    | nil =>
      rw [List.append_nil] at htail
      exact hgap ds hds (htail ▸ List.infix_refl _)
    | cons x tail =>
      cases hk : k.rest with
      | nil => simp [hk] at hrest
      | cons y more =>
        rw [hk, List.flatMap_cons] at hrest
        obtain rfl : x = '%' := (List.cons_prefix_cons.1 hrest).1
        exact percent_notMem_tail hds (htailin List.mem_cons_self)

/-- There is only one way to cut a text at its tokens. -/
lemma Divides.eq_ofPieces (h : k.Divides cs) : k = ofPieces (pieces cs) := by
  obtain ⟨gap, rest⟩ := k
  fun_induction pieces cs generalizing gap rest with
  | case1 cs ds more htoken _ ih =>
    obtain ⟨hds, hcs⟩ := token?_eq_some_iff.1 htoken
    obtain rfl : gap = [] := h.gap_eq_nil hds ⟨more, hcs.symm⟩
    cases rest with
    | nil =>
      have hempty : cs = [] := h.chars_eq.symm
      rw [hempty] at htoken
      cases htoken
    | cons x rest =>
      obtain ⟨ds', gap⟩ := x
      have hchars := h.chars_eq
      rw [chars, fill_cons] at hchars
      rw [← hchars, token?_append (h.isNumber _ List.mem_cons_self)] at htoken
      obtain ⟨rfl, hmore⟩ := Prod.mk.inj (Option.some.inj htoken)
      have hrest : (Cut.mk gap rest).Divides more :=
        ⟨hmore, fun ds hds => h.isNumber ds (List.mem_cons_of_mem _ hds),
          fun g hg => h.tokenFree g (List.mem_cons_of_mem _ hg)⟩
      rw [ofPieces, ← ih gap rest hrest]
  | case2 htoken =>
    obtain ⟨rfl, hrest⟩ := List.append_eq_nil_iff.1 h.chars_eq
    cases rest with
    | nil => rfl
    | cons x rest => cases hrest
  | case3 c more htoken ih =>
    cases gap with
    | nil =>
      cases rest with
      | nil => cases h.chars_eq
      | cons x rest =>
        have hchars := h.chars_eq
        rw [chars, fill_cons] at hchars
        rw [← hchars, token?_append (h.isNumber _ List.mem_cons_self)] at htoken
        cases htoken
    | cons x gap =>
      obtain ⟨rfl, hmore⟩ := List.cons.inj h.chars_eq
      obtain ⟨hgap, hgaps⟩ := List.forall_mem_cons.1 h.tokenFree
      have hrest : (Cut.mk gap rest).Divides more :=
        ⟨hmore, h.isNumber, List.forall_mem_cons.2
          ⟨hgap.of_infix (List.infix_cons_iff.2 (.inr (List.infix_refl _))), hgaps⟩⟩
      rw [ofPieces, ← ih gap rest hrest]

/-- A text has exactly one cut at its tokens. -/
lemma divides_iff {text : String} : k.Divides text.toList ↔ k = ofText text := by
  constructor
  · exact fun h => h.eq_ofPieces
  · rintro rfl
    exact ⟨chars_ofPieces _, isNumber_ofPieces _, tokenFree_ofPieces _⟩

end Cut

/-! ## What is found and what is put in -/

/-- The indices that are found in a text are those of its tokens, in order. -/
lemma map_index_find (text : String) :
    (find text).map (·.index) = (Cut.ofText text).tokens.map indexOf := by
  have hlocate : ∀ (ps : List Piece) (offset : ℕ),
      (locate offset ps).map (·.index) = (Cut.ofPieces ps).tokens.map indexOf := by
    intro ps
    induction ps with
    | nil => exact fun _ => rfl
    | cons p ps ih =>
      intro offset
      cases p with
      | plain c => exact ih _
      | token ds => exact congrArg (indexOf ds :: ·) (ih _)
  exact hlocate _ 0

/-- To substitute arguments is to put them in the place of tokens. -/
lemma toList_substitute (text : String) (args : List String) :
    (substitute text args).toList =
      (Cut.ofText text).fill fun ds => (Piece.token ds).replaced args := by
  rw [substitute, String.toList_ofList, Cut.ofText,
    Cut.fill_ofPieces (g := Piece.replaced args) (fun _ => rfl) (fun _ => rfl)]

end Phrasebook.Placeholder
