import Phrasebook.Proofs.Literal.RustReading
import Phrasebook.Proofs.Literal.SingleLine
import Phrasebook.Target.Rust

/-!
# Texts in Rust tables

The text of an entry of a table is a raw string if it has several lines and no carriage return, and
an escaped string literal otherwise.  Whatever it is, it is one complete literal in front of any
source text, and its value is the text (`text_read_anywhere`).

An escaped literal is read escape by escape, so its quotes are never bare.  A raw string has no
escapes: it ends at the first quote that is followed by as many hashes as it is opened with.  How
many that are is found in one pass over the text, which counts the hashes behind every quote and
keeps the largest number (`HashScan`).  A state of that pass stands for what is scanned and what is
not: with the rest of the text taken into account, a step does not change it (`total_step`).  So the
pass finds the longest run behind a quote (`longest_hashScan`), one hash more is more than any quote
of the text is followed by, and the closing cannot begin inside of the text
(`not_closing_prefix_append`).
-/

namespace Phrasebook.Literal.Rust

open Unicode

/-! ## Runs of hashes -/

section Runs

variable {cs before after rest : List Char} {count n : Nat}

lemma isHash_of_mem_replicate {c : Char} (hc : c ∈ List.replicate n '#') : (c = '#' : Bool) := by
  simpa using List.eq_of_mem_replicate hc

/-- A run of hashes behind a quote is no longer than the longest one. -/
lemma le_longestHashRun (h : cs = before ++ '"' :: (List.replicate n '#' ++ after)) :
    n ≤ longestHashRun cs := by
  subst h
  induction before with
  | nil =>
    rw [List.nil_append, longestHashRun, if_pos rfl,
      List.takeWhile_append_of_pos fun _ => isHash_of_mem_replicate, List.length_append,
      List.length_replicate]
    exact (Nat.le_add_right _ _).trans (le_max_left _ _)
  | cons c before ih => exact ih.trans (le_max_right _ _)

lemma longestHashRun_le_append (before cs : List Char) :
    longestHashRun cs ≤ longestHashRun (before ++ cs) := by
  induction before with
  | nil => exact le_rfl
  | cons c before ih => exact ih.trans (le_max_right _ _)

/-- Hashes at the beginning of a text that goes on with a quote are all in front of that quote. -/
lemma le_length_takeWhile (h : List.replicate n '#' <+: cs ++ '"' :: rest) :
    n ≤ (cs.takeWhile (· = '#')).length := by
  induction cs generalizing n with
  | nil =>
    cases n with
    | zero => exact le_rfl
    | succ n =>
      rw [List.replicate_succ, List.nil_append, List.cons_prefix_cons] at h
      exact absurd h.1 (by decide)
  | cons c cs ih =>
    cases n with
    | zero => exact Nat.zero_le _
    | succ n =>
      rw [List.replicate_succ, List.cons_append, List.cons_prefix_cons] at h
      rw [List.takeWhile_cons_of_pos (by simp [← h.1]), List.length_cons]
      exact Nat.succ_le_succ (ih h.2)

/-- With more hashes than any of its quotes is followed by, the closing of a raw string does not
begin inside of its text, also not in quotes and hashes that come just in front of the closing. -/
lemma not_closing_prefix_append (hcs : cs ≠ []) (hcount : longestHashRun cs < count) :
    ¬(rawOf count).closing <+: cs ++ ((rawOf count).closing ++ rest) := by
  obtain ⟨c, cs, rfl⟩ := List.exists_cons_of_ne_nil hcs
  intro h
  rw [rawOf, List.cons_append, List.cons_append, List.cons_prefix_cons] at h
  obtain ⟨rfl, hhashes⟩ := h
  have hrun := le_length_takeWhile hhashes
  rw [longestHashRun, if_pos rfl, max_lt_iff] at hcount
  omega

/-- The text of a raw string is read as it stands there. -/
lemma takes_raw (hreturn : '\r' ∉ cs) (hcount : longestHashRun cs < count) :
    (rawOf count).Takes cs cs ((rawOf count).closing ++ rest) := by
  induction cs with
  | nil => exact .nil
  | cons c cs ih =>
    rw [List.mem_cons, not_or] at hreturn
    have hrest := ih hreturn.2 ((le_max_right _ _).trans_lt hcount)
    have hclosing : ¬(rawOf count).closing <+: c :: (cs ++ ((rawOf count).closing ++ rest)) :=
      not_closing_prefix_append (List.cons_ne_nil c cs) hcount
    exact (takes_rawChar (Ne.symm hreturn.1) hclosing).append hrest

/-- The first place where the closing stands is behind the text. -/
lemma prefix_of_closing (hcount : longestHashRun cs < count)
    (h : cs ++ ((rawOf count).closing ++ rest) = before ++ ((rawOf count).closing ++ after)) :
    cs <+: before := by
  rcases List.append_eq_append_iff.1 h with ⟨more, rfl, -⟩ | ⟨inside, rfl, hclosing⟩
  · exact List.prefix_append _ _
  · by_cases hinside : inside = []
    · rw [hinside, List.append_nil]
    · have hrun := (longestHashRun_le_append before inside).trans_lt hcount
      exact absurd ⟨after, hclosing⟩ (not_closing_prefix_append hinside hrun)

end Runs

/-! ## The pass that counts hashes -/

/-- How far the pass has come. -/
structure HashScan where
  /-- The largest number of hashes that have followed a quote. -/
  longest : Nat
  /-- The number of hashes since the last quote, if nothing else has come since. -/
  run? : Option Nat

namespace HashScan

/-- The pass in front of the first character. -/
def start : HashScan := ⟨0, none⟩

/-- The hashes since the last quote, with one character more. -/
def nextRun? (run? : Option Nat) (c : Char) : Option Nat :=
  match c, run? with
  | '"', _ => some 0
  | '#', some n => some (n + 1)
  | _, _ => none

/-- One character of the pass. -/
def step (s : HashScan) (c : Char) : HashScan :=
  match nextRun? s.run? c with
  | some n => ⟨max s.longest n, some n⟩
  | none => ⟨s.longest, none⟩

/-- The run that is being counted has been taken into account. -/
def Counted (s : HashScan) : Prop := ∀ n ∈ s.run?, n ≤ s.longest

/-- The largest number of hashes behind a quote once the characters `cs` are scanned, too. -/
def total (s : HashScan) (cs : List Char) : Nat :=
  max s.longest (max ((s.run?.map (· + (cs.takeWhile (· = '#')).length)).getD 0)
    (longestHashRun cs))

variable {s : HashScan} {cs : List Char}

lemma counted_step (s : HashScan) (c : Char) : (s.step c).Counted := by
  intro n hn
  unfold step at hn ⊢
  split at hn
  · obtain rfl := Option.some.inj hn
    exact le_max_right _ _
  · exact nomatch hn

/-- A run that is not continued has been taken into account. -/
lemma total_of_stop (hs : s.Counted) (hstop : cs.takeWhile (· = '#') = []) :
    s.total cs = max s.longest (longestHashRun cs) := by
  obtain ⟨longest, run?⟩ := s
  cases run? with
  | none => simp [total]
  | some n =>
    have hn : n ≤ longest := hs n rfl
    simp only [total, hstop, Option.map_some, Option.getD_some, List.length_nil]
    omega

/-- A step does not change the outcome. -/
lemma total_step (hs : s.Counted) (c : Char) (cs : List Char) :
    (s.step c).total cs = s.total (c :: cs) := by
  by_cases hquote : c = '"'
  · -- A quote ends the run in front of it, and the hashes behind it begin a new one.
    subst hquote
    rw [total_of_stop hs (by simp)]
    simp [step, nextRun?, total, longestHashRun]
  by_cases hhash : c = '#'
  · subst hhash
    obtain ⟨longest, run?⟩ := s
    cases run? with
    | none => simp [step, nextRun?, total, longestHashRun]
    | some n =>
      simp only [step, nextRun?, total, longestHashRun, List.takeWhile_cons, Option.map_some,
        Option.getD_some, if_neg hquote, decide_true, if_true, List.length_cons]
      omega
  · have hnone : nextRun? s.run? c = none := by
      unfold nextRun?
      split <;> simp_all
    rw [total_of_stop hs (by simp [hhash])]
    simp [step, hnone, total, longestHashRun, hquote]

lemma longest_foldl_step (hs : s.Counted) (cs : List Char) :
    (cs.foldl step s).longest = s.total cs := by
  induction cs generalizing s with
  | nil =>
    rw [total_of_stop hs rfl]
    exact (max_eq_left (Nat.zero_le _)).symm
  | cons c cs ih => rw [List.foldl_cons, ih (counted_step s c), total_step hs]

end HashScan

/-- The pass over a text. -/
def hashScan (cs : List Char) : HashScan := cs.foldl HashScan.step .start

/-- The pass finds the longest run of hashes behind a quote. -/
lemma longest_hashScan (cs : List Char) : (hashScan cs).longest = longestHashRun cs := by
  have hstart : HashScan.start.Counted := fun _ h => nomatch h
  rw [hashScan, HashScan.longest_foldl_step hstart]
  simp [HashScan.total, HashScan.start]

/-! ## Literals -/

/-- The ways in which an escaped literal has a character. -/
inductive Writes (c : Char) : List Char → Prop
  /-- As it is. -/
  | itself (hquote : c ≠ '"') (hbackslash : c ≠ '\\') (hprint : isPrintable c) : Writes c [c]
  /-- By a name behind a backslash. -/
  | named (name : Char) (hname : name ∈ ['0', 't', 'r', 'n', '"', '\\'])
    (hvalue : namedEscape? name = some c) : Writes c ['\\', name]
  /-- By its code point. -/
  | coded (ds : List Char) (hform : hasForm ds) (hvalue : hexNumber? ds = some c.toNat) :
    Writes c (['\\', 'u', '\x7b'] ++ ds ++ ['\x7d'])

lemma writes_escapeChar (c : Char) : Writes c (escapeChar c) := by
  unfold escapeChar
  split_ifs with hnull htab hreturn hfeed hquote hbackslash hcode
  · exact .named '0' (by decide) (congrArg some hnull.symm)
  · exact .named 't' (by decide) (congrArg some htab.symm)
  · exact .named 'r' (by decide) (congrArg some hreturn.symm)
  · exact .named 'n' (by decide) (congrArg some hfeed.symm)
  · exact .named '"' (by decide) (congrArg some hquote.symm)
  · exact .named '\\' (by decide) (congrArg some hbackslash.symm)
  · exact .coded _ (hasForm_hexDigits c) (hexNumber?_hexDigits c.toNat)
  · rw [not_or, not_not] at hcode
    exact .itself hquote hbackslash hcode.2

/-- The number of hashes that open the raw string of a text. -/
def hashCount (text : String) : Nat := (hashScan text.toList).longest + 1

lemma longestHashRun_lt_hashCount (text : String) :
    longestHashRun text.toList < hashCount text := by
  rw [hashCount, longest_hashScan]
  exact Nat.lt_succ_self _

/-- The raw string of a text that `count` hashes open. -/
def rawLiteral (count : Nat) (text : String) : String :=
  String.ofList ('r' :: List.replicate count '#' ++ '"' :: text.toList ++
    '"' :: List.replicate count '#')

section Literals

variable {count : Nat} {text : String}

lemma text_eq_rawLiteral (hfeed : '\n' ∈ text.toList) (hreturn : '\r' ∉ text.toList) :
    Rust.text text = rawLiteral (hashCount text) text := by
  rw [Rust.text, if_pos hfeed, raw?, if_neg hreturn, hashCount, longest_hashScan]
  rfl

lemma text_eq_quoted (h : '\n' ∉ text.toList ∨ '\r' ∈ text.toList) :
    Rust.text text = quoted text := by
  by_cases hfeed : '\n' ∈ text.toList
  · rw [Rust.text, if_pos hfeed, raw?, if_pos (h.resolve_left (not_not_intro hfeed))]
    rfl
  · exact if_neg hfeed

lemma literal?_quoted (text : String) (rest : List Char) :
    literal? ((quoted text).toList ++ rest) = some (text.toList, rest) := by
  have hread := read?_escape text.toList rest
  simp [literal?, quoted, hread]

/-- The hashes that open a raw string are counted up to its quote. -/
lemma literal?_hashes (count : Nat) (body : List Char) :
    literal? ('r' :: (List.replicate count '#' ++ '"' :: body)) = (rawOf count).read? body := by
  have hhashes : ∀ c ∈ List.replicate count '#', (c = '#' : Bool) :=
    fun _ => isHash_of_mem_replicate
  have hcount : ((List.replicate count '#' ++ '"' :: body).takeWhile (· = '#')).length = count := by
    simp [List.takeWhile_append_of_pos hhashes]
  have hbody : (List.replicate count '#' ++ '"' :: body).dropWhile (· = '#') = '"' :: body := by
    rw [List.dropWhile_append_of_pos hhashes, List.dropWhile_cons_of_neg (by simp)]
  rw [literal?, hbody, hcount]
  rfl

lemma literal?_rawLiteral (hreturn : '\r' ∉ text.toList)
    (hcount : longestHashRun text.toList < count) (rest : List Char) :
    literal? ((rawLiteral count text).toList ++ rest) = some (text.toList, rest) := by
  have hsource : (rawLiteral count text).toList ++ rest = 'r' :: (List.replicate count '#' ++
      '"' :: (text.toList ++ ((rawOf count).closing ++ rest))) := by
    simp [rawLiteral, rawOf]
  rw [hsource, literal?_hashes]
  exact (takes_raw hreturn hcount).read?_eq

end Literals

/-- The literal of a text in a table. -/
structure TextReading (text : String) : Prop where
  /-- It stands behind the key of an entry. -/
  entry : ∀ key, Phrasebook.Rust.tableEntry key text =
    "    localizations.insert(" ++ quoted key ++ ", " ++ Rust.text text ++ ");\n"
  /-- In front of anything it is one complete literal with the text for its value. -/
  read : ∀ rest, literal? ((Rust.text text).toList ++ rest) = some (text.toList, rest)
  /-- If the text has one line or a carriage return, the literal has one escape or character for
  each of its characters, between quotes. -/
  escaped : '\n' ∉ text.toList ∨ '\r' ∈ text.toList → ∃ pieces,
    (Rust.text text).toList = '"' :: pieces.flatten ++ ['"'] ∧
      List.Forall₂ Writes text.toList pieces
  /-- Otherwise it is a raw string with one hash more than the pass over the text finds. -/
  raw : '\n' ∈ text.toList → '\r' ∉ text.toList →
    Rust.text text = rawLiteral (hashCount text) text
  /-- It has no carriage return, raw or not. -/
  return_notMem : '\r' ∉ (Rust.text text).toList
  /-- The hashes outnumber every run of hashes behind a quote of the text. -/
  lt_hashCount : ∀ before n after,
    text.toList = before ++ '"' :: (List.replicate n '#' ++ after) → n < hashCount text
  /-- The first quote with as many hashes behind it is the one behind the text. -/
  first : ∀ before after rest,
    text.toList ++ ((rawOf (hashCount text)).closing ++ rest) =
      before ++ ((rawOf (hashCount text)).closing ++ after) → text.toList <+: before

/-- The literal of a text is read as this text, whatever source text follows. -/
theorem text_read_anywhere (text : String) : TextReading text := by
  have hcount := longestHashRun_lt_hashCount text
  constructor
  case entry => exact fun _ => rfl
  case read =>
    intro rest
    by_cases hraw : '\n' ∈ text.toList ∧ '\r' ∉ text.toList
    · rw [text_eq_rawLiteral hraw.1 hraw.2]
      exact literal?_rawLiteral hraw.2 hcount rest
    · rw [text_eq_quoted (by tauto)]
      exact literal?_quoted text rest
  case escaped =>
    intro h
    refine ⟨text.toList.map escapeChar, ?_, ?_⟩
    · rw [text_eq_quoted h, quoted, String.toList_ofList, List.flatMap_def]
    · exact List.forall₂_map_right_iff.2 (List.forall₂_same.2 fun c _ => writes_escapeChar c)
  case raw => exact text_eq_rawLiteral
  case return_notMem =>
    by_cases hraw : '\n' ∈ text.toList ∧ '\r' ∉ text.toList
    · rw [text_eq_rawLiteral hraw.1 hraw.2]
      simp [rawLiteral, hraw.2, List.mem_replicate]
    · rw [text_eq_quoted (by tauto)]
      exact notMem_quoted (by decide) text
  case lt_hashCount =>
    intro before n after h
    exact (le_longestHashRun h).trans_lt hcount
  case first => exact fun _ _ _ => prefix_of_closing hcount

end Phrasebook.Literal.Rust
