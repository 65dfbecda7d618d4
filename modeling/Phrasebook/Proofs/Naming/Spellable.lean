import Phrasebook.Proofs.Naming.Identifiers
import Phrasebook.Proofs.Unicode.IdentifierSets

/-!
# Which names are identifiers

A key is cut at every character that is not alphanumeric, and what is left goes into a name.  But
not every alphanumeric character may stand in an identifier (`½` may not), and not every one that
may stand there may begin it (`٣` may not).

So it depends on the words of a key whether its names are identifiers.  They are exactly if the
words are *spellable*: all their characters may go on with a name, and the first may begin one.  A
digit may, since it gets an underscore in front, and a change of case makes no difference
(`isIdentifier_lowerCamel_iff`, `isIdentifier_snakeCase_iff`, `isIdentifier_typeName_iff`).  A
member, which keeps the spelling of its field, is taken character by character
(`isIdentifier_memberName_iff`).

A key without words gets a lone underscore for a name; all other names have another character
(`exists_ne_underscore_lowerCamel` and so on).
-/

namespace Phrasebook

namespace Naming

open Unicode

/-- A name begins with a letter or an underscore, and goes on with characters of names. -/
def IsIdentifier (name : String) : Prop :=
  ∃ c rest, name.toList = c :: rest ∧ (c = '_' ∨ isXidStart c) ∧ ∀ d ∈ rest, isXidContinue d

instance : DecidablePred IsIdentifier := fun name =>
  decidable_of_iff (name.toList.head?.any (fun c => c == '_' || isXidStart c) ∧
      name.toList.tail.all isXidContinue) (by
    cases h : name.toList with
    | nil => simp [IsIdentifier, h]
    | cons c rest => simp [IsIdentifier, h])

/-- The characters of the words may go on with a name, and `begins` holds of the first. -/
structure Spellable (begins : Char → Prop) (ws : List (List Char)) : Prop where
  /-- All characters may go on with a name. -/
  continues : ∀ w ∈ ws, ∀ c ∈ w, isXidContinue c
  /-- The first one may begin it. -/
  head : ∀ c ∈ ws.flatten.head?, begins c

/-- Whether the upper case of `c` may begin a name. -/
def CapitalBegins (c : Char) : Prop := canBegin c ∨ c = iotaSubscript

/-! ## Finished spellings -/

section Finish

variable {cs : List Char} {x : String}

lemma isXidContinue_of_canBegin {c : Char} (h : c = '_' ∨ isXidStart c) : isXidContinue c := by
  rcases h with rfl | h
  · decide
  · exact isXidContinue_of_isXidStart h

/-- An underscore in front of a digit is all that a spelling needs. -/
lemma isIdentifier_finish_iff :
    IsIdentifier (finish cs) ↔ (∀ c ∈ cs, isXidContinue c) ∧ ∀ c ∈ cs.head?, canBegin c := by
  cases cs with
  | nil => exact iff_of_true ⟨'_', [], rfl, .inl rfl, nofun⟩ ⟨nofun, nofun⟩
  | cons c rest =>
    have hhead : (∀ d ∈ (c :: rest).head?, canBegin d) ↔
        isAsciiDigit c ∨ c = '_' ∨ isXidStart c := by
      simp [canBegin, or_assoc, or_left_comm]
    rw [hhead, List.forall_mem_cons]
    by_cases hdigit : isAsciiDigit c
    · have hlist : (finish (c :: rest)).toList = '_' :: c :: rest := by
        rw [finish, if_pos hdigit, String.toList_ofList]
      simp only [IsIdentifier, hlist, List.cons.injEq, hdigit, true_or, and_true]
      constructor
      · rintro ⟨_, _, ⟨rfl, rfl⟩, -, hrest⟩
        exact List.forall_mem_cons.1 hrest
      · exact fun hrest => ⟨_, _, ⟨rfl, rfl⟩, .inl rfl, List.forall_mem_cons.2 hrest⟩
    · have hlist : (finish (c :: rest)).toList = c :: rest := by
        rw [finish, if_neg hdigit, String.toList_ofList]
      simp only [IsIdentifier, hlist, List.cons.injEq, hdigit]
      constructor
      · rintro ⟨_, _, ⟨rfl, rfl⟩, hbegin, hrest⟩
        exact ⟨⟨isXidContinue_of_canBegin hbegin, hrest⟩, .inr hbegin⟩
      · rintro ⟨⟨-, hrest⟩, hbegin⟩
        exact ⟨_, _, ⟨rfl, rfl⟩, hbegin.resolve_left Bool.false_ne_true, hrest⟩

lemma not_exists_ne_underscore_finish_nil : ¬∃ c ∈ (finish []).toList, c ≠ '_' := by
  rintro ⟨c, hc, hne⟩
  exact hne (List.mem_singleton.1 hc)

lemma exists_ne_underscore_finish :
    (∃ c ∈ (finish cs).toList, c ≠ '_') ↔ ∃ c ∈ cs, c ≠ '_' := by
  cases cs with
  | nil => exact iff_of_false not_exists_ne_underscore_finish_nil nofun
  | cons c rest =>
    rcases toList_finish_cons c rest with h | h <;> simp [h]

end Finish

/-! ## Words -/

section Words

variable {w : List Char} {ws : List (List Char)}

lemma forall_isXidContinue_capitalize :
    (∀ x ∈ capitalize w, isXidContinue x) ↔ ∀ c ∈ w, isXidContinue c := by
  cases w with
  | nil => exact Iff.rfl
  | cons c rest =>
    rw [capitalize, List.forall_mem_append, forall_isXidContinue_upperOf, List.forall_mem_cons]

lemma forall_isXidContinue_decapitalize :
    (∀ x ∈ decapitalize w, isXidContinue x) ↔ ∀ c ∈ w, isXidContinue c := by
  cases w with
  | nil => exact Iff.rfl
  | cons c rest =>
    rw [decapitalize, List.forall_mem_append, forall_isXidContinue_lowerOf, List.forall_mem_cons]

lemma forall_mem_flatMap_capitalize :
    (∀ x ∈ ws.flatMap capitalize, isXidContinue x) ↔ ∀ w ∈ ws, ∀ c ∈ w, isXidContinue c := by
  simp only [List.forall_mem_flatMap, forall_isXidContinue_capitalize]

/-- What holds of a separator holds throughout a joined list if it holds throughout the lists. -/
lemma forall_mem_intercalate {p : Char → Prop} {c : Char} (hc : p c) :
    (∀ x ∈ [c].intercalate ws, p x) ↔ ∀ w ∈ ws, ∀ x ∈ w, p x := by
  induction ws with
  | nil => exact iff_of_true nofun nofun
  | cons w rest ih =>
    cases rest with
    | nil => simp
    | cons v rest =>
      rw [List.intercalate_cons_cons, List.forall_mem_append, List.forall_mem_append, ih,
        List.forall_mem_singleton, List.forall_mem_cons]
      simp [hc]

/-- The first word decides how a name begins. -/
lemma spellable_cons_iff {begins : Char → Prop} (hw : w ≠ []) :
    Spellable begins (w :: ws) ↔
      (∀ v ∈ w :: ws, ∀ c ∈ v, isXidContinue c) ∧ ∀ c ∈ w.head?, begins c := by
  have hhead : (w :: ws).flatten.head? = w.head? := by
    rw [List.flatten_cons, List.head?_append_of_ne_nil _ hw]
  constructor
  · rintro ⟨hcontinues, hbegins⟩
    exact ⟨hcontinues, hhead ▸ hbegins⟩
  · rintro ⟨hcontinues, hbegins⟩
    exact ⟨hcontinues, hhead ▸ hbegins⟩

lemma spellable_nil (begins : Char → Prop) : Spellable begins [] := ⟨nofun, nofun⟩

lemma head_decapitalize (hw : w ≠ []) (more : List Char) :
    (∀ x ∈ (decapitalize w ++ more).head?, canBegin x) ↔ ∀ c ∈ w.head?, canBegin c := by
  obtain ⟨c, rest, rfl⟩ := List.exists_cons_of_ne_nil hw
  obtain ⟨x, images, hx⟩ := List.exists_cons_of_ne_nil (lowerOf_ne_nil c)
  have hhead : canBegin x = canBegin c := canBegin_head_lowerOf (by rw [hx]; rfl)
  simp [decapitalize, hx, hhead]

lemma head_capitalize (hw : w ≠ []) (more : List Char) :
    (∀ x ∈ (capitalize w ++ more).head?, canBegin x) ↔ ∀ c ∈ w.head?, CapitalBegins c := by
  obtain ⟨c, rest, rfl⟩ := List.exists_cons_of_ne_nil hw
  obtain ⟨x, images, hx⟩ := List.exists_cons_of_ne_nil (upperOf_ne_nil c)
  have hhead : canBegin x ↔ CapitalBegins c := canBegin_head_upperOf (by rw [hx]; rfl)
  simp [capitalize, hx, hhead]

end Words

/-! ## Names -/

section Names

variable (segments : List String)

/-- A name in camel case is an identifier exactly if its words are spellable. -/
lemma isIdentifier_lowerCamel_iff :
    IsIdentifier (lowerCamel segments) ↔ Spellable (canBegin · = true) (allWords segments) := by
  unfold lowerCamel
  cases h : allWords segments with
  | nil => exact iff_of_true (isIdentifier_finish_iff.2 ⟨nofun, nofun⟩) (spellable_nil _)
  | cons w ws =>
    have hw : w ≠ [] := ne_nil_of_mem_allWords (h ▸ List.mem_cons_self)
    rw [isIdentifier_finish_iff, head_decapitalize hw, List.forall_mem_append,
      forall_isXidContinue_decapitalize, forall_mem_flatMap_capitalize, spellable_cons_iff hw,
      List.forall_mem_cons]

/-- The name of a type is an identifier exactly if its words are spellable with a capital. -/
lemma isIdentifier_typeName_iff :
    IsIdentifier (typeName segments) ↔ Spellable CapitalBegins (allWords segments) := by
  rw [typeName, isIdentifier_finish_iff, forall_mem_flatMap_capitalize]
  cases h : allWords segments with
  | nil => exact iff_of_true ⟨nofun, nofun⟩ (spellable_nil _)
  | cons w ws =>
    have hw : w ≠ [] := ne_nil_of_mem_allWords (h ▸ List.mem_cons_self)
    rw [List.flatMap_cons, head_capitalize hw, spellable_cons_iff hw]

/-- A name in snake case is an identifier exactly if its words are spellable. -/
lemma isIdentifier_snakeCase_iff :
    IsIdentifier (snakeCase segments) ↔ Spellable (canBegin · = true) (allWords segments) := by
  have hmark : isXidContinue '_' = true := by decide
  rw [snakeCase, isIdentifier_finish_iff, forall_mem_intercalate hmark, List.forall_mem_map]
  simp only [forall_isXidContinue_lowercase]
  cases h : allWords segments with
  | nil => simp [spellable_nil]
  | cons w ws =>
    have hw : w ≠ [] := ne_nil_of_mem_allWords (h ▸ List.mem_cons_self)
    have hhead : (['_'].intercalate ((w :: ws).map lowercase)).head? = (lowercase w).head? := by
      cases ws with
      | nil => simp
      | cons v ws =>
        rw [List.map_cons, List.map_cons, List.intercalate_cons_cons, List.append_assoc,
          List.head?_append_of_ne_nil _ (lowercase_ne_nil hw)]
    rw [hhead, canBegin_head_lowercase, spellable_cons_iff hw]

/-- What holds of an underscore holds of a spelled character if it holds of it where it is kept. -/
lemma spell_iff {p : Char → Prop} (hmark : p '_') (c : Char) :
    p (spell c) ↔ (isAlphanumeric c → p c) := by
  by_cases hc : isAlphanumeric c
  · have hself : spell c = c := by simp [spell, hc]
    simp [hself, hc]
  · have hself : spell c = '_' := by simp [spell, hc]
    simp [hself, hc, hmark]

/-- A member is an identifier exactly if the alphanumeric characters of its field may stand where
they do. -/
lemma isIdentifier_memberName_iff (field : String) :
    IsIdentifier (memberName field) ↔ (∀ c ∈ field.toList, isAlphanumeric c → isXidContinue c) ∧
      ∀ c ∈ field.toList.head?, isAlphanumeric c → canBegin c := by
  have hmember : memberName field = finish (field.toList.map spell) := rfl
  have hcontinue : ∀ c, isXidContinue (spell c) ↔ (isAlphanumeric c → isXidContinue c) :=
    spell_iff (p := (isXidContinue · = true)) (by decide)
  have hbegin : ∀ c, canBegin (spell c) ↔ (isAlphanumeric c → canBegin c) :=
    spell_iff (p := (canBegin · = true)) (by decide)
  rw [hmember, isIdentifier_finish_iff, List.forall_mem_map, List.head?_map]
  simp [hcontinue, hbegin]

/-! ## The lone underscore -/

lemma exists_ne_underscore {cs : List Char} (hne : cs ≠ []) (h : '_' ∉ cs) (more : List Char) :
    ∃ c ∈ cs ++ more, c ≠ '_' := by
  obtain ⟨c, hc⟩ := List.exists_mem_of_ne_nil cs hne
  exact ⟨c, List.mem_append_left _ hc, fun hmark => h (hmark ▸ hc)⟩

lemma exists_ne_underscore_lowerCamel :
    (∃ c ∈ (lowerCamel segments).toList, c ≠ '_') ↔ allWords segments ≠ [] := by
  unfold lowerCamel
  cases h : allWords segments with
  | nil => exact iff_of_false not_exists_ne_underscore_finish_nil (· rfl)
  | cons w ws =>
    have hmem : w ∈ allWords segments := h ▸ List.mem_cons_self
    refine iff_of_true (exists_ne_underscore_finish.2 (exists_ne_underscore ?_ ?_ _)) nofun
    · obtain ⟨c, rest, rfl⟩ := List.exists_cons_of_ne_nil (ne_nil_of_mem_allWords hmem)
      exact List.append_ne_nil_of_left_ne_nil (lowerOf_ne_nil c) _
    · exact underscore_notMem_decapitalize fun c hc => isAlphanumeric_of_mem_allWords hmem hc

lemma exists_ne_underscore_typeName :
    (∃ c ∈ (typeName segments).toList, c ≠ '_') ↔ allWords segments ≠ [] := by
  rw [typeName, exists_ne_underscore_finish]
  cases h : allWords segments with
  | nil => exact iff_of_false nofun (· rfl)
  | cons w ws =>
    have hmem : w ∈ allWords segments := h ▸ List.mem_cons_self
    rw [List.flatMap_cons]
    refine iff_of_true (exists_ne_underscore ?_ ?_ _) nofun
    · obtain ⟨c, rest, rfl⟩ := List.exists_cons_of_ne_nil (ne_nil_of_mem_allWords hmem)
      exact List.append_ne_nil_of_left_ne_nil (upperOf_ne_nil c) _
    · exact underscore_notMem_capitalize fun c hc => isAlphanumeric_of_mem_allWords hmem hc

lemma exists_ne_underscore_snakeCase :
    (∃ c ∈ (snakeCase segments).toList, c ≠ '_') ↔ allWords segments ≠ [] := by
  rw [snakeCase, exists_ne_underscore_finish]
  cases h : allWords segments with
  | nil => simp
  | cons w ws =>
    have hmem : w ∈ allWords segments := h ▸ List.mem_cons_self
    have hlower := exists_ne_underscore (lowercase_ne_nil (ne_nil_of_mem_allWords hmem))
      (underscore_notMem_lowercase fun c hc => isAlphanumeric_of_mem_allWords hmem hc)
    refine iff_of_true ?_ (List.cons_ne_nil _ _)
    cases ws with
    | nil => simpa using hlower []
    | cons v ws =>
      rw [List.map_cons, List.map_cons, List.intercalate_cons_cons, List.append_assoc]
      exact hlower _

/-- A name without words is a lone underscore, in every spelling. -/
lemma eq_underscore_of_allWords_eq_nil (h : allWords segments = []) :
    lowerCamel segments = "_" ∧ snakeCase segments = "_" ∧ typeName segments = "_" := by
  unfold lowerCamel snakeCase typeName
  rw [h]
  exact ⟨rfl, rfl, rfl⟩

lemma exists_ne_underscore_memberName (field : String) :
    (∃ c ∈ (memberName field).toList, c ≠ '_') ↔ ∃ c ∈ field.toList, isAlphanumeric c := by
  have hmember : memberName field = finish (field.toList.map spell) := rfl
  have hspell : ∀ c, spell c ≠ '_' ↔ isAlphanumeric c := by
    intro c
    constructor
    · intro h
      by_contra hc
      exact h (by simp [spell, hc])
    · intro hc h
      rw [isAlphanumeric_of_spell_eq h] at hc
      exact Bool.false_ne_true hc
  rw [hmember, exists_ne_underscore_finish]
  simp [hspell]

end Names

/-! ## ASCII keys -/

section Ascii

variable {segments : List String} {w : List Char} {c : Char}

/-- All characters of the segments are ASCII. -/
def IsAscii (segments : List String) : Prop := ∀ s ∈ segments, ∀ c ∈ s.toList, c.toNat < 128

lemma spec_of_isAlphanumeric_ascii (h : isAlphanumeric c) (hascii : c.toNat < 128) :
    isXidContinue c ∧ canBegin c := by
  have hcodes : ∀ n < 128, isAlphanumeric (Char.ofNat n) →
      isXidContinue (Char.ofNat n) ∧ canBegin (Char.ofNat n) := by decide +kernel
  exact of_ascii_codes (p := fun c => isAlphanumeric c → isXidContinue c ∧ canBegin c) hcodes
    hascii h

lemma isXidContinue_of_isAsciiAlphanumeric (h : isAsciiAlphanumeric c) : isXidContinue c := by
  have hcodes : ∀ n < 128, isAsciiAlphanumeric (Char.ofNat n) → isXidContinue (Char.ofNat n) := by
    decide +kernel
  exact of_ascii_codes (p := fun c => isAsciiAlphanumeric c → isXidContinue c) hcodes
    (isAscii_of_isAsciiAlphanumeric h) h

/-- The characters of words come from the segments. -/
lemma exists_mem_segment (h : w ∈ allWords segments) (hc : c ∈ w) :
    ∃ s ∈ segments, c ∈ s.toList := by
  obtain ⟨s, hs, hw⟩ := List.mem_flatMap.1 h
  refine ⟨s, hs, ?_⟩
  rw [← List.flatten_splitBy continues s.toList]
  exact List.mem_flatten_of_mem (List.mem_of_mem_filter hw) hc

/-- The words of an ASCII key are spellable. -/
lemma IsAscii.spellable (h : IsAscii segments) :
    Spellable (canBegin · = true) (allWords segments) := by
  have hchar : ∀ w ∈ allWords segments, ∀ c ∈ w, isXidContinue c ∧ canBegin c := by
    intro w hw c hc
    obtain ⟨s, hs, hmem⟩ := exists_mem_segment hw hc
    exact spec_of_isAlphanumeric_ascii (isAlphanumeric_of_mem_allWords hw hc) (h s hs c hmem)
  constructor
  case continues => exact fun w hw c hc => (hchar w hw c hc).1
  case head =>
    intro c hc
    obtain ⟨w, hw, hmem⟩ := List.mem_flatten.1 (List.mem_of_mem_head? hc)
    exact (hchar w hw c hmem).2

lemma Spellable.capitalBegins {ws : List (List Char)} (h : Spellable (canBegin · = true) ws) :
    Spellable CapitalBegins ws where
  continues := h.continues
  head c hc := .inl (h.head c hc)

end Ascii

end Naming

end Phrasebook
