import Mathlib.Data.List.Basic
import Phrasebook.Address

/-!
# When lookup keys are equal

The keys of elements and fields are made by joining the key of their list, a place in decimal and
the name of a field with dots.  Names may have dots and digits of their own, so such keys are not
told apart in general.  What can be told apart, whatever the names are:

* `elementKey_inj`: an element key determines its list and its place, since the digits of the
  place hold no dot;
* `fieldKey_inj` and `fieldPattern_inj`: in one list, a field key determines the place and field.
-/

namespace Phrasebook

/-! ## Cutting at a mark -/

/-- Two lists cut at their first mark have equal parts. -/
lemma eq_of_append_cons_eq {α : Type*} {x : α} {a b c d : List α} (ha : x ∉ a) (hb : x ∉ b)
    (h : a ++ x :: c = b ++ x :: d) : a = b ∧ c = d := by
  induction a generalizing b with
  | nil =>
    cases b with
    | nil => exact ⟨rfl, (List.cons.inj h).2⟩
    | cons y b =>
      obtain ⟨rfl, -⟩ := List.cons.inj h
      exact absurd List.mem_cons_self hb
  | cons z a ih =>
    cases b with
    | nil =>
      obtain ⟨rfl, -⟩ := List.cons.inj h
      exact absurd List.mem_cons_self ha
    | cons y b =>
      obtain ⟨rfl, htail⟩ := List.cons.inj h
      obtain ⟨rfl, hcd⟩ := ih (fun h' => ha (List.mem_cons_of_mem _ h'))
        (fun h' => hb (List.mem_cons_of_mem _ h')) htail
      exact ⟨rfl, hcd⟩

/-- Two lists cut at their last mark have equal parts. -/
lemma eq_of_append_cons_eq_last {α : Type*} {x : α} {a b c d : List α} (hc : x ∉ c) (hd : x ∉ d)
    (h : a ++ x :: c = b ++ x :: d) : a = b ∧ c = d := by
  have hrev : c.reverse ++ x :: a.reverse = d.reverse ++ x :: b.reverse := by
    simpa using congrArg List.reverse h
  obtain ⟨hcd, hab⟩ := eq_of_append_cons_eq (by simpa using hc) (by simpa using hd) hrev
  exact ⟨List.reverse_inj.1 hab, List.reverse_inj.1 hcd⟩

/-! ## Places in decimal -/

lemma dot_notMem_toDigits (i : ℕ) : '.' ∉ Nat.toDigits 10 i := by
  intro h
  have := Nat.isDigit_of_mem_toDigits (by decide) (by decide) h
  exact absurd this (by decide)

lemma toDigits_inj {i j : ℕ} (h : Nat.toDigits 10 i = Nat.toDigits 10 j) : i = j := by
  rw [← Nat.ofDigitChars_ten_toDigits (n := i), h, Nat.ofDigitChars_ten_toDigits]

/-! ## Keys inside lists -/

lemma toList_elementKey (key : String) (i : ℕ) :
    (elementKey key i).toList = key.toList ++ '.' :: Nat.toDigits 10 i := by
  rw [elementKey, String.toList_append, String.toList_append, Nat.toString_eq_repr,
    Nat.toList_repr, List.append_assoc]
  rfl

lemma toList_fieldKey (key field : String) (i : ℕ) :
    (fieldKey key i field).toList =
      key.toList ++ '.' :: (Nat.toDigits 10 i ++ '.' :: field.toList) := by
  rw [fieldKey, String.toList_append, String.toList_append, toList_elementKey]
  simp

/-- An element key determines its list and its place. -/
lemma elementKey_inj {key key' : String} {i j : ℕ} (h : elementKey key i = elementKey key' j) :
    key = key' ∧ i = j := by
  have hlist := congrArg String.toList h
  rw [toList_elementKey, toList_elementKey] at hlist
  obtain ⟨hkey, hdigits⟩ :=
    eq_of_append_cons_eq_last (dot_notMem_toDigits i) (dot_notMem_toDigits j) hlist
  exact ⟨String.toList_inj.1 hkey, toDigits_inj hdigits⟩

/-- A field key determines its place and its field, once its list is known. -/
lemma fieldKey_inj {key field field' : String} {i j : ℕ}
    (h : fieldKey key i field = fieldKey key j field') : i = j ∧ field = field' := by
  have hlist := congrArg String.toList h
  rw [toList_fieldKey, toList_fieldKey] at hlist
  obtain ⟨hdigits, hfield⟩ := eq_of_append_cons_eq (dot_notMem_toDigits i) (dot_notMem_toDigits j)
    (List.cons.inj (List.append_cancel_left hlist)).2
  exact ⟨toDigits_inj hdigits, String.toList_inj.1 hfield⟩

lemma fieldPattern_inj {key field field' : String}
    (h : fieldPattern key field = fieldPattern key field') : field = field' :=
  (String.append_right_inj _).1 h

/-! ## Keys as lists of names -/

/-- A name joined to a key is a name more in the list the key is made of. -/
lemma intercalate_dot_concat {names : List String} (hnames : names ≠ []) (name : String) :
    ".".intercalate (names ++ [name]) = ".".intercalate names ++ "." ++ name := by
  rw [String.intercalate_append_of_ne_nil hnames (by simp), String.intercalate_singleton]

lemma elementKey_intercalate {names : List String} (hnames : names ≠ []) (i : ℕ) :
    elementKey (".".intercalate names) i = ".".intercalate (names ++ [toString i]) :=
  (intercalate_dot_concat hnames _).symm

end Phrasebook
