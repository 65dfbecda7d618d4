import Mathlib.Data.List.SplitBy
import Phrasebook.Naming
import Phrasebook.Proofs.Address.LookupKey

/-!
# The names of a key

An accessor is named after the words of its address, segment by segment.  A dot belongs to no word,
so these are the words of the key (`Address.allWords_segments`) and of its pieces between the dots
(`Address.allWords_eq_splitOn`), although a segment may have dots of its own.  So the name depends on
the key alone (`Address.lowerCamel_eq_of_key_eq`), which different addresses may have in common.
-/

namespace Phrasebook

namespace Naming

open Unicode

/-- A character that is not alphanumeric ends a word. -/
lemma words_append_cons {x : Char} (hx : isAlphanumeric x = false) (xs ys : List Char) :
    words (xs ++ x :: ys) = words xs ++ words ys := by
  have hbefore : ∀ c, continues c x = false := by simp [continues, hx]
  have hafter : ∀ c, continues x c = false := by simp [continues, hx]
  have hself : words [x] = [] := by
    simp [words, List.splitBy_of_isChain, hx]
  have hxs : ∀ zs, words (xs ++ x :: zs) = words xs ++ words (x :: zs) := by
    intro zs
    rw [words, List.splitBy_append_cons zs fun c _ => hbefore c, List.filter_append]
    rfl
  have hys : words ([x] ++ ys) = words [x] ++ words ys := by
    rw [words, List.splitBy_append fun c hc d _ => ?_, List.filter_append]
    · rfl
    · obtain rfl : x = c := by simpa using hc
      exact hafter d
  rw [hxs, ← List.singleton_append, hys, hself, List.nil_append]

lemma words_intercalate_dot (ss : List (List Char)) :
    words (['.'].intercalate ss) = ss.flatMap words := by
  induction ss with
  | nil => rfl
  | cons s rest ih =>
    cases rest with
    | nil => simp
    | cons r rest =>
      rw [List.intercalate_cons_cons, List.append_assoc, List.singleton_append,
        words_append_cons isAlphanumeric_dot, ih, ← List.flatMap_cons]

end Naming

namespace Address

lemma toList_key (a : Address) : a.key.toList = ['.'].intercalate (a.segments.map (·.toList)) := by
  rw [key, joinKey, String.toList_intercalate]
  rfl

/-- The words of an address are those of its key. -/
lemma allWords_segments (a : Address) :
    Naming.allWords a.segments = Naming.words a.key.toList := by
  rw [toList_key, Naming.words_intercalate_dot, Naming.allWords, List.flatMap_map]

/-- The words of an address are those of the pieces of its key between the dots. -/
lemma allWords_eq_splitOn (a : Address) :
    Naming.allWords a.segments = (a.key.toList.splitOn '.').flatMap Naming.words := by
  rw [allWords_segments, ← Naming.words_intercalate_dot, List.intercalate_splitOn]

section SameKey

variable {a b : Address}

lemma allWords_eq_of_key_eq (h : a.key = b.key) :
    Naming.allWords a.segments = Naming.allWords b.segments := by
  rw [allWords_segments, allWords_segments, h]

lemma lowerCamel_eq_of_key_eq (h : a.key = b.key) : a.lowerCamel = b.lowerCamel := by
  rw [lowerCamel, lowerCamel, Naming.lowerCamel, Naming.lowerCamel, allWords_eq_of_key_eq h]

end SameKey

end Address

end Phrasebook
