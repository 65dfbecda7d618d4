import Phrasebook.Json.Basic

/-!
# Reading records from documents

A record is written as an object of its fields or as the list of their values in a fixed order.
`fields?` reads either form into one value for each field, where the last fields of a list may be
missing and unknown members of an object are passed over.

The remaining readers take one value of a known kind: `string?`, `listOf?`, `mapOf?`, and
`required` and `orDefault` for a field that must be there or need not.
-/

namespace Phrasebook.Serial

/-- The values of the fields called `names`, from an object or from a list in that order. -/
def fields? (names : List String) : Json → Option (List (Option Json))
  | .object members => some (names.map fun n => members.lookup n)
  | .array items =>
    if items.length ≤ names.length then
      some (items.map some ++ List.replicate (names.length - items.length) none)
    else none
  | _ => none

/-- A field that must be there. -/
def required (read : Json → Option α) (field : Option Json) : Option α := field.bind read

/-- A field that is `default` when it is missing. -/
def orDefault (default : α) (read : Json → Option α) : Option Json → Option α
  | none => some default
  | some j => read j

/-- Reads a text. -/
def string? : Json → Option String
  | .string s => some s
  | _ => none

/-- Reads a list. -/
def listOf? (read : Json → Option α) : Json → Option (List α)
  | .array items => items.mapM read
  | _ => none

/-- Reads the members of an object. -/
def membersOf? (read : Json → Option α) : Json → Option (List (String × α))
  | .object members => members.mapM fun m => (read m.2).map (m.1, ·)
  | _ => none

/-! ## Sizes

A reader of a recursive type ends because the parts of a document are smaller than the whole. -/

theorem sizeOf_lt_of_lookup {name : String} {v : Json} {members : List (String × Json)}
    (h : members.lookup name = some v) : sizeOf v < sizeOf members := by
  induction members with
  | nil => exact nomatch h
  | cons m rest ih =>
    rw [List.lookup_cons] at h
    obtain ⟨k, w⟩ := m
    split at h
    · cases h
      simp only [List.cons.sizeOf_spec, Prod.mk.sizeOf_spec]
      omega
    · have := ih h
      simp only [List.cons.sizeOf_spec, Prod.mk.sizeOf_spec]
      omega

theorem sizeOf_lt_of_fields? {names : List String} {j v : Json} {fs : List (Option Json)}
    (h : fields? names j = some fs) (hv : some v ∈ fs) : sizeOf v < sizeOf j := by
  unfold fields? at h
  split at h
  · cases h
    obtain ⟨n, _, hn⟩ := List.mem_map.1 hv
    have := sizeOf_lt_of_lookup hn
    simp only [Json.object.sizeOf_spec]
    omega
  · split at h
    · cases h
      rcases List.mem_append.1 hv with hm | hm
      · obtain ⟨w, hw, e⟩ := List.mem_map.1 hm
        cases e
        have := List.sizeOf_lt_of_mem hw
        simp only [Json.array.sizeOf_spec]
        omega
      · exact nomatch (List.mem_replicate.1 hm).2
    · cases h
  · cases h

end Phrasebook.Serial
