import Phrasebook.SortedMap

/-!
# Buffers, one for each language

The table files of a target grow side by side while a plan is carried out.  Each has a buffer,
which opens with a header when its language is first met, is only ever appended to, and is closed
once.

* `Buffers.enter` opens the buffer of a language, unless it is open already.
* `Buffers.push` appends to one buffer.
* `Buffers.closeAll` appends the closing text to every buffer that is not closed yet.
-/

namespace Phrasebook

/-- A text that is appended to until it is closed. -/
structure Buffer where
  /-- What has been appended so far. -/
  text : String
  /-- Whether the closing text has been appended. -/
  closed : Bool
  deriving DecidableEq, Repr, Inhabited

namespace Buffer

/-- An open buffer that starts with `header`. -/
def start (header : String) : Buffer := ⟨header, false⟩

/-- Appends to a buffer. -/
def push (b : Buffer) (text : String) : Buffer := { b with text := b.text ++ text }

/-- Closes a buffer with a last text; nothing happens to one that is closed. -/
def close (b : Buffer) (closing : String) : Buffer :=
  if b.closed then b else ⟨b.text ++ closing, true⟩

end Buffer

/-- The buffers of a target, by language. -/
structure Buffers where
  /-- The buffer of each language. -/
  byLanguage : SortedMap Buffer
  deriving DecidableEq

namespace Buffers

/-- No buffers. -/
def empty : Buffers := ⟨.empty⟩

/-- Whether `language` has a buffer. -/
def has (bs : Buffers) (language : String) : Bool := bs.byLanguage.contains language

/-- The languages that have a buffer, in increasing order. -/
def languages (bs : Buffers) : List String := bs.byLanguage.keys

/-- Opens the buffer of a language with `header`, unless it has one. -/
def enter (bs : Buffers) (language header : String) : Buffers :=
  if bs.has language then bs else ⟨bs.byLanguage.insert language (.start header)⟩

/-- Applies `f` to the buffer of a language, if it has one. -/
def modify (bs : Buffers) (language : String) (f : Buffer → Buffer) : Buffers :=
  match bs.byLanguage.get? language with
  | some b => ⟨bs.byLanguage.insert language (f b)⟩
  | none => bs

/-- Appends to the buffer of a language. -/
def push (bs : Buffers) (language text : String) : Buffers := bs.modify language (·.push text)

/-- Closes the buffer of a language. -/
def close (bs : Buffers) (language closing : String) : Buffers :=
  bs.modify language (·.close closing)

/-- Closes all buffers. -/
def closeAll (bs : Buffers) (closing : String) : Buffers := ⟨bs.byLanguage.map (·.close closing)⟩

end Buffers

end Phrasebook
