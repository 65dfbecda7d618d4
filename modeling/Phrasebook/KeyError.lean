/-!
# Errors of single keys

An error that concerns one key: the key is left out, and everything else is still generated.
-/

namespace Phrasebook

/-- Why a key is left out. -/
inductive KeyError where
  /-- The text in `language` asks for the argument `index`, which is none of `argumentCount`. -/
  | unaddressed (key language : String) (index argumentCount : UInt64)
  /-- The name `function` already belongs to the key `existing`. -/
  | nameTaken (key function existing : String)
  deriving DecidableEq, Repr

namespace KeyError

/-- The key that is left out. -/
def key : KeyError → String
  | unaddressed key .. => key
  | nameTaken key .. => key

/-- The wording of an error. -/
def message : KeyError → String
  | unaddressed key language index count =>
    s!"`{key}` ({language}) references argument %{index}$@ but declares {count} argument(s)"
  | nameTaken key function existing =>
    s!"`{key}` maps to accessor `{function}`, which `{existing}` already uses"

end KeyError

end Phrasebook
