import Retention.Yaml.Cursor

/-!
# Tokens

The parts of a text that its structure is made of. Indentation shows as tokens of its
own: a block collection starts where a line goes further in, and ends where one comes
back out.
-/

namespace Retention.Yaml

/-- Whether a scalar is plain, literal, or written in another way. -/
inductive ScalarStyle where
  | plain
  | literal
  | other
deriving DecidableEq, Repr

/-- A scalar as it is written. -/
structure Scalar where
  style : ScalarStyle
  text : String
deriving DecidableEq, Repr

/-- The name of a tag in bytes. Escapes can give bytes that are no characters, and no zero
byte is among them. -/
abbrev TagBytes : Type :=
  List UInt8

/-- The name of a tag as it is written: a handle that a directive may explain, and a
suffix. -/
structure TagName where
  handle : String
  suffix : TagBytes
deriving DecidableEq, Repr

/-- A part of a text. -/
inductive Token where
  | streamEnd
  | version (major minor : Nat)
  /-- Explains a handle. -/
  | tagHandle (handle : String) (expansion : TagBytes)
  | documentStart
  | documentEnd
  | blockSequenceStart
  | blockMappingStart
  | blockEnd
  | flowSequenceStart
  | flowSequenceEnd
  | flowMappingStart
  | flowMappingEnd
  | blockEntry
  | flowEntry
  /-- A key follows; without one, an empty key stands at `stop`. -/
  | key (stop : Mark)
  /-- A value follows; without one, an empty value stands at `stop`. -/
  | value (stop : Mark)
  | alias (name : String)
  | anchor (name : String)
  | tag (name : TagName)
  | scalar (scalar : Scalar)
deriving DecidableEq, Repr

/-- A token and the place where it starts. -/
structure Located where
  token : Token
  mark : Mark
deriving DecidableEq, Repr

end Retention.Yaml
