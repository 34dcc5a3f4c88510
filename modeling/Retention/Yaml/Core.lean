import Retention.Binary64
import Retention.Mismatch
import Retention.Text.Digits
import Retention.Yaml.Outline

/-!
# The core schema

What a scalar means. A plain scalar may be nothing, a truth value or a number; all others
are texts, unless a tag says otherwise. Numbers with needless zeros in front are texts.
-/

namespace Retention.Yaml

def wording : Wording :=
  ⟨"unit value", .plain⟩

namespace Core

/-! ## Values of plain scalars -/

def isNull (text : String) : Bool :=
  ["null", "Null", "NULL", "~"].contains text

def bool? (text : String) : Option Bool :=
  if ["true", "True", "TRUE"].contains text then some true
  else if ["false", "False", "FALSE"].contains text then some false
  else none

def withoutSign : List Char → List Char
  | '+' :: rest => rest
  | '-' :: rest => rest
  | text => text

/-- Whether a number has needless zeros in front, sign apart. -/
def hasLeadingZeros (text : List Char) : Bool :=
  match withoutSign text with
  | '0' :: c :: rest => (c :: rest).all Char.isDigit
  | _ => false

/-- The magnitude of an integer written without sign: hexadecimal, octal, binary or
decimal. -/
def magnitude? : List Char → Option Nat
  | '0' :: 'x' :: rest => Text.number? 16 rest
  | '0' :: 'o' :: rest => Text.number? 8 rest
  | '0' :: 'b' :: rest => Text.number? 2 rest
  | text => if hasLeadingZeros text then none else Text.number? 10 text

/-- An integer written without minus sign, of at most 128 bits. -/
def unsigned? (text : List Char) : Option Nat :=
  let magnitude :=
    match text with
    | '+' :: rest => magnitude? rest
    | text => magnitude? text
  magnitude.filter (· < 1 <<< 128)

/-- An integer written with a minus sign, of at most 128 bits. -/
def negative? (text : List Char) : Option Int :=
  match text with
  | '-' :: rest =>
      match magnitude? rest with
      | some magnitude => if magnitude ≤ 1 <<< 127 then some (-(magnitude : Int)) else none
      | none => none
  | _ => none

def integer? (text : List Char) : Option Int :=
  match unsigned? text with
  | some n => some n
  | none => negative? text

/-- The power of ten that an exponent denotes. A missing one is zero. -/
def exponent? : List Char → Option Int
  | [] => some 0
  | c :: rest =>
      if c = 'e' ∨ c = 'E' then
        match rest with
        | '-' :: digits => (Text.number? 10 digits).map fun n => -(n : Int)
        | '+' :: digits => (Text.number? 10 digits).map fun n => (n : Int)
        | digits => (Text.number? 10 digits).map fun n => (n : Int)
      else none

def spanDigits (text : List Char) : List Char × List Char :=
  (text.takeWhile Char.isDigit, text.dropWhile Char.isDigit)

/-- The double nearest to a decimal number without sign. There has to be a digit before or
behind the point. -/
def decimal? (negative : Bool) (text : List Char) : Option Binary64 :=
  let (whole, rest) := spanDigits text
  let (fraction, rest) :=
    match rest with
    | '.' :: rest => spanDigits rest
    | rest => ([], rest)
  match Text.number? 10 (whole ++ fraction), exponent? rest with
  | some coefficient, some exponent =>
      let x := Binary64.ofDecimal negative coefficient (exponent - fraction.length)
      if x.isFinite then some x else none
  | _, _ => none

def real? (text : List Char) : Option Binary64 :=
  match text with
  | '+' :: rest =>
      if isInfinity rest then some ⟨0x7FF0000000000000⟩ else decimal? false rest
  | '-' :: rest =>
      if isInfinity rest then some ⟨0xFFF0000000000000⟩ else decimal? true rest
  | text =>
      if isInfinity text then some ⟨0x7FF0000000000000⟩
      else if [".nan", ".NaN", ".NAN"].contains (String.ofList text) then
        some ⟨0x7FF8000000000000⟩
      else decimal? false text
where
  /-- Whether a text stands for infinity. -/
  isInfinity (text : List Char) : Bool :=
    [".inf", ".Inf", ".INF"].contains (String.ofList text)

def findPlain (text : String) : Finding :=
  if text.isEmpty || isNull text then .nothing
  else
    match bool? text with
    | some value => .boolean value
    | none =>
        match integer? text.toList with
        | some value => .integer value
        | none =>
            if hasLeadingZeros text.toList then .text text
            else
              match real? text.toList with
              | some value => .real value
              | none => .text text

/-! ## Tags -/

def tagOf (name : String) : TagBytes :=
  (schemaTags ++ name).toUTF8.toList

/-- Whether a tag is local, which says nothing to the schema. -/
def isLocal (tag : TagBytes) : Bool :=
  tag.head? == some (UInt8.ofNat '!'.toNat)

/-- Refuses a node where a value known as `expected` should stand. Where the tag of a
scalar asks for a kind that its text is not, it is the tag that is complained about. -/
def complaint (head : Head) (expected : String) : Mismatch :=
  match head.content with
  | .sequence => .invalidType .sequence expected
  | .mapping => .invalidType .mapping expected
  | .scalar scalar =>
      let text := scalar.text
      let found (finding : Option Finding) (kind : String) : Mismatch :=
        match finding with
        | some finding => .invalidType finding expected
        | none => .invalidValue (.text text) kind
      let isPlain := scalar.style = .plain
      match head.tag with
      | some tag =>
          if tag = tagOf "bool" then found ((bool? text).map .boolean) "a boolean"
          else if tag = tagOf "int" then
            found ((integer? text.toList).map .integer) "an integer"
          else if tag = tagOf "float" then found ((real? text.toList).map .real) "a float"
          else if tag = tagOf "null" then
            found (if isNull text then some .nothing else none) "null"
          else if isLocal tag && isPlain then .invalidType (findPlain text) expected
          else .invalidType (.text text) expected
      | none => .invalidType (if isPlain then findPlain text else .text text) expected

/-- The text of a scalar from which a value of a kind may be read: a plain one, or a
literal one with the tag of the kind. -/
def readable? (head : Head) (kind : String) : Option String :=
  match head.content with
  | .scalar ⟨.plain, text⟩ => some text
  | .scalar ⟨.literal, text⟩ => if head.tag = some (tagOf kind) then some text else none
  | _ => none

end Core

end Retention.Yaml
