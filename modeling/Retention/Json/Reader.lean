import Retention.Json.Number
import Retention.Text.Digits

/-!
# Reading JSON

A document is read from left to right. Where it breaks off, the value read so far is
kept, marked where the break is, and nothing behind the break is looked at.
-/

namespace Retention.Json

/-! ## Texts -/

/-- The character that a one-letter escape stands for. -/
def escaped? : Char → Option Char
  | '\x22' => some '\x22'
  | '\\' => some '\\'
  | '/' => some '/'
  | 'b' => some '\x08'
  | 'f' => some '\x0c'
  | 'n' => some '\n'
  | 'r' => some '\r'
  | 't' => some '\t'
  | _ => none

/-- The code units of a text up to its closing quote, and what follows the quote. An
escape by number gives one unit, which may be half a surrogate pair; a character that is
not escaped gives its code point. -/
def readUnits : List Char → Option (List Nat × List Char)
  | [] => none
  | '\x22' :: rest => some ([], rest)
  | '\\' :: 'u' :: a :: b :: c :: d :: rest =>
      match Text.number? 16 [a, b, c, d], readUnits rest with
      | some unit, some (units, rest) => some (unit :: units, rest)
      | _, _ => none
  | '\\' :: c :: rest =>
      match escaped? c, readUnits rest with
      | some c, some (units, rest) => some (c.toNat :: units, rest)
      | _, _ => none
  | c :: rest =>
      if c.toNat < 0x20 then none
      else
        match readUnits rest with
        | some (units, rest) => some (c.toNat :: units, rest)
        | none => none

/-- Whether a unit is the first half of a surrogate pair. -/
def isHighSurrogate (unit : Nat) : Bool :=
  0xD800 ≤ unit && unit < 0xDC00

/-- Whether a unit is the second half of a surrogate pair. -/
def isLowSurrogate (unit : Nat) : Bool :=
  0xDC00 ≤ unit && unit < 0xE000

/-- The characters of code units, unless a surrogate lacks its other half. -/
def joinSurrogates : List Nat → Option (List Char)
  | [] => some []
  | unit :: rest =>
      if isHighSurrogate unit then
        match rest with
        | low :: rest =>
            if isLowSurrogate low then
              (joinSurrogates rest).map
                (Char.ofNat (0x10000 + (unit - 0xD800) * 0x400 + (low - 0xDC00)) :: ·)
            else none
        | [] => none
      else if isLowSurrogate unit then none
      else (joinSurrogates rest).map (Char.ofNat unit :: ·)

def ofUnits (units : List Nat) : Json :=
  match joinSurrogates units with
  | some chars => .text (String.ofList chars)
  | none => .unusable

/-! ## Numbers -/

/-- The values of the digits at the front of a text, and what follows them. -/
def readDigits (input : List Char) : List Nat × List Char :=
  ((input.takeWhile Char.isDigit).map fun c => c.toNat - '0'.toNat,
    input.dropWhile Char.isDigit)

/-- Reads the fraction of a number, if there is a point. -/
def readFraction : List Char → Option (Option (List Nat) × List Char)
  | '.' :: rest =>
      match readDigits rest with
      | ([], _) => none
      | (digits, rest) => some (some digits, rest)
  | rest => some (none, rest)

/-- Reads the digits of an exponent whose sign has been read. -/
def readExponentDigits (negative : Bool) (input : List Char) :
    Option (Option (Bool × List Nat) × List Char) :=
  match readDigits input with
  | ([], _) => none
  | (digits, rest) => some (some (negative, digits), rest)

/-- Reads the exponent of a number, if there is one. -/
def readExponent : List Char → Option (Option (Bool × List Nat) × List Char)
  | c :: rest =>
      if c = 'e' ∨ c = 'E' then
        match rest with
        | '+' :: rest => readExponentDigits false rest
        | '-' :: rest => readExponentDigits true rest
        | rest => readExponentDigits false rest
      else some (none, c :: rest)
  | [] => some (none, [])

/-- Reads a number whose sign has been read. A zero in front stands alone. -/
def readNumber (negative : Bool) (input : List Char) : Option (Json × List Char) :=
  match readDigits input with
  | ([], _) => none
  | (0 :: _ :: _, _) => none
  | (whole, rest) =>
      match readFraction rest with
      | none => none
      | some (fraction, rest) =>
          match readExponent rest with
          | none => none
          | some (exponent, rest) =>
              some (ofNumberParts ⟨negative, whole, fraction, exponent⟩, rest)

/-! ## Values -/

def isSpace (c : Char) : Bool :=
  c = ' ' || c = '\n' || c = '\t' || c = '\r'

def skipSpace (input : List Char) : List Char :=
  input.dropWhile isSpace

/-- A value together with what follows it, unless it breaks off. -/
abbrev Reading : Type :=
  Json × Option (List Char)

def broken : Reading :=
  (.malformed, none)

def readWord (word : String) (value : Json) (input : List Char) : Reading :=
  if word.toList.isPrefixOf input then (value, some (input.drop word.length)) else broken

/-- Reads the rest of a text behind its opening quote. -/
def readText (input : List Char) : Reading :=
  match readUnits input with
  | some (units, rest) => (ofUnits units, some rest)
  | none => broken

def readSigned (negative : Bool) (input : List Char) : Reading :=
  match readNumber negative input with
  | some (value, rest) => (value, some rest)
  | none => broken

/-- Puts an item in front of the items of an array. -/
def consItem (item : Json) : Reading → Reading
  | (.array items closed, rest) => (.array (item :: items) closed, rest)
  | reading => reading

/-- Puts a member in front of the members of an object. -/
def consMember (key value : Json) : Reading → Reading
  | (.object members closed, rest) => (.object ((key, value) :: members) closed, rest)
  | reading => reading

mutual

/-- Reads one value. Every call has less fuel than its caller; a call for each character
is more than enough. -/
def readValue : Nat → List Char → Reading
  | 0, _ => broken
  | fuel + 1, input =>
      match skipSpace input with
      | 'n' :: rest => readWord "ull" .null rest
      | 't' :: rest => readWord "rue" (.bool true) rest
      | 'f' :: rest => readWord "alse" (.bool false) rest
      | '\x22' :: rest => readText rest
      | '-' :: rest => readSigned true rest
      | '[' :: rest =>
          match skipSpace rest with
          | ']' :: rest => (.array [] true, some rest)
          | rest => readItems fuel rest
      | '\x7b' :: rest =>
          match skipSpace rest with
          | '\x7d' :: rest => (.object [] true, some rest)
          | rest => readMembers fuel rest
      | c :: rest => if c.isDigit then readSigned false (c :: rest) else broken
      | [] => broken

/-- Reads the items of an array, of which there is at least one. -/
def readItems : Nat → List Char → Reading
  | 0, _ => (.array [] false, none)
  | fuel + 1, input =>
      match readValue fuel input with
      | (item, none) => (.array [item] false, none)
      | (item, some rest) =>
          match skipSpace rest with
          | ']' :: rest => (.array [item] true, some rest)
          | ',' :: rest =>
              match skipSpace rest with
              | ']' :: _ => (.array [item] false, none)
              | rest => consItem item (readItems fuel rest)
          | _ => (.array [item] false, none)

/-- Reads the members of an object, of which there is at least one. A key that is not a
text breaks the object off. -/
def readMembers : Nat → List Char → Reading
  | 0, _ => (.object [] false, none)
  | fuel + 1, input =>
      match skipSpace input with
      | '\x22' :: rest =>
          match readText rest with
          | (key, none) => (.object [(key, .malformed)] false, none)
          | (key, some rest) =>
              match skipSpace rest with
              | ':' :: rest =>
                  match readValue fuel rest with
                  | (value, none) => (.object [(key, value)] false, none)
                  | (value, some rest) =>
                      match skipSpace rest with
                      | '\x7d' :: rest => (.object [(key, value)] true, some rest)
                      | ',' :: rest =>
                          match skipSpace rest with
                          | '\x7d' :: _ => (.object [(key, value)] false, none)
                          | rest => consMember key value (readMembers fuel rest)
                      | _ => (.object [(key, value)] false, none)
              | _ => (.object [(key, .malformed)] false, none)
      | rest => (.object [((readValue fuel rest).1, .malformed)] false, none)

end

/-- Reads a document. Besides its value, says whether the text ends with the value. -/
def read (text : String) : Json × Bool :=
  let input := text.toList
  match readValue (input.length + 1) input with
  | (value, some rest) => (value, (skipSpace rest).isEmpty)
  | (value, none) => (value, false)

end Retention.Json
