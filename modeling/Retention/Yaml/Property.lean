import Retention.Text.Digits
import Retention.Yaml.Token

/-!
# Properties and directives

The parts of a text that say something about nodes or documents: names of anchors, tags,
and the directives in front of a document.
-/

namespace Retention.Yaml.Property

/-! ## Anchors -/

def endsName : List Char → Bool
  | [] => true
  | c :: _ => isBlank c || isBreak c || ['?', ':', ',', ']', '\x7d', '%', '@', '\x60'].contains c

/-- Reads the name of an anchor or alias behind its indicator. -/
def readName (cursor : Cursor) : Except Fault (String × Cursor) :=
  let (name, after) := cursor.span isWordChar
  if !name.isEmpty && endsName after.rest then .ok (String.ofList name, after)
  else after.fail "expected a name"

/-! ## Tags -/

/-- The byte written as a percent sign and two digits at the start of a text. -/
def percentByte? : List Char → Option UInt8
  | '%' :: a :: b :: _ => (Text.number? 16 [a, b]).map UInt8.ofNat
  | _ => none

/-- How many bytes belong together when the first of them is given. -/
def groupSize? (first : UInt8) : Option Nat :=
  if first < 0x80 then some 1
  else if 0xC0 ≤ first && first < 0xE0 then some 2
  else if 0xE0 ≤ first && first < 0xF0 then some 3
  else if 0xF0 ≤ first && first < 0xF8 then some 4
  else none

/-- Whether a byte may follow the first one of its group. -/
def isFollower (byte : UInt8) : Bool :=
  0x80 ≤ byte && byte < 0xC0

/-- Reads so many escaped bytes that follow the first one of their group. -/
def followers? : Nat → List Char → Option TagBytes
  | 0, _ => some []
  | count + 1, text =>
      match percentByte? text with
      | some byte =>
          if isFollower byte then (followers? count (text.drop 3)).map (byte :: ·) else none
      | none => none

/-- The group of escaped bytes at the start of a text. The bytes are grouped as those of a
character are, but they need not be one. -/
def percentGroup? (text : List Char) : Option TagBytes :=
  match percentByte? text with
  | some first =>
      (groupSize? first).bind fun size =>
        (followers? (size - 1) (text.drop 3)).map (first :: ·)
  | none => none

/-- The characters of tags besides those of words. -/
def tagMarks : List Char :=
  [';', '/', '?', ':', '@', '&', '=', '+', '$', '.', '!', '~', '*', '\x27', '(', ')']

/-- Whether a character may stand in a tag. Brackets and commas may only where the tag is
`verbatim`. -/
def isTagChar (verbatim : Bool) (c : Char) : Bool :=
  isWordChar c || c ∈ tagMarks || (verbatim && c ∈ [',', '[', ']'])

/-- Reads the bytes of a tag. Every round reads a character or a group of escapes; `fuel`
bounds the rounds. -/
def readTagBytes (verbatim : Bool) : Nat → Cursor → Except Fault (TagBytes × Cursor)
  | 0, cursor => .ok ([], cursor)
  | fuel + 1, cursor =>
      match cursor.rest with
      | [] => .ok ([], cursor)
      | '%' :: _ =>
          match percentGroup? cursor.rest with
          | some group =>
              (readTagBytes verbatim fuel (cursor.skip (3 * group.length))).map
                fun (bytes, after) => (group ++ bytes, after)
          | none => cursor.fail "unknown escape in a tag"
      | c :: _ =>
          if isTagChar verbatim c then
            (readTagBytes verbatim fuel (cursor.skip 1)).map fun (bytes, after) =>
              (UInt8.ofNat c.toNat :: bytes, after)
          else .ok ([], cursor)

def readSuffix (verbatim : Bool) (cursor : Cursor) : Except Fault (TagBytes × Cursor) :=
  readTagBytes verbatim cursor.rest.length cursor

/-- The bytes of a tag up to the first zero byte, which ends it. -/
def untilZero (bytes : TagBytes) : TagBytes :=
  bytes.takeWhile (· != 0)

/-- Reads a handle: an exclamation mark, perhaps a word and a second mark. -/
def readHandle (cursor : Cursor) : Except Fault (List Char × Cursor) :=
  match cursor.rest with
  | '!' :: _ =>
      let (word, after) := (cursor.skip 1).span isWordChar
      match after.rest with
      | '!' :: _ => .ok ('!' :: word ++ ['!'], after.skip 1)
      | _ => .ok ('!' :: word, after)
  | _ => cursor.fail "expected an exclamation mark"

/-- Whether text that starts as a handle is one, with a mark at either end. -/
def isHandle (text : List Char) : Bool :=
  1 < text.length && text.getLast? == some '!'

/-- Reads a tag between angle brackets, behind the exclamation mark. -/
def readVerbatim (cursor : Cursor) : Except Fault (TagName × Cursor) := do
  let (suffix, after) ← readSuffix true (cursor.skip 1)
  match suffix, after.rest with
  | _ :: _, '>' :: _ => return (⟨"", untilZero suffix⟩, after.skip 1)
  | _, _ => after.fail "expected the end of the tag"

/-- Reads a tag of a handle and a suffix. Without a handle the suffix is local; a lone
exclamation mark is the tag of that name. -/
def readShorthand (cursor : Cursor) : Except Fault (TagName × Cursor) := do
  let (handle, after) ← readHandle cursor
  let (suffix, next) ← readSuffix false after
  if isHandle handle then
    if suffix.isEmpty then next.fail "expected a tag"
    else return (⟨String.ofList handle, untilZero suffix⟩, next)
  else
    let word := (handle.drop 1).map fun c => UInt8.ofNat c.toNat
    match untilZero (word ++ suffix) with
    | [] => return (⟨"", [UInt8.ofNat '!'.toNat]⟩, next)
    | name => return (⟨"!", name⟩, next)

def readTag (inFlow : Bool) (cursor : Cursor) : Except Fault (TagName × Cursor) := do
  let (name, after) ←
    match cursor.rest with
    | _ :: '<' :: _ => readVerbatim (cursor.skip 1)
    | _ => readShorthand cursor
  if startsBlank after.rest || (inFlow && after.rest.head? == some ',') then
    return (name, after)
  else after.fail "expected white space behind the tag"

/-! ## Directives -/

/-- Reads a version number of at most nine digits. -/
def readVersionNumber (cursor : Cursor) : Except Fault (Nat × Cursor) :=
  let (digits, after) := cursor.span Char.isDigit
  match Text.number? 10 digits with
  | some number =>
      if digits.length ≤ 9 then .ok (number, after)
      else after.fail "the version number is too long"
  | none => after.fail "expected a version number"

def readVersion (cursor : Cursor) : Except Fault (Token × Cursor) := do
  let (major, after) ← readVersionNumber (cursor.skipWhile isBlank)
  match after.rest with
  | '.' :: _ =>
      let (minor, after) ← readVersionNumber (after.skip 1)
      return (.version major minor, after)
  | _ => after.fail "expected a point in the version number"

def readTagDirective (cursor : Cursor) : Except Fault (Token × Cursor) := do
  let (handle, after) ← readHandle (cursor.skipWhile isBlank)
  if !(isHandle handle || handle.length = 1) then after.fail "expected a handle"
  else if startsBreak after.rest || !startsBlank after.rest then
    after.fail "expected white space behind the handle"
  else
    let (expansion, after) ← readSuffix true (after.skipWhile isBlank)
    if expansion.isEmpty || !startsBlank after.rest then after.fail "expected a tag"
    else return (.tagHandle (String.ofList handle) (untilZero expansion), after)

/-- Reads a directive behind its percent sign, and the rest of its line. -/
def readDirective (cursor : Cursor) : Except Fault (Token × Cursor) := do
  let (name, after) := cursor.span isWordChar
  if name.isEmpty || !startsBlank after.rest then after.fail "expected the name of a directive"
  else
    let (token, after) ←
      if name = "YAML".toList then readVersion after
      else if name = "TAG".toList then readTagDirective after
      else after.fail "unknown directive"
    return (token, ← after.finishLine)

end Retention.Yaml.Property
