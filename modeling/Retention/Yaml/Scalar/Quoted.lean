import Retention.Text.Digits
import Retention.Yaml.Gap

/-!
# Quoted scalars

Between single quotes a quote is written twice and all else stands for itself. Between
double quotes a backslash starts an escape, which may also hide a line break. Lines are
folded in both.
-/

namespace Retention.Yaml.Quoted

/-- The two kinds of quotes. -/
inductive Kind where
  | single
  | double
deriving DecidableEq, Repr

def Kind.mark : Kind → Char
  | .single => '\x27'
  | .double => '\x22'

/-- The character that a one-letter escape stands for. -/
def escaped? (c : Char) : Option Char :=
  [('0', '\x00'), ('a', '\x07'), ('b', '\x08'), ('t', '\t'), ('\t', '\t'), ('n', '\n'),
    ('v', '\x0b'), ('f', '\x0c'), ('r', '\r'), ('e', '\x1b'), (' ', ' '), ('\x22', '\x22'),
    ('/', '/'), ('\\', '\\'), ('N', '\x85'), ('_', '\xa0'), ('L', '\u2028'),
    ('P', '\u2029')].lookup c

/-- How many hexadecimal digits follow the letter of an escape by number. -/
def digitCount? (c : Char) : Option Nat :=
  [('x', 2), ('u', 4), ('U', 8)].lookup c

/-- The character of a number, unless it is half a surrogate pair or too large. -/
def charOf? (n : Nat) : Option Char :=
  if n.isValidChar then some (Char.ofNat n) else none

/-- The character that an escape behind a backslash stands for, and its length. -/
def readEscape : List Char → Option (Char × Nat)
  | [] => none
  | c :: rest =>
      match digitCount? c with
      | some count =>
          if rest.length < count then none
          else
            match Text.number? 16 (rest.take count) with
            | some value => (charOf? value).map fun char => (char, count + 1)
            | none => none
      | none => (escaped? c).map fun char => (char, 1)

/-- A stretch of a scalar without blanks: what it stands for, where it ends, and whether
it ends in an escaped line break. -/
structure Stretch where
  text : List Char
  cursor : Cursor
  hidesBreak : Bool
deriving Repr

def Stretch.cons (c : Char) (stretch : Stretch) : Stretch :=
  { stretch with text := c :: stretch.text }

/-- Reads a stretch, up to blanks or the closing quote. Every round reads one character
or escape; `fuel` bounds the rounds. -/
def readStretch (kind : Kind) : Nat → Cursor → Except Fault Stretch
  | 0, cursor => .ok ⟨[], cursor, false⟩
  | fuel + 1, cursor =>
      match kind, cursor.rest with
      | _, [] => .ok ⟨[], cursor, false⟩
      | .single, '\x27' :: '\x27' :: _ =>
          (readStretch kind fuel (cursor.skip 2)).map (·.cons '\x27')
      | .double, '\\' :: rest =>
          if startsBreak rest && !rest.isEmpty then
            .ok ⟨[], (cursor.skip 1).skipBreak, true⟩
          else
            match readEscape rest with
            | some (c, length) =>
                (readStretch kind fuel (cursor.skip (length + 1))).map (·.cons c)
            | none => cursor.fail "unknown escape"
      | _, c :: _ =>
          if isBlank c || isBreak c || c = kind.mark then .ok ⟨[], cursor, false⟩
          else (readStretch kind fuel (cursor.skip 1)).map (·.cons c)

/-- Reads on behind the opening quote or a gap. Every round reads a stretch and the gap
behind it; `fuel` bounds the rounds. -/
def readFrom (kind : Kind) : Nat → List Char → Cursor → Except Fault (List Char × Cursor)
  | 0, _, cursor => cursor.fail "unexpected end of the text"
  | fuel + 1, text, cursor =>
      if cursor.atDocumentMark then cursor.fail "unexpected end of the document"
      else if cursor.rest.isEmpty then cursor.fail "unexpected end of the text"
      else
        match readStretch kind cursor.rest.length cursor with
        | .error fault => .error fault
        | .ok stretch =>
            let text := text ++ stretch.text
            if stretch.cursor.rest.head? == some kind.mark then
              .ok (text, stretch.cursor.skip 1)
            else
              let (gap, next) := Gap.read 0 stretch.cursor
              let folded :=
                if stretch.hidesBreak then gap.breaks
                else gap.fold
              readFrom kind fuel (text ++ folded) next

def read (kind : Kind) (cursor : Cursor) : Except Fault (List Char × Cursor) :=
  readFrom kind (cursor.rest.length + 1) [] (cursor.skip 1)

end Retention.Yaml.Quoted
