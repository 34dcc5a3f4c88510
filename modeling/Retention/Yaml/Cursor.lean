/-!
# Places in a text

A cursor is a place in a text together with the text from there on. Columns are counted
in characters and the index in bytes of UTF-8. A carriage return with the line feed
behind it is one line break.
-/

namespace Retention.Yaml

/-- A place in a text, all of it counted from zero. -/
structure Mark where
  /-- The number of bytes in front. -/
  index : Nat
  line : Nat
  column : Nat
deriving DecidableEq, Inhabited, Repr

namespace Mark

def origin : Mark :=
  ⟨0, 0, 0⟩

def describe (mark : Mark) : String :=
  "line " ++ (mark.line + 1).repr ++ " column " ++ (mark.column + 1).repr

def after (mark : Mark) (c : Char) : Mark :=
  { mark with index := mark.index + c.utf8Size, column := mark.column + 1 }

/-- The place behind a line break of so many bytes. -/
def nextLine (mark : Mark) (size : Nat) : Mark :=
  ⟨mark.index + size, mark.line + 1, 0⟩

end Mark

/-- A problem that keeps a text from being read. -/
structure Fault where
  problem : String
  /-- Where it shows, unless it is one of the text as a whole. -/
  mark : Option Mark
deriving DecidableEq, Repr

def Fault.message (fault : Fault) : String :=
  fault.problem ++ fault.mark.elim "" fun mark => " at " ++ mark.describe

/-! ## Characters -/

def isBlank (c : Char) : Bool :=
  c = ' ' || c = '\t'

/-- A character that ends a line. -/
def isBreak (c : Char) : Bool :=
  c = '\n' || c = '\r' || c = '\x85' || c = '\u2028' || c = '\u2029'

/-- A character of plain words: a letter, a digit, a hyphen or an underscore. -/
def isWordChar (c : Char) : Bool :=
  c.isAlphanum || c = '-' || c = '_'

/-- Whether a text starts with a blank or a line break, or is at its end. -/
def startsBlank : List Char → Bool
  | [] => true
  | c :: _ => isBlank c || isBreak c

/-- Whether a text starts with a line break or is at its end. -/
def startsBreak : List Char → Bool
  | [] => true
  | c :: _ => isBreak c

/-- Whether a text starts with three of a character that stand alone, as the marks around
documents do. -/
def startsTriple (c : Char) : List Char → Bool
  | a :: b :: d :: rest => a = c && b = c && d = c && startsBlank rest
  | _ => false

/-! ## Cursors -/

/-- A place in a text and the text from there on. -/
structure Cursor where
  mark : Mark
  rest : List Char
deriving Repr

namespace Cursor

def start (text : List Char) : Cursor :=
  ⟨.origin, text⟩

def column (cursor : Cursor) : Nat :=
  cursor.mark.column

def skip (cursor : Cursor) (count : Nat) : Cursor :=
  ⟨(cursor.rest.take count).foldl Mark.after cursor.mark, cursor.rest.drop count⟩

/-- Splits off the characters at the cursor that satisfy `p`, none of which ends a
line. -/
def span (cursor : Cursor) (p : Char → Bool) : List Char × Cursor :=
  let taken := cursor.rest.takeWhile p
  (taken, cursor.skip taken.length)

/-- Moves over the characters that satisfy `p`, none of which ends a line. -/
def skipWhile (cursor : Cursor) (p : Char → Bool) : Cursor :=
  (cursor.span p).2

/-- Takes a line break at the cursor. Line and paragraph separators are kept, and all
other breaks count as line feeds. -/
def takeBreak? (cursor : Cursor) : Option (Char × Cursor) :=
  match cursor.rest with
  | '\r' :: '\n' :: rest => some ('\n', ⟨cursor.mark.nextLine 2, rest⟩)
  | c :: rest =>
      if isBreak c then
        let kept := if c = '\u2028' ∨ c = '\u2029' then c else '\n'
        some (kept, ⟨cursor.mark.nextLine c.utf8Size, rest⟩)
      else none
  | [] => none

def skipBreak (cursor : Cursor) : Cursor :=
  match cursor.takeBreak? with
  | some (_, next) => next
  | none => cursor

def skipComment (cursor : Cursor) : Cursor :=
  match cursor.rest with
  | '#' :: _ => cursor.skipWhile fun c => !isBreak c
  | _ => cursor

/-- Whether a mark around documents stands at the cursor, at the start of a line. -/
def atDocumentMark (cursor : Cursor) : Bool :=
  cursor.column = 0 && (startsTriple '-' cursor.rest || startsTriple '.' cursor.rest)

def fail {α : Type} (cursor : Cursor) (problem : String) : Except Fault α :=
  .error ⟨problem, cursor.mark⟩

/-- Moves over blanks and a comment to the end of the line, and over the line break. -/
def finishLine (cursor : Cursor) : Except Fault Cursor :=
  let ending := (cursor.skipWhile isBlank).skipComment
  if startsBreak ending.rest then .ok ending.skipBreak
  else ending.fail "expected a comment or a line break"

end Cursor

end Retention.Yaml
