import Retention.Yaml.Cursor

/-!
# Block scalars

The lines of a block scalar are indented alike. A literal scalar keeps their breaks; a
folded one joins lines by a space, except next to lines that start with a blank. The
header may fix the indentation and say what becomes of the breaks at the end.
-/

namespace Retention.Yaml.Block

/-- The two kinds of block scalars. -/
inductive Kind where
  | literal
  | folded
deriving DecidableEq, Repr

/-- What becomes of the line breaks at the end. -/
inductive Chomping where
  /-- All are dropped. -/
  | strip
  /-- One is kept. -/
  | clip
  /-- All are kept. -/
  | keep
deriving DecidableEq, Repr

/-- What the header of a block scalar says. -/
structure Header where
  chomping : Chomping
  /-- The indentation on top of that of the parent, if it is fixed. -/
  increment : Option Nat
deriving Repr

def readChomping (cursor : Cursor) : Option Chomping × Cursor :=
  match cursor.rest with
  | '+' :: _ => (some .keep, cursor.skip 1)
  | '-' :: _ => (some .strip, cursor.skip 1)
  | _ => (none, cursor)

/-- Reads an indentation indicator, which is one digit and not zero. -/
def readIncrement (cursor : Cursor) : Except Fault (Option Nat × Cursor) :=
  match cursor.rest with
  | c :: _ =>
      if c = '0' then cursor.fail "an indentation of zero"
      else if c.isDigit then .ok (some (c.toNat - '0'.toNat), cursor.skip 1)
      else .ok (none, cursor)
  | [] => .ok (none, cursor)

/-- Reads the header and the rest of its line. The two indicators come in any order. -/
def readHeader (cursor : Cursor) : Except Fault (Header × Cursor) := do
  let (first, cursor) := readChomping cursor
  let (increment, cursor) ← readIncrement cursor
  let (chomping, cursor) :=
    match first with
    | some chomping => (some chomping, cursor)
    | none => if increment.isSome then readChomping cursor else (none, cursor)
  let cursor ← cursor.finishLine
  return (⟨chomping.getD .clip, increment⟩, cursor)

/-- Line breaks that have been passed, and the widest indentation among their lines. -/
structure Breaks where
  breaks : List Char
  widest : Nat
  cursor : Cursor
deriving Repr

/-- Passes empty lines and the indentation of the first other line. Without a known
`indent`, all spaces count as indentation. -/
def passBreaks (indent : Option Nat) :
    Nat → List Char → Nat → Cursor → Except Fault Breaks
  | 0, breaks, widest, cursor => .ok ⟨breaks.reverse, widest, cursor⟩
  | fuel + 1, breaks, widest, cursor =>
      let spaces := cursor.rest.takeWhile (· = ' ')
      let room :=
        match indent with
        | some indent => min spaces.length (indent - cursor.column)
        | none => spaces.length
      let cursor := cursor.skip room
      let widest := max widest cursor.column
      let isShort := indent.all (cursor.column < ·)
      if isShort && cursor.rest.head? == some '\t' then
        cursor.fail "a tab stands in the indentation"
      else
        match cursor.takeBreak? with
        | some (c, next) => passBreaks indent fuel (c :: breaks) widest next
        | none => .ok ⟨breaks.reverse, widest, cursor⟩

/-- The lines of a block scalar while they are read. -/
structure Lines where
  text : List Char
  /-- The break behind the last line. -/
  lineBreak : List Char
  /-- The breaks of the empty lines behind that. -/
  emptyBreaks : List Char
  /-- Whether the last line starts with a blank. -/
  startsBlank : Bool
deriving Repr

/-- The text of the lines so far, up to a new line that starts with a blank or not. -/
def Lines.joined (kind : Kind) (lines : Lines) (nextBlank : Bool) : List Char :=
  if kind = .folded ∧ lines.lineBreak = ['\n'] ∧ !lines.startsBlank ∧ !nextBlank then
    if lines.emptyBreaks.isEmpty then lines.text ++ [' '] else lines.text ++ lines.emptyBreaks
  else lines.text ++ lines.lineBreak ++ lines.emptyBreaks

/-- Reads the lines that stand at the indentation. Every round reads a line and the empty
lines behind it; `fuel` bounds the rounds. -/
def readLines (kind : Kind) (indent : Nat) :
    Nat → Lines → Cursor → Except Fault (Lines × Cursor)
  | 0, lines, cursor => .ok (lines, cursor)
  | fuel + 1, lines, cursor =>
      if cursor.column = indent ∧ !cursor.rest.isEmpty then
        let blank := cursor.rest.head?.any isBlank
        let joined := lines.joined kind blank
        let (line, after) := cursor.span fun c => !isBreak c
        let (lineBreak, after) :=
          match after.takeBreak? with
          | some (c, next) => ([c], next)
          | none => ([], after)
        match passBreaks (some indent) (after.rest.length + 1) [] 0 after with
        | .error fault => .error fault
        | .ok breaks =>
            readLines kind indent fuel
              ⟨joined ++ line, lineBreak, breaks.breaks, blank⟩ breaks.cursor
      else .ok (lines, cursor)

def Lines.finish (chomping : Chomping) (lines : Lines) : List Char :=
  match chomping with
  | .strip => lines.text
  | .clip => lines.text ++ lines.lineBreak
  | .keep => lines.text ++ lines.lineBreak ++ lines.emptyBreaks

/-- Reads a block scalar behind its indicator. Its lines stand further in than `parent`,
the column of the enclosing block collection. -/
def read (kind : Kind) (parent : Option Nat) (cursor : Cursor) :
    Except Fault (List Char × Cursor) := do
  let least := max 1 (parent.elim 0 (· + 1))
  let (header, cursor) ← readHeader cursor
  let fixed := header.increment.map (· + parent.getD 0)
  let first ← passBreaks fixed (cursor.rest.length + 1) [] 0 cursor
  let indent := fixed.getD (max first.widest least)
  let fuel := first.cursor.rest.length + 1
  let (lines, cursor) ← readLines kind indent fuel ⟨[], [], first.breaks, false⟩ first.cursor
  return (lines.finish header.chomping, cursor)

end Retention.Yaml.Block
