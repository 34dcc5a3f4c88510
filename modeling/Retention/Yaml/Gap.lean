import Retention.Yaml.Cursor

/-!
# Gaps inside scalars

The blanks and line breaks between two pieces of a scalar. Inside a line they are kept.
Across lines they are folded: a single line feed becomes a space, and of several the
first is dropped.
-/

namespace Retention.Yaml

/-- The white space between two pieces of a scalar. -/
structure Gap where
  /-- The blanks before the first line break. -/
  blanks : List Char
  breaks : List Char
  /-- Whether a tab stands before the least column that a continued line may start in. -/
  strayTab : Bool
deriving Repr

namespace Gap

def empty : Gap :=
  ⟨[], [], false⟩

def fold (gap : Gap) : List Char :=
  match gap.breaks with
  | [] => gap.blanks
  | '\n' :: [] => [' ']
  | '\n' :: others => others
  | breaks => breaks

/-- Reads on in a gap, the breaks of which have been read in reverse. A round passes
blanks and at most one break; `fuel` bounds the rounds. -/
def readBreaks (least : Nat) : Nat → List Char → Bool → Cursor → List Char × Bool × Cursor
  | 0, breaks, strayTab, cursor => (breaks.reverse, strayTab, cursor)
  | fuel + 1, breaks, strayTab, cursor =>
      let (blanks, after) := cursor.span isBlank
      let indent := blanks.takeWhile (· = ' ')
      let strayTab := strayTab
        || (indent.length < blanks.length && cursor.column + indent.length < least)
      match after.takeBreak? with
      | some (c, next) => readBreaks least fuel (c :: breaks) strayTab next
      | none => (breaks.reverse, strayTab, after)

/-- Reads a gap. A continued line may start in column `least` or later. -/
def read (least : Nat) (cursor : Cursor) : Gap × Cursor :=
  let (blanks, after) := cursor.span isBlank
  match after.takeBreak? with
  | some (c, next) =>
      let (breaks, strayTab, next) := readBreaks least (next.rest.length + 1) [c] false next
      (⟨blanks, breaks, strayTab⟩, next)
  | none => (⟨blanks, [], false⟩, after)

end Gap

end Retention.Yaml
