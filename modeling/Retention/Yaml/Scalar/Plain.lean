import Retention.Yaml.Gap

/-!
# Plain scalars

A plain scalar has no quotes. It ends before a comment, a mark around documents, a colon
that a blank follows, or, inside brackets, any bracket or comma; outside brackets it also
ends where a line starts left of the least column. Pieces on several lines are folded.
-/

namespace Retention.Yaml.Plain

/-- The brackets and the comma of flow collections. -/
def isFlowIndicator (c : Char) : Bool :=
  c = ',' || c = '[' || c = ']' || c = '\x7b' || c = '\x7d'

/-- Whether a colon stands directly before a flow indicator or a question mark, where it
is not allowed in brackets. -/
def startsStrayColon : List Char → Bool
  | ':' :: c :: _ => isFlowIndicator c || c = '?'
  | _ => false

/-- The piece of a plain scalar at the start of a text. -/
def piece (inFlow : Bool) : List Char → List Char
  | [] => []
  | c :: rest =>
      if isBlank c || isBreak c then []
      else if inFlow && startsStrayColon (c :: rest) then []
      else if c = ':' && startsBlank rest then []
      else if inFlow && isFlowIndicator c then []
      else c :: piece inFlow rest

/-- A scalar that has been read. -/
structure Reading where
  text : List Char
  cursor : Cursor
  /-- Whether line breaks were read behind the last piece. -/
  crossedLine : Bool
deriving Repr

/-- Reads on behind a gap. `text` is what has been read before the gap. Every round reads
a piece and the gap behind it; `fuel` bounds the rounds. -/
def readFrom (inFlow : Bool) (least : Nat) :
    Nat → List Char → Gap → Cursor → Except Fault Reading
  | 0, text, gap, cursor => .ok ⟨text, cursor, !gap.breaks.isEmpty⟩
  | fuel + 1, text, gap, cursor =>
      let ended : Reading := ⟨text, cursor, !gap.breaks.isEmpty⟩
      if cursor.atDocumentMark || cursor.rest.head? == some '#' then .ok ended
      else
        let taken := piece inFlow cursor.rest
        let after := cursor.skip taken.length
        if inFlow && startsStrayColon after.rest then after.fail "unexpected colon"
        else if taken.isEmpty then .ok ended
        else
          let text := text ++ gap.fold ++ taken
          if startsBlank after.rest && !after.rest.isEmpty then
            let (gap, next) := Gap.read least after
            if gap.strayTab then next.fail "a tab stands in the indentation"
            else if !inFlow && next.column < least then
              .ok ⟨text, next, !gap.breaks.isEmpty⟩
            else readFrom inFlow least fuel text gap next
          else .ok ⟨text, after, false⟩

/-- Reads a plain scalar. A continued line may start in column `least` or later. -/
def read (inFlow : Bool) (least : Nat) (cursor : Cursor) : Except Fault Reading :=
  readFrom inFlow least (cursor.rest.length + 1) [] .empty cursor

end Retention.Yaml.Plain
