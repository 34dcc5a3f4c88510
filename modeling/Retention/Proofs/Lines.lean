import Mathlib.Algebra.Order.Ring.Nat
import Retention.Yaml.Outline

/-!
# Readers of lines

A line of a key and a value that need no quotes is read as two plain scalars, and lines as
the mapping of the keys to the values. That much is asked of a reader, and by it alone what
settings come out of their text is decided: where a reader finds its nodes, and what else
it can read, makes no difference.
-/

namespace Retention.Yaml

/-! ## Words -/

/-- A character that words are made of: a character of plain words, or one of another
script. -/
def isScript (c : Char) : Bool :=
  isWordChar c
    || (0xA0 ≤ c.toNat && isAllowed c && !isBreak c && c != Scanner.byteOrderMark)

/-- A text that is read as one plain scalar wherever it stands outside brackets. -/
structure IsWord (word : List Char) : Prop where
  nonempty : word ≠ []
  script : ∀ c ∈ word, isScript c = true

/-- The number of bytes of a text. -/
def bytes (text : List Char) : Nat :=
  (text.map Char.utf8Size).sum

/-! ## Lines -/

/-- A line of a key and a value that are both read as plain scalars. -/
structure IsLine (line : String × String) : Prop where
  key : IsWord line.1.toList
  /-- The colon is in reach of the key. -/
  size : bytes line.1.toList ≤ 1024
  value : IsWord line.2.toList
  /-- The value does not look like the entry of a sequence. -/
  hyphen : line.2.toList.head? ≠ some '-'

/-- The characters of lines, each ended by a line feed. -/
def linesText : List (String × String) → List Char
  | [] => []
  | line :: rest =>
      line.1.toList ++ ':' :: ' ' :: (line.2.toList ++ '\n' :: linesText rest)

/-- A text that consists of some lines. The last of them may lack its line feed. -/
inductive Consists (lines : List (String × String)) (text : List Char) : Prop where
  | ended (htext : text = linesText lines)
  | broken (htext : text ++ ['\n'] = linesText lines)

/-! ## Nodes of lines -/

/-- A plain scalar as a node. -/
def plainHead (text : String) (mark : Mark) : Head :=
  ⟨.scalar ⟨.plain, text⟩, none, mark⟩

/-- The start of a mapping as a node. -/
def mappingHead (mark : Mark) : Head :=
  ⟨.mapping, none, mark⟩

/-- Nodes are the keys and values of lines by turns, wherever they stand. -/
inductive Lists : List (String × String) → List Head → Prop where
  | nil : Lists [] []
  | cons {rest : List (String × String)} {heads : List Head} (line : String × String)
      (mark mark' : Mark) (hrest : Lists rest heads) :
      Lists (line :: rest) (plainHead line.1 mark :: plainHead line.2 mark' :: heads)

/-! ## Laws -/

/-- The laws of readers: lines are a mapping of plain scalars, and a key behind lines is
listed behind them, whatever the text goes on with, unless something is wrong with it. -/
class LawfulReader [Reader] : Prop where
  outline_lines : ∀ {lines : List (String × String)} {text : String},
    (∀ line ∈ lines, IsLine line) → lines ≠ [] → Consists lines text.toList →
    ∃ mark heads, Lists lines heads ∧
      Reader.outline text = ⟨(mappingHead mark :: heads).map Entry.node, none⟩
  outline_key : ∀ {lines : List (String × String)} {key rest : List Char} {text : String},
    (∀ line ∈ lines, IsLine line) → IsWord key → startsBlank rest = true →
    rest.all isAllowed = true → text.toList = linesText lines ++ (key ++ ':' :: rest) →
    (∃ fault, (Reader.outline text).fault = some fault) ∨
      ∃ mark heads mark' more, Lists lines heads ∧
        (Reader.outline text).entries =
          (mappingHead mark :: heads ++ [plainHead (String.ofList key) mark']).map Entry.node
            ++ more

end Retention.Yaml
