import Retention.Yaml.Anchor
import Retention.Yaml.Scanner

/-!
# Outlines

What a flat reader needs to know of a text: the top node of its first document and, if
that is a collection, the nodes that stand directly in it, of a mapping its keys and
values by turns. Of a collection among these only the start is listed, but what is in it
has been read, since it may hold anchors and faults.
-/

namespace Retention.Yaml

/-- A node as an outline lists it. -/
inductive Entry where
  | node (head : Head)
  /-- An alias at `mark`, and the node that it stands for. -/
  | alias (mark : Mark) (head : Head)
deriving DecidableEq, Repr

/-- The entry of a node, an alias leading to the last node of its number. -/
def Anchors.entry? (anchors : Anchors) : NumberedNode → Option Entry
  | .head head => some (.node head)
  | .alias number mark => (anchors.heads.lookup number).map (.alias mark)

/-- The outline of a text. -/
structure Outline where
  /-- The top node, and then what stands directly in it. There is none in a text without a
  document. -/
  entries : List Entry
  /-- What keeps the rest from being read. -/
  fault : Option Fault
deriving DecidableEq, Repr

namespace Outline

/-- The outline of tokens, which a fault may have ended early. -/
def ofTokens (tokens : List Located) (fault : Option Fault) : Outline :=
  let walk := Walk.throughText tokens
  let numbered := Numbered.ofNodes walk.nodes .none
  let ending :=
    match walk.ending >>= acceptRest false with
    | .error problem => problem.or fault
    | .ok () => none
  ⟨numbered.nodes.filterMap numbered.anchors.entry?, numbered.unknown.or ending⟩

def ofText (text : String) : Outline :=
  let (tokens, fault) := Located.scan text
  ofTokens tokens fault

end Outline

/-- Readers of texts, which go by the outlines that they give. -/
class Reader where
  outline : String → Outline

instance : Reader where
  outline := Outline.ofText

end Retention.Yaml
