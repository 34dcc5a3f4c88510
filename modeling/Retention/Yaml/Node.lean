import Retention.Yaml.Token

/-!
# Nodes

A node is a scalar, a collection, or an alias for a node that has an anchor. Here a
collection is known by its start alone; its parts are nodes of their own.
-/

namespace Retention.Yaml

/-- What a node is made of. -/
inductive Content where
  | scalar (scalar : Scalar)
  | sequence
  | mapping
deriving DecidableEq, Repr

/-- A node apart from its anchor and its parts. -/
structure Head where
  content : Content
  tag : Option TagBytes
  mark : Mark
deriving DecidableEq, Repr

/-- A node as it is written, its anchor or alias still a name. -/
inductive Node where
  | head (anchor : Option String) (head : Head)
  | alias (name : String) (mark : Mark)
deriving DecidableEq, Repr

def Node.empty (mark : Mark) : Node :=
  .head none ⟨.scalar ⟨.plain, ""⟩, none, mark⟩

/-- A result, or why there is none: without a fault, because the tokens end too early. -/
abbrev Reading (α : Type) : Type :=
  Except (Option Fault) α

def Located.refuse {α : Type} (token : Located) (problem : String) : Reading α :=
  .error (some ⟨problem, token.mark⟩)

/-! ## Properties -/

/-- What the handles of tags stand for. -/
abbrev Handles : Type :=
  List (String × TagBytes)

/-- The full names of tags without an explained handle start like this. -/
def schemaTags : String :=
  "tag:yaml.org,2002:"

/-- The handles that every document knows. -/
def Handles.known : Handles :=
  [("!", "!".toUTF8.toList), ("!!", schemaTags.toUTF8.toList)]

def Handles.resolve (handles : Handles) (tag : TagName) (mark : Mark) : Reading TagBytes :=
  if tag.handle.isEmpty then .ok tag.suffix
  else
    match handles.lookup tag.handle with
    | some expansion => .ok (expansion ++ tag.suffix)
    | none => .error (some ⟨"unknown tag handle", mark⟩)

/-- The anchor and the tag of a node. -/
structure Properties where
  anchor : Option String
  tag : Option (TagName × Mark)
  /-- Where the first of them starts. -/
  mark : Option Mark
deriving Repr

/-- Takes the anchor and the tag in front of a node, which may come in either order. -/
def takeProperties : List Located → Properties × List Located
  | ⟨.anchor name, mark⟩ :: ⟨.tag tag, tagMark⟩ :: rest =>
      (⟨some name, some (tag, tagMark), some mark⟩, rest)
  | ⟨.tag tag, mark⟩ :: ⟨.anchor name, _⟩ :: rest =>
      (⟨some name, some (tag, mark), some mark⟩, rest)
  | ⟨.anchor name, mark⟩ :: rest => (⟨some name, none, some mark⟩, rest)
  | ⟨.tag tag, mark⟩ :: rest => (⟨none, some (tag, mark), some mark⟩, rest)
  | tokens => (⟨none, none, none⟩, tokens)

end Retention.Yaml
