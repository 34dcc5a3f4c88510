import Retention.Yaml.Collection

/-!
# Documents

The nodes of the first document of a text, in the order in which they start.
-/

namespace Retention.Yaml

/-- A node in its document. -/
structure Placed where
  node : Node
  /-- Whether it is the top node or stands directly in it. -/
  isOuter : Bool
deriving DecidableEq, Repr

/-- The nodes of a document, or of a part of it, and how they end: with the tokens behind
them, or in a fault. -/
structure Walk where
  nodes : List Placed
  ending : Reading (List Located)
deriving Repr

namespace Walk

def stopped (problem : Option Fault) : Walk :=
  ⟨[], .error problem⟩

def behind (node : Option Node) (isOuter : Bool) (walk : Walk) : Walk :=
  match node with
  | some node => { walk with nodes := ⟨node, isOuter⟩ :: walk.nodes }
  | none => walk

/-- Walks to the end of the open collections, the outermost of which is the top node. Every
round is a step; `fuel` bounds the rounds. -/
def throughFrames (handles : Handles) : Nat → List Frame → List Located → Walk
  | _, [], tokens => ⟨[], .ok tokens⟩
  | 0, _ :: _, _ => stopped none
  | fuel + 1, frame :: outer, tokens =>
      match frame.step handles tokens with
      | .error problem => stopped problem
      | .ok step =>
          (throughFrames handles fuel (step.frames ++ outer) step.rest).behind step.node
            outer.isEmpty

/-- The number of rounds that the collections among some tokens can take. A token opens at
most one collection, and of four rounds one passes a token. -/
def rounds (tokens : List Located) : Nat :=
  4 * (tokens.length + 1)

def throughNode (handles : Handles) (tokens : List Located) : Walk :=
  match takeNode handles .block [] tokens with
  | .error problem => stopped problem
  | .ok step =>
      (throughFrames handles (rounds step.rest) step.frames step.rest).behind step.node true

end Walk

/-! ## Directives -/

/-- The handles that directives have explained, and the tokens behind them. -/
structure Prologue where
  handles : Handles
  rest : List Located
deriving Repr

def readDirectives : List Located → Handles → Bool → Reading Prologue
  | ⟨.version major minor, mark⟩ :: rest, handles, versionGiven =>
      if versionGiven then .error (some ⟨"a second version", mark⟩)
      else if major = 1 ∧ (minor = 1 ∨ minor = 2) then readDirectives rest handles true
      else .error (some ⟨"unknown version", mark⟩)
  | ⟨.tagHandle handle expansion, mark⟩ :: rest, handles, versionGiven =>
      if (handles.lookup handle).isSome then
        .error (some ⟨"a second meaning of a handle", mark⟩)
      else readDirectives rest (handles ++ [(handle, expansion)]) versionGiven
  | rest, handles, _ => .ok ⟨handles, rest⟩

/-- Whether a token starts a document that says so. -/
def startsExplicit : Token → Bool
  | .version _ _ => true
  | .tagHandle _ _ => true
  | .documentStart => true
  | _ => false

/-- Whether a document is empty if this token comes first in it. -/
def endsDocument : Token → Bool
  | .streamEnd => true
  | .documentEnd => true
  | token => startsExplicit token

namespace Walk

/-- Walks through a document behind its directives. -/
def throughExplicit (prologue : Prologue) : Walk :=
  match prologue.rest with
  | [] => stopped none
  | ⟨.documentStart, _⟩ :: rest =>
      match rest with
      | [] => stopped none
      | next :: _ =>
          if endsDocument next.token then ⟨[⟨.empty next.mark, true⟩], .ok rest⟩
          else throughNode (prologue.handles ++ Handles.known) rest
  | next :: _ => stopped (some ⟨"expected the start of a document", next.mark⟩)

/-- Walks through the first document. A text without one has no nodes. -/
def throughText (tokens : List Located) : Walk :=
  match tokens with
  | [] => stopped none
  | first :: _ =>
      if first.token = .streamEnd then ⟨[], .ok tokens⟩
      else if startsExplicit first.token then
        match readDirectives tokens [] false with
        | .error problem => stopped problem
        | .ok prologue => throughExplicit prologue
      else throughNode Handles.known tokens

end Walk

/-- The fault of a text that goes on behind its first document. -/
def secondDocument : Fault :=
  ⟨"deserializing from YAML containing more than one document is not supported", none⟩

/-- Accepts what stands behind a document if it is nothing but marks of its end. What cannot
be read behind such a mark counts as another document. -/
def acceptRest (isMarked : Bool) : List Located → Reading Unit
  | [] => .error (if isMarked then some secondDocument else none)
  | ⟨.streamEnd, _⟩ :: _ => .ok ()
  | ⟨.documentEnd, _⟩ :: rest => acceptRest true rest
  | _ => .error (some secondDocument)

end Retention.Yaml
