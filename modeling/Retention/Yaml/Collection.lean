import Retention.Yaml.Node

/-!
# Collections

The open collections around a place in a text form a stack of frames. A frame says what
the innermost of them waits for; with the next tokens it gives at most one node and is
replaced by the frames that wait for the rest.
-/

namespace Retention.Yaml

/-- What an open collection waits for. -/
inductive Frame where
  /-- An entry of a block sequence, or its end. -/
  | blockEntry
  /-- An entry of a sequence in a block mapping that is not indented. -/
  | flatEntry
  /-- A key of a block mapping, or its end. -/
  | blockKey
  | blockValue
  /-- An entry of a flow sequence, or its end. -/
  | flowEntry (isFirst : Bool)
  /-- The key of a mapping that is a single pair in a flow sequence. -/
  | pairKey
  | pairValue
  | pairEnd
  /-- A key of a flow mapping, or its end. -/
  | flowKey (isFirst : Bool)
  /-- A value of a flow mapping. An entry that no key indicator starts has none. -/
  | flowValue (isOpen : Bool)
deriving DecidableEq, Repr

/-! ## Nodes and what they open -/

/-- Where a node stands, which decides how it may be written. -/
inductive Position where
  /-- At the top, or in a block sequence. -/
  | block
  /-- In a block mapping, where a sequence need not be indented. -/
  | blockMapping
  /-- In a flow collection. -/
  | flow
deriving DecidableEq, Repr

/-- What starts with a token: the content of a node and, of a collection, its frame. -/
def contentOf? (position : Position) : Token → Option (Content × List Frame)
  | .scalar scalar => some (.scalar scalar, [])
  | .flowSequenceStart => some (.sequence, [.flowEntry true])
  | .flowMappingStart => some (.mapping, [.flowKey true])
  | .blockSequenceStart =>
      if position = .flow then none else some (.sequence, [.blockEntry])
  | .blockMappingStart => if position = .flow then none else some (.mapping, [.blockKey])
  | .blockEntry => if position = .blockMapping then some (.sequence, [.flatEntry]) else none
  | _ => none

/-- What the tokens in front give: a node or none, the frames that are now waiting,
innermost first, and the tokens that are left. -/
structure Step where
  node : Option Node
  frames : List Frame
  rest : List Located
deriving Repr

def Step.close (rest : List Located) : Step :=
  ⟨none, [], rest⟩

/-- Takes the place in front of a token for an empty node. -/
def Step.empty (mark : Mark) (next : Frame) (rest : List Located) : Step :=
  ⟨some (.empty mark), [next], rest⟩

/-- Takes the first token of a node, and its properties. A node with an anchor or a tag may
be empty. The hyphen of a sequence that is not indented belongs to its first entry. -/
def takeNode (handles : Handles) (position : Position) (next : List Frame)
    (tokens : List Located) : Reading Step := do
  match tokens with
  | ⟨.alias name, mark⟩ :: rest => return ⟨some (.alias name mark), next, rest⟩
  | _ =>
      let (properties, rest) := takeProperties tokens
      match rest with
      | [] => .error none
      | first :: others =>
          let tag ←
            match properties.tag with
            | some (tag, mark) => (handles.resolve tag mark).map some
            | none => .ok none
          let mark := properties.mark.getD first.mark
          match contentOf? position first.token with
          | some (content, opened) =>
              let node := Node.head properties.anchor ⟨content, tag, mark⟩
              let left := if first.token = .blockEntry then rest else others
              return ⟨some node, opened ++ next, left⟩
          | none =>
              if properties.mark.isSome then
                let node := Node.head properties.anchor ⟨.scalar ⟨.plain, ""⟩, tag, mark⟩
                return ⟨some node, next, rest⟩
              else first.refuse "expected a node"

/-- Takes the node behind an indicator. If a token comes that satisfies `isEnd`, the node is
empty and stands at `stop`, or where that token starts. -/
def takeBehind (handles : Handles) (position : Position) (isEnd : Token → Bool)
    (stop : Option Mark) (next : Frame) (tokens : List Located) : Reading Step :=
  match tokens with
  | [] => .error none
  | first :: _ =>
      if isEnd first.token then .ok (.empty (stop.getD first.mark) next tokens)
      else takeNode handles position [next] tokens

/-! ## Ends of nodes -/

/-- Whether no node stands in front of a token of a block sequence. -/
def endsBlockEntry : Token → Bool
  | .blockEntry => true
  | .blockEnd => true
  | _ => false

/-- Whether no node stands in front of a token of a block mapping. -/
def endsBlockNode : Token → Bool
  | .key _ => true
  | .value _ => true
  | .blockEnd => true
  | _ => false

/-- Whether no node stands in front of a token of a sequence that is not indented. -/
def endsFlatEntry (token : Token) : Bool :=
  token = .blockEntry || endsBlockNode token

/-- Whether no value stands in front of a token of a flow sequence. -/
def endsPairValue : Token → Bool
  | .flowEntry => true
  | .flowSequenceEnd => true
  | _ => false

/-- Whether no value stands in front of a token of a flow mapping. -/
def endsFlowValue : Token → Bool
  | .flowEntry => true
  | .flowMappingEnd => true
  | _ => false

/-- Whether no key stands in front of a token of a flow collection, where a value may. -/
def endsFlowKey (endsValue : Token → Bool) : Token → Bool
  | .value _ => true
  | token => endsValue token

/-- Passes the comma in front of an entry other than the first. -/
def passComma (isFirst : Bool) (tokens : List Located) : Reading (List Located) :=
  match tokens with
  | [] => .error none
  | first :: rest =>
      if isFirst then .ok tokens
      else if first.token = .flowEntry then .ok rest
      else first.refuse "expected a comma or a closing bracket"

/-! ## Steps -/

/-- Goes on with a flow sequence in front of an entry or its end. -/
def stepFlowSequence (handles : Handles) (tokens : List Located) : Reading Step :=
  match tokens with
  | [] => .error none
  | ⟨.flowSequenceEnd, _⟩ :: rest => .ok (.close rest)
  | ⟨.key _, mark⟩ :: rest =>
      .ok ⟨some (.head none ⟨.mapping, none, mark⟩), [.pairKey, .flowEntry false], rest⟩
  | _ => takeNode handles .flow [.flowEntry false] tokens

/-- Goes on with a flow mapping in front of an entry or its end. -/
def stepFlowMapping (handles : Handles) (tokens : List Located) : Reading Step :=
  match tokens with
  | [] => .error none
  | ⟨.flowMappingEnd, _⟩ :: rest => .ok (.close rest)
  | ⟨.key _, _⟩ :: rest =>
      takeBehind handles .flow (endsFlowKey endsFlowValue) none (.flowValue true) rest
  | _ => takeNode handles .flow [.flowValue false] tokens

def Frame.step (handles : Handles) (frame : Frame) (tokens : List Located) : Reading Step :=
  match tokens with
  | [] => .error none
  | first :: rest =>
      match frame, first.token with
      | .blockEntry, .blockEntry =>
          takeBehind handles .block endsBlockEntry (first.mark.after '-') .blockEntry rest
      | .blockEntry, .blockEnd => .ok (.close rest)
      | .blockEntry, _ => first.refuse "expected an entry"
      | .flatEntry, .blockEntry =>
          takeBehind handles .block endsFlatEntry (first.mark.after '-') .flatEntry rest
      | .flatEntry, _ => .ok (.close tokens)
      | .blockKey, .key stop =>
          takeBehind handles .blockMapping endsBlockNode stop .blockValue rest
      | .blockKey, .blockEnd => .ok (.close rest)
      | .blockKey, _ => first.refuse "expected a key"
      | .blockValue, .value stop =>
          takeBehind handles .blockMapping endsBlockNode stop .blockKey rest
      | .blockValue, _ => .ok (.empty first.mark .blockKey tokens)
      | .flowEntry _, .flowSequenceEnd => .ok (.close rest)
      | .flowEntry isFirst, _ => passComma isFirst tokens >>= stepFlowSequence handles
      | .pairKey, token =>
          if endsFlowKey endsPairValue token then
            .ok (.empty (first.mark.after ':') .pairValue rest)
          else takeNode handles .flow [.pairValue] tokens
      | .pairValue, .value _ => takeBehind handles .flow endsPairValue none .pairEnd rest
      | .pairValue, _ => .ok (.empty first.mark .pairEnd tokens)
      | .pairEnd, _ => .ok (.close tokens)
      | .flowKey _, .flowMappingEnd => .ok (.close rest)
      | .flowKey isFirst, _ => passComma isFirst tokens >>= stepFlowMapping handles
      | .flowValue true, .value _ =>
          takeBehind handles .flow endsFlowValue none (.flowKey false) rest
      | .flowValue _, _ => .ok (.empty first.mark (.flowKey false) tokens)

end Retention.Yaml
