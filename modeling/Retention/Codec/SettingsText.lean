import Retention.Codec.Settings
import Retention.Text.Blank
import Retention.Yaml.Core

/-!
# Settings as text

Settings are kept in a text of lines, a key and a value each. A text may leave settings
out, give them in any order and use whatever YAML offers for writing a flat mapping. It is
for a reader to outline the text. The first problem in the order of the text is the one
that is reported.
-/

namespace Retention

namespace Yaml

/-- A mismatch, where it shows, and under which key. -/
structure Complaint where
  reason : Mismatch
  key : Option String
  mark : Mark
deriving DecidableEq, Repr

/-- The text of a complaint. The very start of a text is not mentioned as a place. -/
def Complaint.message (complaint : Complaint) : String :=
  (complaint.key.elim "" (· ++ ": ")) ++ complaint.reason.message wording
    ++ (if complaint.mark.line = 0 ∧ complaint.mark.column = 0 then ""
        else " at " ++ complaint.mark.describe)

/-- Why a text gives no value. -/
inductive Problem where
  | fault (fault : Fault)
  | complaint (complaint : Complaint)
deriving DecidableEq, Repr

def Problem.message : Problem → String
  | .fault reason => reason.message
  | .complaint reason => reason.message

def Entry.head : Entry → Head
  | .node head => head
  | .alias _ head => head

/-- The key that an entry is to what is said about its value. The text of an alias is not
known there. -/
def Entry.keyName (entry : Entry) : String :=
  match entry with
  | .node ⟨.scalar scalar, _, _⟩ => scalar.text
  | _ => "?"

/-! ## Values -/

/-- A place for a value: its key, and where the mapping starts that it stands in. -/
structure Place where
  key : String
  mapping : Mark
deriving Repr

def Place.refuse {α : Type} (place : Place) (reason : Mismatch) (mark : Mark) :
    Except Problem α :=
  .error (.complaint ⟨reason, some place.key, mark⟩)

def readSize (place : Place) (entry : Entry) : Except Problem UInt64 :=
  let head := entry.head
  match (Core.readable? head "int").bind fun text => Core.unsigned? text.toList with
  | some n =>
      if n < UInt64.size then .ok (UInt64.ofNat n)
      else place.refuse (Core.complaint head "usize") head.mark
  | none => place.refuse (Core.complaint head "usize") head.mark

def readBool (place : Place) (entry : Entry) : Except Problem Bool :=
  let head := entry.head
  match (Core.readable? head "bool").bind Core.bool? with
  | some value => .ok value
  | none => place.refuse (Core.complaint head "a boolean") head.mark

/-- The name that a local tag gives. The lone exclamation mark is a name itself. -/
def localName? (head : Head) : Option String :=
  match head.tag with
  | some tag =>
      if Core.isLocal tag then
        let name := if tag.length = 1 then tag else tag.drop 1
        String.fromUTF8? ⟨name.toArray⟩
      else none
  | none => none

/-- Whether a node stands for nothing, besides its tag. -/
def isEmptyNode (head : Head) : Bool :=
  match head.content with
  | .scalar ⟨.plain, text⟩ => text.isEmpty || Core.isNull text
  | _ => false

/-- Why a node that is not empty is refused behind a tag that names a choice. -/
def surplus (head : Head) : Mismatch :=
  match head.content with
  | .scalar scalar => .invalidValue (.text scalar.text) "null"
  | .sequence => .invalidType .sequence "unit"
  | .mapping => .invalidType .mapping "unit"

/-- Complains about a name that is not among the variants. It shows at its own node, or,
when it is the tag of one, where what holds the node starts. -/
def refuseTag {α : Type} (place : Place) (entry : Entry) (reason : Mismatch) :
    Except Problem α :=
  match entry with
  | .node _ => .error (.complaint ⟨reason, none, place.mapping⟩)
  | .alias mark _ => place.refuse reason mark

/-- Reads a choice between names: a scalar with the name, or an empty node with the name
for a tag. -/
def readChoice {α : Type} (variants : List (String × α)) (place : Place) (entry : Entry) :
    Except Problem α :=
  let head := entry.head
  let known := variants.map Prod.fst
  match localName? head with
  | some name =>
      match variants.lookup name with
      | some value =>
          if isEmptyNode head then .ok value
          else place.refuse (surplus head) head.mark
      | none => refuseTag place entry (.unknownVariant name known)
  | none =>
      match head.content with
      | .scalar scalar =>
          match variants.lookup scalar.text with
          | some value => .ok value
          | none => place.refuse (.unknownVariant scalar.text known) head.mark
      | .sequence =>
          place.refuse (.invalidType .sequence "a YAML tag starting with '!'") head.mark
      | .mapping =>
          place.refuse (.invalidType .mapping "a YAML tag starting with '!'") head.mark

end Yaml

namespace Settings

open Yaml

/-! ## Writing -/

def boolLabel (value : Bool) : String :=
  if value then "true" else "false"

def lines (settings : Settings) : List (String × String) :=
  [("max-page-nodes", settings.maxPageNodes.toNat.repr),
    ("missing-edge", settings.missingEdge.label),
    ("overflow", settings.overflow.label),
    ("max-root-distance", settings.maxRootDistance.toNat.repr),
    ("parallel-aggregation", boolLabel settings.parallelAggregation)]

def writeLine (line : String × String) : String :=
  line.1 ++ ": " ++ line.2 ++ "\n"

def toText (settings : Settings) : String :=
  String.join (settings.lines.map writeLine)

/-! ## Reading -/

def refuseWhole {α : Type} (reason : Mismatch) (mark : Mark) : Except Problem α :=
  .error (.complaint ⟨reason, none, mark⟩)

/-- The settings that may be given. -/
inductive Name where
  | maxPageNodes
  | missingEdge
  | overflow
  | maxRootDistance
  | parallelAggregation
deriving DecidableEq, Repr

/-- The names of the settings as they are written. -/
def Name.all : List (String × Name) :=
  [("max-page-nodes", .maxPageNodes), ("missing-edge", .missingEdge), ("overflow", .overflow),
    ("max-root-distance", .maxRootDistance), ("parallel-aggregation", .parallelAggregation)]

def Draft.has (draft : Draft) : Name → Bool
  | .maxPageNodes => draft.maxPageNodes.isSome
  | .missingEdge => draft.missingEdge.isSome
  | .overflow => draft.overflow.isSome
  | .maxRootDistance => draft.maxRootDistance.isSome
  | .parallelAggregation => draft.parallelAggregation.isSome

def Draft.give (draft : Draft) (place : Place) (entry : Entry) :
    Name → Except Problem Draft
  | .maxPageNodes =>
      (readSize place entry).map fun size => { draft with maxPageNodes := some size }
  | .missingEdge =>
      (readChoice MissingEdgePolicy.names place entry).map fun policy =>
        { draft with missingEdge := some policy }
  | .overflow =>
      (readChoice OverflowMode.names place entry).map fun mode =>
        { draft with overflow := some mode }
  | .maxRootDistance =>
      (readSize place entry).map fun size => { draft with maxRootDistance := some size }
  | .parallelAggregation =>
      (readBool place entry).map fun flag => { draft with parallelAggregation := some flag }

/-- Recognizes a key of a mapping that starts at `mapping`. -/
def readName (mapping : Mark) (draft : Draft) (entry : Entry) : Except Problem Name :=
  let head := entry.head
  match head.content with
  | .scalar scalar =>
      match Name.all.lookup scalar.text with
      | some name =>
          if draft.has name then refuseWhole (.duplicateField scalar.text) mapping
          else .ok name
      | none => refuseWhole (.unknownField scalar.text fieldNames) head.mark
  | .sequence => refuseWhole (.invalidType .sequence "field identifier") head.mark
  | .mapping => refuseWhole (.invalidType .mapping "field identifier") head.mark

def readEntries (mapping : Mark) : List Entry → Draft → Except Problem Draft
  | [], draft => .ok draft
  | key :: rest, draft =>
      match readName mapping draft key with
      | .error problem => .error problem
      | .ok name =>
          match rest with
          | [] => .ok draft
          | value :: rest =>
              match draft.give ⟨key.keyName, mapping⟩ value name with
              | .error problem => .error problem
              | .ok draft => readEntries mapping rest draft

/-- Reads the entries of an outline. A document that is empty gives nothing. -/
def readOutline : List Entry → Except Problem Draft
  | [] => .ok .blank
  | top :: rest =>
      let head := top.head
      match head.content with
      | .mapping => readEntries head.mark rest .blank
      | .scalar ⟨.plain, ""⟩ => .ok .blank
      | _ => refuseWhole (Core.complaint head title) head.mark

/-- Reads settings from the outline of a text. What can be read is looked at before the
fault that keeps the rest from being read. -/
def ofOutline (outline : Outline) : Except Problem Settings :=
  match readOutline outline.entries, outline.fault with
  | .error problem, _ => .error problem
  | .ok _, some fault => .error (.fault fault)
  | .ok draft, none => .ok draft.complete

/-- Reads settings from a text, without checking them. A blank text gives the defaults. -/
def parse [Reader] (text : String) : Except Problem Settings :=
  if text.toList.all Text.isBlank then .ok default
  else ofOutline (Reader.outline text)

/-- Accepts settings that can drive an analysis. -/
def checked (settings : Settings) : Except Failure Settings :=
  match settings.problem? with
  | some problem => .error (.config problem)
  | none => .ok settings

def ofText [Reader] (text : String) : Except Failure Settings :=
  match parse text with
  | .error problem => .error (.config (.unreadable problem.message))
  | .ok settings => settings.checked

/-! ## Files -/

/-- Loads settings from what reading a file has given. -/
def load [Reader] (contents : Except FileProblem ByteArray) : Except Failure Settings :=
  match contents with
  | .error problem => .error (.file problem)
  | .ok bytes =>
      match String.fromUTF8? bytes with
      | some text => ofText text
      | none => .error (.file .notText)

/-- Saves settings by writing a file. They are not checked. -/
def save (write : String → Except FileProblem Unit) (settings : Settings) :
    Except Failure Unit :=
  match write settings.toText with
  | .error problem => .error (.file problem)
  | .ok () => .ok ()

end Settings

end Retention
