import Retention.Instance

/-!
# Failures

Why an operation gives no result. Interruption and running out of memory are expected
ends of a long analysis; an inconsistency says that the nearest-root pointers and the
references of a snapshot disagree; the others are misuse or trouble outside the heap.

Every text a failure is shown with is decided here.
-/

namespace Retention

/-- A disagreement between the nearest-root pointers and the references of a heap. -/
inductive Inconsistency where
  /-- The pointer of `source` names `expected`, to which `source` holds no reference. -/
  | missingEdge (source expected : InstanceId)
  /-- The walk from `start` came to `revisited` a second time. -/
  | pointerCycle (start revisited : InstanceId)
  /-- The walk from `start` came to `stranded`, which has no pointer. -/
  | danglingPointer (start stranded : InstanceId)
  /-- The pointers from `start` do not settle within `limit` hops. -/
  | chainTooLong (start : InstanceId) (limit : UInt64)
deriving DecidableEq, Repr

/-- The text of an inconsistency names the instances involved. -/
def Inconsistency.message : Inconsistency → String
  | .missingEdge source expected =>
      source.display ++ " has no reference to its nearest-root pointer " ++ expected.display
  | .pointerCycle start revisited =>
      "nearest-root pointers from " ++ start.display ++ " loop back to " ++ revisited.display
  | .danglingPointer start stranded =>
      stranded.display ++ " on the root path of " ++ start.display
        ++ " has no nearest-root pointer"
  | .chainTooLong start limit =>
      "nearest-root pointers from " ++ start.display ++ " exceed " ++ limit.toNat.repr ++ " hops"

/-- What is wrong with a setting or with a request that settings and groups must allow. -/
inductive ConfigProblem where
  /-- A page has to hold at least one node. -/
  | zeroPageSize
  /-- The hop budget has to allow at least one hop. -/
  | zeroRootDistance
  /-- A group of `count` members has no member `index`. -/
  | memberOutOfRange (index count : Nat)
  /-- A settings text that does not describe settings, with the reader's explanation. -/
  | unreadable (explanation : String)
  /-- A problem that a host states in its own words. -/
  | stated (text : String)
deriving DecidableEq, Repr

def ConfigProblem.message : ConfigProblem → String
  | .zeroPageSize => "max-page-nodes must be at least 1"
  | .zeroRootDistance => "max-root-distance must be at least 1"
  | .memberOutOfRange index count =>
      "member index " ++ index.repr ++ " out of range for group of " ++ count.repr
  | .unreadable explanation => explanation
  | .stated text => text

/-- What keeps a file from being read or written. -/
inductive FileProblem where
  /-- Nothing is there, or the directory to hold it is missing. -/
  | notFound
  /-- The path names a directory. -/
  | isDirectory
  /-- The bytes are not text. -/
  | notText
  /-- A problem that a host states in its own words. -/
  | stated (text : String)
deriving DecidableEq, Repr

/-- The text of a file problem, as the operating system words it. -/
def FileProblem.message : FileProblem → String
  | .notFound => "No such file or directory (os error 2)"
  | .isDirectory => "Is a directory (os error 21)"
  | .notText => "stream did not contain valid UTF-8"
  | .stated text => text

/-- Why an operation gives no result. -/
inductive Failure where
  /-- Cancellation was noticed on the way. -/
  | interrupted
  /-- There was no room for the bookkeeping named by `context`. -/
  | outOfMemory (context : String)
  /-- The heap contradicts itself. -/
  | inconsistent (inconsistency : Inconsistency)
  /-- A progress sink does not allow `operation` in `state`. A host's own sink may name
  operations and states of its own. -/
  | invalidProgress (operation state : String)
  /-- The configuration, or a request against it, is wrong. -/
  | config (problem : ConfigProblem)
  /-- A file could not be used. -/
  | file (problem : FileProblem)
deriving DecidableEq, Repr

namespace Failure

def message : Failure → String
  | .interrupted => "operation interrupted"
  | .outOfMemory context => "out of memory while " ++ context
  | .inconsistent inconsistency => "inconsistent heap: " ++ inconsistency.message
  | .invalidProgress operation state =>
      "progress `" ++ operation ++ "` is not valid in state " ++ state
  | .config problem => "configuration error: " ++ problem.message
  | .file problem => "I/O error: " ++ problem.message

/-- The label of a result that was lost for want of memory. -/
def outOfMemoryLabel : String :=
  "<out of memory - results incomplete>"

/-- What a viewer shows in place of the result. Expected ends have labels of their own;
any other failure is its text in angle brackets. -/
def userMessage : Failure → String
  | .interrupted => "<operation interrupted>"
  | .outOfMemory _ => outOfMemoryLabel
  | failure => "<" ++ failure.message ++ ">"

/-- Whether the operation stopped because it was cancelled. -/
def isInterrupted : Failure → Bool
  | .interrupted => true
  | _ => false

def isOutOfMemory : Failure → Bool
  | .outOfMemory _ => true
  | _ => false

/-- The disagreement behind a failure that blames the heap. -/
def inconsistency? : Failure → Option Inconsistency
  | .inconsistent inconsistency => some inconsistency
  | _ => none

/-- The file problem behind a failure that has one. -/
def cause? : Failure → Option FileProblem
  | .file problem => some problem
  | _ => none

end Failure

end Retention
