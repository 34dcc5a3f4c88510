import Retention.Progress

/-!
# Progress in words

A tracker is looked at while it is in use, so it is kept in three words, each of which is read and
written at once: a code for the state, the steps done, and the total. The greatest number is kept
back to stand for an unknown total; a known one is at most the number before it.
-/

namespace Retention

/-- A tracker as it is kept. -/
structure ProgressWords where
  code : UInt8
  stepsDone : UInt64
  total : UInt64
deriving DecidableEq, Repr

namespace ProgressWords

def unstartedCode : UInt8 := 0

def steppingCode : UInt8 := 1

def finishedCode : UInt8 := 2

/-- What the total is while the length of the run is unknown. -/
def unknownTotal : UInt64 :=
  18446744073709551615

def unstarted : ProgressWords :=
  ⟨unstartedCode, 0, unknownTotal⟩

def state (words : ProgressWords) : ProgressState :=
  if words.code = steppingCode then .stepping
  else if words.code = finishedCode then .finished
  else .unstarted

/-- The snapshot of a tracker. -/
def read (words : ProgressWords) : Progress where
  state := words.state
  stepsDone := words.stepsDone
  total := if words.total = unknownTotal then none else some words.total

/-- Starts a run, unless one is in progress. The counters are written before the code, so that
nobody sees the new run with old counters. -/
def start (total : UInt64) (words : ProgressWords) : Except Failure Unit × ProgressWords :=
  if words.code = steppingCode then
    (.error (.invalidProgress "setup" words.state.label), words)
  else
    let words := { words with stepsDone := 0, total := total }
    (.ok (), { words with code := steppingCode })

def setup (length : Option UInt64) (words : ProgressWords) : Except Failure Unit × ProgressWords :=
  match length with
  | some total => words.start (min total (unknownTotal - 1))
  | none => words.start unknownTotal

def step (words : ProgressWords) : Except Failure Unit × ProgressWords :=
  if words.state = .stepping then
    (.ok (), { words with stepsDone := words.stepsDone + 1 })
  else (.error (.invalidProgress "step" words.state.label), words)

def finish (words : ProgressWords) : ProgressWords :=
  if words.code = steppingCode then { words with code := finishedCode } else words

end ProgressWords

end Retention
