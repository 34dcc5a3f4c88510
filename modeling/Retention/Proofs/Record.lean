import Mathlib.Data.List.Basic
import Retention.Monitor
import Retention.Proofs.Lockstep

/-!
# Records of an analysis

What an analysis does is the list of calls it makes on its host. Any host can be made to keep that
list: the recorded host answers as the host does and notes every call with its result, together
with whether cancellation stood requested by the time that the call returned. Recording changes
nothing about an analysis, so statements about the log of a recorded run are statements about the
run.
-/

namespace Retention

/-- A call on a host, with the result that the host gave if it can refuse the call. -/
inductive HostCall where
  | prepare (result : Except Failure Unit)
  | lookup (id : InstanceId)
  | scan (id : InstanceId)
  | setup (length : Option UInt64) (result : Except Failure Unit)
  | step (result : Except Failure Unit)
  | finish
deriving DecidableEq, Repr

namespace HostCall

/-- The call reads the heap. -/
def reads : HostCall → Bool
  | .lookup _ => true
  | .scan _ => true
  | _ => false

def isStep : HostCall → Bool
  | .step _ => true
  | _ => false

/-- The call goes to the progress sink. -/
def onSink : HostCall → Bool
  | .setup _ _ => true
  | .step _ => true
  | .finish => true
  | _ => false

end HostCall

/-- A call that was made, and whether cancellation stood requested when it returned. -/
structure Record where
  call : HostCall
  cancelled : Bool
deriving DecidableEq, Repr

/-- The state of a recorded host. -/
structure Recorded (σ : Type) where
  state : σ
  /-- The calls made so far, in order. -/
  log : List Record

namespace Recorded

variable {σ : Type}

def start (state : σ) : Recorded σ :=
  ⟨state, []⟩

/-- The calls made so far on the progress sink. -/
def sinkCalls (recorded : Recorded σ) : List HostCall :=
  (recorded.log.map Record.call).filter HostCall.onSink

end Recorded

namespace Host

variable {σ : Type}

/-- The recorded state after a call that left the host in `state`. -/
def note (host : Host σ) (recorded : Recorded σ) (call : HostCall) (state : σ) : Recorded σ :=
  ⟨state, recorded.log ++ [⟨call, host.cancelled state⟩]⟩

theorem sinkCalls_note (host : Host σ) (recorded : Recorded σ) (call : HostCall) (state : σ) :
    (host.note recorded call state).sinkCalls =
      recorded.sinkCalls ++ [call].filter HostCall.onSink := by
  simp only [Recorded.sinkCalls, note, List.map_append, List.filter_append, List.map_cons,
    List.map_nil]

/-- The host that keeps a log of the calls made on it. -/
def recorded (host : Host σ) : Host (Recorded σ) where
  prepare recorded :=
    let (result, state) := host.prepare recorded.state
    (result, host.note recorded (.prepare result) state)
  pointer id recorded :=
    let (answer, state) := host.pointer id recorded.state
    (answer, host.note recorded (.lookup id) state)
  references id recorded :=
    let (answer, state) := host.references id recorded.state
    (answer, host.note recorded (.scan id) state)
  cancelled recorded := host.cancelled recorded.state
  setup length recorded :=
    let (result, state) := host.setup length recorded.state
    (result, host.note recorded (.setup length result) state)
  step recorded :=
    let (result, state) := host.step recorded.state
    (result, host.note recorded (.step result) state)
  finish recorded := host.note recorded .finish (host.finish recorded.state)

/-- Recording a host changes none of its answers. -/
theorem recorded_lockstep (host : Host σ) :
    host.recorded.Lockstep host fun recorded state => recorded.state = state where
  cancelled := by
    rintro recorded _ rfl
    rfl
  prepare := by
    rintro recorded _ rfl
    exact ⟨rfl, rfl⟩
  pointer := by
    rintro recorded _ id rfl
    exact ⟨rfl, rfl⟩
  references := by
    rintro recorded _ id rfl
    exact ⟨rfl, rfl⟩
  setup := by
    rintro recorded _ length rfl
    exact ⟨rfl, rfl⟩
  step := by
    rintro recorded _ rfl
    exact ⟨rfl, rfl⟩
  finish := by
    rintro recorded _ rfl
    rfl

end Host

namespace Analysis

variable {σ α : Type}

/-- The calls that an analysis makes on a host, in order. -/
def log (analysis : Analysis α) (host : Host σ) (state : σ) : List Record :=
  (analysis host.recorded (.start state)).2.log

/-- The calls that an analysis makes on the progress sink, in order. -/
def sinkCalls (analysis : Analysis α) (host : Host σ) (state : σ) : List HostCall :=
  (analysis host.recorded (.start state)).2.sinkCalls

/-- A recorded run is the run itself. -/
theorem Uniform.recorded {analysis : Analysis α} (huniform : Uniform analysis) (host : Host σ)
    (state : σ) :
    (analysis host.recorded (.start state)).1 = (analysis host state).1 ∧
      (analysis host.recorded (.start state)).2.state = (analysis host state).2 :=
  huniform host.recorded_lockstep rfl

end Analysis

namespace Host

variable {σ : Type}

/-- Cancellation is requested during look-ups and steps only, and is never withdrawn. -/
structure TokenLaws (host : Host σ) : Prop where
  pointer : ∀ {state} id, host.cancelled state = true →
    host.cancelled (host.pointer id state).2 = true
  step : ∀ {state}, host.cancelled state = true → host.cancelled (host.step state).2 = true
  prepare : ∀ state, host.cancelled (host.prepare state).2 = host.cancelled state
  references : ∀ state id, host.cancelled (host.references id state).2 = host.cancelled state
  setup : ∀ state length, host.cancelled (host.setup length state).2 = host.cancelled state
  finish : ∀ state, host.cancelled (host.finish state) = host.cancelled state

end Host

namespace Monitor

variable {sink : SinkPlan} {monitor : Monitor}

theorem cancelled_acceptStep (hcancelled : monitor.cancelled = true) :
    (monitor.acceptStep sink).cancelled = true := by
  unfold acceptStep
  simp only [hcancelled, Bool.true_or]

theorem cancelled_step (hcancelled : monitor.cancelled = true) :
    (Monitor.step sink monitor).2.cancelled = true := by
  unfold Monitor.step
  split
  · split
    · exact hcancelled
    · exact cancelled_acceptStep hcancelled
  · exact cancelled_acceptStep hcancelled

theorem cancelled_setup (sink : SinkPlan) (length : Option UInt64) (monitor : Monitor) :
    (Monitor.setup sink length monitor).2.cancelled = monitor.cancelled := by
  unfold Monitor.setup
  simp only
  split
  · rfl
  · rfl

/-- A monitored host cancels at the look-up and after the step that it plans to, and at no other
time. -/
theorem host_tokenLaws (heap : HeapView) (plan : HostPlan) (sink : SinkPlan) :
    (Monitor.host heap plan sink).TokenLaws where
  pointer := by
    intro monitor id hcancelled
    change (monitor.cancelled || _) = true
    rw [show monitor.cancelled = true from hcancelled, Bool.true_or]
  step hcancelled := cancelled_step hcancelled
  prepare _ := rfl
  references _ _ := rfl
  setup monitor length := cancelled_setup sink length monitor
  finish _ := rfl

end Monitor

end Retention
