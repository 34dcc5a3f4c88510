import Retention.Monitor

/-!
# Undisturbed service

What an analysis comes to depends on the heap alone as long as its host answers from that
heap, requests no cancellation, and accepts the progress reported to it. These laws of a
host need only hold in the states that it can come to, which may differ before and during
a progress run: a tracker that is stepping refuses another setup.
-/

namespace Retention

/-- Where an analysis stands with its progress run. -/
inductive Phase where
  /-- No run of the analysis is open. -/
  | outside
  /-- The run is set up and not yet finished. -/
  | inside
deriving DecidableEq, Repr

namespace Host

variable {σ α : Type}

/-- A host answers from a heap: in whatever state it is, lookups and scans give what the
heap holds. -/
structure Answers (host : Host σ) (heap : HeapView) : Prop where
  pointer_fst : ∀ id state, (host.pointer id state).1 = heap.pointer id
  references_fst : ∀ id state, (host.references id state).1 = heap.references id

/-- A host serves a heap: it answers from the heap and, in the states that `ready` admits,
is not cancelled and accepts all progress. -/
structure Serves (host : Host σ) (heap : HeapView) (ready : Phase → σ → Prop) : Prop
    extends Answers host heap where
  not_cancelled : ∀ phase state, ready phase state → host.cancelled state = false
  pointer_ready : ∀ phase state id, ready phase state → ready phase (host.pointer id state).2
  references_ready :
    ∀ phase state id, ready phase state → ready phase (host.references id state).2
  setup_accepted : ∀ state length, ready .outside state →
    ∃ later, host.setup length state = (.ok (), later) ∧ ready .inside later
  step_accepted : ∀ state, ready .inside state →
    ∃ later, host.step state = (.ok (), later) ∧ ready .inside later
  finish_ready : ∀ state, ready .inside state → ready .outside (host.finish state)

namespace Serves

variable {host : Host σ} {heap : HeapView} {ready : Phase → σ → Prop} {phase : Phase} {state : σ}

theorem lookup (hserves : host.Serves heap ready) (id : InstanceId)
    (hready : ready phase state) :
    ∃ later, host.pointer id state = (heap.pointer id, later) ∧ ready phase later :=
  ⟨(host.pointer id state).2, Prod.ext (hserves.pointer_fst id state) rfl,
    hserves.pointer_ready phase state id hready⟩

theorem scan (hserves : host.Serves heap ready) (id : InstanceId)
    (hready : ready phase state) :
    ∃ later, host.references id state = (heap.references id, later) ∧ ready phase later :=
  ⟨(host.references id state).2, Prod.ext (hserves.references_fst id state) rfl,
    hserves.references_ready phase state id hready⟩

/-- A run around a body that is served comes to what the body comes to. -/
theorem duringRun (hserves : host.Serves heap ready) {length : Option UInt64}
    {body : σ → Except Failure α × σ} {result : Except Failure α}
    (hbody : ∀ opened, ready .inside opened →
      ∃ later, body opened = (result, later) ∧ ready .inside later)
    (hready : ready .outside state) :
    ∃ later, host.duringRun length body state = (result, later) ∧ ready .outside later := by
  obtain ⟨opened, hsetup, hopened⟩ := hserves.setup_accepted state length hready
  obtain ⟨later, hrun, hlater⟩ := hbody opened hopened
  refine ⟨host.finish later, ?_, hserves.finish_ready later hlater⟩
  simp only [Host.duringRun, hsetup, hrun]

end Serves

theorem quiet_serves (heap : HeapView) : (quiet heap).Serves heap fun _ _ => True where
  pointer_fst _ _ := rfl
  references_fst _ _ := rfl
  not_cancelled _ _ _ := rfl
  pointer_ready _ _ _ _ := trivial
  references_ready _ _ _ _ := trivial
  setup_accepted _ _ _ := ⟨(), rfl, trivial⟩
  step_accepted _ _ := ⟨(), rfl, trivial⟩
  finish_ready _ _ := trivial

end Host

namespace Progress

theorem setup_of_not_stepping {progress : Progress} (total : Option UInt64)
    (hfree : progress.state ≠ .stepping) :
    progress.setup total = (.ok (), ⟨.stepping, 0, total.map (min · maxTotal)⟩) := by
  unfold setup
  split
  next hstepping => exact absurd hstepping hfree
  next => rfl

theorem step_of_stepping {progress : Progress} (hstepping : progress.state = .stepping) :
    progress.step = (.ok (), { progress with stepsDone := progress.stepsDone + 1 }) := by
  unfold step
  rw [hstepping]

theorem setup_of_stepping {progress : Progress} (total : Option UInt64)
    (hstepping : progress.state = .stepping) :
    progress.setup total = (.error (.invalidProgress "setup" progress.state.label), progress) := by
  unfold setup
  rw [hstepping]

theorem finish_not_stepping (progress : Progress) : progress.finish.state ≠ .stepping := by
  unfold finish
  split
  next => exact ProgressState.noConfusion
  next hother => exact hother

end Progress

namespace Monitor

/-- A monitor without a request to cancel, whose tracker, if progress goes there, is free
before a run and steps during it. -/
def Ready (sink : SinkPlan) : Phase → Monitor → Prop
  | .outside, monitor =>
      monitor.cancelled = false ∧ (sink.tracked = true → monitor.tracker.state ≠ .stepping)
  | .inside, monitor =>
      monitor.cancelled = false ∧ (sink.tracked = true → monitor.tracker.state = .stepping)

variable {sink : SinkPlan} {phase : Phase} {monitor later : Monitor}

theorem Ready.not_cancelled (hready : Ready sink phase monitor) :
    monitor.cancelled = false := by
  cases phase with
  | outside => exact hready.1
  | inside => exact hready.1

/-- Calls that touch neither the token nor the tracker keep a monitor ready. -/
theorem Ready.congr (hready : Ready sink phase monitor)
    (hcancelled : later.cancelled = monitor.cancelled)
    (htracker : later.tracker = monitor.tracker) : Ready sink phase later := by
  cases phase with
  | outside => exact ⟨hcancelled.trans hready.1, htracker ▸ hready.2⟩
  | inside => exact ⟨hcancelled.trans hready.1, htracker ▸ hready.2⟩

theorem Ready.setup (length : Option UInt64) (hready : Ready sink .outside monitor) :
    ∃ later, Monitor.setup sink length monitor = (.ok (), later) ∧
      Ready sink .inside later := by
  obtain ⟨hcancelled, hfree⟩ := hready
  refine ⟨_, Prod.ext ?_ rfl, ?_⟩
  · cases htracked : sink.tracked with
    | true =>
        simp only [Monitor.setup, htracked, if_true,
          Progress.setup_of_not_stepping length (hfree htracked)]
    | false => simp [Monitor.setup, htracked]
  · cases htracked : sink.tracked with
    | true =>
        simp only [Ready, Monitor.setup, htracked, if_true,
          Progress.setup_of_not_stepping length (hfree htracked)]
        exact ⟨hcancelled, fun _ => trivial⟩
    | false => simp [Ready, Monitor.setup, htracked, hcancelled]

theorem Ready.acceptStep (hcancel : sink.cancelAtStep = none)
    (hfinish : sink.finishAtStep = none) (hready : Ready sink .inside monitor) :
    Ready sink .inside (monitor.acceptStep sink) := by
  obtain ⟨hcancelled, hstepping⟩ := hready
  refine ⟨?_, fun htracked => ?_⟩
  · simp [Monitor.acceptStep, hcancel, hcancelled]
  · simp [Monitor.acceptStep, hfinish, hstepping htracked]

theorem Ready.step (hcancel : sink.cancelAtStep = none) (hfinish : sink.finishAtStep = none)
    (hready : Ready sink .inside monitor) :
    ∃ later, Monitor.step sink monitor = (.ok (), later) ∧ Ready sink .inside later := by
  cases htracked : sink.tracked with
  | true =>
      have hstepping := hready.2 htracked
      let stepped : Monitor :=
        { monitor with
          tracker := { monitor.tracker with stepsDone := monitor.tracker.stepsDone + 1 } }
      have hstepped : Ready sink .inside stepped := ⟨hready.1, fun _ => hstepping⟩
      refine ⟨stepped.acceptStep sink, ?_, hstepped.acceptStep hcancel hfinish⟩
      simp only [Monitor.step, htracked, if_true, Progress.step_of_stepping hstepping]
      rfl
  | false =>
      refine ⟨monitor.acceptStep sink, ?_, hready.acceptStep hcancel hfinish⟩
      simp [Monitor.step, htracked]

theorem Ready.finish (hready : Ready sink .inside monitor) :
    Ready sink .outside (monitor.finish sink) := by
  refine ⟨hready.1, fun htracked => ?_⟩
  simp only [Monitor.finish, htracked, if_true]
  exact Progress.finish_not_stepping _

/-- A monitored host without plans of its own serves its heap, with a tracker as with
none. -/
theorem host_serves (heap : HeapView) {plan : HostPlan} (hplan : plan.cancelAtLookup = none)
    (hcancel : sink.cancelAtStep = none) (hfinish : sink.finishAtStep = none) :
    (Monitor.host heap plan sink).Serves heap (Ready sink) where
  pointer_fst _ _ := rfl
  references_fst _ _ := rfl
  not_cancelled _ _ hready := hready.not_cancelled
  pointer_ready phase monitor id hready := by
    refine hready.congr ?_ rfl
    simp [Monitor.host, Monitor.countLookup, hplan]
  references_ready _ _ _ hready := hready.congr rfl rfl
  setup_accepted _ length hready := hready.setup length
  step_accepted _ hready := hready.step hcancel hfinish
  finish_ready _ hready := hready.finish

theorem fresh_ready (sink : SinkPlan) : Ready sink .outside .fresh :=
  ⟨rfl, fun _ => ProgressState.noConfusion⟩

end Monitor

end Retention
