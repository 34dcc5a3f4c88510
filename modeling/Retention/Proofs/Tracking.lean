import Mathlib
import Retention.Proofs.Refusals
import Retention.Proofs.Service
import Retention.Proofs.Trail

/-!
# Trackers behind sinks

A tracker is in the state that its own transitions lead to over the calls made on the sink in front
of it. Since analyses bracket those calls, each finishes the run that it sets up: between analyses a
tracker is never left stepping, and none is refused on account of one before it. Requests for room
do not reach the sink, so what memory refuses an aggregation makes no difference to this.
-/

namespace Retention

variable {σ : Type} {own : Failure → Prop} {tracker : σ → Progress} {progress later : Progress}

namespace Progress

/-- A sink in front of a tracker takes a call: it passes the call on, or refuses a setup or a step
of its own accord, with a failure of the kind `own`. -/
inductive Responds (own : Failure → Prop) (progress : Progress) : HostCall → Progress → Prop where
  | setup (length : Option UInt64) :
      Responds own progress (.setup length (progress.setup length).1) (progress.setup length).2
  | step : Responds own progress (.step progress.step.1) progress.step.2
  | finish : Responds own progress .finish progress.finish
  | refusedSetup (length : Option UInt64) {failure : Failure} (hown : own failure) :
      Responds own progress (.setup length (.error failure)) progress
  | refusedStep {failure : Failure} (hown : own failure) :
      Responds own progress (.step (.error failure)) progress

theorem Responds.accepted {length : Option UInt64}
    (hresponds : Responds own progress (.setup length (.ok ())) later) :
    progress.state ≠ .stepping ∧ later = ⟨.stepping, 0, length.map (min · maxTotal)⟩ := by
  generalize hcall : HostCall.setup length (.ok ()) = call at hresponds
  cases hresponds with
  | setup _ =>
      obtain ⟨rfl, hresult⟩ := HostCall.setup.inj hcall
      by_cases hstepping : progress.state = .stepping
      · rw [setup_of_stepping _ hstepping] at hresult
        cases hresult
      · rw [setup_of_not_stepping _ hstepping]
        exact ⟨hstepping, rfl⟩
  | refusedSetup => cases hcall
  | step => cases hcall
  | refusedStep => cases hcall
  | finish => cases hcall

/-- A setup is refused while a run is in progress, or of the sink's own accord. -/
theorem Responds.refused {length : Option UInt64} {failure : Failure}
    (hresponds : Responds own progress (.setup length (.error failure)) later) :
    later = progress ∧ (progress.state = .stepping ∨ own failure) := by
  generalize hcall : HostCall.setup length (.error failure) = call at hresponds
  cases hresponds with
  | setup _ =>
      obtain ⟨rfl, hresult⟩ := HostCall.setup.inj hcall
      by_cases hstepping : progress.state = .stepping
      · rw [setup_of_stepping _ hstepping]
        exact ⟨rfl, .inl hstepping⟩
      · rw [setup_of_not_stepping _ hstepping] at hresult
        cases hresult
  | refusedSetup _ hown =>
      cases hcall
      exact ⟨rfl, .inr hown⟩
  | step => cases hcall
  | refusedStep => cases hcall
  | finish => cases hcall

/-- The tracker comes from one state to another over calls on the sink. -/
inductive Follows (own : Failure → Prop) : Progress → List HostCall → Progress → Prop where
  | nil (progress : Progress) : Follows own progress [] progress
  | cons {progress middle later : Progress} {call : HostCall} {calls : List HostCall}
      (hcall : Responds own progress call middle) (hcalls : Follows own middle calls later) :
      Follows own progress (call :: calls) later

theorem Follows.concat {last : Progress} {calls : List HostCall} {call : HostCall}
    (hcalls : Follows own progress calls later) (hcall : Responds own later call last) :
    Follows own progress (calls ++ [call]) last := by
  induction hcalls with
  | nil progress => exact .cons hcall (.nil last)
  | cons hfirst _ ih => exact .cons hfirst (ih hcall)

/-- A tracker that steps counts the steps it accepts, and refuses none. -/
theorem Follows.steps {done : UInt64} {total : Option UInt64}
    {steps : List (Except Failure Unit)}
    (hfollows : Follows own ⟨.stepping, done, total⟩ (steps.map .step ++ [.finish]) later) :
    later = ⟨.finished, done + UInt64.ofNat (steps.count (.ok ())), total⟩ ∧
      ∀ failure, .error failure ∈ steps → own failure := by
  induction steps generalizing done with
  | nil =>
      obtain _ | ⟨hfinish, hnil⟩ := hfollows
      cases hfinish
      cases hnil
      refine ⟨?_, fun _ hmem => nomatch hmem⟩
      change _ = Progress.mk _ (done + 0) _
      rw [UInt64.add_zero]
      rfl
  | cons result rest ih =>
      obtain _ | ⟨hstep, hrest⟩ := hfollows
      cases hstep with
      | step =>
          obtain ⟨hlater, hown⟩ := ih hrest
          refine ⟨?_, fun failure hmem => hown failure ?_⟩
          · change _ = Progress.mk _ (done + UInt64.ofNat ((Except.ok () :: rest).count (.ok ()))) _
            rw [hlater, List.count_cons_self, UInt64.ofNat_add, UInt64.add_comm (UInt64.ofNat _),
              ← UInt64.add_assoc]
            rfl
          · exact (List.mem_cons.mp hmem).resolve_left fun heq => nomatch heq
      | refusedStep hown =>
          obtain ⟨hlater, hrefused⟩ := ih hrest
          refine ⟨?_, fun failure hmem => ?_⟩
          · rw [List.count_cons_of_ne (by simp)]
            exact hlater
          · rcases List.mem_cons.mp hmem with heq | hmem
            · cases heq
              exact hown
            · exact hrefused failure hmem

/-- A run that a tracker has taken was set up while it was free, and is finished. -/
theorem Follows.progressRun {length : Option UInt64} {steps : List (Except Failure Unit)}
    (hfollows : Follows own progress (progressRun length steps) later) :
    progress.state ≠ .stepping ∧ (∀ failure, .error failure ∈ steps → own failure) ∧
      later = ⟨.finished, UInt64.ofNat (steps.count (.ok ())), length.map (min · maxTotal)⟩ := by
  obtain _ | ⟨hsetup, hrest⟩ := hfollows
  obtain ⟨hfree, rfl⟩ := hsetup.accepted
  obtain ⟨hlater, hown⟩ := hrest.steps
  rw [UInt64.zero_add] at hlater
  exact ⟨hfree, hown, hlater⟩

theorem Follows.refused {length : Option UInt64} {failure : Failure}
    (hfollows : Follows own progress [.setup length (.error failure)] later) :
    later = progress ∧ (progress.state = .stepping ∨ own failure) := by
  obtain _ | ⟨hsetup, hrest⟩ := hfollows
  cases hrest
  exact hsetup.refused

end Progress

/-- The progress sink of a host stands in front of a tracker, which no other call concerns. -/
structure Host.Tracks (host : Host σ) (own : Failure → Prop) (tracker : σ → Progress) : Prop where
  prepare : ∀ state, tracker (host.prepare state).2 = tracker state
  pointer : ∀ state id, tracker (host.pointer id state).2 = tracker state
  references : ∀ state id, tracker (host.references id state).2 = tracker state
  setup : ∀ state length, Progress.Responds own (tracker state)
    (.setup length (host.setup length state).1) (tracker (host.setup length state).2)
  step : ∀ state, Progress.Responds own (tracker state) (.step (host.step state).1)
    (tracker (host.step state).2)
  finish : ∀ state, Progress.Responds own (tracker state) .finish (tracker (host.finish state))

/-- Requests for room do not concern the tracker. -/
def Memory.Spares (memory : Memory σ) (tracker : σ → Progress) : Prop :=
  ∀ bookkeeping state, tracker (memory.grants bookkeeping state).2 = tracker state

/-- A monitored host passes all progress on to its tracker, unless it is to end runs itself. -/
theorem Monitor.host_tracks (heap : HeapView) (plan : HostPlan) {sink : SinkPlan}
    (own : Failure → Prop) (htracked : sink.tracked = true) (hfinish : sink.finishAtStep = none) :
    (Monitor.host heap plan sink).Tracks own Monitor.tracker where
  prepare _ := rfl
  pointer _ _ := rfl
  references _ _ := rfl
  setup monitor length := by
    change Progress.Responds own _ (.setup length (Monitor.setup sink length monitor).1)
      (Monitor.setup sink length monitor).2.tracker
    simp only [Monitor.setup, htracked, if_true]
    exact .setup length
  step monitor := by
    have hresult : (Monitor.step sink monitor).1 = monitor.tracker.step.1 ∧
        (Monitor.step sink monitor).2.tracker = monitor.tracker.step.2 := by
      unfold Monitor.step
      rw [if_pos htracked]
      split
      next failure tracker hstep => exact ⟨by rw [hstep], by rw [hstep]⟩
      next tracker hstep => exact ⟨by rw [hstep], by simp [acceptStep, hfinish, hstep]⟩
    change Progress.Responds own _ (.step (Monitor.step sink monitor).1) _
    rw [hresult.1]
    exact hresult.2 ▸ .step
  finish monitor := by
    change Progress.Responds own _ _ (Monitor.finish sink monitor).tracker
    simp only [Monitor.finish, htracked, if_true]
    exact .finish

/-- The tracker has followed all calls made on the sink since `begun`. -/
def Tracked (own : Failure → Prop) (tracker : σ → Progress) (begun : σ)
    (recorded : Recorded σ) : Prop :=
  Progress.Follows own (tracker begun) recorded.sinkCalls (tracker recorded.state)

section Tracked

variable {host : Host σ} {recorded : Recorded σ} {begun state : σ} {call : HostCall}

theorem Tracked.elsewhere (htracked : Tracked own tracker begun recorded)
    (hcall : call.onSink = false) (hsame : tracker state = tracker recorded.state) :
    Tracked own tracker begun (host.note recorded call state) := by
  unfold Tracked at htracked ⊢
  rw [Host.sinkCalls_note, List.filter_cons_of_neg (Bool.eq_false_iff.mp hcall), List.filter_nil,
    List.append_nil]
  exact hsame ▸ htracked

theorem Tracked.onSink (htracked : Tracked own tracker begun recorded)
    (hcall : call.onSink = true)
    (hresponds : Progress.Responds own (tracker recorded.state) call (tracker state)) :
    Tracked own tracker begun (host.note recorded call state) := by
  unfold Tracked at htracked ⊢
  rw [Host.sinkCalls_note, List.filter_cons_of_pos hcall, List.filter_nil]
  exact htracked.concat hresponds

theorem Host.Tracks.keeps (htracks : host.Tracks own tracker) (begun : σ) :
    host.recorded.Keeps (Tracked own tracker begun) where
  prepare htracked := htracked.elsewhere rfl (htracks.prepare _)
  pointer id htracked := htracked.elsewhere rfl (htracks.pointer _ id)
  references id htracked := htracked.elsewhere rfl (htracks.references _ id)
  setup length htracked := htracked.onSink rfl (htracks.setup _ length)
  step htracked := htracked.onSink rfl (htracks.step _)
  finish htracked := htracked.onSink rfl (htracks.finish _)

theorem Memory.Spares.keeps {memory : Memory σ} (hspares : memory.Spares tracker) (begun : σ) :
    memory.recorded.Keeps (Tracked own tracker begun) where
  grants {recorded} bookkeeping htracked := by
    unfold Tracked at htracked ⊢
    exact hspares bookkeeping recorded.state ▸ htracked

end Tracked

/-- The tracker behind a sink follows all calls that an analysis makes there. -/
theorem Analysis.Uniform.follows {α : Type} {analysis : Analysis α} (huniform : Uniform analysis)
    {host : Host σ} (htracks : host.Tracks own tracker) (state : σ) :
    Progress.Follows own (tracker state) (Analysis.sinkCalls analysis host state)
      (tracker (analysis host state).2) := by
  have hstart : Tracked own tracker state (.start state) := .nil (tracker state)
  have htracked := huniform.keeps (htracks.keeps state) hstart
  obtain ⟨-, hstate⟩ := huniform.recorded host state
  rwa [Tracked, hstate] at htracked

/-! ## Sequences of analyses -/

/-- One analysis of a sequence, with the host that serves it and, for an aggregation, the memory
that it asks for room. An aggregation that does not ask is the one with `Memory.ample`, by
`Analyzer.aggregateReserving_ample`. -/
inductive Job (σ : Type) where
  | path (analyzer : Analyzer) (host : Host σ) (id : InstanceId)
  | aggregation (analyzer : Analyzer) (memory : Memory σ) (host : Host σ)
      (instances : List InstanceId) (expected : UInt64)

namespace Job

/-- The sink of the job stands in front of the tracker, and nothing else of the job concerns it. -/
def Tracks (own : Failure → Prop) (tracker : σ → Progress) : Job σ → Prop
  | .path _ host _ => host.Tracks own tracker
  | .aggregation _ memory host _ _ => host.Tracks own tracker ∧ memory.Spares tracker

/-- The state that a job leaves behind, whatever it comes to. -/
def perform : Job σ → σ → σ
  | .path analyzer host id, state => (analyzer.buildPath host id state).2
  | .aggregation analyzer memory host instances expected, state =>
      (analyzer.aggregateReserving memory host instances expected state).2

def sinkCalls : Job σ → σ → List HostCall
  | .path analyzer host id, state =>
      Analysis.sinkCalls (fun host => analyzer.buildPath host id) host state
  | .aggregation analyzer memory host instances expected, state =>
      (analyzer.aggregateReserving memory.recorded host.recorded instances expected
        (.start state)).2.sinkCalls

/-- The state that a sequence of jobs leaves behind. -/
def performAll (jobs : List (Job σ)) (state : σ) : σ :=
  jobs.foldl (fun state job => job.perform state) state

variable {job : Job σ}

theorem sinkCalls_shape (job : Job σ) (state : σ) :
    job.sinkCalls state = [] ∨
      (∃ length failure, job.sinkCalls state = [.setup length (.error failure)]) ∨
      ∃ length steps, job.sinkCalls state = progressRun length steps := by
  cases job with
  | path analyzer host id => exact (analyzer.buildPath_bracketed host state id).shape
  | aggregation analyzer memory host instances expected =>
      exact (analyzer.aggregateReserving_bracketed memory host instances expected state).shape

theorem follows (htracks : job.Tracks own tracker) (state : σ) :
    Progress.Follows own (tracker state) (job.sinkCalls state) (tracker (job.perform state)) := by
  cases job with
  | path analyzer host id =>
      exact Analysis.Uniform.follows (analyzer.buildPath_uniform id) htracks state
  | aggregation analyzer memory host instances expected =>
      obtain ⟨hhost, hmemory⟩ := htracks
      have hstart : Tracked own tracker state (.start state) := .nil (tracker state)
      have htracked := analyzer.aggregateReserving_keeps (hmemory.keeps state) (hhost.keeps state)
        instances expected hstart
      obtain ⟨-, hstate⟩ :=
        analyzer.aggregateReserving_recorded memory host instances expected state
      rwa [Tracked, hstate] at htracked

/-- A tracker that is free refuses nothing that a job reports, and has finished its run. -/
theorem tracked_of_free (htracks : job.Tracks own tracker) {state : σ}
    (hfree : (tracker state).state ≠ .stepping) :
    (job.sinkCalls state = [] ∧ tracker (job.perform state) = tracker state) ∨
      (∃ length failure, own failure ∧ job.sinkCalls state = [.setup length (.error failure)] ∧
        tracker (job.perform state) = tracker state) ∨
      ∃ length steps, job.sinkCalls state = progressRun length steps ∧
        (∀ failure, .error failure ∈ steps → own failure) ∧
        tracker (job.perform state) = ⟨.finished, UInt64.ofNat (steps.count (.ok ())),
          length.map (min · Progress.maxTotal)⟩ := by
  have hfollows := follows htracks state
  rcases job.sinkCalls_shape state with hcalls | ⟨length, failure, hcalls⟩ | ⟨length, steps, hcalls⟩
  · rw [hcalls] at hfollows
    generalize hlater : tracker (job.perform state) = later at hfollows
    cases hfollows
    exact .inl ⟨hcalls, rfl⟩
  · rw [hcalls] at hfollows
    obtain ⟨hlater, hrefused⟩ := hfollows.refused
    exact .inr (.inl ⟨length, failure, hrefused.resolve_left hfree, hcalls, hlater⟩)
  · rw [hcalls] at hfollows
    obtain ⟨-, hown, hlater⟩ := hfollows.progressRun
    exact .inr (.inr ⟨length, steps, hcalls, hown, hlater⟩)

/-- A tracker that steps is left as it was, and refuses the run of a job. -/
theorem tracked_of_stepping (htracks : job.Tracks own tracker) {state : σ}
    (hstepping : (tracker state).state = .stepping) :
    tracker (job.perform state) = tracker state ∧
      (job.sinkCalls state = [] ∨
        ∃ length failure, job.sinkCalls state = [.setup length (.error failure)]) := by
  have hfollows := follows htracks state
  rcases job.sinkCalls_shape state with hcalls | ⟨length, failure, hcalls⟩ | ⟨length, steps, hcalls⟩
  · rw [hcalls] at hfollows
    generalize hlater : tracker (job.perform state) = later at hfollows
    cases hfollows
    exact ⟨rfl, .inl hcalls⟩
  · rw [hcalls] at hfollows
    exact ⟨hfollows.refused.1, .inr ⟨length, failure, hcalls⟩⟩
  · rw [hcalls] at hfollows
    exact absurd hstepping hfollows.progressRun.1

theorem perform_not_stepping (htracks : job.Tracks own tracker) {state : σ}
    (hfree : (tracker state).state ≠ .stepping) :
    (tracker (job.perform state)).state ≠ .stepping := by
  rcases tracked_of_free htracks hfree with
    ⟨-, hlater⟩ | ⟨_, _, -, -, hlater⟩ | ⟨_, _, -, -, hlater⟩
  · rwa [hlater]
  · rwa [hlater]
  · rw [hlater]
    exact ProgressState.noConfusion

theorem performAll_not_stepping (jobs : List (Job σ)) {state : σ}
    (htracks : ∀ job ∈ jobs, job.Tracks own tracker)
    (hfree : (tracker state).state ≠ .stepping) :
    (tracker (performAll jobs state)).state ≠ .stepping := by
  induction jobs generalizing state with
  | nil => exact hfree
  | cons job rest ih =>
      refine ih (fun job hmem => htracks job (List.mem_cons_of_mem _ hmem)) ?_
      exact perform_not_stepping (htracks job List.mem_cons_self) hfree

theorem performAll_of_stepping (jobs : List (Job σ)) {state : σ}
    (htracks : ∀ job ∈ jobs, job.Tracks own tracker)
    (hstepping : (tracker state).state = .stepping) :
    tracker (performAll jobs state) = tracker state := by
  induction jobs generalizing state with
  | nil => rfl
  | cons job rest ih =>
      obtain ⟨hlater, -⟩ := tracked_of_stepping (htracks job List.mem_cons_self) hstepping
      have hrest := ih (fun job hmem => htracks job (List.mem_cons_of_mem _ hmem))
        (hlater ▸ hstepping)
      exact hrest.trans hlater

end Job

/-! ## Brackets -/

/-- Progress is bracketed on every way out, also where memory refuses the room that an aggregation
asks for. The sink calls of an analysis are none at all, one refused setup, or a setup, the steps
and a finish. So in a sequence of analyses that come to anything whatever, a tracker that is free at
the beginning is free after each of them, refuses nothing, and finishes every run with the steps of
that run; one that is stepping at the beginning is left as it was by all. -/
theorem progress_bracketed :
    (∀ (analyzer : Analyzer) (host : Host σ) (state : σ),
      (∀ id, Bracketed (analyzer.buildPath host id state).1 (analyzer.SilentPath host state id) none
        (Orderly (analyzer.buildPath host id state).1 Path.HasHops)
        (Analysis.sinkCalls (fun host => analyzer.buildPath host id) host state)) ∧
      (∀ instances expected, analyzer.AggregationBracketed
        (analyzer.aggregate host instances expected state).1
        (analyzer.SilentAggregation host state instances expected) instances expected
        (Analysis.sinkCalls (fun host => analyzer.aggregate host instances expected) host
          state)) ∧
      ∀ memory instances expected, analyzer.AggregationBracketed
        (analyzer.aggregateReserving memory host instances expected state).1
        (analyzer.SilentReserving memory host instances expected state) instances expected
        (analyzer.aggregateReserving memory.recorded host.recorded instances expected
          (.start state)).2.sinkCalls) ∧
      ∀ (own : Failure → Prop) (tracker : σ → Progress) (jobs : List (Job σ)) (job : Job σ)
          (state : σ),
        (∀ job ∈ jobs, job.Tracks own tracker) → job.Tracks own tracker →
          let begun := Job.performAll jobs state
          ((tracker state).state ≠ .stepping → (tracker begun).state ≠ .stepping ∧
            ((job.sinkCalls begun = [] ∧ tracker (job.perform begun) = tracker begun) ∨
              (∃ length failure, own failure ∧
                job.sinkCalls begun = [.setup length (.error failure)] ∧
                  tracker (job.perform begun) = tracker begun) ∨
              ∃ length steps, job.sinkCalls begun = progressRun length steps ∧
                (∀ failure, .error failure ∈ steps → own failure) ∧
                  tracker (job.perform begun) = ⟨.finished, UInt64.ofNat (steps.count (.ok ())),
                    length.map (min · Progress.maxTotal)⟩)) ∧
          ((tracker state).state = .stepping → tracker begun = tracker state ∧
            tracker (job.perform begun) = tracker state ∧
              (job.sinkCalls begun = [] ∨
                ∃ length failure, job.sinkCalls begun = [.setup length (.error failure)])) := by
  refine ⟨fun analyzer host state => ⟨?_, ?_, ?_⟩,
    fun own tracker jobs job state hjobs hjob => ⟨?_, ?_⟩⟩
  · exact analyzer.buildPath_bracketed host state
  · intro instances expected
    exact analyzer.aggregate_bracketed host instances expected state
  · intro memory instances expected
    exact analyzer.aggregateReserving_bracketed memory host instances expected state
  · intro hfree
    have hbegun := Job.performAll_not_stepping jobs hjobs hfree
    exact ⟨hbegun, Job.tracked_of_free hjob hbegun⟩
  · intro hstepping
    have hbegun := Job.performAll_of_stepping jobs hjobs hstepping
    obtain ⟨hlater, hcalls⟩ := Job.tracked_of_stepping hjob (hbegun ▸ hstepping)
    exact ⟨hbegun, hlater.trans hbegun, hcalls⟩

/-- A failed path, an aggregation and one that has no room for the index leave the tracker free for
the path from 1. -/
theorem progress_bracketed_sample :
    let host := Monitor.host .sample .plain ⟨true, none, none⟩
    let exhaustive : Analyzer := ⟨{ Settings.default with parallelAggregation := true }, by decide⟩
    let crowded : Memory Monitor := ⟨fun bookkeeping monitor => (bookkeeping != .place, monitor)⟩
    let jobs := [Job.path .default host ⟨5⟩, .aggregation exhaustive .ample host [⟨1⟩, ⟨8⟩] 2,
      .aggregation .default crowded host [⟨1⟩] 1]
    let job := Job.path .default host ⟨1⟩
    let begun := Job.performAll jobs .fresh
    (∀ job ∈ jobs, job.Tracks (fun _ => False) Monitor.tracker) ∧
      job.Tracks (fun _ => False) Monitor.tracker ∧
      Monitor.fresh.tracker.state ≠ .stepping ∧ begun.tracker.state ≠ .stepping ∧
      ∃ length steps, job.sinkCalls begun = progressRun length steps ∧
        (∀ failure, .error failure ∉ steps) ∧
          (job.perform begun).tracker = ⟨.finished, UInt64.ofNat (steps.count (.ok ())),
            length.map (min · Progress.maxTotal)⟩ := by
  intro host exhaustive crowded jobs job begun
  have htracks : host.Tracks (fun _ => False) Monitor.tracker :=
    Monitor.host_tracks _ _ _ rfl rfl
  have hjobs : ∀ job ∈ jobs, job.Tracks (fun _ => False) Monitor.tracker := by
    intro job hmem
    simp only [jobs, List.mem_cons, List.not_mem_nil, or_false] at hmem
    rcases hmem with rfl | rfl | rfl
    · exact htracks
    · exact ⟨htracks, fun _ _ => rfl⟩
    · exact ⟨htracks, fun _ _ => rfl⟩
  have hfree : Monitor.fresh.tracker.state ≠ .stepping := by decide
  obtain ⟨-, hsequence⟩ := @progress_bracketed Monitor
  obtain ⟨hbegun, ⟨hcalls, -⟩ | ⟨_, _, hown, -⟩ | hrun⟩ :=
    (hsequence (fun _ => False) Monitor.tracker jobs job .fresh hjobs htracks).1 hfree
  · have hlength : (job.sinkCalls begun).length = 5 := by
      subst begun job jobs crowded exhaustive host
      cbv
    rw [hcalls] at hlength
    cases hlength
  · exact hown.elim
  · exact ⟨hjobs, htracks, hfree, hbegun, hrun⟩

end Retention
