import Mathlib.Algebra.Order.Ring.Nat
import Retention.Monitor
import Retention.Proofs.Faithfulness

/-!
# Expected numbers

The number of instances that an aggregation is to expect has two uses. The sequential form announces
it as the length of its run, and the exhaustive form asks for room for so many instances. It is
neither compared with the instances nor used to bound them. So as long as there is room, and unless
the sink itself makes a difference between one length and another, the number shows in no result.
-/

namespace Retention

variable {σ : Type} {host : Host σ} {related : σ → σ → Prop} {s t state : σ} {heap : HeapView}
  {ready : Phase → σ → Prop}

/-- A host takes no notice of how long a run is said to be: it answers setups of all lengths alike,
and in states that differ no more than after such setups it answers everything else alike. -/
structure Host.LengthBlind (host : Host σ) (related : σ → σ → Prop) : Prop
    extends host.Lockstep host related where
  announced : ∀ {s t} (length other : UInt64), related s t →
    Alike related (host.setup (some length) s) (host.setup (some other) t)

/-! ## Room for instances -/

namespace Analyzer

theorem reserve_of_lt {expected : UInt64} (hfits : expected.toNat < 2 ^ 60) :
    reserve expected = .ok () := by
  have hmost : maxReserved = 2 ^ 60 - 1 := by decide
  exact if_pos (by omega)

theorem reserve_of_le {expected : UInt64} (hexceeds : 2 ^ 60 ≤ expected.toNat) :
    reserve expected = .error (.outOfMemory "collecting instances to aggregate") := by
  have hmost : maxReserved = 2 ^ 60 - 1 := by decide
  exact if_neg (by omega)

end Analyzer

/-! ## Aggregations -/

/-- On a host that takes no notice of lengths, sequential aggregation comes to the same in runs of
different lengths. -/
theorem Aggregation.sequential_announced (hblind : host.LengthBlind related) (limit : UInt64)
    (instances : List InstanceId) (expected other : UInt64) (hrelated : related s t) :
    Alike related (sequential host limit instances expected s)
      (sequential host limit instances other t) := by
  unfold sequential Host.duringRun
  obtain ⟨result, opened, opened', hs, ht, hopened⟩ :=
    (hblind.announced expected other hrelated).split
  rw [hs, ht]
  cases result with
  | error failure => exact ⟨rfl, hopened⟩
  | ok _ =>
      obtain ⟨hresult, hlater⟩ :=
        gather_alike hblind.toLockstep limit instances .empty hopened
      exact ⟨hresult, hblind.finish hlater⟩

namespace Analyzer

/-- The exhaustive form only needs room for the expected instances, whatever the sink does. -/
theorem aggregate_parallel_announced (analyzer : Analyzer)
    (hparallel : analyzer.settings.parallelAggregation = true) (host : Host σ)
    (instances : List InstanceId) {expected other : UInt64} (hexpected : expected.toNat < 2 ^ 60)
    (hother : other.toNat < 2 ^ 60) (state : σ) :
    analyzer.aggregate host instances expected state =
      analyzer.aggregate host instances other state := by
  unfold aggregate
  simp only [hparallel, if_true, reserve_of_lt hexpected, reserve_of_lt hother]

/-- Undisturbed, what comes out is what the instances resolve to, whatever was expected. -/
theorem aggregate_serves (hserves : host.Serves heap ready) (analyzer : Analyzer)
    (instances : List InstanceId) {expected : UInt64}
    (hroom : analyzer.settings.parallelAggregation = true → expected.toNat < 2 ^ 60)
    (hprepared : (host.prepare state).1 = .ok ()) (hready : ready .outside (host.prepare state).2) :
    (analyzer.aggregate host instances expected state).1 = Aggregation.tally (.ok .empty)
      (instances.map fun id => (id, heap.resolved analyzer.settings.maxRootDistance id)) := by
  have hprepare : host.prepare state = (.ok (), (host.prepare state).2) := Prod.ext hprepared rfl
  unfold aggregate
  rw [hprepare]
  cases hform : analyzer.settings.parallelAggregation with
  | true =>
      simp only [if_true, reserve_of_lt (hroom hform)]
      exact Aggregation.exhaustive_serves hserves hready _ instances
  | false => exact Aggregation.sequential_serves hserves hready _ instances expected

/-- On a host that takes no notice of lengths, the expected number does not show. -/
theorem aggregate_announced (hblind : host.LengthBlind related) (analyzer : Analyzer)
    (instances : List InstanceId) {expected other : UInt64}
    (hroom : analyzer.settings.parallelAggregation = true →
      expected.toNat < 2 ^ 60 ∧ other.toNat < 2 ^ 60)
    (hrelated : related s t) :
    Alike related (analyzer.aggregate host instances expected s)
      (analyzer.aggregate host instances other t) := by
  cases hform : analyzer.settings.parallelAggregation with
  | true =>
      obtain ⟨hexpected, hother⟩ := hroom hform
      rw [analyzer.aggregate_parallel_announced hform host instances hexpected hother]
      exact aggregate_alike hblind.toLockstep analyzer instances other hrelated
  | false =>
      unfold aggregate
      obtain ⟨prepared, ready, ready', hs, ht, hready⟩ := (hblind.prepare hrelated).split
      rw [hs, ht, hform]
      cases prepared with
      | error failure => exact ⟨rfl, hready⟩
      | ok _ => exact Aggregation.sequential_announced hblind _ instances expected other hready

end Analyzer

/-! ## Monitored hosts -/

namespace Progress

variable {progress other : Progress}

theorem setup_alike (hstate : progress.state = other.state) (total total' : Option UInt64) :
    (progress.setup total).1 = (other.setup total').1 ∧
      (progress.setup total).2.state = (other.setup total').2.state := by
  unfold setup
  rw [hstate]
  split
  next => exact ⟨rfl, hstate⟩
  next => exact ⟨rfl, rfl⟩

theorem step_alike (hstate : progress.state = other.state) :
    progress.step.1 = other.step.1 ∧ progress.step.2.state = other.step.2.state := by
  unfold step
  rw [hstate]
  split
  next => exact ⟨rfl, rfl⟩
  next => exact ⟨rfl, hstate⟩

theorem finish_alike (hstate : progress.state = other.state) :
    progress.finish.state = other.finish.state := by
  unfold finish
  rw [hstate]
  split
  next => rfl
  next => exact hstate

end Progress

namespace Monitor

/-- Two monitors have the same in all that their hosts go by. The counters of their trackers and
their logs may differ. -/
structure Akin (monitor other : Monitor) : Prop where
  tracker : monitor.tracker.state = other.tracker.state
  cancelled : monitor.cancelled = other.cancelled
  lookups : monitor.lookups = other.lookups
  steps : monitor.steps = other.steps

variable {monitor other : Monitor} {sink : SinkPlan}

theorem Akin.refl (monitor : Monitor) : monitor.Akin monitor :=
  ⟨rfl, rfl, rfl, rfl⟩

theorem Akin.countLookup (plan : HostPlan) (hakin : monitor.Akin other) :
    (monitor.countLookup plan).Akin (other.countLookup plan) where
  tracker := hakin.tracker
  cancelled := by simp only [Monitor.countLookup, hakin.cancelled, hakin.lookups]
  lookups := congrArg (· + 1) hakin.lookups
  steps := hakin.steps

theorem Akin.setup (hakin : monitor.Akin other) (total total' : Option UInt64) :
    Alike Akin (Monitor.setup sink total monitor) (Monitor.setup sink total' other) := by
  obtain ⟨hresult, hstate⟩ := Progress.setup_alike hakin.tracker total total'
  unfold Monitor.setup
  cases sink.tracked with
  | true => exact ⟨hresult, hstate, hakin.cancelled, hakin.lookups, hakin.steps⟩
  | false => exact ⟨rfl, hakin.tracker, hakin.cancelled, hakin.lookups, hakin.steps⟩

theorem Akin.acceptStep (sink : SinkPlan) (hakin : monitor.Akin other) :
    (monitor.acceptStep sink).Akin (other.acceptStep sink) where
  tracker := by
    simp only [Monitor.acceptStep, hakin.steps]
    split
    · exact Progress.finish_alike hakin.tracker
    · exact hakin.tracker
  cancelled := by simp only [Monitor.acceptStep, hakin.cancelled, hakin.steps]
  lookups := hakin.lookups
  steps := congrArg (· + 1) hakin.steps

theorem Akin.step (sink : SinkPlan) (hakin : monitor.Akin other) :
    Alike Akin (Monitor.step sink monitor) (Monitor.step sink other) := by
  unfold Monitor.step
  cases sink.tracked with
  | false => exact ⟨rfl, hakin.acceptStep sink⟩
  | true =>
      have halike : Alike (fun a b : Progress => a.state = b.state) monitor.tracker.step
          other.tracker.step := Progress.step_alike hakin.tracker
      obtain ⟨result, tracker, tracker', hs, ht, hstate⟩ := halike.split
      simp only [if_true, hs, ht]
      have hstepped : Akin { monitor with tracker := tracker } { other with tracker := tracker' } :=
        ⟨hstate, hakin.cancelled, hakin.lookups, hakin.steps⟩
      cases result with
      | error failure => exact ⟨rfl, hstepped⟩
      | ok _ => exact ⟨rfl, hstepped.acceptStep sink⟩

/-- A monitored host takes no notice of lengths, with a tracker as with none. -/
theorem host_lengthBlind (heap : HeapView) (plan : HostPlan) (sink : SinkPlan) :
    (Monitor.host heap plan sink).LengthBlind Akin where
  cancelled hakin := hakin.cancelled
  prepare hakin := ⟨rfl, hakin.tracker, hakin.cancelled, hakin.lookups, hakin.steps⟩
  pointer _ hakin := ⟨rfl, hakin.countLookup plan⟩
  references _ hakin := ⟨rfl, hakin.tracker, hakin.cancelled, hakin.lookups, hakin.steps⟩
  setup length hakin := hakin.setup length length
  step hakin := hakin.step sink
  finish hakin := by
    refine ⟨?_, hakin.cancelled, hakin.lookups, hakin.steps⟩
    simp only [Monitor.host, Monitor.finish]
    split
    · exact Progress.finish_alike hakin.tracker
    · exact hakin.tracker
  announced length other hakin := hakin.setup (some length) (some other)

end Monitor

end Retention
