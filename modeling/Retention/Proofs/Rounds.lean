import Retention.Proofs.Calls
import Retention.Proofs.Path
import Retention.Proofs.Policy

/-!
# The calls of a path

A path asks for the pointer of its start, and if that leads on, for one round of calls after
another: a scan of where it stands, a look-up of where the hop leads, and a step. The round that
ends it is cut short. So the calls of a path follow from how many whole rounds its trail allows for
and from what ends it.
-/

namespace Retention

namespace HeapView

/-- The calls of the whole round that takes the hop of a trail after so many others. -/
def round (heap : HeapView) (start : InstanceId) (hops : Nat) : List HostCall :=
  [.scan (heap.trail start hops), .lookup (heap.trail start (hops + 1)), .step (.ok ())]

/-- The calls of the first whole rounds of a trail. -/
def rounds (heap : HeapView) (start : InstanceId) (hops : Nat) : List HostCall :=
  (List.range hops).flatMap (heap.round start)

/-- The calls of a path that is cut short after so many whole rounds. -/
def pathCalls (heap : HeapView) (start : InstanceId) (hops : Nat) (last : List HostCall) :
    List HostCall :=
  .lookup start :: .setup none (.ok ()) :: (heap.rounds start hops ++ last ++ [.finish])

theorem rounds_succ {heap : HeapView} {start : InstanceId} (hops : Nat) :
    heap.rounds start (hops + 1) = heap.rounds start hops ++ heap.round start hops := by
  unfold rounds
  rw [List.range_succ, List.flatMap_append, List.flatMap_singleton]

end HeapView

namespace Path

open HeapView

variable {σ : Type} {host : Host σ} {heap : HeapView} {ready : Phase → σ → Prop}
  {policy : MissingEdgePolicy} {start : InstanceId} {recorded : Recorded σ} {hops : Nat}

/-! ## Rounds -/

/-- A round that does not end the walk makes the calls of a whole round. -/
theorem round_asked (hserves : host.Serves heap ready) (hready : ready .inside recorded.state)
    (hpasses : heap.Passes policy start hops) (hdistinct : heap.Distinct start (hops + 2))
    (hpointer : heap.pointer (heap.trail start (hops + 1)) =
      some (heap.trail start (hops + 2))) :
    ∃ later, ready .inside later.state ∧ Asked recorded later (heap.round start hops) ∧
      walkAfter host.recorded heap policy start hops recorded =
        walkAfter host.recorded heap policy start (hops + 1) later := by
  obtain ⟨scanned, hscan, hscanned, hscans⟩ := hserves.scan_asked (heap.trail start hops) hready
  obtain ⟨looked, hlookup, hlooked, hlooks⟩ :=
    hserves.lookup_asked (heap.trail start (hops + 1)) hscanned
  obtain ⟨later, hstep, hlater, hsteps⟩ := hserves.step_asked hlooked
  rw [hpointer] at hlookup
  have hfree := hserves.not_cancelled_recorded hready
  exact ⟨later, hlater, hscans.trans (hlooks.trans hsteps),
    walkAfter_of_step hfree hpasses hdistinct hscan hlookup hstep⟩

theorem rounds_asked (hserves : host.Serves heap ready) (hready : ready .inside recorded.state)
    (hpasses : ∀ i < hops, heap.Passes policy start i)
    (hdistinct : heap.Distinct start (hops + 1))
    (hpointer : ∀ i ≤ hops, heap.pointer (heap.trail start i) = some (heap.trail start (i + 1))) :
    ∃ later, ready .inside later.state ∧ Asked recorded later (heap.rounds start hops) ∧
      walkAfter host.recorded heap policy start 0 recorded =
        walkAfter host.recorded heap policy start hops later := by
  induction hops with
  | zero => exact ⟨recorded, hready, .refl recorded, rfl⟩
  | succ hops ih =>
      obtain ⟨middle, hmiddle, hfirst, hrounds⟩ := ih (fun i hi => hpasses i (by omega))
        (hdistinct.mono (by omega)) (fun i hi => hpointer i (by omega))
      obtain ⟨later, hlater, hlast, hround⟩ := round_asked hserves hmiddle
        (hpasses hops (by omega)) hdistinct (hpointer (hops + 1) (Nat.le_refl _))
      rw [rounds_succ]
      exact ⟨later, hlater, hfirst.trans hlast, hrounds.trans hround⟩

/-! ## Rounds that end a walk -/

/-- A walk comes to a result with a last round, after which there are no calls but the finish. -/
def Concludes (host : Host σ) (heap : HeapView) (ready : Phase → σ → Prop)
    (policy : MissingEdgePolicy) (start : InstanceId) (hops : Nat)
    (result : Except Failure PathOutcome) (calls : List HostCall) : Prop :=
  ∀ recorded : Recorded σ, ready .inside recorded.state → ∃ later,
    walkAfter host.recorded heap policy start hops recorded = (result, later) ∧
      ready .inside later.state ∧ Asked recorded later calls

/-- A root is noticed without a call. -/
theorem concludes_root (hserves : host.Serves heap ready)
    (hself : heap.pointer (heap.trail start hops) = some (heap.trail start hops)) :
    Concludes host heap ready policy start hops
      (.ok (.chain (RootChain.ofHops start (heap.trail start hops) (heap.hopsTo start hops))))
      [] := by
  intro recorded hready
  exact ⟨recorded, walkAfter_root hserves.recorded hready hself, hready, .refl recorded⟩

/-- A hop that comes back to an instance is refused after the scan. -/
theorem concludes_loop (hserves : host.Serves heap ready) (hpasses : heap.Passes policy start hops)
    (hleaves : heap.Leaves (heap.trail start hops))
    (hrepeat : ∃ i < hops + 1, heap.trail start i = heap.trail start (hops + 1)) :
    Concludes host heap ready policy start hops
      (.error (.inconsistent (.pointerCycle start (heap.trail start (hops + 1)))))
      [.scan (heap.trail start hops)] := by
  intro recorded hready
  obtain ⟨scanned, hscan, hscanned, hscans⟩ := hserves.scan_asked (heap.trail start hops) hready
  have hfree := hserves.not_cancelled_recorded hready
  exact ⟨scanned, walkAfter_of_repeat hfree hpasses hleaves hrepeat hscan, hscanned, hscans⟩

/-- A dead end is noticed when it is looked up. -/
theorem concludes_deadEnd (hserves : host.Serves heap ready)
    (hpasses : heap.Passes policy start hops) (hdistinct : heap.Distinct start (hops + 2))
    (hnone : heap.pointer (heap.trail start (hops + 1)) = none) :
    Concludes host heap ready policy start hops
      (.error (.inconsistent (.danglingPointer start (heap.trail start (hops + 1)))))
      [.scan (heap.trail start hops), .lookup (heap.trail start (hops + 1))] := by
  intro recorded hready
  obtain ⟨scanned, hscan, hscanned, hscans⟩ := hserves.scan_asked (heap.trail start hops) hready
  obtain ⟨looked, hlookup, hlooked, hlooks⟩ :=
    hserves.lookup_asked (heap.trail start (hops + 1)) hscanned
  rw [hnone] at hlookup
  have hfree := hserves.not_cancelled_recorded hready
  exact ⟨looked, walkAfter_of_none hfree hpasses hdistinct hscan hlookup, hlooked,
    hscans.trans hlooks⟩

/-- A round whose hop does not pass ends the walk with the scan. -/
theorem walkAfter_of_gap {state scanned : σ} (hfree : host.cancelled state = false)
    (hleaves : heap.Leaves (heap.trail start hops)) (hgap : ¬ heap.Passes policy start hops)
    (hscan : host.references (heap.trail start hops) state =
      (heap.references (heap.trail start hops), scanned)) :
    walkAfter host heap policy start hops state =
      (.error (.inconsistent (.missingEdge (heap.trail start hops) (heap.trail start (hops + 1)))),
        scanned) := by
  obtain ⟨hpolicy, hnone⟩ := not_or.mp hgap
  cases policy with
  | skip => exact absurd rfl hpolicy
  | fail =>
      rw [walkAfter, walk]
      simp only [hfree, Bool.false_eq_true, if_false, hleaves.trail_ne.symm, hscan,
        hop_fail_of_none (not_not.mp hnone)]

/-- A missing reference is noticed in the scan, before anything is known of where the hop leads. -/
theorem concludes_gap (hserves : host.Serves heap ready)
    (hleaves : heap.Leaves (heap.trail start hops))
    (hgap : ¬ heap.Passes policy start hops) :
    Concludes host heap ready policy start hops
      (.error (.inconsistent
        (.missingEdge (heap.trail start hops) (heap.trail start (hops + 1)))))
      [.scan (heap.trail start hops)] := by
  intro recorded hready
  obtain ⟨scanned, hscan, hscanned, hscans⟩ := hserves.scan_asked (heap.trail start hops) hready
  have hfree := hserves.not_cancelled_recorded hready
  exact ⟨scanned, walkAfter_of_gap hfree hleaves hgap hscan, hscanned, hscans⟩

/-! ## Paths -/

/-- The calls of a path whose start is left are those of its walk between a look-up and a setup and
a finish. -/
theorem build_asked (hserves : host.Serves heap ready) (hready : ready .outside recorded.state)
    (hleaves : heap.Leaves start) (hpasses : ∀ i < hops, heap.Passes policy start i)
    (hdistinct : heap.Distinct start (hops + 1))
    (hpointer : ∀ i ≤ hops, heap.pointer (heap.trail start i) = some (heap.trail start (i + 1)))
    {result : Except Failure PathOutcome} {last : List HostCall}
    (hlast : Concludes host heap ready policy start hops result last) :
    ∃ later, build host.recorded policy start recorded = (result, later) ∧
      Asked recorded later (heap.pathCalls start hops last) := by
  obtain ⟨looked, hlookup, hlooked, hlooks⟩ := hserves.lookup_asked start hready
  have hwalk : ∀ opened : Recorded σ, ready .inside opened.state → ∃ later,
      walkAfter host.recorded heap policy start 0 opened = (result, later) ∧
        ready .inside later.state ∧ Asked opened later (heap.rounds start hops ++ last) := by
    intro opened hopened
    obtain ⟨middle, hmiddle, hfirst, hrounds⟩ :=
      rounds_asked hserves hopened hpasses hdistinct hpointer
    obtain ⟨later, hround, hlater, hcalls⟩ := hlast middle hmiddle
    exact ⟨later, hrounds.trans hround, hlater, hfirst.trans hcalls⟩
  obtain ⟨next, hnext, hne⟩ := hleaves
  obtain ⟨later, hrun, -, hruns⟩ := hserves.duringRun_asked none hwalk hlooked
  refine ⟨later, ?_, hlooks.trans hruns⟩
  have hafter : heap.trail start (0 + 1) = next := by
    rw [trail_succ, trail_zero, advance_of_pointer hnext]
  rw [build, hlookup, hnext]
  simp only [hne, if_false]
  rw [← hrun, ← hafter]
  rfl

end Path

end Retention
