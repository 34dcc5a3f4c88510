import Retention.Proofs.Record
import Retention.Proofs.Tally

/-!
# Brackets around progress

An analysis makes its calls on the progress sink in one piece: a setup, the steps and a finish. The
finish comes on every way out of the run, and a refused setup leaves nothing to finish. While the
analysis is read for its sink calls only, look-ups, scans and polls drop out.
-/

namespace Retention

variable {σ α : Type} {host : Host σ} {recorded later : Recorded σ}

/-- The sink calls of a run that was accepted. -/
def progressRun (length : Option UInt64) (steps : List (Except Failure Unit)) : List HostCall :=
  .setup length (.ok ()) :: (steps.map .step ++ [.finish])

/-- The steps of an analysis that stops at the first one that fails. If the analysis comes to a
value, all of them were accepted and their number is as `counts` says. -/
inductive Orderly (result : Except Failure α) (counts : α → Nat → Prop) :
    List (Except Failure Unit) → Prop where
  | accepted (number : Nat) (hcounts : ∀ value, result = .ok value → counts value number) :
      Orderly result counts (List.replicate number (.ok ()))
  | failed (number : Nat) (failure : Failure) (hresult : result = .error failure) :
      Orderly result counts (List.replicate number (.ok ()) ++ [.error failure])

/-- The sink calls of an analysis that comes to `result`: there are none if it is `silent`, none but
the setup if that is refused, and otherwise those of a run with steps that `fits` admits. -/
inductive Bracketed (result : Except Failure α) (silent : Prop) (length : Option UInt64)
    (fits : List (Except Failure Unit) → Prop) : List HostCall → Prop where
  | nothing (hsilent : silent) : Bracketed result silent length fits []
  | refused (failure : Failure) (hopen : ¬ silent) (hresult : result = .error failure) :
      Bracketed result silent length fits [.setup length (.error failure)]
  | run (steps : List (Except Failure Unit)) (hopen : ¬ silent) (hfits : fits steps) :
      Bracketed result silent length fits (progressRun length steps)

/-- Between the two states the sink was told of these steps and of nothing else. -/
def Steps (recorded later : Recorded σ) (steps : List (Except Failure Unit)) : Prop :=
  later.sinkCalls = recorded.sinkCalls ++ steps.map .step

namespace Steps

theorem refl (recorded : Recorded σ) : Steps recorded recorded [] :=
  (List.append_nil _).symm

theorem trans {last : Recorded σ} {steps steps' : List (Except Failure Unit)}
    (hfirst : Steps recorded later steps) (hsecond : Steps later last steps') :
    Steps recorded last (steps ++ steps') := by
  unfold Steps at hfirst hsecond ⊢
  rw [hsecond, hfirst, List.map_append, List.append_assoc]

theorem lookup {id : InstanceId} {answer : Option InstanceId}
    (hlookup : host.recorded.pointer id recorded = (answer, later)) : Steps recorded later [] := by
  obtain ⟨-, rfl⟩ := Prod.mk.inj hlookup
  exact Host.sinkCalls_note _ _ _ _

theorem scan {id : InstanceId} {references : List Reference}
    (hscan : host.recorded.references id recorded = (references, later)) :
    Steps recorded later [] := by
  obtain ⟨-, rfl⟩ := Prod.mk.inj hscan
  exact Host.sinkCalls_note _ _ _ _

theorem step {result : Except Failure Unit}
    (hstep : host.recorded.step recorded = (result, later)) : Steps recorded later [result] := by
  obtain ⟨rfl, rfl⟩ := Prod.mk.inj hstep
  exact Host.sinkCalls_note _ _ _ _

end Steps

theorem Orderly.cons {result : Except Failure α} {counts counts' : α → Nat → Prop}
    {steps : List (Except Failure Unit)} (horderly : Orderly result counts steps)
    (hcounts : ∀ value number, counts value number → counts' value (number + 1)) :
    Orderly result counts' (.ok () :: steps) := by
  cases horderly with
  | accepted number hnumber =>
      exact .accepted (number + 1) fun value hvalue => hcounts value number (hnumber value hvalue)
  | failed number failure hresult => exact .failed (number + 1) failure hresult

theorem Orderly.none_of_error {failure : Failure} (counts : α → Nat → Prop) :
    Orderly (.error failure : Except Failure α) counts [] :=
  .accepted 0 fun _ hvalue => nomatch hvalue

theorem Orderly.only_failed {failure : Failure} (counts : α → Nat → Prop) :
    Orderly (.error failure : Except Failure α) counts [.error failure] :=
  .failed 0 failure rfl

theorem Bracketed.congr {result : Except Failure α} {silent silent' : Prop}
    {length : Option UInt64} {fits : List (Except Failure Unit) → Prop} {calls : List HostCall}
    (hbracketed : Bracketed result silent length fits calls) (hsilent : silent ↔ silent') :
    Bracketed result silent' length fits calls := by
  cases hbracketed with
  | nothing hnothing => exact .nothing (hsilent.mp hnothing)
  | refused failure hopen hresult => exact .refused failure (fun h => hopen (hsilent.mpr h)) hresult
  | run steps hopen hfits => exact .run steps (fun h => hopen (hsilent.mpr h)) hfits

/-- The calls of a bracket, whatever it is about. -/
theorem Bracketed.shape {result : Except Failure α} {silent : Prop} {length : Option UInt64}
    {fits : List (Except Failure Unit) → Prop} {calls : List HostCall}
    (hbracketed : Bracketed result silent length fits calls) :
    calls = [] ∨ (∃ length failure, calls = [.setup length (.error failure)]) ∨
      ∃ length steps, calls = progressRun length steps := by
  cases hbracketed with
  | nothing => exact .inl rfl
  | refused failure => exact .inr (.inl ⟨length, failure, rfl⟩)
  | run steps => exact .inr (.inr ⟨length, steps, rfl⟩)

/-- A run is bracketed if its body makes no sink calls but steps. -/
theorem Host.duringRun_bracketed (host : Host σ) (length : Option UInt64)
    (fits : Except Failure α → List (Except Failure Unit) → Prop)
    {body : Recorded σ → Except Failure α × Recorded σ}
    (hbody : ∀ opened, ∃ steps, Steps opened (body opened).2 steps ∧ fits (body opened).1 steps)
    (hnone : recorded.sinkCalls = []) :
    Bracketed (host.recorded.duringRun length body recorded).1 False length
      (fits (host.recorded.duringRun length body recorded).1)
      (host.recorded.duringRun length body recorded).2.sinkCalls := by
  unfold duringRun
  split
  next failure refused hsetup =>
    obtain ⟨hresult, rfl⟩ := Prod.mk.inj hsetup
    rw [sinkCalls_note, hnone, hresult]
    exact .refused failure not_false rfl
  next opened hsetup =>
    have hopened : opened.sinkCalls = [.setup length (.ok ())] := by
      obtain ⟨hresult, rfl⟩ := Prod.mk.inj hsetup
      rw [sinkCalls_note, hnone, hresult]
      rfl
    obtain ⟨steps, hsteps, hfits⟩ := hbody opened
    have hcalls : (host.recorded.finish (body opened).2).sinkCalls = progressRun length steps := by
      have hclosed :=
        sinkCalls_note host (body opened).2 .finish (host.finish (body opened).2.state)
      unfold Steps at hsteps
      rwa [hsteps, hopened] at hclosed
    exact hcalls ▸ .run steps not_false hfits

/-! ## Aggregations -/

theorem Resolution.settle_steps (host : Host σ) (start : InstanceId) (limit : UInt64) (budget : Nat)
    (current : InstanceId) (recorded : Recorded σ) :
    Steps recorded (settle host.recorded start limit budget current recorded).2 [] := by
  fun_induction settle host.recorded start limit budget current recorded with
  | case1 budget current recorded looked hlookup => exact .lookup hlookup
  | case2 budget current recorded looked hlookup => exact .lookup hlookup
  | case3 current recorded next looked hlookup => exact .lookup hlookup
  | case4 current recorded next looked hlookup => exact .lookup hlookup
  | case5 current recorded next looked hlookup _ budget _ ih =>
      exact (Steps.lookup hlookup).trans ih

theorem Resolution.resolve_steps (host : Host σ) (limit : UInt64) (id : InstanceId)
    (recorded : Recorded σ) :
    Steps recorded (resolve host.recorded limit id recorded).2 [] :=
  settle_steps host id limit limit.toNat id recorded

namespace Aggregation

/-- A visit that comes to a key was stepped for; one that fails has at most a failed step. -/
theorem visit_steps (host : Host σ) (limit : UInt64) (id : InstanceId) (recorded : Recorded σ) :
    ∃ steps, Steps recorded (visit host.recorded limit id recorded).2 steps ∧
      ((∃ key, (visit host.recorded limit id recorded).1 = .ok key ∧ steps = [.ok ()]) ∨
        ∃ failure, (visit host.recorded limit id recorded).1 = .error failure ∧
          (steps = [] ∨ steps = [.error failure])) := by
  have hresolved := Resolution.resolve_steps host limit id recorded
  unfold visit
  split
  · exact ⟨[], .refl recorded, .inr ⟨_, rfl, .inl rfl⟩⟩
  split
  next failure resolved hresolve =>
    rw [hresolve] at hresolved
    exact ⟨[], hresolved, .inr ⟨failure, rfl, .inl rfl⟩⟩
  next key resolved hresolve =>
    rw [hresolve] at hresolved
    split
    next failure stepped hstep =>
      exact ⟨_, hresolved.trans (.step hstep), .inr ⟨failure, rfl, .inr rfl⟩⟩
    next stepped hstep =>
      exact ⟨_, hresolved.trans (.step hstep), .inl ⟨key, rfl, rfl⟩⟩

/-- If groups come out, so many steps were made and none of them failed. -/
def AllStepped (result : Except Failure RootGroups) (number : Nat)
    (steps : List (Except Failure Unit)) : Prop :=
  ∀ groups, result = .ok groups → steps = List.replicate number (.ok ())

theorem AllStepped.of_error {failure : Failure} {number : Nat}
    {steps : List (Except Failure Unit)} : AllStepped (.error failure) number steps := by
  intro groups hgroups
  cases hgroups

end Aggregation

/-! ## Paths -/

theorem RootChain.length_ofHops (start root : InstanceId) (hops : List Hop) :
    (ofHops start root hops).steps.length + (ofHops start root hops).skipped.length =
      hops.length := by
  induction hops with
  | nil => rfl
  | cons hop rest ih =>
      simp only [ofHops] at ih ⊢
      cases hop with
      | found step =>
          simp only [List.filterMap_cons, Hop.step?, Hop.skipped?, List.length_cons]
          omega
      | skipped hop =>
          simp only [List.filterMap_cons, Hop.step?, Hop.skipped?, List.length_cons]
          omega

namespace Path

/-- A path of so many hops, recorded or skipped. -/
def HasHops (outcome : PathOutcome) (number : Nat) : Prop :=
  ∃ chain, outcome = .chain chain ∧ chain.steps.length + chain.skipped.length = number

/-- A walk is stepped for once in every hop. -/
theorem walk_steps (host : Host σ) (policy : MissingEdgePolicy) (start : InstanceId)
    (visited : Visited) (hops : List Hop) (current next : InstanceId) (recorded : Recorded σ) :
    ∃ steps, Steps recorded
        (walk host.recorded policy start visited hops current next recorded).2 steps ∧
      Orderly (walk host.recorded policy start visited hops current next recorded).1
        (fun outcome number => HasHops outcome (number + hops.length)) steps := by
  fun_induction walk host.recorded policy start visited hops current next recorded with
  | case1 visited hops current next recorded => exact ⟨[], .refl recorded, .none_of_error _⟩
  | case2 visited hops next recorded =>
      refine ⟨[], .refl recorded, .accepted 0 fun outcome houtcome => ?_⟩
      cases houtcome
      refine ⟨_, rfl, ?_⟩
      rw [RootChain.length_ofHops, List.length_reverse, Nat.zero_add]
  | case3 visited hops current next recorded _ _ references scanned hscan =>
      exact ⟨[], .scan hscan, .none_of_error _⟩
  | case4 visited hops current next recorded _ _ references scanned hscan taken _ _ looked
      hlookup =>
      exact ⟨[], (Steps.scan hscan).trans (.lookup hlookup), .none_of_error _⟩
  | case5 visited hops current next recorded _ _ references scanned hscan taken _ _ after looked
      hlookup failure stepped hstep =>
      exact ⟨_, ((Steps.scan hscan).trans (.lookup hlookup)).trans (.step hstep), .only_failed _⟩
  | case6 visited hops current next recorded _ _ references scanned hscan taken _ _ after looked
      hlookup stepped hstep ih =>
      obtain ⟨steps, hsteps, horderly⟩ := ih
      have hhop := ((Steps.scan hscan).trans (.lookup hlookup)).trans (.step hstep)
      refine ⟨.ok () :: steps, hhop.trans hsteps, horderly.cons fun outcome number hcounts => ?_⟩
      rwa [Nat.add_right_comm]
  | case7 visited hops current next recorded _ _ references scanned hscan =>
      exact ⟨[], .scan hscan, .none_of_error _⟩

/-- What comes out of a run is not what the first look-up settles. -/
theorem not_sentinel {result : Except Failure PathOutcome} {length : Option UInt64}
    {calls : List HostCall}
    (hrun : Bracketed result False length (Orderly result HasHops) calls) :
    ¬ (result = .ok .noRoot ∨ result = .ok .isRoot) := by
  have hvalue : ∀ outcome, result = .ok outcome → ∃ number, HasHops outcome number := by
    intro outcome houtcome
    cases hrun with
    | nothing hsilent => exact hsilent.elim
    | refused failure _ hresult => cases houtcome.symm.trans hresult
    | run steps _ horderly =>
        cases horderly with
        | accepted number hcounts => exact ⟨number, hcounts outcome houtcome⟩
        | failed number failure hresult => cases houtcome.symm.trans hresult
  rintro (hroot | hroot)
  · obtain ⟨_, _, hchain, -⟩ := hvalue _ hroot
    cases hchain
  · obtain ⟨_, _, hchain, -⟩ := hvalue _ hroot
    cases hchain

theorem build_bracketed (host : Host σ) (policy : MissingEdgePolicy) (start : InstanceId)
    (hnone : recorded.sinkCalls = []) :
    Bracketed (build host.recorded policy start recorded).1
      ((build host.recorded policy start recorded).1 = .ok .noRoot ∨
        (build host.recorded policy start recorded).1 = .ok .isRoot) none
      (Orderly (build host.recorded policy start recorded).1 HasHops)
      (build host.recorded policy start recorded).2.sinkCalls := by
  unfold build
  split
  next looked hlookup =>
    have hlooked : looked.sinkCalls = _ := Steps.lookup hlookup
    rw [hlooked, hnone]
    exact .nothing (.inl rfl)
  next next looked hlookup =>
    have hlooked : looked.sinkCalls = _ := Steps.lookup hlookup
    rw [hnone] at hlooked
    split
    · rw [hlooked]
      exact .nothing (.inr rfl)
    · have hrun := host.duringRun_bracketed none (fun result => Orderly result HasHops)
        (walk_steps host policy start ((∅ : Visited).insert start) [] start next) hlooked
      exact hrun.congr (iff_of_false not_false (not_sentinel hrun))

end Path

/-! ## Analyses -/

namespace Analyzer

variable (analyzer : Analyzer) (host : Host σ) (state : σ)

/-- The host failed to prepare, or the first look-up settled the outcome. -/
def SilentPath (id : InstanceId) : Prop :=
  (∃ failure, (host.prepare state).1 = .error failure ∧
      (analyzer.buildPath host id state).1 = .error failure) ∨
    (analyzer.buildPath host id state).1 = .ok .noRoot ∨
    (analyzer.buildPath host id state).1 = .ok .isRoot

/-- The host failed to prepare, or no room could be set aside for an exhaustive aggregation. -/
def SilentAggregation (instances : List InstanceId) (expected : UInt64) : Prop :=
  ∃ failure,
    ((host.prepare state).1 = .error failure ∨
      analyzer.settings.parallelAggregation = true ∧ reserve expected = .error failure) ∧
    (analyzer.aggregate host instances expected state).1 = .error failure

/-- The sink calls of an aggregation that comes to `result`: those of a run of as many steps as are
expected or, in the exhaustive form, as there are instances. -/
structure AggregationBracketed (result : Except Failure RootGroups) (silent : Prop)
    (instances : List InstanceId) (expected : UInt64) (calls : List HostCall) : Prop where
  sequential : analyzer.settings.parallelAggregation = false →
    Bracketed result silent (some expected)
      (Orderly result fun _ number => number = instances.length) calls
  exhaustive : analyzer.settings.parallelAggregation = true →
    Bracketed result silent (some (UInt64.ofNat instances.length))
      (Aggregation.AllStepped result instances.length) calls

theorem AggregationBracketed.nothing {analyzer : Analyzer} {result : Except Failure RootGroups}
    {silent : Prop} {instances : List InstanceId} {expected : UInt64} (hsilent : silent) :
    analyzer.AggregationBracketed result silent instances expected [] :=
  ⟨fun _ => .nothing hsilent, fun _ => .nothing hsilent⟩

/-- The calls of an aggregation, in whichever form. -/
theorem AggregationBracketed.shape {analyzer : Analyzer} {result : Except Failure RootGroups}
    {silent : Prop} {instances : List InstanceId} {expected : UInt64} {calls : List HostCall}
    (hbracketed : analyzer.AggregationBracketed result silent instances expected calls) :
    calls = [] ∨ (∃ length failure, calls = [.setup length (.error failure)]) ∨
      ∃ length steps, calls = progressRun length steps := by
  cases hform : analyzer.settings.parallelAggregation with
  | false => exact (hbracketed.sequential hform).shape
  | true => exact (hbracketed.exhaustive hform).shape

theorem buildPath_bracketed (id : InstanceId) :
    Bracketed (analyzer.buildPath host id state).1 (analyzer.SilentPath host state id) none
      (Orderly (analyzer.buildPath host id state).1 Path.HasHops)
      (Analysis.sinkCalls (fun host => analyzer.buildPath host id) host state) := by
  obtain ⟨hresult, -⟩ := Analysis.Uniform.recorded (analyzer.buildPath_uniform id) host state
  rw [SilentPath, ← hresult, Analysis.sinkCalls]
  rcases analyzer.buildPath_cases host.recorded (.start state) id with
    ⟨failure, prepared, hprepare, heq⟩ | ⟨prepared, hprepare, heq⟩
  · obtain ⟨hfailure, rfl⟩ := Prod.mk.inj hprepare
    rw [heq]
    exact .nothing (.inl ⟨failure, hfailure, rfl⟩)
  · obtain ⟨hready, rfl⟩ := Prod.mk.inj hprepare
    rw [heq]
    refine (Path.build_bracketed host _ id (host.sinkCalls_note _ _ _)).congr ⟨.inr, ?_⟩
    rintro (⟨failure, hfailure, -⟩ | hsentinel)
    · cases hready.symm.trans hfailure
    · exact hsentinel

end Analyzer

end Retention
