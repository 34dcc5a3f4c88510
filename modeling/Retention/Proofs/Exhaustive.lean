import Retention.Monitor
import Retention.Proofs.Tally
import Retention.Proofs.Trail

/-!
# Exhaustive and sequential aggregation

The exhaustive form goes on after a failure and so sees more look-ups and steps, any of which
may cancel the analysis. That is the whole difference: if the token is still free after all
visits, both forms come to the same, and if it is not, the exhaustive form is interrupted where
the sequential one may have met a failure before it could notice.
-/

namespace Retention

variable {σ : Type} {host : Host σ} {limit : UInt64} {instances : List InstanceId} {id : InstanceId}
  {state opened : σ} {failure : Failure}

namespace Resolution

/-- Resolution is interrupted or exceeds its budget; it fails for no other reason. -/
theorem settle_failure {start current : InstanceId} {budget : Nat}
    (hsettle : (settle host start limit budget current state).1 = .error failure) :
    failure = .interrupted ∨ failure = .inconsistent (.chainTooLong start limit) := by
  induction budget generalizing current state with
  | zero =>
      unfold settle at hsettle
      split at hsettle
      next => cases hsettle
      next =>
        split at hsettle
        next => cases hsettle
        next =>
          cases hsettle
          exact .inr rfl
  | succ budget ih =>
      unfold settle at hsettle
      split at hsettle
      next => cases hsettle
      next =>
        split at hsettle
        next => cases hsettle
        next =>
          simp only at hsettle
          split at hsettle
          next =>
            cases hsettle
            exact .inl rfl
          next => exact ih hsettle

end Resolution

namespace Aggregation

/-- A failure that has to do with the heap or with progress, not with cancellation: the
instance does not settle within the budget, or it does and the sink refuses the step. -/
def Substantial (host : Host σ) (limit : UInt64) (id : InstanceId) (failure : Failure) : Prop :=
  failure = .inconsistent (.chainTooLong id limit) ∨
    ∃ state key resolved, Resolution.resolve host limit id state = (.ok key, resolved) ∧
      (host.step resolved).1 = .error failure

theorem visit_failure (hvisit : (visit host limit id state).1 = .error failure) :
    failure = .interrupted ∨ Substantial host limit id failure := by
  unfold visit at hvisit
  split at hvisit
  next =>
    cases hvisit
    exact .inl rfl
  next =>
    split at hvisit
    next later hresolve =>
      cases hvisit
      have hsettle : (Resolution.resolve host limit id state).1 = .error failure := by
        rw [hresolve]
      exact (Resolution.settle_failure hsettle).imp_right .inl
    next key resolved hresolve =>
      split at hvisit
      next later hstep =>
        cases hvisit
        refine .inr (.inr ⟨state, key, resolved, hresolve, ?_⟩)
        rw [hstep]
      next => cases hvisit

/-- Every recorded visit was made in some state. -/
theorem exists_visit_of_mem {result : Except Failure RootKey}
    (hmem : (id, result) ∈ (visitAll host limit instances state).1) :
    ∃ before, (visit host limit id before).1 = result := by
  induction instances generalizing state with
  | nil => cases hmem
  | cons first rest ih =>
      rw [visitAll] at hmem
      rcases List.mem_cons.mp hmem with heq | hrest
      · cases heq
        exact ⟨state, rfl⟩
      · exact ih hrest

theorem FailsFirst.cause
    (hfails : FailsFirst (visitAll host limit instances state).1 id failure) :
    failure = .interrupted ∨ Substantial host limit id failure := by
  obtain ⟨before, after, hsplit, -⟩ := hfails
  have hmem : (id, Except.error failure) ∈ (visitAll host limit instances state).1 := by
    rw [hsplit]
    exact List.mem_append_right _ List.mem_cons_self
  obtain ⟨earlier, hvisit⟩ := exists_visit_of_mem hmem
  exact visit_failure hvisit

/-! ## Runs from an accepted setup -/

section Run

variable (hsetup : host.setup (some (UInt64.ofNat instances.length)) state = (.ok (), opened))

include hsetup

theorem exhaustive_eq :
    exhaustive host limit instances state =
      ((conclude host (tally (.ok .empty) (visitAll host limit instances opened).1)
          (visitAll host limit instances opened).2).1,
        host.finish (visitAll host limit instances opened).2) := by
  simp only [exhaustive, Host.duringRun, hsetup, gatherAll_eq, conclude]
  split <;> rfl

theorem sequential_fst :
    (sequential host limit instances (UInt64.ofNat instances.length) state).1 =
      concludeGroups host (tally (.ok .empty) (visitAll host limit instances opened).1)
        (visitAll host limit instances opened).2 := by
  simp only [sequential, Host.duringRun, hsetup, gather_fst]

end Run

/-- Exhaustive against sequential aggregation, on whatever host accepts the setup: its steps
may be refused and its token cancelled at any call. If the token is cancelled once all visits
are made, the exhaustive form is interrupted, and the sequential form is interrupted as well or
has met a failure of another kind, that of the first visit to fail. If it is not, both come to
the same groups or to the failure of the first visit to fail. So either form comes to groups
exactly if the other comes to the same groups. -/
theorem exhaustive_matches_sequential (limit : UInt64)
    (hsetup : host.setup (some (UInt64.ofNat instances.length)) state = (.ok (), opened)) :
    let visits := visitAll host limit instances opened
    let exhausted := exhaustive host limit instances state
    let result := (sequential host limit instances (UInt64.ofNat instances.length) state).1
    visits.1.map Prod.fst = instances ∧ exhausted.2 = host.finish visits.2 ∧
      (host.cancelled visits.2 = true → exhausted.1 = .error .interrupted ∧
        (result = .error .interrupted ∨
          ∃ id failure, FailsFirst visits.1 id failure ∧ failure ≠ .interrupted ∧
            Substantial host limit id failure ∧ result = .error failure)) ∧
      (host.cancelled visits.2 = false → exhausted.1 = result ∧
        ∀ failure, result = .error failure ↔ ∃ id, FailsFirst visits.1 id failure) ∧
      (∀ id failure, FailsFirst visits.1 id failure → result = .error failure) ∧
      ∀ groups, exhausted.1 = .ok groups ↔ result = .ok groups := by
  intro visits exhausted result
  have hexhausted : exhausted =
      ((conclude host (tally (.ok .empty) visits.1) visits.2).1, host.finish visits.2) :=
    exhaustive_eq hsetup
  have hresult : result = concludeGroups host (tally (.ok .empty) visits.1) visits.2 :=
    sequential_fst hsetup
  have hfirst : ∀ id failure, FailsFirst visits.1 id failure → result = .error failure := by
    intro id failure hfails
    rw [hresult, hfails.tally_eq, concludeGroups_error]
  refine ⟨visitAll_map_fst host limit instances opened, by rw [hexhausted], ?_, ?_, hfirst, ?_⟩
  · intro hcancelled
    refine ⟨by rw [hexhausted, conclude_of_cancelled _ hcancelled], ?_⟩
    rcases all_ok_or_failsFirst visits.1 with hok | ⟨id, failure, hfails⟩
    · obtain ⟨groups, htally⟩ := tally_of_all_ok .empty hok
      exact .inl (by rw [hresult, htally, concludeGroups_ok_of_cancelled groups hcancelled])
    · by_cases hinterrupted : failure = .interrupted
      · exact .inl (hinterrupted ▸ hfirst id failure hfails)
      · exact .inr ⟨id, failure, hfails, hinterrupted,
          hfails.cause.resolve_left hinterrupted, hfirst id failure hfails⟩
  · intro hfree
    rw [hexhausted, hresult, conclude_of_not_cancelled _ hfree,
      concludeGroups_of_not_cancelled _ hfree]
    exact ⟨rfl, tally_eq_error_iff .empty visits.1⟩
  · intro groups
    rw [hexhausted, hresult, conclude_eq_ok_iff, concludeGroups_eq_ok_iff]

/-- A sink that ends the run after its first step refuses the second one. Nothing is cancelled
before the sequential form stops at that refusal; the exhaustive form goes on to the look-up
that cancels it. -/
theorem exhaustive_matches_sequential_sample :
    let sink : SinkPlan := ⟨true, none, some 1⟩
    let host := Monitor.host .sample ⟨none, some 4⟩ sink
    let instances : List InstanceId := [⟨4⟩, ⟨9⟩, ⟨1⟩]
    (∃ opened, host.setup (some 3) .fresh = (.ok (), opened)) ∧
      (exhaustive host 9 instances .fresh).1 = .error .interrupted ∧
      (sequential host 9 instances 3 .fresh).1 =
        .error (.invalidProgress "step" "finished") := by
  intro sink host instances
  have hsetup : host.setup (some 3) .fresh = (.ok (), (host.setup (some 3) .fresh).2) := rfl
  obtain ⟨-, -, hcancelled, -, hfirst, -⟩ :=
    @exhaustive_matches_sequential _ host instances _ _ 9 hsetup
  refine ⟨⟨_, hsetup⟩, (hcancelled (by decide)).1, hfirst ⟨9⟩ _ ?_⟩
  exact ⟨[(⟨4⟩, .ok (.root ⟨4⟩))], [(⟨1⟩, .error .interrupted)], by decide, by simp⟩

end Aggregation

end Retention
