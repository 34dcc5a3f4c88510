import Retention.Analyzer

/-!
# Hosts in lockstep

An analysis reaches its host only through the host's calls. So if two hosts answer alike, call for
call along a relation of their states, every analysis comes to the same on both and leaves them in
related states. A host in lockstep with itself is the case of an invariant: what every call keeps,
an analysis keeps.
-/

namespace Retention

variable {σ τ α : Type}

/-- Two runs come to the same, in related states. -/
def Alike (related : σ → τ → Prop) (run : α × σ) (other : α × τ) : Prop :=
  run.1 = other.1 ∧ related run.2 other.2

theorem Alike.split {related : σ → τ → Prop} {run : α × σ} {other : α × τ}
    (halike : Alike related run other) :
    ∃ result s t, run = (result, s) ∧ other = (result, t) ∧ related s t := by
  obtain ⟨hresult, hrelated⟩ := halike
  exact ⟨run.1, run.2, other.2, rfl, Prod.ext hresult.symm rfl, hrelated⟩

namespace Host

/-- Two hosts are in lockstep along a relation of their states: asked the same in related states,
they answer the same and come to related states. -/
structure Lockstep (host : Host σ) (other : Host τ) (related : σ → τ → Prop) : Prop where
  cancelled : ∀ {s t}, related s t → host.cancelled s = other.cancelled t
  prepare : ∀ {s t}, related s t → Alike related (host.prepare s) (other.prepare t)
  pointer : ∀ {s t} id, related s t → Alike related (host.pointer id s) (other.pointer id t)
  references :
    ∀ {s t} id, related s t → Alike related (host.references id s) (other.references id t)
  setup : ∀ {s t} length, related s t → Alike related (host.setup length s) (other.setup length t)
  step : ∀ {s t}, related s t → Alike related (host.step s) (other.step t)
  finish : ∀ {s t}, related s t → related (host.finish s) (other.finish t)

variable {host : Host σ} {other : Host τ} {related : σ → τ → Prop} {s : σ} {t : τ}

theorem Lockstep.duringRun (hlock : host.Lockstep other related) (length : Option UInt64)
    {body : σ → Except Failure α × σ} {body' : τ → Except Failure α × τ}
    (hbody : ∀ {s t}, related s t → Alike related (body s) (body' t)) (hrelated : related s t) :
    Alike related (host.duringRun length body s) (other.duringRun length body' t) := by
  unfold Host.duringRun
  obtain ⟨result, opened, opened', hs, ht, hopened⟩ := (hlock.setup length hrelated).split
  rw [hs, ht]
  cases result with
  | error failure => exact ⟨rfl, hopened⟩
  | ok _ =>
      obtain ⟨hresult, hlater⟩ := hbody hopened
      exact ⟨hresult, hlock.finish hlater⟩

/-- What holds of a state still holds after any call on the host. -/
structure Keeps (host : Host σ) (kept : σ → Prop) : Prop where
  prepare : ∀ {s}, kept s → kept (host.prepare s).2
  pointer : ∀ {s} id, kept s → kept (host.pointer id s).2
  references : ∀ {s} id, kept s → kept (host.references id s).2
  setup : ∀ {s} length, kept s → kept (host.setup length s).2
  step : ∀ {s}, kept s → kept (host.step s).2
  finish : ∀ {s}, kept s → kept (host.finish s)

theorem Keeps.lockstep {kept : σ → Prop} (hkeeps : host.Keeps kept) :
    host.Lockstep host fun s t => s = t ∧ kept s where
  cancelled := by
    rintro s _ ⟨rfl, _⟩
    rfl
  prepare := by
    rintro s _ ⟨rfl, hs⟩
    exact ⟨rfl, rfl, hkeeps.prepare hs⟩
  pointer := by
    rintro s _ id ⟨rfl, hs⟩
    exact ⟨rfl, rfl, hkeeps.pointer id hs⟩
  references := by
    rintro s _ id ⟨rfl, hs⟩
    exact ⟨rfl, rfl, hkeeps.references id hs⟩
  setup := by
    rintro s _ length ⟨rfl, hs⟩
    exact ⟨rfl, rfl, hkeeps.setup length hs⟩
  step := by
    rintro s _ ⟨rfl, hs⟩
    exact ⟨rfl, rfl, hkeeps.step hs⟩
  finish := by
    rintro s _ ⟨rfl, hs⟩
    exact ⟨rfl, hkeeps.finish hs⟩

end Host

section Analyses

variable {host : Host σ} {other : Host τ} {related : σ → τ → Prop} {s : σ} {t : τ}
  (hlock : host.Lockstep other related)

include hlock

theorem Resolution.settle_alike (start : InstanceId) (limit : UInt64) (budget : Nat)
    (current : InstanceId) (hrelated : related s t) :
    Alike related (settle host start limit budget current s)
      (settle other start limit budget current t) := by
  induction budget generalizing current s t with
  | zero =>
      unfold settle
      obtain ⟨answer, looked, looked', hs, ht, hlooked⟩ := (hlock.pointer current hrelated).split
      rw [hs, ht]
      cases answer with
      | none => exact ⟨rfl, hlooked⟩
      | some next =>
          simp only
          split
          · exact ⟨rfl, hlooked⟩
          · exact ⟨rfl, hlooked⟩
  | succ budget ih =>
      unfold settle
      obtain ⟨answer, looked, looked', hs, ht, hlooked⟩ := (hlock.pointer current hrelated).split
      rw [hs, ht]
      cases answer with
      | none => exact ⟨rfl, hlooked⟩
      | some next =>
          simp only [hlock.cancelled hlooked]
          split
          · exact ⟨rfl, hlooked⟩
          · split
            · exact ⟨rfl, hlooked⟩
            · exact ih next hlooked

theorem Resolution.resolve_alike (limit : UInt64) (id : InstanceId) (hrelated : related s t) :
    Alike related (resolve host limit id s) (resolve other limit id t) :=
  settle_alike hlock id limit limit.toNat id hrelated

namespace Aggregation

theorem visit_alike (limit : UInt64) (id : InstanceId) (hrelated : related s t) :
    Alike related (visit host limit id s) (visit other limit id t) := by
  unfold visit
  rw [hlock.cancelled hrelated]
  split
  · exact ⟨rfl, hrelated⟩
  · obtain ⟨key, resolved, resolved', hs, ht, hresolved⟩ :=
      (Resolution.resolve_alike hlock limit id hrelated).split
    rw [hs, ht]
    cases key with
    | error failure => exact ⟨rfl, hresolved⟩
    | ok key =>
        obtain ⟨stepped, later, later', hs, ht, hlater⟩ := (hlock.step hresolved).split
        simp only [hs, ht]
        cases stepped with
        | error failure => exact ⟨rfl, hlater⟩
        | ok _ => exact ⟨rfl, hlater⟩

theorem conclude_alike (result : Except Failure RootGroups) (hrelated : related s t) :
    Alike related (conclude host result s) (conclude other result t) := by
  unfold conclude
  rw [hlock.cancelled hrelated]
  split
  · exact ⟨rfl, hrelated⟩
  · exact ⟨rfl, hrelated⟩

theorem gather_alike (limit : UInt64) (instances : List InstanceId) (groups : RootGroups)
    (hrelated : related s t) :
    Alike related (gather host limit instances groups s)
      (gather other limit instances groups t) := by
  induction instances generalizing groups s t with
  | nil => exact conclude_alike hlock _ hrelated
  | cons id rest ih =>
      unfold gather
      obtain ⟨key, visited, visited', hs, ht, hvisited⟩ :=
        (visit_alike hlock limit id hrelated).split
      rw [hs, ht]
      cases key with
      | error failure => exact ⟨rfl, hvisited⟩
      | ok key => exact ih _ hvisited

theorem gatherAll_alike (limit : UInt64) (instances : List InstanceId)
    (result : Except Failure RootGroups) (hrelated : related s t) :
    Alike related (gatherAll host limit instances result s)
      (gatherAll other limit instances result t) := by
  induction instances generalizing result s t with
  | nil => exact conclude_alike hlock _ hrelated
  | cons id rest ih =>
      unfold gatherAll
      obtain ⟨key, visited, visited', hs, ht, hvisited⟩ :=
        (visit_alike hlock limit id hrelated).split
      rw [hs, ht]
      exact ih _ hvisited

theorem sequential_alike (limit : UInt64) (instances : List InstanceId) (expected : UInt64)
    (hrelated : related s t) :
    Alike related (sequential host limit instances expected s)
      (sequential other limit instances expected t) :=
  hlock.duringRun _ (fun hopened => gather_alike hlock limit instances .empty hopened) hrelated

theorem exhaustive_alike (limit : UInt64) (instances : List InstanceId)
    (hrelated : related s t) :
    Alike related (exhaustive host limit instances s) (exhaustive other limit instances t) :=
  hlock.duringRun _ (fun hopened => gatherAll_alike hlock limit instances _ hopened) hrelated

end Aggregation

namespace Path

theorem walk_alike (policy : MissingEdgePolicy) (start : InstanceId) (visited : Visited)
    (hops : List Hop) (current next : InstanceId) (hrelated : related s t) :
    Alike related (walk host policy start visited hops current next s)
      (walk other policy start visited hops current next t) := by
  induction hroom : visited.room using Nat.strongRecOn
    generalizing visited hops current next s t with
  | ind room ih =>
      rw [walk, walk, hlock.cancelled hrelated]
      split
      · exact ⟨rfl, hrelated⟩
      split
      · exact ⟨rfl, hrelated⟩
      obtain ⟨references, scanned, scanned', hs, ht, hscanned⟩ :=
        (hlock.references current hrelated).split
      simp only [hs, ht]
      cases hop policy current next references with
      | error failure => exact ⟨rfl, hscanned⟩
      | ok taken =>
          by_cases hfresh : visited.contains next = false
          · obtain ⟨answer, looked, looked', hs, ht, hlooked⟩ :=
              (hlock.pointer next hscanned).split
            simp only [hfresh, dite_true, hs, ht]
            cases answer with
            | none => exact ⟨rfl, hlooked⟩
            | some after =>
                obtain ⟨stepped, later, later', hs, ht, hlater⟩ := (hlock.step hlooked).split
                simp only [hs, ht]
                cases stepped with
                | error failure => exact ⟨rfl, hlater⟩
                | ok _ =>
                    exact ih _ (hroom ▸ Visited.room_insert_lt hfresh) _ _ _ _ hlater rfl
          · simp only [hfresh]
            exact ⟨rfl, hscanned⟩

theorem build_alike (policy : MissingEdgePolicy) (start : InstanceId) (hrelated : related s t) :
    Alike related (build host policy start s) (build other policy start t) := by
  unfold build
  obtain ⟨answer, looked, looked', hs, ht, hlooked⟩ := (hlock.pointer start hrelated).split
  rw [hs, ht]
  cases answer with
  | none => exact ⟨rfl, hlooked⟩
  | some next =>
      by_cases hself : next = start
      · simp only [hself, if_true]
        exact ⟨rfl, hlooked⟩
      · simp only [hself, if_false]
        exact hlock.duringRun none
          (fun hopened => walk_alike hlock policy start _ _ start next hopened) hlooked

end Path

namespace Analyzer

theorem buildPath_alike (analyzer : Analyzer) (id : InstanceId) (hrelated : related s t) :
    Alike related (analyzer.buildPath host id s) (analyzer.buildPath other id t) := by
  unfold buildPath
  obtain ⟨prepared, ready, ready', hs, ht, hready⟩ := (hlock.prepare hrelated).split
  rw [hs, ht]
  cases prepared with
  | error failure => exact ⟨rfl, hready⟩
  | ok _ => exact Path.build_alike hlock _ id hready

theorem aggregate_alike (analyzer : Analyzer) (instances : List InstanceId) (expected : UInt64)
    (hrelated : related s t) :
    Alike related (analyzer.aggregate host instances expected s)
      (analyzer.aggregate other instances expected t) := by
  unfold aggregate
  obtain ⟨prepared, ready, ready', hs, ht, hready⟩ := (hlock.prepare hrelated).split
  rw [hs, ht]
  cases prepared with
  | error failure => exact ⟨rfl, hready⟩
  | ok _ =>
      cases analyzer.settings.parallelAggregation with
      | false => exact Aggregation.sequential_alike hlock _ instances expected hready
      | true =>
          simp only [if_true]
          cases reserve expected with
          | error failure => exact ⟨rfl, hready⟩
          | ok _ => exact Aggregation.exhaustive_alike hlock _ instances hready

end Analyzer

end Analyses

/-! ## Analyses in general -/

/-- An analysis, which any host can serve. -/
abbrev Analysis (α : Type) : Type 1 :=
  ∀ {σ : Type}, Host σ → σ → Except Failure α × σ

/-- An analysis is uniform if it comes to the same on all hosts in lockstep. -/
def Analysis.Uniform (analysis : Analysis α) : Prop :=
  ∀ {σ τ : Type} {host : Host σ} {other : Host τ} {related : σ → τ → Prop} {s : σ} {t : τ},
    host.Lockstep other related → related s t → Alike related (analysis host s) (analysis other t)

/-- What every call on a host keeps, a uniform analysis keeps. -/
theorem Analysis.Uniform.keeps {analysis : Analysis α} (huniform : Uniform analysis)
    {host : Host σ} {kept : σ → Prop} (hkeeps : host.Keeps kept) {s : σ} (hs : kept s) :
    kept (analysis host s).2 :=
  (huniform hkeeps.lockstep ⟨rfl, hs⟩).2.2

theorem Path.build_uniform (policy : MissingEdgePolicy) (start : InstanceId) :
    Analysis.Uniform fun host => build host policy start :=
  fun hlock hrelated => build_alike hlock policy start hrelated

theorem Aggregation.sequential_uniform (limit : UInt64) (instances : List InstanceId)
    (expected : UInt64) :
    Analysis.Uniform fun host => sequential host limit instances expected :=
  fun hlock hrelated => sequential_alike hlock limit instances expected hrelated

theorem Aggregation.exhaustive_uniform (limit : UInt64) (instances : List InstanceId) :
    Analysis.Uniform fun host => exhaustive host limit instances :=
  fun hlock hrelated => exhaustive_alike hlock limit instances hrelated

theorem Analyzer.buildPath_uniform (analyzer : Analyzer) (id : InstanceId) :
    Analysis.Uniform fun host => analyzer.buildPath host id :=
  fun hlock hrelated => buildPath_alike hlock analyzer id hrelated

theorem Analyzer.aggregate_uniform (analyzer : Analyzer) (instances : List InstanceId)
    (expected : UInt64) :
    Analysis.Uniform fun host => analyzer.aggregate host instances expected :=
  fun hlock hrelated => aggregate_alike hlock analyzer instances expected hrelated

/-! ## How an analysis begins -/

namespace Analyzer

variable (analyzer : Analyzer) (host : Host σ) (s : σ)

theorem buildPath_cases (id : InstanceId) :
    (∃ failure prepared, host.prepare s = (.error failure, prepared) ∧
        analyzer.buildPath host id s = (.error failure, prepared)) ∨
      ∃ prepared, host.prepare s = (.ok (), prepared) ∧
        analyzer.buildPath host id s =
          Path.build host analyzer.settings.missingEdge id prepared := by
  unfold buildPath
  split
  next failure prepared hprepare => exact .inl ⟨failure, prepared, hprepare, rfl⟩
  next prepared hprepare => exact .inr ⟨prepared, hprepare, rfl⟩

theorem aggregate_cases (instances : List InstanceId) (expected : UInt64) :
    (∃ failure prepared, host.prepare s = (.error failure, prepared) ∧
        analyzer.aggregate host instances expected s = (.error failure, prepared)) ∨
      ∃ prepared, host.prepare s = (.ok (), prepared) ∧
        ((analyzer.settings.parallelAggregation = true ∧
            ∃ failure, reserve expected = .error failure ∧
              analyzer.aggregate host instances expected s = (.error failure, prepared)) ∨
          (analyzer.settings.parallelAggregation = true ∧ reserve expected = .ok () ∧
            analyzer.aggregate host instances expected s =
              Aggregation.exhaustive host analyzer.settings.maxRootDistance instances prepared) ∨
          analyzer.settings.parallelAggregation = false ∧
            analyzer.aggregate host instances expected s =
              Aggregation.sequential host analyzer.settings.maxRootDistance instances expected
                prepared) := by
  unfold aggregate
  split
  next failure prepared hprepare => exact .inl ⟨failure, prepared, hprepare, rfl⟩
  next prepared hprepare =>
    refine .inr ⟨prepared, hprepare, ?_⟩
    split
    next hparallel =>
      cases hreserve : reserve expected with
      | error failure => exact .inl ⟨hparallel, failure, rfl, rfl⟩
      | ok _ => exact .inr (.inl ⟨hparallel, rfl, rfl⟩)
    next hsequential => exact .inr (.inr ⟨Bool.eq_false_iff.mpr hsequential, rfl⟩)

end Analyzer

end Retention
