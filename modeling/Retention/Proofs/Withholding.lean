import Mathlib
import Retention.Proofs.Faithfulness
import Retention.Proofs.Record

/-!
# Withheld results

No result of an analysis escapes its cancellation. The token is polled after the last call that
could have cancelled, so a chain or groups that come out mean that it is free at the end; and since
a request to cancel is never withdrawn, it has been free all along. Only what the first look-up
settles is exempt.
-/

namespace Retention

variable {σ α β : Type} {host : Host σ} {heap : HeapView} {state later : σ}

namespace Host

theorem free_of_sticky (hsticky : host.cancelled state = true → host.cancelled later = true)
    (hfree : host.cancelled later = false) : host.cancelled state = false := by
  cases hstate : host.cancelled state with
  | false => rfl
  | true =>
      rw [hsticky hstate] at hfree
      cases hfree

/-- A token that is free was free at the beginning and at each call since. -/
def FreeSince (host : Host σ) (begun : σ) (recorded : Recorded σ) : Prop :=
  host.cancelled recorded.state = false →
    host.cancelled begun = false ∧ ∀ record ∈ recorded.log, record.cancelled = false

variable {begun : σ} {recorded : Recorded σ}

theorem freeSince_start (host : Host σ) (begun : σ) : host.FreeSince begun (.start begun) :=
  fun hfree => ⟨hfree, fun _ hmem => nomatch hmem⟩

theorem FreeSince.note (hsince : host.FreeSince begun recorded)
    (hsticky : host.cancelled recorded.state = true → host.cancelled later = true)
    (call : HostCall) : host.FreeSince begun (host.note recorded call later) := by
  intro hfree
  obtain ⟨hbegun, hlog⟩ := hsince (free_of_sticky hsticky hfree)
  refine ⟨hbegun, fun record hmem => ?_⟩
  rcases List.mem_append.mp hmem with hold | hnew
  · exact hlog record hold
  · rw [List.mem_singleton.mp hnew]
    exact hfree

theorem keeps_freeSince (htoken : host.TokenLaws) (begun : σ) :
    host.recorded.Keeps (host.FreeSince begun) where
  prepare hsince := hsince.note (fun hcancelled => (htoken.prepare _).trans hcancelled) _
  pointer id hsince := hsince.note (htoken.pointer id) _
  references id hsince :=
    hsince.note (fun hcancelled => (htoken.references _ id).trans hcancelled) _
  setup length hsince := hsince.note (fun hcancelled => (htoken.setup _ length).trans hcancelled) _
  step hsince := hsince.note htoken.step _
  finish hsince := hsince.note (fun hcancelled => (htoken.finish _).trans hcancelled) _

end Host

theorem Monitor.host_answers (heap : HeapView) (plan : HostPlan) (sink : SinkPlan) :
    (Monitor.host heap plan sink).Answers heap where
  pointer_fst _ _ := rfl
  references_fst _ _ := rfl

/-! ## Free tokens at the end -/

theorem Host.duringRun_ok_free (htoken : host.TokenLaws) {length : Option UInt64}
    {body : σ → Except Failure α × σ} {value : α}
    (hbody : ∀ opened, (body opened).1 = .ok value → host.cancelled (body opened).2 = false)
    (hrun : (host.duringRun length body state).1 = .ok value) :
    host.cancelled (host.duringRun length body state).2 = false := by
  obtain ⟨opened, _, hresult, hlater⟩ := duringRun_ok hrun
  rw [hlater, htoken.finish]
  exact hbody opened hresult

namespace Path

theorem walk_ok_free {policy : MissingEdgePolicy} {start current next : InstanceId}
    {visited : Visited} {hops : List Hop} {outcome : PathOutcome}
    (hwalk : (walk host policy start visited hops current next state).1 = .ok outcome) :
    host.cancelled (walk host policy start visited hops current next state).2 = false := by
  fun_induction walk host policy start visited hops current next state with
  | case1 => cases hwalk
  | case2 visited hops next state hfree => exact Bool.eq_false_iff.mpr hfree
  | case3 => cases hwalk
  | case4 => cases hwalk
  | case5 => cases hwalk
  | case6 visited hops current next state _ _ _ _ _ _ _ _ _ _ _ _ _ ih => exact ih hwalk
  | case7 => cases hwalk

/-- A chain comes out only of a run, at whose end the token is free. -/
theorem build_chain_free (htoken : host.TokenLaws) {policy : MissingEdgePolicy}
    {start : InstanceId} {chain : RootChain}
    (hbuild : (build host policy start state).1 = .ok (.chain chain)) :
    host.cancelled (build host policy start state).2 = false := by
  unfold build at hbuild ⊢
  split at hbuild
  next => cases hbuild
  next next looked hlookup =>
    split at hbuild
    next => cases hbuild
    next hleaves =>
      simp only [hleaves, if_false]
      exact Host.duringRun_ok_free htoken (fun _ hwalk => walk_ok_free hwalk) hbuild

end Path

namespace Aggregation

variable {limit : UInt64} {instances : List InstanceId} {groups found : RootGroups}

theorem conclude_ok_free {result : Except Failure RootGroups}
    (hresult : (conclude host result state).1 = .ok found) :
    host.cancelled (conclude host result state).2 = false := by
  rw [conclude_state]
  exact ((conclude_eq_ok_iff _ _).mp hresult).2

theorem gather_ok_free (hgather : (gather host limit instances groups state).1 = .ok found) :
    host.cancelled (gather host limit instances groups state).2 = false := by
  induction instances generalizing groups state with
  | nil => exact conclude_ok_free hgather
  | cons id rest ih =>
      unfold gather at hgather ⊢
      cases hvisit : visit host limit id state with
      | mk key visited =>
          rw [hvisit] at hgather
          cases key with
          | error failure => cases hgather
          | ok key => exact ih hgather

theorem gatherAll_ok_free {result : Except Failure RootGroups}
    (hgather : (gatherAll host limit instances result state).1 = .ok found) :
    host.cancelled (gatherAll host limit instances result state).2 = false := by
  rw [gatherAll_eq] at hgather ⊢
  exact conclude_ok_free hgather

end Aggregation

/-! ## Withheld results -/

/-- Nothing but results of the kind `exempt` comes out of an analysis that was cancelled. Any other
result means that the token was free at the start, after every call and at the end, and is the
result of the undisturbed analysis. -/
structure Withholds (analysis : Analysis α) (host : Host σ) (state : σ) (exempt : α → Prop) :
    Prop where
  free : ∀ value, (analysis host state).1 = .ok value → ¬ exempt value →
    host.cancelled state = false ∧
      (∀ record ∈ Analysis.log analysis host state, record.cancelled = false) ∧
      host.cancelled (analysis host state).2 = false
  undisturbed : ∀ value, (analysis host state).1 = .ok value → ¬ exempt value →
    (analysis host.undisturbed state).1 = .ok value
  cancelled : host.cancelled (analysis host state).2 = true →
    ∀ value, (analysis host state).1 = .ok value → exempt value

namespace Withholds

variable {analysis : Analysis α} {exempt : α → Prop}

/-- It is enough that the token is free at the end. -/
theorem of_uniform (huniform : Analysis.Uniform analysis) (htoken : host.TokenLaws)
    (hfree : ∀ value, (analysis host state).1 = .ok value → ¬ exempt value →
      host.cancelled (analysis host state).2 = false)
    (hundisturbed : ∀ value, (analysis host state).1 = .ok value → ¬ exempt value →
      (analysis host.undisturbed state).1 = .ok value) :
    Withholds analysis host state exempt where
  free value hvalue hexempt := by
    have hlater := hfree value hvalue hexempt
    have hsince := huniform.keeps (host.keeps_freeSince htoken state) (host.freeSince_start state)
    obtain ⟨hbegun, hlog⟩ := hsince (by rwa [(huniform.recorded host state).2])
    exact ⟨hbegun, hlog, hlater⟩
  undisturbed := hundisturbed
  cancelled hcancelled value hvalue := by
    by_contra hexempt
    rw [hfree value hvalue hexempt] at hcancelled
    cases hcancelled

/-- A report on an analysis is withheld if it comes of a withheld result only. -/
theorem report (hwithholds : Withholds analysis host state exempt) {exempt' : β → Prop}
    (report : Except Failure α → Except Failure β)
    (hreport : ∀ result value, report result = .ok value → ¬ exempt' value →
      ∃ found, result = .ok found ∧ ¬ exempt found) :
    Withholds (fun host state => (report (analysis host state).1, (analysis host state).2)) host
      state exempt' where
  free value hvalue hexempt := by
    obtain ⟨found, hfound, hnot⟩ := hreport _ value hvalue hexempt
    exact hwithholds.free found hfound hnot
  undisturbed value hvalue hexempt := by
    obtain ⟨found, hfound, hnot⟩ := hreport _ value hvalue hexempt
    rw [← hvalue, hfound]
    simp only [hwithholds.undisturbed found hfound hnot]
  cancelled hcancelled value hvalue := by
    by_contra hexempt
    obtain ⟨found, hfound, hnot⟩ := hreport _ value hvalue hexempt
    exact hnot (hwithholds.cancelled hcancelled found hfound)

end Withholds

namespace Analyzer

theorem buildPath_withholds (hanswers : host.Answers heap) (htoken : host.TokenLaws)
    (analyzer : Analyzer) (id : InstanceId) (state : σ) :
    Withholds (fun host => analyzer.buildPath host id) host state
      fun outcome => outcome = .noRoot ∨ outcome = .isRoot := by
  refine .of_uniform (analyzer.buildPath_uniform id) htoken (fun outcome hbuild hnot => ?_)
    fun outcome hbuild _ => analyzer.buildPath_undisturbed hanswers hbuild
  rcases analyzer.buildPath_cases host state id with ⟨_, _, _, heq⟩ | ⟨_, _, heq⟩
  · rw [heq] at hbuild
    cases hbuild
  · simp only [heq] at hbuild ⊢
    cases outcome with
    | noRoot => exact absurd (.inl rfl) hnot
    | isRoot => exact absurd (.inr rfl) hnot
    | chain chain => exact Path.build_chain_free htoken hbuild

theorem aggregate_withholds (hanswers : host.Answers heap) (htoken : host.TokenLaws)
    (analyzer : Analyzer) (instances : List InstanceId) (expected : UInt64) (state : σ) :
    Withholds (fun host => analyzer.aggregate host instances expected) host state
      fun _ => False := by
  refine .of_uniform (analyzer.aggregate_uniform instances expected) htoken
    (fun groups hresult _ => ?_)
    fun groups hresult _ => analyzer.aggregate_undisturbed hanswers hresult
  rcases analyzer.aggregate_cases host state instances expected with
    ⟨_, _, _, heq⟩ | ⟨_, _, ⟨_, _, _, heq⟩ | ⟨_, _, heq⟩ | ⟨_, heq⟩⟩
  · rw [heq] at hresult
    cases hresult
  · rw [heq] at hresult
    cases hresult
  · simp only [heq] at hresult ⊢
    exact Host.duringRun_ok_free htoken (fun _ => Aggregation.gatherAll_ok_free) hresult
  · simp only [heq] at hresult ⊢
    exact Host.duringRun_ok_free htoken (fun _ => Aggregation.gather_ok_free) hresult

theorem analyzeInstance_withholds (hanswers : host.Answers heap) (htoken : host.TokenLaws)
    (analyzer : Analyzer) (id : InstanceId) (state : σ) :
    Withholds (fun host => analyzer.analyzeInstance host id) host state
      fun report => report = .noRoot ∨ report = .isRoot := by
  refine (analyzer.buildPath_withholds hanswers htoken id state).report
    (fun result => result.map Report.ofOutcome) fun result report hreport hnot => ?_
  cases result with
  | error failure => cases hreport
  | ok outcome =>
      refine ⟨outcome, rfl, ?_⟩
      rintro (rfl | rfl)
      · cases hreport
        exact hnot (.inl rfl)
      · cases hreport
        exact hnot (.inr rfl)

theorem analyzeInstances_withholds (hanswers : host.Answers heap) (htoken : host.TokenLaws)
    (analyzer : Analyzer) (instances : List InstanceId) (expected : UInt64) (state : σ) :
    Withholds (fun host => analyzer.analyzeInstances host instances expected) host state
      fun report => report = .outOfMemory := by
  refine (analyzer.aggregate_withholds hanswers htoken instances expected state).report
    reportOf fun result report hreport hnot => ?_
  unfold reportOf at hreport
  split at hreport
  next groups => exact ⟨groups, rfl, not_false⟩
  next context =>
    cases hreport
    exact absurd rfl hnot
  next => cases hreport

/-- No result escapes a cancelled analysis. A chain and groups come out only if the token was free
at all times, and are then those of the undisturbed analysis. With the token cancelled at the end,
paths come to nothing but what the first look-up settles, aggregation fails, and the reports on
either say no more than that; that memory ran out is the one failure with a report of its own. -/
theorem withholds_results (hanswers : host.Answers heap) (htoken : host.TokenLaws)
    (analyzer : Analyzer) (state : σ) :
    (∀ id, Withholds (fun host => analyzer.buildPath host id) host state
        fun outcome => outcome = .noRoot ∨ outcome = .isRoot) ∧
      (∀ instances expected,
        Withholds (fun host => analyzer.aggregate host instances expected) host state
          fun _ => False) ∧
      (∀ id, Withholds (fun host => analyzer.analyzeInstance host id) host state
        fun report => report = .noRoot ∨ report = .isRoot) ∧
      ∀ instances expected,
        Withholds (fun host => analyzer.analyzeInstances host instances expected) host state
          fun report => report = .outOfMemory :=
  ⟨fun id => analyzer.buildPath_withholds hanswers htoken id state,
    fun instances expected => analyzer.aggregate_withholds hanswers htoken instances expected state,
    fun id => analyzer.analyzeInstance_withholds hanswers htoken id state,
    fun instances expected =>
      analyzer.analyzeInstances_withholds hanswers htoken instances expected state⟩

/-- Cancellation at the last of the four look-ups from 1 withholds a chain that is complete by then;
planned one look-up later, it never comes to pass. -/
theorem withholds_results_sample :
    let sink : SinkPlan := ⟨true, none, none⟩
    let stopped := Monitor.host .sample ⟨none, some 4⟩ sink
    let passed := Monitor.host .sample ⟨none, some 5⟩ sink
    stopped.Answers .sample ∧ passed.Answers .sample ∧ stopped.TokenLaws ∧ passed.TokenLaws ∧
      (default.buildPath stopped ⟨1⟩ .fresh).2.cancelled = true ∧
      (∀ outcome, (default.buildPath stopped ⟨1⟩ .fresh).1 = .ok outcome →
        outcome = .noRoot ∨ outcome = .isRoot) ∧
      ∃ chain, (default.buildPath passed ⟨1⟩ .fresh).1 = .ok (.chain chain) ∧
        (∀ record ∈ Analysis.log (fun host => default.buildPath host ⟨1⟩) passed .fresh,
          record.cancelled = false) ∧
        (default.buildPath passed.undisturbed ⟨1⟩ .fresh).1 = .ok (.chain chain) := by
  intro sink stopped passed
  have hstopped := Monitor.host_answers .sample ⟨none, some 4⟩ sink
  have hpassed := Monitor.host_answers .sample ⟨none, some 5⟩ sink
  have hcancelled : (default.buildPath stopped ⟨1⟩ .fresh).2.cancelled = true := by cbv
  obtain ⟨chain, hchain⟩ :
      ∃ chain, (default.buildPath passed ⟨1⟩ .fresh).1 = .ok (.chain chain) :=
    ⟨⟨⟨1⟩, ⟨4⟩, [⟨⟨1⟩, ⟨2⟩, .field "next"⟩, ⟨⟨3⟩, ⟨4⟩, .slot 0⟩], [⟨⟨2⟩, ⟨3⟩⟩]⟩, by cbv⟩
  have hnot : ¬ (PathOutcome.chain chain = .noRoot ∨ PathOutcome.chain chain = .isRoot) := by simp
  obtain ⟨hpath, -⟩ := withholds_results hstopped (Monitor.host_tokenLaws _ _ _) default .fresh
  obtain ⟨hpath', -⟩ := withholds_results hpassed (Monitor.host_tokenLaws _ _ _) default .fresh
  exact ⟨hstopped, hpassed, Monitor.host_tokenLaws _ _ _, Monitor.host_tokenLaws _ _ _, hcancelled,
    (hpath ⟨1⟩).cancelled hcancelled, chain, hchain, ((hpath' ⟨1⟩).free _ hchain hnot).2.1,
    (hpath' ⟨1⟩).undisturbed _ hchain hnot⟩

end Analyzer

end Retention
