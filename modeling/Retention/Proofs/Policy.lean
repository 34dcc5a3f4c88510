import Mathlib
import Retention.Proofs.Faithfulness
import Retention.Proofs.Script

/-!
# Missing references under either policy

The policy for missing references is consulted once in a hop, after the scan. So a path that fails
over them does what a path that skips them does, call for call and poll for poll, up to the first
scan that shows no reference; there it stops, whatever else the other path is still to meet. If no
scan shows that, the two do the same throughout.
-/

namespace Retention

variable {σ : Type} {host : Host σ} {heap : HeapView}

namespace HeapView

/-- The pointer of `source` names `target`, to which `source` holds no reference. -/
def Gap (heap : HeapView) (source target : InstanceId) : Prop :=
  heap.pointer source = some target ∧ heap.edgeBetween source target = none

/-- No instance that is scanned has a gap. -/
def Gapless (heap : HeapView) (actions : List Action) : Prop :=
  ∀ source target, .call (.scan source) ∈ actions → ¬ heap.Gap source target

theorem not_gap_of_edge {source next : InstanceId} {edge : Edge}
    (hpointer : heap.pointer source = some next)
    (hedge : heap.edgeBetween source next = some edge) (target : InstanceId) :
    ¬ heap.Gap source target := by
  rintro ⟨htarget, hnone⟩
  obtain rfl : next = target := Option.some.inj (hpointer.symm.trans htarget)
  rw [hedge] at hnone
  cases hnone

theorem Gapless.cons {actions : List Action} {action : Action} (hgapless : heap.Gapless actions)
    (haction : ∀ source target, action = .call (.scan source) → ¬ heap.Gap source target) :
    heap.Gapless (action :: actions) := by
  intro source target hmem
  rcases List.mem_cons.mp hmem with heq | hmem
  · exact haction source target heq.symm
  · exact hgapless source target hmem

theorem gapless_nil : heap.Gapless [] :=
  fun _ _ hmem => nomatch hmem

/-- The performance `cut` is `whole` if that scans no instance with a gap. Otherwise it stops at the
first such scan with a failure that names the gap, and does nothing more but what is `closing`. -/
inductive Curtails (heap : HeapView) (closing : List Action)
    (whole cut : Performance σ PathOutcome) : Prop where
  | same (heq : cut = whole) (hgapless : heap.Gapless whole.actions)
      (hcomplete : ∀ chain, whole.result = .ok (.chain chain) → chain.skipped = [])
  | stopped (before : List Action) (source target : InstanceId) (after : List Action)
      (hgap : heap.Gap source target) (hgapless : heap.Gapless before)
      (hwhole : whole.actions = before ++ .call (.scan source) :: after)
      (hcut : cut.actions = before ++ .call (.scan source) :: closing)
      (hresult : cut.result = .error (.inconsistent (.missingEdge source target)))
      (hskips : ∀ outcome, whole.result = .ok outcome →
        ∃ chain, outcome = .chain chain ∧ ⟨source, target⟩ ∈ chain.skipped)

namespace Curtails

variable {closing : List Action} {whole cut : Performance σ PathOutcome}

/-- Both do the same before: the first gap is still the first. -/
theorem after (hcurtails : heap.Curtails closing whole cut) {action : Action}
    (haction : ∀ source target, action = .call (.scan source) → ¬ heap.Gap source target) :
    heap.Curtails closing (whole.after action) (cut.after action) := by
  cases hcurtails with
  | same heq hgapless hcomplete =>
      subst heq
      exact .same rfl (hgapless.cons haction) hcomplete
  | stopped before source target after hgap hgapless hwhole hcut hresult hskips =>
      refine .stopped (action :: before) source target after hgap (hgapless.cons haction) ?_ ?_
        hresult hskips
      · rw [Performance.actions_after, hwhole, List.cons_append]
      · rw [Performance.actions_after, hcut, List.cons_append]

theorem done (result : Except Failure PathOutcome) (state : σ)
    (hcomplete : ∀ chain, result = .ok (.chain chain) → chain.skipped = []) :
    heap.Curtails closing ⟨result, state, []⟩ ⟨result, state, []⟩ :=
  .same rfl gapless_nil hcomplete

theorem failed (failure : Failure) (state : σ) :
    heap.Curtails closing ⟨.error failure, state, []⟩ ⟨.error failure, state, []⟩ :=
  done _ state fun _ hchain => nomatch hchain

theorem finishing {skipping failing : Script PathOutcome} {state : σ}
    (hcurtails : heap.Curtails [] (skipping.perform host state) (failing.perform host state)) :
    heap.Curtails [.call .finish] (skipping.finishing.perform host state)
      (failing.finishing.perform host state) := by
  rw [Script.perform_finishing, Script.perform_finishing]
  cases hcurtails with
  | same heq hgapless hcomplete =>
      rw [heq]
      refine .same rfl ?_ hcomplete
      intro source target hmem
      rcases List.mem_append.mp hmem with hmem | hmem
      · exact hgapless source target hmem
      · cases List.mem_singleton.mp hmem
  | stopped before source target after hgap hgapless hwhole hcut hresult hskips =>
      refine .stopped before source target (after ++ [.call .finish]) hgap hgapless ?_ ?_ hresult
        hskips
      · simp only [hwhole, List.append_assoc, List.cons_append]
      · simp only [hcut, List.append_assoc, List.cons_append, List.nil_append]

end Curtails

end HeapView

namespace Path

open HeapView

variable {start current next : InstanceId} {visited : Visited} {hops : List Hop} {state : σ}

theorem hop_of_edge (policy : MissingEdgePolicy) {edge : Edge}
    (hedge : heap.edgeBetween current next = some edge) :
    hop policy current next (heap.references current) = .ok (.found ⟨current, next, edge⟩) := by
  unfold hop
  rw [show Reference.firstTo next (heap.references current) = some edge from hedge]

theorem hop_skip_of_none (hnone : heap.edgeBetween current next = none) :
    hop .skip current next (heap.references current) = .ok (.skipped ⟨current, next⟩) := by
  unfold hop
  rw [show Reference.firstTo next (heap.references current) = none from hnone]

theorem hop_fail_of_none (hnone : heap.edgeBetween current next = none) :
    hop .fail current next (heap.references current) =
      .error (.inconsistent (.missingEdge current next)) := by
  unfold hop
  rw [show Reference.firstTo next (heap.references current) = none from hnone]

/-- A walk with a result has its chain, in which the hops skipped so far are recorded. -/
theorem walk_ok_skipped {policy : MissingEdgePolicy} {outcome : PathOutcome}
    (hwalk : (walk host policy start visited hops current next state).1 = .ok outcome) :
    ∃ chain, outcome = .chain chain ∧
      ∀ skipped, .skipped skipped ∈ hops → skipped ∈ chain.skipped := by
  fun_induction walk host policy start visited hops current next state with
  | case1 => cases hwalk
  | case2 visited hops next state _ =>
      cases hwalk
      refine ⟨_, rfl, fun skipped hmem => ?_⟩
      exact List.mem_filterMap.mpr ⟨_, List.mem_reverse.mpr hmem, rfl⟩
  | case3 => cases hwalk
  | case4 => cases hwalk
  | case5 => cases hwalk
  | case6 visited hops current next state _ _ _ _ _ _ _ _ _ _ _ _ _ ih =>
      obtain ⟨chain, houtcome, hskipped⟩ := ih hwalk
      exact ⟨chain, houtcome, fun skipped hmem => hskipped skipped (List.mem_cons_of_mem _ hmem)⟩
  | case7 => cases hwalk

/-- A walk that skips its next hop and has a result records that hop. -/
theorem walk_ok_of_gap (hanswers : host.Answers heap) {outcome : PathOutcome}
    (hne : current ≠ next) (hnone : heap.edgeBetween current next = none)
    (hwalk : (walk host .skip start visited hops current next state).1 = .ok outcome) :
    ∃ chain, outcome = .chain chain ∧ ⟨current, next⟩ ∈ chain.skipped := by
  rw [walk] at hwalk
  split at hwalk
  next => cases hwalk
  next =>
    simp only [hanswers.references_fst, hop_skip_of_none hnone] at hwalk
    split at hwalk
    next =>
      split at hwalk
      next => cases hwalk
      next =>
        split at hwalk
        next => cases hwalk
        next =>
          obtain ⟨chain, houtcome, hskipped⟩ := walk_ok_skipped hwalk
          exact ⟨chain, houtcome, hskipped _ List.mem_cons_self⟩
    next => cases hwalk

/-- A gap in the next hop ends the walk that fails, and is recorded by the one that skips. -/
theorem walkScript_curtails_of_gap (hanswers : host.Answers heap)
    (hfree : ¬ host.cancelled state = true) (hne : current ≠ next)
    (hgap : heap.Gap current next) :
    heap.Curtails [] ((walkScript .skip start visited hops current next).perform host state)
      ((walkScript .fail start visited hops current next).perform host state) := by
  have hskip := hop_skip_of_none hgap.2
  have hfail := hop_fail_of_none hgap.2
  have hfailing : (walkScript .fail start visited hops current next).perform host state =
      ⟨.error (.inconsistent (.missingEdge current next)), (host.references current state).2,
        [.poll false, .call (.scan current)]⟩ := by
    rw [walkScript]
    simp [Script.perform, hfree, hne, hanswers.references_fst, hfail, Performance.after]
  obtain ⟨after, hskipping⟩ : ∃ after,
      ((walkScript .skip start visited hops current next).perform host state).actions =
        .poll false :: .call (.scan current) :: after := by
    rw [walkScript]
    simp [Script.perform, hfree, hne]
  have hbefore : heap.Gapless [.poll false] := gapless_nil.cons fun _ _ heq => by cases heq
  refine .stopped [.poll false] current next after hgap hbefore hskipping ?_ ?_ ?_
  · rw [hfailing]
    rfl
  · rw [hfailing]
  · intro outcome houtcome
    obtain ⟨hresult, -⟩ := walkScript_conveys host .skip start visited hops current next state
    exact walk_ok_of_gap hanswers hne hgap.2 (hresult.symm.trans houtcome)

theorem walkScript_curtails (hanswers : host.Answers heap) (start : InstanceId)
    (visited : Visited) (hops : List Hop) (current next : InstanceId) (state : σ)
    (hpointer : heap.pointer current = some next) (hfound : ∀ hop ∈ hops, hop.skipped? = none) :
    heap.Curtails [] ((walkScript .skip start visited hops current next).perform host state)
      ((walkScript .fail start visited hops current next).perform host state) := by
  induction hroom : visited.room using Nat.strongRecOn
    generalizing visited hops current next state with
  | ind room ih =>
      by_cases hcancelled : host.cancelled state = true
      · rw [walkScript, walkScript]
        simp only [Script.perform, hcancelled, if_true]
        exact (Curtails.failed _ _).after fun _ _ heq => by cases heq
      by_cases hroot : current = next
      · rw [walkScript, walkScript]
        simp only [Script.perform, hcancelled, hroot, if_true, Bool.false_eq_true, if_false]
        refine (Curtails.done _ _ fun chain hchain => ?_).after fun _ _ heq => by cases heq
        cases hchain
        refine List.filterMap_eq_nil_iff.mpr fun hop hmem => ?_
        exact hfound hop (List.mem_reverse.mp hmem)
      cases hedge : heap.edgeBetween current next with
      | none => exact walkScript_curtails_of_gap hanswers hcancelled hroot ⟨hpointer, hedge⟩
      | some edge =>
          have hscan := not_gap_of_edge hpointer hedge
          rw [walkScript, walkScript]
          simp only [Script.perform, hcancelled, hroot, Bool.false_eq_true, if_false,
            hanswers.references_fst, hop_of_edge _ hedge]
          -- Up to here, and in what follows, the two do the same.
          refine Curtails.after (Curtails.after ?_ ?_) fun _ _ heq => by cases heq
          · by_cases hfresh : visited.contains next = false
            · simp only [hfresh, dite_true, Script.perform]
              refine Curtails.after ?_ fun _ _ heq => by cases heq
              cases hlookup : host.pointer next (host.references current state).2 with
              | mk answer looked =>
                  cases answer with
                  | none => exact Curtails.failed _ _
                  | some after =>
                      have hafter := hanswers.pointer_eq hlookup
                      simp only [Script.perform]
                      refine Curtails.after ?_ fun _ _ heq => by cases heq
                      cases hstep : host.step looked with
                      | mk stepped later =>
                          cases stepped with
                          | error failure => exact Curtails.failed _ _
                          | ok _ =>
                              refine ih _ (hroom ▸ Visited.room_insert_lt hfresh) _ _ _ _ _ hafter
                                (fun hop hmem => ?_) rfl
                              rcases List.mem_cons.mp hmem with rfl | hmem
                              · rfl
                              · exact hfound hop hmem
            · simp only [hfresh]
              exact Curtails.failed _ _
          · rintro source target heq
            cases heq
            exact hscan target

theorem script_curtails (hanswers : host.Answers heap) (start : InstanceId) (state : σ) :
    heap.Curtails [.call .finish] ((script .skip start).perform host state)
      ((script .fail start).perform host state) := by
  unfold script
  simp only [Script.perform]
  refine Curtails.after ?_ fun _ _ heq => by cases heq
  cases hlookup : host.pointer start state with
  | mk answer looked =>
      cases answer with
      | none => exact Curtails.done _ _ fun _ hchain => by cases hchain
      | some next =>
          by_cases hself : next = start
          · simp only [hself, if_true]
            exact Curtails.done _ _ fun _ hchain => by cases hchain
          · simp only [hself, if_false, Script.duringRun, Script.perform]
            refine Curtails.after ?_ fun _ _ heq => by cases heq
            cases hsetup : host.setup none looked with
            | mk result opened =>
                cases result with
                | error failure => exact Curtails.failed _ _
                | ok _ =>
                    exact Curtails.finishing (walkScript_curtails hanswers start _ [] start next
                      opened (hanswers.pointer_eq hlookup) fun _ hmem => by cases hmem)

/-- What a path comes to under the policy that fails, given what it comes to under the other. -/
theorem build_fail_of_skip_ok (hanswers : host.Answers heap) {outcome : PathOutcome}
    (hskip : (build host .skip start state).1 = .ok outcome) :
    (build host .fail start state).1 = .ok outcome ∨
      ∃ chain hop, outcome = .chain chain ∧ hop ∈ chain.skipped ∧
        (build host .fail start state).1 =
          .error (.inconsistent (.missingEdge hop.source hop.target)) := by
  obtain ⟨hskipping, -⟩ := script_conveys host .skip start state
  obtain ⟨hfailing, -⟩ := script_conveys host .fail start state
  rw [← hfailing]
  rw [← hskipping] at hskip
  cases script_curtails hanswers start state with
  | same heq => exact .inl (heq ▸ hskip)
  | stopped before source target after _ _ _ _ hresult hskips =>
      obtain ⟨chain, rfl, hmem⟩ := hskips outcome hskip
      exact .inr ⟨chain, ⟨source, target⟩, rfl, hmem, hresult⟩

/-- The policy that fails is the policy that skips, stopped at the first missing reference. If the
path that skips scans no instance with a gap, both do the same throughout, with the same result and
a complete chain. If it does, both do the same up to the first such scan, after which the path that
fails only finishes its run and names the gap, whatever the other one still meets. So a path that
fails over gaps has a result exactly if the other one has it without a skipped hop. -/
theorem fail_stops_at_first_gap (hanswers : host.Answers heap) (start : InstanceId) (state : σ) :
    let skipping := (script .skip start).perform host state
    let failing := (script .fail start).perform host state
    (∀ policy, let performed := (script policy start).perform host state
        (performed.result, performed.state) = build host policy start state ∧
          performed.actions.filterMap Action.call? =
            (Analysis.log (fun host => build host policy start) host state).map Record.call) ∧
      (heap.Gapless skipping.actions → failing = skipping ∧
        ∀ chain, skipping.result = .ok (.chain chain) → chain.isComplete = true) ∧
      (¬ heap.Gapless skipping.actions →
        ∃ before source target after, heap.Gap source target ∧ heap.Gapless before ∧
          skipping.actions = before ++ .call (.scan source) :: after ∧
          failing.actions = before ++ [.call (.scan source), .call .finish] ∧
          failing.result = .error (.inconsistent (.missingEdge source target))) ∧
      ∀ outcome, failing.result = .ok outcome ↔ skipping.result = .ok outcome ∧
        ∀ chain, outcome = .chain chain → chain.isComplete = true := by
  intro skipping failing
  refine ⟨fun policy => ?_, ?_⟩
  · obtain ⟨hresult, hstate⟩ := script_conveys host policy start state
    exact ⟨Prod.ext hresult hstate, (log_build host policy start state).symm⟩
  have hcurtails : heap.Curtails [.call .finish] skipping failing :=
    script_curtails hanswers start state
  cases hcurtails with
  | same heq hgapless hcomplete =>
      have hcompletes : ∀ chain, skipping.result = .ok (.chain chain) →
          chain.isComplete = true := by
        intro chain hchain
        rw [RootChain.isComplete, hcomplete chain hchain]
        rfl
      refine ⟨fun _ => ⟨heq, hcompletes⟩, fun hgap => absurd hgapless hgap, fun outcome => ?_⟩
      rw [heq]
      constructor
      · intro hok
        refine ⟨hok, ?_⟩
        rintro chain rfl
        exact hcompletes chain hok
      · exact And.left
  | stopped before source target after hgap hgapless hwhole hcut hresult hskips =>
      have hmeets : ¬ heap.Gapless skipping.actions := by
        intro hnone
        refine hnone source target ?_ hgap
        rw [hwhole]
        exact List.mem_append_right _ List.mem_cons_self
      refine ⟨fun hnone => absurd hnone hmeets, fun _ => ?_, fun outcome => ?_⟩
      · exact ⟨before, source, target, after, hgap, hgapless, hwhole, hcut, hresult⟩
      · rw [hresult]
        constructor
        · intro hok
          cases hok
        · rintro ⟨hok, hcomplete⟩
          obtain ⟨chain, rfl, hmem⟩ := hskips outcome hok
          have hnone : chain.skipped = [] := List.isEmpty_iff.mp (hcomplete chain rfl)
          rw [hnone] at hmem
          cases hmem

/-- In the sample heap the gap from 2 to 3 is named although the path that skips it is cancelled at
the look-up after it, and so has no chain to show it in. -/
theorem fail_stops_at_first_gap_sample :
    let host := Monitor.host .sample ⟨none, some 3⟩ ⟨true, none, none⟩
    let failing := (script .fail ⟨1⟩).perform host .fresh
    host.Answers .sample ∧ (build host .skip ⟨1⟩ .fresh).1 = .error .interrupted ∧
      failing.result = .error (.inconsistent (.missingEdge ⟨2⟩ ⟨3⟩)) ∧
      ∃ before, failing.actions = before ++ [.call (.scan ⟨2⟩), .call .finish] := by
  intro host failing
  have hanswers : host.Answers .sample := ⟨fun _ _ => rfl, fun _ _ => rfl⟩
  have hactions : ((script .skip ⟨1⟩).perform host .fresh).actions =
      [.call (.lookup ⟨1⟩), .call (.setup none (.ok ())), .poll false, .call (.scan ⟨1⟩),
        .call (.lookup ⟨2⟩), .call (.step (.ok ())), .poll false, .call (.scan ⟨2⟩),
        .call (.lookup ⟨3⟩), .call (.step (.ok ())), .poll true, .call .finish] := by
    subst host
    cbv
  have hinterrupted : (build host .skip ⟨1⟩ .fresh).1 = .error .interrupted := by
    subst host
    cbv
  have hgap : HeapView.Gap .sample ⟨2⟩ ⟨3⟩ := ⟨by decide, by decide⟩
  obtain ⟨-, -, hstops, -⟩ := fail_stops_at_first_gap hanswers ⟨1⟩ .fresh
  rw [hactions] at hstops
  obtain ⟨before, source, target, after, hfirst, -, hwhole, hcut, hresult⟩ :=
    hstops fun hnone => hnone ⟨2⟩ ⟨3⟩ (by decide) hgap
  have hscanned : .call (.scan source) ∈ before ++ .call (.scan source) :: after :=
    List.mem_append_right _ List.mem_cons_self
  rw [← hwhole] at hscanned
  -- Of the two instances that are scanned, 1 has a reference to where its pointer leads.
  have hsource : source = ⟨1⟩ ∨ source = ⟨2⟩ := by simpa using hscanned
  rcases hsource with rfl | rfl
  · exact absurd hfirst (HeapView.not_gap_of_edge rfl rfl target)
  · obtain rfl : ⟨3⟩ = target := Option.some.inj (hgap.1.symm.trans hfirst.1)
    exact ⟨hanswers, hinterrupted, hresult, before, hcut⟩

end Path

end Retention
