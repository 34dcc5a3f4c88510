import Retention.Path
import Retention.Proofs.Record

/-!
# Paths as scripts

What an analysis does next depends on nothing but the answers that it has had. Written out as a
script it says what it asks of its host, polls for cancellation included, and how it goes on with
each answer. A script can be performed on any host, and performing it leaves a list of everything
that was done. The script of a path is the path: on every host both come to the same.
-/

namespace Retention

variable {σ α : Type}

/-- One thing that an analysis does: a call on its host, or a poll and what it showed. -/
inductive Action where
  | call (call : HostCall)
  | poll (cancelled : Bool)
deriving DecidableEq, Repr

/-- The call, if it is one. -/
def Action.call? : Action → Option HostCall
  | .call made => some made
  | .poll _ => none

/-- An analysis, as what it does next given the answers so far. -/
inductive Script (α : Type) where
  | done (result : Except Failure α)
  | poll (next : Bool → Script α)
  | lookup (id : InstanceId) (next : Option InstanceId → Script α)
  | scan (id : InstanceId) (next : List Reference → Script α)
  | setup (length : Option UInt64) (next : Except Failure Unit → Script α)
  | step (next : Except Failure Unit → Script α)
  | finish (next : Script α)

/-- What performing a script came to, and everything that was done on the way. -/
structure Performance (σ α : Type) where
  result : Except Failure α
  state : σ
  actions : List Action

namespace Performance

/-- A performance before which something else was done. -/
def after (action : Action) (performance : Performance σ α) : Performance σ α :=
  { performance with actions := action :: performance.actions }

@[simp] theorem result_after (action : Action) (performance : Performance σ α) :
    (performance.after action).result = performance.result :=
  rfl

@[simp] theorem state_after (action : Action) (performance : Performance σ α) :
    (performance.after action).state = performance.state :=
  rfl

@[simp] theorem actions_after (action : Action) (performance : Performance σ α) :
    (performance.after action).actions = action :: performance.actions :=
  rfl

end Performance

namespace Script

/-- Performs a script on a host. -/
def perform (host : Host σ) : Script α → σ → Performance σ α
  | .done result, state => ⟨result, state, []⟩
  | .poll next, state =>
      ((next (host.cancelled state)).perform host state).after (.poll (host.cancelled state))
  | .lookup id next, state =>
      ((next (host.pointer id state).1).perform host (host.pointer id state).2).after
        (.call (.lookup id))
  | .scan id next, state =>
      ((next (host.references id state).1).perform host (host.references id state).2).after
        (.call (.scan id))
  | .setup length next, state =>
      ((next (host.setup length state).1).perform host (host.setup length state).2).after
        (.call (.setup length (host.setup length state).1))
  | .step next, state =>
      ((next (host.step state).1).perform host (host.step state).2).after
        (.call (.step (host.step state).1))
  | .finish next, state => (next.perform host (host.finish state)).after (.call .finish)

/-- A script that finishes the progress run at its end. -/
def finishing : Script α → Script α
  | .done result => .finish (.done result)
  | .poll next => .poll fun cancelled => (next cancelled).finishing
  | .lookup id next => .lookup id fun answer => (next answer).finishing
  | .scan id next => .scan id fun references => (next references).finishing
  | .setup length next => .setup length fun result => (next result).finishing
  | .step next => .step fun result => (next result).finishing
  | .finish next => .finish next.finishing

/-- The script of `body` inside one progress run. -/
def duringRun (length : Option UInt64) (body : Script α) : Script α :=
  .setup length fun
    | .error failure => .done (.error failure)
    | .ok () => body.finishing

theorem perform_finishing (host : Host σ) (script : Script α) (state : σ) :
    script.finishing.perform host state =
      ⟨(script.perform host state).result, host.finish (script.perform host state).state,
        (script.perform host state).actions ++ [.call .finish]⟩ := by
  induction script generalizing state with
  | done result => rfl
  | poll next ih => simp only [finishing, perform, ih, Performance.after, List.cons_append]
  | lookup id next ih => simp only [finishing, perform, ih, Performance.after, List.cons_append]
  | scan id next ih => simp only [finishing, perform, ih, Performance.after, List.cons_append]
  | setup length next ih =>
      simp only [finishing, perform, ih, Performance.after, List.cons_append]
  | step next ih => simp only [finishing, perform, ih, Performance.after, List.cons_append]
  | finish next ih => simp only [finishing, perform, ih, Performance.after, List.cons_append]

theorem calls_note (host : Host σ) (recorded : Recorded σ) (call : HostCall) (state : σ)
    (actions : List Action) :
    (host.note recorded call state).log.map Record.call ++ actions.filterMap Action.call? =
      recorded.log.map Record.call ++ (.call call :: actions).filterMap Action.call? := by
  simp only [Host.note, List.map_append, List.map_cons, List.map_nil, List.append_assoc,
    List.cons_append, List.nil_append, List.filterMap_cons, Action.call?]

/-- A recorded host notes exactly the calls that are performed on it. -/
theorem log_perform (host : Host σ) (script : Script α) (recorded : Recorded σ) :
    (script.perform host.recorded recorded).state.log.map Record.call =
      recorded.log.map Record.call ++
        (script.perform host recorded.state).actions.filterMap Action.call? := by
  induction script generalizing recorded with
  | done result => exact (List.append_nil _).symm
  | poll next ih => exact ih _ recorded
  | lookup id next ih => exact (ih _ _).trans (calls_note host recorded _ _ _)
  | scan id next ih => exact (ih _ _).trans (calls_note host recorded _ _ _)
  | setup length next ih => exact (ih _ _).trans (calls_note host recorded _ _ _)
  | step next ih => exact (ih _ _).trans (calls_note host recorded _ _ _)
  | finish next ih => exact (ih _).trans (calls_note host recorded _ _ _)

/-- A script stands for what a host is asked to do if, performed, it comes to the same. -/
def Conveys (script : Script α) (host : Host σ) (state : σ) (run : Except Failure α × σ) : Prop :=
  (script.perform host state).result = run.1 ∧ (script.perform host state).state = run.2

theorem Conveys.duringRun {host : Host σ} {length : Option UInt64} {script : Script α}
    {body : σ → Except Failure α × σ} {state : σ}
    (hbody : ∀ opened, script.Conveys host opened (body opened)) :
    (script.duringRun length).Conveys host state (host.duringRun length body state) := by
  unfold Script.duringRun Host.duringRun
  cases hsetup : host.setup length state with
  | mk result opened =>
      cases result with
      | error failure =>
          constructor
          · simp only [perform, hsetup, Performance.result_after]
          · simp only [perform, hsetup, Performance.state_after]
      | ok _ =>
          obtain ⟨hresult, hstate⟩ := hbody opened
          constructor
          · simp only [perform, hsetup, perform_finishing, Performance.result_after, hresult]
          · simp only [perform, hsetup, perform_finishing, Performance.state_after, hstate]

end Script

namespace Path

/-- The script of a walk. -/
def walkScript (policy : MissingEdgePolicy) (start : InstanceId) (visited : Visited)
    (hops : List Hop) (current next : InstanceId) : Script PathOutcome :=
  .poll fun cancelled =>
    if cancelled then .done (.error .interrupted)
    else if current = next then
      .done (.ok (.chain (RootChain.ofHops start current hops.reverse)))
    else
      .scan current fun references =>
        match hop policy current next references with
        | .error failure => .done (.error failure)
        | .ok taken =>
            if _hfresh : visited.contains next = false then
              .lookup next fun
                | none => .done (.error (.inconsistent (.danglingPointer start next)))
                | some after =>
                    .step fun
                      | .error failure => .done (.error failure)
                      | .ok () =>
                          walkScript policy start (visited.insert next) (taken :: hops) next after
            else .done (.error (.inconsistent (.pointerCycle start next)))
termination_by visited.room
decreasing_by exact Visited.room_insert_lt ‹_›

/-- The script of a path. -/
def script (policy : MissingEdgePolicy) (start : InstanceId) : Script PathOutcome :=
  .lookup start fun
    | none => .done (.ok .noRoot)
    | some next =>
        if next = start then .done (.ok .isRoot)
        else (walkScript policy start ((∅ : Visited).insert start) [] start next).duringRun none

theorem walkScript_conveys (host : Host σ) (policy : MissingEdgePolicy) (start : InstanceId)
    (visited : Visited) (hops : List Hop) (current next : InstanceId) (state : σ) :
    (walkScript policy start visited hops current next).Conveys host state
      (walk host policy start visited hops current next state) := by
  fun_induction walk host policy start visited hops current next state with
  | case1 visited hops current next state hcancelled =>
      rw [walkScript]
      simp [Script.Conveys, Script.perform, hcancelled]
  | case2 visited hops next state hfree =>
      rw [walkScript]
      simp [Script.Conveys, Script.perform, hfree]
  | case3 visited hops current next state hfree hne references scanned hscan failure htaken =>
      rw [walkScript]
      simp [Script.Conveys, Script.perform, hfree, hne, hscan, htaken]
  | case4 visited hops current next state hfree hne references scanned hscan taken htaken hfresh
      looked hlookup =>
      rw [walkScript]
      simp [Script.Conveys, Script.perform, hfree, hne, hscan, htaken, hfresh, hlookup]
  | case5 visited hops current next state hfree hne references scanned hscan taken htaken hfresh
      after looked hlookup failure stepped hstep =>
      rw [walkScript]
      simp [Script.Conveys, Script.perform, hfree, hne, hscan, htaken, hfresh, hlookup, hstep]
  | case6 visited hops current next state hfree hne references scanned hscan taken htaken hfresh
      after looked hlookup stepped hstep ih =>
      rw [walkScript]
      simp [Script.Conveys, Script.perform, hfree, hne, hscan, htaken, hfresh, hlookup, hstep]
      exact ih
  | case7 visited hops current next state hfree hne references scanned hscan taken htaken hstale =>
      rw [walkScript]
      simp [Script.Conveys, Script.perform, hfree, hne, hscan, htaken, hstale]

/-- Performed on any host, the script of a path comes to what the path comes to. -/
theorem script_conveys (host : Host σ) (policy : MissingEdgePolicy) (start : InstanceId)
    (state : σ) : (script policy start).Conveys host state (build host policy start state) := by
  unfold script build
  cases hlookup : host.pointer start state with
  | mk answer looked =>
      cases answer with
      | none => simp [Script.Conveys, Script.perform, hlookup]
      | some next =>
          by_cases hself : next = start
          · simp [Script.Conveys, Script.perform, hlookup, hself]
          · have hrun : Script.Conveys (Script.duringRun none
                (walkScript policy start ((∅ : Visited).insert start) [] start next)) host looked
                (host.duringRun none
                  (walk host policy start ((∅ : Visited).insert start) [] start next) looked) :=
              Script.Conveys.duringRun fun opened =>
                walkScript_conveys host policy start _ [] start next opened
            simpa [Script.Conveys, Script.perform, hlookup, hself] using hrun

/-- The calls in the performance of a path's script are the calls that the path makes. -/
theorem log_build (host : Host σ) (policy : MissingEdgePolicy) (start : InstanceId) (state : σ) :
    (Analysis.log (fun host => build host policy start) host state).map Record.call =
      ((script policy start).perform host state).actions.filterMap Action.call? := by
  obtain ⟨-, hstate⟩ := script_conveys host.recorded policy start (.start state)
  rw [Analysis.log, ← hstate]
  exact Script.log_perform host (script policy start) (.start state)

end Path

end Retention
