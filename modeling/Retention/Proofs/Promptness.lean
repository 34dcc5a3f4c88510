import Retention.Proofs.Record
import Retention.Proofs.Tally
import Retention.Proofs.Trail

/-!
# Promptness of cancellation

A request to cancel comes to pass during a look-up or during a step. From then on an analysis reads
nothing more, and reports at most one more step: the step of the instance, or of the hop, that the
look-up was made for. After a step that was accepted there is not even that, and the analysis is
interrupted.

The run of an analysis is followed by its log. As long as it is running no record is cancelled; once
it has stopped, the log divides at the record of the call that cancelled it.
-/

namespace Retention

variable {σ α : Type} {host : Host σ} {recorded later : Recorded σ} {cause : HostCall → Prop}
  {steps : Nat}

/-- A log divides at the call during which cancellation was requested. -/
structure CancelledAt (log before : List Record) (record : Record) (after : List Record) :
    Prop where
  divides : log = before ++ record :: after
  free : ∀ earlier ∈ before, earlier.cancelled = false
  cancelled : record.cancelled = true

namespace CancelledAt

variable {log before before' after after' : List Record} {record record' : Record}

theorem unique (hfirst : CancelledAt log before record after)
    (hsecond : CancelledAt log before' record' after') :
    before = before' ∧ record = record' ∧ after = after' := by
  obtain ⟨rfl, hfree, hcancelled⟩ := hfirst
  obtain ⟨hdivides, hfree', hcancelled'⟩ := hsecond
  induction before generalizing before' with
  | nil =>
      cases before' with
      | nil =>
          obtain ⟨rfl, rfl⟩ := List.cons.inj hdivides
          exact ⟨rfl, rfl, rfl⟩
      | cons earlier rest =>
          obtain ⟨rfl, -⟩ := List.cons.inj hdivides
          rw [hfree' record List.mem_cons_self] at hcancelled
          cases hcancelled
  | cons earlier rest ih =>
      cases before' with
      | nil =>
          obtain ⟨rfl, -⟩ := List.cons.inj hdivides
          rw [hfree earlier List.mem_cons_self] at hcancelled'
          cases hcancelled'
      | cons other rest' =>
          obtain ⟨rfl, htail⟩ := List.cons.inj hdivides
          obtain ⟨rfl, hrecord, hafter⟩ :=
            ih (fun record hmem => hfree record (List.mem_cons_of_mem _ hmem)) htail
              fun record hmem => hfree' record (List.mem_cons_of_mem _ hmem)
          exact ⟨rfl, hrecord, hafter⟩

theorem append (hat : CancelledAt log before record after) (calls : List Record) :
    CancelledAt (log ++ calls) before record (after ++ calls) where
  divides := by rw [hat.divides, List.append_assoc, List.cons_append]
  free := hat.free
  cancelled := hat.cancelled

end CancelledAt

namespace Host

/-- Cancellation has not been requested. -/
structure Running (host : Host σ) (recorded : Recorded σ) : Prop where
  free : host.cancelled recorded.state = false
  log_free : ∀ record ∈ recorded.log, record.cancelled = false

/-- Cancellation was requested during a call of the kind `cause`; since then nothing was read, and
no more than so many steps were reported. -/
structure Stopped (host : Host σ) (cause : HostCall → Prop) (steps : Nat)
    (recorded : Recorded σ) : Prop where
  cancelled : host.cancelled recorded.state = true
  divides : ∃ before record after, CancelledAt recorded.log before record after ∧
    cause record.call ∧ (∀ later ∈ after, later.call.reads = false) ∧
      after.countP (fun later => later.call.isStep) ≤ steps

/-- Nothing but calls that neither read nor step, after which the token is cancelled, leads from one
recorded state to the other. -/
structure Idles (host : Host σ) (recorded later : Recorded σ) : Prop where
  cancelled : host.cancelled later.state = true
  extends_log : ∃ calls, later.log = recorded.log ++ calls ∧
    ∀ record ∈ calls, record.call.reads = false ∧ record.call.isStep = false

/-! ## Single calls -/

theorem running_start {state : σ} (hfree : host.cancelled state = false) :
    host.Running (.start state) :=
  ⟨hfree, fun _ hmem => nomatch hmem⟩

theorem Running.note_free (hrunning : host.Running recorded) {state : σ}
    (hfree : host.cancelled state = false) (call : HostCall) :
    host.Running (host.note recorded call state) := by
  refine ⟨hfree, fun record hmem => ?_⟩
  rcases List.mem_append.mp hmem with hold | hnew
  · exact hrunning.log_free record hold
  · rw [List.mem_singleton.mp hnew]
    exact hfree

/-- A call either leaves an analysis running or is the one that stops it. -/
theorem Running.note (hrunning : host.Running recorded) (call : HostCall) (state : σ) :
    host.Running (host.note recorded call state) ∨
      host.Stopped (· = call) 0 (host.note recorded call state) := by
  by_cases hcancelled : host.cancelled state = true
  · refine .inr ⟨hcancelled, recorded.log, ⟨call, host.cancelled state⟩, [], ?_, rfl, ?_, ?_⟩
    · exact ⟨rfl, hrunning.log_free, hcancelled⟩
    · exact fun _ hmem => nomatch hmem
    · exact Nat.le_refl 0
  · exact .inl (hrunning.note_free (Bool.eq_false_iff.mpr hcancelled) call)

theorem Stopped.weaken {cause' : HostCall → Prop} {steps' : Nat}
    (hstopped : host.Stopped cause steps recorded) (hcause : ∀ call, cause call → cause' call)
    (hsteps : steps ≤ steps') : host.Stopped cause' steps' recorded := by
  obtain ⟨hcancelled, before, record, after, hat, hcall, hreads, hcount⟩ := hstopped
  exact ⟨hcancelled, before, record, after, hat, hcause _ hcall, hreads, Nat.le_trans hcount hsteps⟩

theorem Stopped.append (hstopped : host.Stopped cause steps recorded) {calls : List Record}
    (hlog : later.log = recorded.log ++ calls) (hcancelled : host.cancelled later.state = true)
    (hcalls : ∀ record ∈ calls, record.call.reads = false) :
    host.Stopped cause (steps + calls.countP fun record => record.call.isStep) later := by
  obtain ⟨-, before, record, after, hat, hcall, hreads, hcount⟩ := hstopped
  refine ⟨hcancelled, before, record, after ++ calls, hlog ▸ hat.append calls, hcall, ?_, ?_⟩
  · intro call hmem
    rcases List.mem_append.mp hmem with hold | hnew
    · exact hreads call hold
    · exact hcalls call hnew
  · rw [List.countP_append]
    exact Nat.add_le_add_right hcount _

theorem Stopped.idle (hstopped : host.Stopped cause steps recorded)
    (hidles : host.Idles recorded later) : host.Stopped cause steps later := by
  obtain ⟨hcancelled, calls, hlog, hcalls⟩ := hidles
  have happend := hstopped.append hlog hcancelled fun record hmem => (hcalls record hmem).1
  have hnone : (calls.countP fun record => record.call.isStep) = 0 :=
    List.countP_eq_zero.mpr fun record hmem => Bool.eq_false_iff.mp (hcalls record hmem).2
  rwa [hnone] at happend

theorem Running.lookup (hrunning : host.Running recorded) {id : InstanceId}
    {answer : Option InstanceId} (hlookup : host.recorded.pointer id recorded = (answer, later)) :
    host.Running later ∨ host.Stopped (fun call => call.reads = true) 0 later := by
  obtain ⟨-, rfl⟩ := Prod.mk.inj hlookup
  refine (hrunning.note (.lookup id) _).imp_right fun hstopped => hstopped.weaken ?_ (Nat.le_refl 0)
  rintro _ rfl
  rfl

theorem Running.scan (htoken : host.TokenLaws) (hrunning : host.Running recorded) {id : InstanceId}
    {references : List Reference}
    (hscan : host.recorded.references id recorded = (references, later)) : host.Running later := by
  obtain ⟨-, rfl⟩ := Prod.mk.inj hscan
  exact hrunning.note_free ((htoken.references _ id).trans hrunning.free) _

theorem Running.setup (htoken : host.TokenLaws) (hrunning : host.Running recorded)
    (length : Option UInt64) : host.Running (host.recorded.setup length recorded).2 :=
  hrunning.note_free ((htoken.setup _ length).trans hrunning.free) _

theorem Running.finish (htoken : host.TokenLaws) (hrunning : host.Running recorded) :
    host.Running (host.recorded.finish recorded) :=
  hrunning.note_free ((htoken.finish _).trans hrunning.free) _

theorem Stopped.step (htoken : host.TokenLaws) (hstopped : host.Stopped cause steps recorded) :
    host.Stopped cause (steps + 1) (host.recorded.step recorded).2 := by
  have hlog : (host.recorded.step recorded).2.log = recorded.log ++ [_] := rfl
  refine hstopped.append hlog (htoken.step hstopped.cancelled) fun record hmem => ?_
  rw [List.mem_singleton.mp hmem]
  rfl

theorem idles_finish (htoken : host.TokenLaws) (hcancelled : host.cancelled recorded.state = true) :
    host.Idles recorded (host.recorded.finish recorded) := by
  refine ⟨(htoken.finish _).trans hcancelled, _, rfl, fun record hmem => ?_⟩
  rw [List.mem_singleton.mp hmem]
  exact ⟨rfl, rfl⟩

theorem idles_setup (htoken : host.TokenLaws) (hcancelled : host.cancelled recorded.state = true)
    (length : Option UInt64) : host.Idles recorded (host.recorded.setup length recorded).2 := by
  refine ⟨(htoken.setup _ length).trans hcancelled, _, rfl, fun record hmem => ?_⟩
  rw [List.mem_singleton.mp hmem]
  exact ⟨rfl, rfl⟩

theorem Idles.of_start {state : σ} (hidles : host.Idles (.start state) later) :
    ∀ record ∈ later.log, record.call.reads = false ∧ record.call.isStep = false := by
  obtain ⟨-, calls, hlog, hcalls⟩ := hidles
  rw [hlog]
  exact hcalls

theorem Idles.refl (hcancelled : host.cancelled recorded.state = true) :
    host.Idles recorded recorded :=
  ⟨hcancelled, [], (List.append_nil _).symm, fun _ hmem => nomatch hmem⟩

theorem Idles.trans {last : Recorded σ} (hfirst : host.Idles recorded later)
    (hsecond : host.Idles later last) : host.Idles recorded last := by
  obtain ⟨-, calls, hlog, hcalls⟩ := hfirst
  obtain ⟨hcancelled, calls', hlog', hcalls'⟩ := hsecond
  refine ⟨hcancelled, calls ++ calls', ?_, fun record hmem => ?_⟩
  · rw [hlog', hlog, List.append_assoc]
  · exact (List.mem_append.mp hmem).elim (hcalls record) (hcalls' record)

/-! ## Runs -/

/-- How a run comes out that began under a free token: `atStep` is what follows if it was stopped by
an accepted step. -/
def EndsPromptly (host : Host σ) (atStep : Prop) (recorded : Recorded σ) : Prop :=
  host.Running recorded ∨ host.Stopped (· ≠ .step (.ok ())) 1 recorded ∨
    host.Stopped (· = .step (.ok ())) 0 recorded ∧ atStep

theorem Stopped.endsPromptly_of_read
    (hstopped : host.Stopped (fun call => call.reads = true) steps recorded) (hsteps : steps ≤ 1)
    (atStep : Prop) : host.EndsPromptly atStep recorded := by
  refine .inr (.inl (hstopped.weaken ?_ hsteps))
  rintro call hreads rfl
  cases hreads

theorem endsPromptly_of_lookup
    (hlooked : host.Running recorded ∨ host.Stopped (fun call => call.reads = true) 0 recorded)
    (atStep : Prop) : host.EndsPromptly atStep recorded := by
  rcases hlooked with hrunning | hstopped
  · exact .inl hrunning
  · exact hstopped.endsPromptly_of_read (Nat.zero_le 1) atStep

theorem EndsPromptly.imp {atStep atStep' : Prop} (hends : host.EndsPromptly atStep recorded)
    (himp : atStep → atStep') : host.EndsPromptly atStep' recorded := by
  rcases hends with hrunning | hstopped | ⟨hstopped, hstep⟩
  · exact .inl hrunning
  · exact .inr (.inl hstopped)
  · exact .inr (.inr ⟨hstopped, himp hstep⟩)

/-- What follows a run is carried out if that is still running, and is otherwise interrupted by a
poll before it makes any call. -/
theorem EndsPromptly.andThen {atStep : Prop} {next : Recorded σ → Except Failure α × Recorded σ}
    (hends : host.EndsPromptly atStep recorded)
    (hnext : host.Running recorded →
      host.EndsPromptly ((next recorded).1 = .error .interrupted) (next recorded).2)
    (hpoll : host.cancelled recorded.state = true →
      next recorded = (.error .interrupted, recorded)) :
    host.EndsPromptly ((next recorded).1 = .error .interrupted) (next recorded).2 := by
  rcases hends with hrunning | hstopped | ⟨hstopped, _⟩
  · exact hnext hrunning
  · rw [hpoll hstopped.cancelled]
    exact .inr (.inl hstopped)
  · rw [hpoll hstopped.cancelled]
    exact .inr (.inr ⟨hstopped, rfl⟩)

/-- A step that is reported after a look-up at most ends the run that the look-up stopped. -/
theorem endsPromptly_step (htoken : host.TokenLaws)
    (hlooked : host.Running recorded ∨ host.Stopped (fun call => call.reads = true) 0 recorded)
    {result : Except Failure Unit} (hstep : host.recorded.step recorded = (result, later)) :
    host.EndsPromptly (result = .ok ()) later := by
  obtain ⟨rfl, rfl⟩ := Prod.mk.inj hstep
  rcases hlooked with hrunning | hstopped
  · rcases hrunning.note (.step (host.step recorded.state).1) (host.step recorded.state).2 with
      hrunning | hstopped
    · exact .inl hrunning
    · by_cases hok : (host.step recorded.state).1 = .ok ()
      · refine .inr (.inr ⟨hstopped.weaken ?_ (Nat.le_refl 0), hok⟩)
        rintro _ rfl
        exact congrArg HostCall.step hok
      · refine .inr (.inl (hstopped.weaken ?_ (Nat.zero_le 1)))
        rintro _ rfl hcall
        exact hok (HostCall.step.inj hcall)
  · exact (hstopped.step htoken).endsPromptly_of_read (Nat.le_refl 1) _

/-- What a run that ends promptly did after it was cancelled. -/
theorem EndsPromptly.cancelledAt {atStep : Prop} (hends : host.EndsPromptly atStep recorded)
    {before after : List Record} {record : Record}
    (hat : CancelledAt recorded.log before record after) :
    (∀ later ∈ after, later.call.reads = false) ∧
      after.countP (fun later => later.call.isStep) ≤ 1 ∧
      (record.call = .step (.ok ()) → atStep ∧ ∀ later ∈ after, later.call.isStep = false) := by
  rcases hends with hrunning | ⟨-, _, _, _, hat', hcause, hreads, hcount⟩ |
    ⟨⟨-, _, _, _, hat', hcause, hreads, hcount⟩, hstep⟩
  · have hmem : record ∈ recorded.log := by
      rw [hat.divides]
      exact List.mem_append_right _ List.mem_cons_self
    have hfree := hrunning.log_free record hmem
    rw [hat.cancelled] at hfree
    cases hfree
  · obtain ⟨rfl, rfl, rfl⟩ := hat'.unique hat
    exact ⟨hreads, hcount, fun hcall => absurd hcall hcause⟩
  · obtain ⟨rfl, rfl, rfl⟩ := hat'.unique hat
    have hnone := List.countP_eq_zero.mp (Nat.le_zero.mp hcount)
    exact ⟨hreads, Nat.le_trans hcount (Nat.zero_le 1),
      fun _ => ⟨hstep, fun later hmem => Bool.eq_false_iff.mpr (hnone later hmem)⟩⟩

theorem duringRun_endsPromptly (htoken : host.TokenLaws) {length : Option UInt64}
    {body : Recorded σ → Except Failure α × Recorded σ}
    (hbody : ∀ opened, host.Running opened →
      host.EndsPromptly ((body opened).1 = .error .interrupted) (body opened).2)
    (hrunning : host.Running recorded) :
    host.EndsPromptly ((host.recorded.duringRun length body recorded).1 = .error .interrupted)
      (host.recorded.duringRun length body recorded).2 := by
  have hopened := hrunning.setup htoken length
  unfold duringRun
  cases hsetup : host.recorded.setup length recorded with
  | mk result opened =>
      rw [hsetup] at hopened
      cases result with
      | error failure => exact .inl hopened
      | ok _ =>
          rcases hbody opened hopened with hrunning | hstopped | ⟨hstopped, hresult⟩
          · exact .inl (hrunning.finish htoken)
          · exact .inr (.inl (hstopped.idle (idles_finish htoken hstopped.cancelled)))
          · exact .inr (.inr ⟨hstopped.idle (idles_finish htoken hstopped.cancelled), hresult⟩)

/-- A run whose body is interrupted at once only opens and closes. -/
theorem idles_duringRun (htoken : host.TokenLaws) {length : Option UInt64}
    {body : Recorded σ → Except Failure α × Recorded σ}
    (hbody : ∀ opened, host.cancelled opened.state = true →
      body opened = (.error .interrupted, opened))
    (hcancelled : host.cancelled recorded.state = true) :
    host.Idles recorded (host.recorded.duringRun length body recorded).2 := by
  have hopened := idles_setup htoken hcancelled length
  unfold duringRun
  cases hsetup : host.recorded.setup length recorded with
  | mk result opened =>
      rw [hsetup] at hopened
      cases result with
      | error failure => exact hopened
      | ok _ =>
          simp only [hbody opened hopened.cancelled]
          exact hopened.trans (idles_finish htoken hopened.cancelled)

end Host

/-! ## Aggregations -/

theorem Resolution.settle_lookup_stops (start : InstanceId) (limit : UInt64) (budget : Nat)
    (current : InstanceId) (hrunning : host.Running recorded) :
    host.Running (settle host.recorded start limit budget current recorded).2 ∨
      host.Stopped (fun call => call.reads = true) 0
        (settle host.recorded start limit budget current recorded).2 := by
  fun_induction settle host.recorded start limit budget current recorded with
  | case1 budget current recorded looked hlookup => exact hrunning.lookup hlookup
  | case2 budget current recorded looked hlookup => exact hrunning.lookup hlookup
  | case3 current recorded next looked hlookup => exact hrunning.lookup hlookup
  | case4 current recorded next looked hlookup => exact hrunning.lookup hlookup
  | case5 current recorded next looked hlookup _ budget hfree ih =>
      rcases hrunning.lookup hlookup with hrunning | hstopped
      · exact ih hrunning
      · exact absurd hstopped.cancelled hfree

theorem Resolution.resolve_lookup_stops (limit : UInt64) (id : InstanceId)
    (hrunning : host.Running recorded) :
    host.Running (resolve host.recorded limit id recorded).2 ∨
      host.Stopped (fun call => call.reads = true) 0
        (resolve host.recorded limit id recorded).2 :=
  settle_lookup_stops id limit limit.toNat id hrunning

namespace Aggregation

theorem visit_endsPromptly (htoken : host.TokenLaws) (limit : UInt64) (id : InstanceId)
    (hrunning : host.Running recorded) :
    host.EndsPromptly (∃ key, (visit host.recorded limit id recorded).1 = .ok key)
      (visit host.recorded limit id recorded).2 := by
  have hresolved := Resolution.resolve_lookup_stops limit id hrunning
  unfold visit
  split
  · exact .inl hrunning
  split
  next failure resolved hresolve =>
    rw [hresolve] at hresolved
    exact Host.endsPromptly_of_lookup hresolved _
  next key resolved hresolve =>
    rw [hresolve] at hresolved
    split
    next failure stepped hstep =>
      refine (Host.endsPromptly_step htoken hresolved hstep).imp fun haccepted => ?_
      cases haccepted
    next stepped hstep =>
      exact (Host.endsPromptly_step htoken hresolved hstep).imp fun _ => ⟨key, rfl⟩

/-! Under a cancelled token nothing is visited. -/

section Cancelled

variable (host : Host σ) {state : σ} (limit : UInt64) (hcancelled : host.cancelled state = true)

include hcancelled

theorem visit_of_cancelled (id : InstanceId) :
    visit host limit id state = (.error .interrupted, state) := by
  rw [visit, if_pos hcancelled]

theorem gather_of_cancelled (instances : List InstanceId) (groups : RootGroups) :
    gather host limit instances groups state = (.error .interrupted, state) := by
  cases instances with
  | nil => exact conclude_of_cancelled _ hcancelled
  | cons id rest => simp only [gather, visit_of_cancelled host limit hcancelled]

theorem gatherAll_of_cancelled (instances : List InstanceId)
    (result : Except Failure RootGroups) :
    gatherAll host limit instances result state = (.error .interrupted, state) := by
  induction instances generalizing result with
  | nil => exact conclude_of_cancelled _ hcancelled
  | cons id rest ih =>
      simp only [gatherAll, visit_of_cancelled host limit hcancelled]
      exact ih _

end Cancelled

theorem conclude_endsPromptly (result : Except Failure RootGroups)
    (hrunning : host.Running recorded) (atStep : Prop) :
    host.EndsPromptly atStep (conclude host.recorded result recorded).2 := by
  have hconclude : conclude host.recorded result recorded = (result, recorded) :=
    conclude_of_not_cancelled result hrunning.free
  rw [hconclude]
  exact .inl hrunning

theorem gather_endsPromptly (htoken : host.TokenLaws) (limit : UInt64) (instances : List InstanceId)
    (groups : RootGroups) (hrunning : host.Running recorded) :
    host.EndsPromptly
      ((gather host.recorded limit instances groups recorded).1 = .error .interrupted)
      (gather host.recorded limit instances groups recorded).2 := by
  induction instances generalizing groups recorded with
  | nil => exact conclude_endsPromptly _ hrunning _
  | cons id rest ih =>
      have hvisited := visit_endsPromptly htoken limit id hrunning
      unfold gather
      split
      next failure visited hvisit =>
        rw [hvisit] at hvisited
        refine hvisited.imp ?_
        rintro ⟨key, hkey⟩
        cases hkey
      next key visited hvisit =>
        rw [hvisit] at hvisited
        exact hvisited.andThen (ih (groups.insert key id)) fun hcancelled =>
          gather_of_cancelled host.recorded limit hcancelled rest _

theorem gatherAll_endsPromptly (htoken : host.TokenLaws) (limit : UInt64)
    (instances : List InstanceId) (result : Except Failure RootGroups)
    (hrunning : host.Running recorded) :
    host.EndsPromptly
      ((gatherAll host.recorded limit instances result recorded).1 = .error .interrupted)
      (gatherAll host.recorded limit instances result recorded).2 := by
  induction instances generalizing result recorded with
  | nil => exact conclude_endsPromptly _ hrunning _
  | cons id rest ih =>
      have hvisited := visit_endsPromptly htoken limit id hrunning
      unfold gatherAll
      exact hvisited.andThen (ih _) fun hcancelled =>
        gatherAll_of_cancelled host.recorded limit hcancelled rest _

end Aggregation

/-! ## Paths -/

namespace Path

variable {policy : MissingEdgePolicy} {start current next : InstanceId} {visited : Visited}
  {hops : List Hop}

theorem walk_of_cancelled (host : Host σ) {state : σ} (hcancelled : host.cancelled state = true) :
    walk host policy start visited hops current next state = (.error .interrupted, state) := by
  rw [walk, if_pos hcancelled]

theorem walk_endsPromptly (htoken : host.TokenLaws) (hrunning : host.Running recorded) :
    host.EndsPromptly
      ((walk host.recorded policy start visited hops current next recorded).1 =
        .error .interrupted)
      (walk host.recorded policy start visited hops current next recorded).2 := by
  fun_induction walk host.recorded policy start visited hops current next recorded with
  | case1 => exact .inl hrunning
  | case2 => exact .inl hrunning
  | case3 visited hops current next recorded _ _ references scanned hscan =>
      exact .inl (hrunning.scan htoken hscan)
  | case4 visited hops current next recorded _ _ references scanned hscan taken _ _ looked
      hlookup =>
      exact Host.endsPromptly_of_lookup ((hrunning.scan htoken hscan).lookup hlookup) _
  | case5 visited hops current next recorded _ _ references scanned hscan taken _ _ after looked
      hlookup failure stepped hstep =>
      have hlooked := (hrunning.scan htoken hscan).lookup hlookup
      exact (Host.endsPromptly_step htoken hlooked hstep).imp fun haccepted => nomatch haccepted
  | case6 visited hops current next recorded _ _ references scanned hscan taken _ _ after looked
      hlookup stepped hstep ih =>
      have hlooked := (hrunning.scan htoken hscan).lookup hlookup
      -- A walk that was stopped within this hop finds the token cancelled at the next.
      exact (Host.endsPromptly_step htoken hlooked hstep).andThen ih fun hcancelled =>
        walk_of_cancelled host.recorded hcancelled
  | case7 visited hops current next recorded _ _ references scanned hscan =>
      exact .inl (hrunning.scan htoken hscan)

theorem build_endsPromptly (htoken : host.TokenLaws) (policy : MissingEdgePolicy)
    (start : InstanceId) (hrunning : host.Running recorded) :
    host.EndsPromptly ((build host.recorded policy start recorded).1 = .error .interrupted)
      (build host.recorded policy start recorded).2 := by
  unfold build
  split
  next looked hlookup => exact Host.endsPromptly_of_lookup (hrunning.lookup hlookup) _
  next next looked hlookup =>
    have hlooked := hrunning.lookup hlookup
    split
    · exact Host.endsPromptly_of_lookup hlooked _
    · rcases hlooked with hrunning | hstopped
      · exact Host.duringRun_endsPromptly htoken (fun _ hopened => walk_endsPromptly htoken hopened)
          hrunning
      · refine (hstopped.idle ?_).endsPromptly_of_read (Nat.zero_le 1) _
        exact Host.idles_duringRun htoken (fun _ => walk_of_cancelled host.recorded)
          hstopped.cancelled

/-- A path that is asked for under a cancelled token takes the first look-up only. -/
theorem build_idles (htoken : host.TokenLaws) (policy : MissingEdgePolicy) (start : InstanceId)
    (hcancelled : host.cancelled recorded.state = true) :
    host.Idles (host.recorded.pointer start recorded).2
      (build host.recorded policy start recorded).2 := by
  have hlooked : host.cancelled (host.recorded.pointer start recorded).2.state = true :=
    htoken.pointer start hcancelled
  unfold build
  split
  next looked hlookup =>
    rw [hlookup] at hlooked ⊢
    exact .refl hlooked
  next next looked hlookup =>
    rw [hlookup] at hlooked ⊢
    split
    · exact .refl hlooked
    · exact Host.idles_duringRun htoken (fun _ => walk_of_cancelled host.recorded) hlooked

end Path

/-! ## Promptness -/

/-- What an analysis does, and comes to, once it is cancelled during one of its calls. -/
structure Prompt (analysis : Analysis α) (host : Host σ) (state : σ) : Prop where
  no_read : ∀ {before record after},
    CancelledAt (Analysis.log analysis host state) before record after →
      ∀ later ∈ after, later.call.reads = false
  one_step : ∀ {before record after},
    CancelledAt (Analysis.log analysis host state) before record after →
      after.countP (fun later => later.call.isStep) ≤ 1
  interrupted : ∀ {before record after},
    CancelledAt (Analysis.log analysis host state) before record after →
      record.call = .step (.ok ()) → (analysis host state).1 = .error .interrupted
  last_step : ∀ {before record after},
    CancelledAt (Analysis.log analysis host state) before record after →
      record.call = .step (.ok ()) → ∀ later ∈ after, later.call.isStep = false
  steps_kept : ∀ {before record after},
    CancelledAt (Analysis.log analysis host state) before record after →
      record.call = .step (.ok ()) →
        (Analysis.log analysis host state).countP (fun record => record.call = .step (.ok ())) =
          before.countP (fun record => record.call = .step (.ok ())) + 1

theorem Prompt.of_uniform {analysis : Analysis α} {state : σ}
    (huniform : Analysis.Uniform analysis)
    (hends : host.EndsPromptly ((analysis host.recorded (.start state)).1 = .error .interrupted)
      (analysis host.recorded (.start state)).2) : Prompt analysis host state where
  no_read hat := (hends.cancelledAt hat).1
  one_step hat := (hends.cancelledAt hat).2.1
  interrupted hat hcall := by
    obtain ⟨hresult, -⟩ := huniform.recorded host state
    exact hresult ▸ ((hends.cancelledAt hat).2.2 hcall).1
  last_step hat hcall := ((hends.cancelledAt hat).2.2 hcall).2
  steps_kept {before record after} hat hcall := by
    have hlast := ((hends.cancelledAt hat).2.2 hcall).2
    have hafter : after.countP (fun record => record.call = .step (.ok ())) = 0 := by
      refine List.countP_eq_zero.mpr fun later hmem hstep => ?_
      have hnot := hlast later hmem
      rw [of_decide_eq_true hstep] at hnot
      cases hnot
    rw [hat.divides, List.countP_append, List.countP_cons, hafter,
      if_pos (decide_eq_true hcall), Nat.zero_add]

/-- Cancellation is prompt. An analysis that is cancelled during a look-up or a step reads nothing
more and reports at most one more step; if that was an accepted step, it is the last and the
analysis is interrupted. Under a token cancelled beforehand an aggregation neither reads nor steps,
and a path takes its first look-up only. -/
theorem cancellation_prompt (htoken : host.TokenLaws) (state : σ) :
    (host.cancelled state = false →
      (∀ policy start, Prompt (fun host => Path.build host policy start) host state) ∧
        (∀ limit instances expected,
          Prompt (fun host => Aggregation.sequential host limit instances expected) host state) ∧
        ∀ limit instances,
          Prompt (fun host => Aggregation.exhaustive host limit instances) host state) ∧
      (host.cancelled state = true →
        (∀ policy start, ∃ rest,
          Analysis.log (fun host => Path.build host policy start) host state =
              ⟨.lookup start, true⟩ :: rest ∧
            ∀ record ∈ rest, record.call.reads = false ∧ record.call.isStep = false) ∧
        (∀ limit instances expected, ∀ record ∈
          Analysis.log (fun host => Aggregation.sequential host limit instances expected) host
            state, record.call.reads = false ∧ record.call.isStep = false) ∧
        ∀ limit instances, ∀ record ∈
          Analysis.log (fun host => Aggregation.exhaustive host limit instances) host state,
            record.call.reads = false ∧ record.call.isStep = false) := by
  constructor
  · intro hfree
    have hrunning := Host.running_start hfree
    refine ⟨fun policy start => ?_, fun limit instances expected => ?_, fun limit instances => ?_⟩
    · exact .of_uniform (Path.build_uniform policy start)
        (Path.build_endsPromptly htoken policy start hrunning)
    · exact .of_uniform (Aggregation.sequential_uniform limit instances expected)
        (Host.duringRun_endsPromptly htoken
          (fun _ => Aggregation.gather_endsPromptly htoken limit instances .empty) hrunning)
    · exact .of_uniform (Aggregation.exhaustive_uniform limit instances)
        (Host.duringRun_endsPromptly htoken
          (fun _ => Aggregation.gatherAll_endsPromptly htoken limit instances (.ok .empty))
          hrunning)
  · intro hcancelled
    refine ⟨fun policy start => ?_, fun limit instances expected => ?_, fun limit instances => ?_⟩
    · have hstart : host.cancelled (Recorded.start state).state = true := hcancelled
      obtain ⟨-, rest, hlog, hrest⟩ := Path.build_idles htoken policy start hstart
      refine ⟨rest, ?_, hrest⟩
      rw [← htoken.pointer start hcancelled]
      exact hlog
    · exact (Host.idles_duringRun htoken
        (fun _ hopened => Aggregation.gather_of_cancelled host.recorded limit hopened instances _)
        hcancelled).of_start
    · exact (Host.idles_duringRun htoken
        (fun _ hopened =>
          Aggregation.gatherAll_of_cancelled host.recorded limit hopened instances _)
        hcancelled).of_start

/-- Cancellation during the second step leaves the third instance unvisited. -/
theorem cancellation_prompt_sample :
    let host := Monitor.host .sample .plain ⟨true, some 2, none⟩
    let analysis : Analysis RootGroups := fun host =>
      Aggregation.sequential host 4 [⟨3⟩, ⟨4⟩, ⟨1⟩] 3
    host.TokenLaws ∧ host.cancelled .fresh = false ∧
      (analysis host .fresh).1 = .error .interrupted ∧
      (Analysis.log analysis host .fresh).countP (fun record => record.call = .step (.ok ())) = 2 ∧
      ∃ rest, Analysis.log (fun host => Path.build host .skip ⟨1⟩) host
          { Monitor.fresh with cancelled := true } = ⟨.lookup ⟨1⟩, true⟩ :: rest ∧
        ∀ record ∈ rest, record.call.reads = false ∧ record.call.isStep = false := by
  intro host analysis
  have htoken : host.TokenLaws := Monitor.host_tokenLaws _ _ _
  have hfree : host.cancelled .fresh = false := rfl
  obtain ⟨hrunning, -⟩ := cancellation_prompt htoken .fresh
  obtain ⟨-, hprompt, -⟩ := hrunning hfree
  have hsequential := hprompt 4 [⟨3⟩, ⟨4⟩, ⟨1⟩] 3
  have hat : CancelledAt (Analysis.log analysis host .fresh)
      [⟨.setup (some 3) (.ok ()), false⟩, ⟨.lookup ⟨3⟩, false⟩, ⟨.lookup ⟨4⟩, false⟩,
        ⟨.step (.ok ()), false⟩, ⟨.lookup ⟨4⟩, false⟩] ⟨.step (.ok ()), true⟩ [⟨.finish, true⟩] :=
    ⟨by decide, by decide, rfl⟩
  obtain ⟨-, hcancelled⟩ := cancellation_prompt htoken { Monitor.fresh with cancelled := true }
  exact ⟨htoken, hfree, hsequential.interrupted hat rfl, hsequential.steps_kept hat rfl,
    (hcancelled rfl).1 .skip ⟨1⟩⟩

end Retention
