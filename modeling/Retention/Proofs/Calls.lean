import Retention.Proofs.Record
import Retention.Proofs.Service
import Retention.Proofs.Trail

/-!
# Exact calls

On a host that serves a heap an analysis always gets the same answers, so the very calls that it
makes can be told. They are put together from stretches between recorded states, each of which adds
its calls to those that were made before.
-/

namespace Retention

variable {σ α : Type}

/-- The calls made so far, in order. -/
def Recorded.calls (recorded : Recorded σ) : List HostCall :=
  recorded.log.map Record.call

/-- The calls that an analysis makes on a host, in order. -/
def Analysis.calls (analysis : Analysis α) (host : Host σ) (state : σ) : List HostCall :=
  (analysis host.recorded (.start state)).2.calls

/-- Between the two states the host was asked for this, and for nothing else. -/
def Asked (recorded later : Recorded σ) (calls : List HostCall) : Prop :=
  later.calls = recorded.calls ++ calls

namespace Asked

variable {recorded later : Recorded σ} {calls : List HostCall}

theorem refl (recorded : Recorded σ) : Asked recorded recorded [] :=
  (List.append_nil _).symm

theorem trans {last : Recorded σ} {further : List HostCall} (hfirst : Asked recorded later calls)
    (hsecond : Asked later last further) : Asked recorded last (calls ++ further) := by
  unfold Asked at hfirst hsecond ⊢
  rw [hsecond, hfirst, List.append_assoc]

theorem note (host : Host σ) (recorded : Recorded σ) (call : HostCall) (state : σ) :
    Asked recorded (host.note recorded call state) [call] :=
  List.map_append

theorem lookup {host : Host σ} {id : InstanceId} {answer : Option InstanceId}
    (hlookup : host.recorded.pointer id recorded = (answer, later)) :
    Asked recorded later [.lookup id] := by
  obtain ⟨-, rfl⟩ := Prod.mk.inj hlookup
  exact note ..

theorem scan {host : Host σ} {id : InstanceId} {references : List Reference}
    (hscan : host.recorded.references id recorded = (references, later)) :
    Asked recorded later [.scan id] := by
  obtain ⟨-, rfl⟩ := Prod.mk.inj hscan
  exact note ..

theorem setup {host : Host σ} {length : Option UInt64} {result : Except Failure Unit}
    (hsetup : host.recorded.setup length recorded = (result, later)) :
    Asked recorded later [.setup length result] := by
  obtain ⟨rfl, rfl⟩ := Prod.mk.inj hsetup
  exact note ..

theorem step {host : Host σ} {result : Except Failure Unit}
    (hstep : host.recorded.step recorded = (result, later)) :
    Asked recorded later [.step result] := by
  obtain ⟨rfl, rfl⟩ := Prod.mk.inj hstep
  exact note ..

theorem prepare {host : Host σ} {result : Except Failure Unit}
    (hprepare : host.recorded.prepare recorded = (result, later)) :
    Asked recorded later [.prepare result] := by
  obtain ⟨rfl, rfl⟩ := Prod.mk.inj hprepare
  exact note ..

theorem finish (host : Host σ) (recorded : Recorded σ) :
    Asked recorded (host.recorded.finish recorded) [.finish] :=
  note ..

end Asked

namespace HeapView

variable {heap : HeapView} {current next : InstanceId}

/-- The look-ups of the first instances of a trail. -/
def lookups (heap : HeapView) (start : InstanceId) (count : Nat) : List HostCall :=
  (List.range count).map fun i => .lookup (heap.trail start i)

theorem trail_succ_of_pointer (hpointer : heap.pointer current = some next) (hops : Nat) :
    heap.trail current (hops + 1) = heap.trail next hops := by
  unfold trail
  rw [Function.iterate_succ_apply, advance_of_pointer hpointer]

theorem lookups_succ (hpointer : heap.pointer current = some next) (count : Nat) :
    heap.lookups current (count + 1) = .lookup current :: heap.lookups next count := by
  unfold lookups
  rw [List.range_succ_eq_map, List.map_cons, List.map_map]
  congr 1
  apply List.map_congr_left
  intro i _
  exact congrArg HostCall.lookup (trail_succ_of_pointer hpointer i)

theorem Moves.after {hops : Nat} (hmoves : heap.Moves current (hops + 1))
    (hpointer : heap.pointer current = some next) : heap.Moves next hops := by
  intro i hi
  rw [← trail_succ_of_pointer hpointer]
  exact hmoves (i + 1) (Nat.succ_lt_succ hi)

/-- An instance rests one hop further away than the one that its pointer leads to. -/
theorem Rests.before {rest : Nat} (hrests : heap.Rests next rest)
    (hpointer : heap.pointer current = some next) (hne : next ≠ current) :
    heap.Rests current (rest + 1) where
  moves i hi := by
    cases i with
    | zero => exact ⟨next, hpointer, hne⟩
    | succ i =>
        rw [trail_succ_of_pointer hpointer]
        exact hrests.moves i (Nat.lt_of_succ_lt_succ hi)
  stays := by
    rw [trail_succ_of_pointer hpointer]
    exact hrests.stays

end HeapView

namespace Host

variable {host : Host σ} {heap : HeapView}

theorem Answers.recorded (hanswers : host.Answers heap) : host.recorded.Answers heap where
  pointer_fst id recorded := hanswers.pointer_fst id recorded.state
  references_fst id recorded := hanswers.references_fst id recorded.state

theorem TokenLaws.recorded (htoken : host.TokenLaws) : host.recorded.TokenLaws where
  pointer id hcancelled := htoken.pointer id hcancelled
  step hcancelled := htoken.step hcancelled
  prepare recorded := htoken.prepare recorded.state
  references recorded id := htoken.references recorded.state id
  setup recorded length := htoken.setup recorded.state length
  finish recorded := htoken.finish recorded.state

/-- Recorded, a host serves the heap that it serves. -/
theorem Serves.recorded {ready : Phase → σ → Prop} (hserves : host.Serves heap ready) :
    host.recorded.Serves heap fun phase recorded => ready phase recorded.state where
  toAnswers := hserves.toAnswers.recorded
  not_cancelled phase recorded hready := hserves.not_cancelled phase recorded.state hready
  pointer_ready phase recorded id hready := hserves.pointer_ready phase recorded.state id hready
  references_ready phase recorded id hready :=
    hserves.references_ready phase recorded.state id hready
  setup_accepted recorded length hready := by
    obtain ⟨later, hsetup, hlater⟩ := hserves.setup_accepted recorded.state length hready
    refine ⟨host.note recorded (.setup length (.ok ())) later, ?_, hlater⟩
    simp only [Host.recorded, hsetup]
  step_accepted recorded hready := by
    obtain ⟨later, hstep, hlater⟩ := hserves.step_accepted recorded.state hready
    refine ⟨host.note recorded (.step (.ok ())) later, ?_, hlater⟩
    simp only [Host.recorded, hstep]
  finish_ready recorded hready := hserves.finish_ready recorded.state hready

namespace Serves

variable {ready : Phase → σ → Prop} {phase : Phase} {recorded : Recorded σ}

theorem not_cancelled_recorded (hserves : host.Serves heap ready)
    (hready : ready phase recorded.state) : host.recorded.cancelled recorded = false :=
  hserves.recorded.not_cancelled phase recorded hready

theorem lookup_asked (hserves : host.Serves heap ready) (id : InstanceId)
    (hready : ready phase recorded.state) :
    ∃ later, host.recorded.pointer id recorded = (heap.pointer id, later) ∧
      ready phase later.state ∧ Asked recorded later [.lookup id] := by
  obtain ⟨later, hlookup, hlater⟩ := hserves.recorded.lookup id hready
  exact ⟨later, hlookup, hlater, .lookup hlookup⟩

theorem scan_asked (hserves : host.Serves heap ready) (id : InstanceId)
    (hready : ready phase recorded.state) :
    ∃ later, host.recorded.references id recorded = (heap.references id, later) ∧
      ready phase later.state ∧ Asked recorded later [.scan id] := by
  obtain ⟨later, hscan, hlater⟩ := hserves.recorded.scan id hready
  exact ⟨later, hscan, hlater, .scan hscan⟩

theorem step_asked (hserves : host.Serves heap ready)
    (hready : ready .inside recorded.state) :
    ∃ later, host.recorded.step recorded = (.ok (), later) ∧
      ready .inside later.state ∧ Asked recorded later [.step (.ok ())] := by
  obtain ⟨later, hstep, hlater⟩ := hserves.recorded.step_accepted recorded hready
  exact ⟨later, hstep, hlater, .step hstep⟩

/-- The calls of a run are those of its body, between a setup and a finish. -/
theorem duringRun_asked (hserves : host.Serves heap ready) (length : Option UInt64)
    {body : Recorded σ → Except Failure α × Recorded σ} {result : Except Failure α}
    {calls : List HostCall}
    (hbody : ∀ opened, ready .inside opened.state →
      ∃ later, body opened = (result, later) ∧ ready .inside later.state ∧
        Asked opened later calls)
    (hready : ready .outside recorded.state) :
    ∃ later, host.recorded.duringRun length body recorded = (result, later) ∧
      ready .outside later.state ∧
      Asked recorded later (.setup length (.ok ()) :: (calls ++ [.finish])) := by
  obtain ⟨opened, hsetup, hopened⟩ := hserves.recorded.setup_accepted recorded length hready
  obtain ⟨closing, hrun, hclosing, hcalls⟩ := hbody opened hopened
  refine ⟨host.recorded.finish closing, ?_,
    hserves.recorded.finish_ready closing hclosing, ?_⟩
  · simp only [Host.duringRun, hsetup, hrun]
  · exact (Asked.setup hsetup).trans (hcalls.trans (.finish host closing))

end Serves

end Host

end Retention
