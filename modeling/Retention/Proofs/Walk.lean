import Retention.Path
import Retention.Proofs.Service
import Retention.Proofs.Trail

/-!
# Walks along a trail

A walk on a host that serves a heap follows the trail of the heap. After `n` rounds it
stands at the `n`th instance of the trail, has visited the instances before it, and holds
the hops between them. One round preserves this, so the rounds before the walk ends can be
skipped, and what it comes to is read off the round that ends it.
-/

namespace Retention

namespace HeapView

/-- The hop of a trail that follows after so many others. -/
def hopAt (heap : HeapView) (start : InstanceId) (hops : Nat) : Hop :=
  match heap.edgeBetween (heap.trail start hops) (heap.trail start (hops + 1)) with
  | some edge => .found ⟨heap.trail start hops, heap.trail start (hops + 1), edge⟩
  | none => .skipped ⟨heap.trail start hops, heap.trail start (hops + 1)⟩

/-- The first hops of a trail. -/
def hopsTo (heap : HeapView) (start : InstanceId) (hops : Nat) : List Hop :=
  (List.range hops).map (heap.hopAt start)

/-- The instances that the first hops of a trail come through. -/
def visitedTo (heap : HeapView) (start : InstanceId) : Nat → Visited
  | 0 => (∅ : Visited).insert start
  | hops + 1 => (visitedTo heap start hops).insert (heap.trail start (hops + 1))

/-- A policy lets a hop pass: it skips what is missing, or nothing is missing. -/
def Passes (heap : HeapView) (policy : MissingEdgePolicy) (start : InstanceId)
    (hops : Nat) : Prop :=
  policy = .skip ∨
    heap.edgeBetween (heap.trail start hops) (heap.trail start (hops + 1)) ≠ none

variable {heap : HeapView} {start : InstanceId}

theorem reverse_hopsTo_succ (hops : Nat) :
    (heap.hopsTo start (hops + 1)).reverse =
      heap.hopAt start hops :: (heap.hopsTo start hops).reverse := by
  simp [hopsTo, List.range_succ]

theorem contains_visitedTo (hops : Nat) (id : InstanceId) :
    (heap.visitedTo start hops).contains id = true ↔ ∃ i ≤ hops, heap.trail start i = id := by
  induction hops with
  | zero => simp [visitedTo]
  | succ hops ih =>
      rw [visitedTo, Std.HashSet.contains_insert, Bool.or_eq_true, ih, beq_iff_eq]
      constructor
      · rintro (heq | ⟨i, hi, heq⟩)
        · exact ⟨hops + 1, Nat.le_refl _, heq⟩
        · exact ⟨i, Nat.le_succ_of_le hi, heq⟩
      · rintro ⟨i, hi, heq⟩
        rcases Nat.le_succ_iff.mp hi with hle | rfl
        · exact Or.inr ⟨i, hle, heq⟩
        · exact Or.inl heq

/-- As long as a trail repeats nothing, the set of visited instances does not hold the next
one. -/
theorem Distinct.fresh {hops : Nat} (hdistinct : heap.Distinct start (hops + 2)) :
    (heap.visitedTo start hops).contains (heap.trail start (hops + 1)) = false := by
  rw [← Bool.not_eq_true, contains_visitedTo]
  rintro ⟨i, hi, heq⟩
  exact hdistinct i (hops + 1) (by omega) (by omega) heq

theorem hop_of_passes {policy : MissingEdgePolicy} {hops : Nat}
    (hpasses : heap.Passes policy start hops) :
    Path.hop policy (heap.trail start hops) (heap.trail start (hops + 1))
        (heap.references (heap.trail start hops)) = .ok (heap.hopAt start hops) := by
  unfold Path.hop hopAt
  change (match heap.edgeBetween _ _ with | some edge => _ | none => _) = _
  cases hedge : heap.edgeBetween (heap.trail start hops) (heap.trail start (hops + 1)) with
  | some edge => rfl
  | none =>
      have hskip : policy = .skip := hpasses.resolve_right fun hfound => hfound hedge
      subst hskip
      rfl

end HeapView

namespace Path

variable {σ : Type} {host : Host σ} {heap : HeapView} {ready : Phase → σ → Prop}
  {policy : MissingEdgePolicy} {start : InstanceId} {state : σ} {hops : Nat}

/-- A walk as it stands after so many rounds along the trail of its start. -/
def walkAfter (host : Host σ) (heap : HeapView) (policy : MissingEdgePolicy)
    (start : InstanceId) (hops : Nat) (state : σ) : Except Failure PathOutcome × σ :=
  walk host policy start (heap.visitedTo start hops) (heap.hopsTo start hops).reverse
    (heap.trail start hops) (heap.trail start (hops + 1)) state

/-! ## Single rounds -/

section Rounds

variable {scanned looked later : σ}

/-- A round whose step is accepted takes the next hop of the trail. -/
theorem walkAfter_of_step (hfree : host.cancelled state = false)
    (hpasses : heap.Passes policy start hops) (hdistinct : heap.Distinct start (hops + 2))
    (hscan : host.references (heap.trail start hops) state =
      (heap.references (heap.trail start hops), scanned))
    (hlookup : host.pointer (heap.trail start (hops + 1)) scanned =
      (some (heap.trail start (hops + 2)), looked))
    (hstep : host.step looked = (.ok (), later)) :
    walkAfter host heap policy start hops state =
      walkAfter host heap policy start (hops + 1) later := by
  have hmoves : heap.trail start hops ≠ heap.trail start (hops + 1) :=
    hdistinct hops (hops + 1) (by omega) (by omega)
  rw [walkAfter, walk]
  simp only [hfree, Bool.false_eq_true, if_false, hmoves, hscan, HeapView.hop_of_passes hpasses,
    hdistinct.fresh, dite_true, hlookup, hstep]
  rw [walkAfter, HeapView.reverse_hopsTo_succ, HeapView.visitedTo]

/-- A round whose hop comes back to an instance ends the walk before the next look-up. -/
theorem walkAfter_of_repeat (hfree : host.cancelled state = false)
    (hpasses : heap.Passes policy start hops) (hleaves : heap.Leaves (heap.trail start hops))
    (hrepeat : ∃ i < hops + 1, heap.trail start i = heap.trail start (hops + 1))
    (hscan : host.references (heap.trail start hops) state =
      (heap.references (heap.trail start hops), scanned)) :
    walkAfter host heap policy start hops state =
      (.error (.inconsistent (.pointerCycle start (heap.trail start (hops + 1)))), scanned) := by
  have hstale : (heap.visitedTo start hops).contains (heap.trail start (hops + 1)) = true := by
    rw [HeapView.contains_visitedTo]
    obtain ⟨i, hi, heq⟩ := hrepeat
    exact ⟨i, Nat.le_of_lt_succ hi, heq⟩
  rw [walkAfter, walk]
  simp only [hfree, Bool.false_eq_true, if_false, hleaves.trail_ne.symm, hscan,
    HeapView.hop_of_passes hpasses, hstale, Bool.true_eq_false, dite_false]

/-- A round whose hop enters an instance without a pointer ends the walk there. -/
theorem walkAfter_of_none (hfree : host.cancelled state = false)
    (hpasses : heap.Passes policy start hops) (hdistinct : heap.Distinct start (hops + 2))
    (hscan : host.references (heap.trail start hops) state =
      (heap.references (heap.trail start hops), scanned))
    (hlookup : host.pointer (heap.trail start (hops + 1)) scanned = (none, looked)) :
    walkAfter host heap policy start hops state =
      (.error (.inconsistent (.danglingPointer start (heap.trail start (hops + 1)))),
        looked) := by
  have hmoves : heap.trail start hops ≠ heap.trail start (hops + 1) :=
    hdistinct hops (hops + 1) (by omega) (by omega)
  rw [walkAfter, walk]
  simp only [hfree, Bool.false_eq_true, if_false, hmoves, hscan, HeapView.hop_of_passes hpasses,
    hdistinct.fresh, dite_true, hlookup]

end Rounds

/-- A round that does not end the walk takes the next hop of the trail. -/
theorem walkAfter_succ (hserves : host.Serves heap ready) (hready : ready .inside state)
    (hpasses : heap.Passes policy start hops)
    (hdistinct : heap.Distinct start (hops + 2))
    (hpointer : heap.pointer (heap.trail start (hops + 1)) =
      some (heap.trail start (hops + 2))) :
    ∃ later, ready .inside later ∧
      walkAfter host heap policy start hops state =
        walkAfter host heap policy start (hops + 1) later := by
  obtain ⟨scanned, hscan, hscanned⟩ := hserves.scan (heap.trail start hops) hready
  obtain ⟨looked, hlookup, hlooked⟩ := hserves.lookup (heap.trail start (hops + 1)) hscanned
  obtain ⟨later, hstep, hlater⟩ := hserves.step_accepted looked hlooked
  rw [hpointer] at hlookup
  have hfree := hserves.not_cancelled _ _ hready
  exact ⟨later, hlater, walkAfter_of_step hfree hpasses hdistinct hscan hlookup hstep⟩

/-- The rounds along the part of a trail that repeats nothing can be skipped. -/
theorem walkAfter_zero (hserves : host.Serves heap ready) (hready : ready .inside state)
    (hpasses : ∀ i < hops, heap.Passes policy start i)
    (hdistinct : heap.Distinct start (hops + 1))
    (hpointer : ∀ i ≤ hops, heap.pointer (heap.trail start i) = some (heap.trail start (i + 1))) :
    ∃ later, ready .inside later ∧
      walkAfter host heap policy start 0 state = walkAfter host heap policy start hops later := by
  induction hops with
  | zero => exact ⟨state, hready, rfl⟩
  | succ hops ih =>
      obtain ⟨middle, hmiddle, hrounds⟩ := ih (fun i hi => hpasses i (by omega))
        (hdistinct.mono (by omega)) (fun i hi => hpointer i (by omega))
      obtain ⟨later, hlater, hround⟩ := walkAfter_succ hserves hmiddle
        (hpasses hops (by omega)) hdistinct (hpointer (hops + 1) (Nat.le_refl _))
      exact ⟨later, hlater, hrounds.trans hround⟩

/-! ## Rounds that end a walk -/

/-- A round at a root ends the walk with the chain of its hops. -/
theorem walkAfter_root (hserves : host.Serves heap ready) (hready : ready .inside state)
    (hself : heap.pointer (heap.trail start hops) = some (heap.trail start hops)) :
    walkAfter host heap policy start hops state =
      (.ok (.chain (RootChain.ofHops start (heap.trail start hops) (heap.hopsTo start hops))),
        state) := by
  rw [walkAfter, walk]
  simp only [hserves.not_cancelled _ _ hready, Bool.false_eq_true, if_false,
    HeapView.trail_succ_of_self hself, if_true, List.reverse_reverse]

theorem walkAfter_loop (hserves : host.Serves heap ready) (hready : ready .inside state)
    (hpasses : heap.Passes policy start hops)
    (hleaves : heap.Leaves (heap.trail start hops))
    (hrepeat : ∃ i < hops + 1, heap.trail start i = heap.trail start (hops + 1)) :
    ∃ later, ready .inside later ∧
      walkAfter host heap policy start hops state =
        (.error (.inconsistent (.pointerCycle start (heap.trail start (hops + 1)))), later) := by
  obtain ⟨scanned, hscan, hscanned⟩ := hserves.scan (heap.trail start hops) hready
  have hfree := hserves.not_cancelled _ _ hready
  exact ⟨scanned, hscanned, walkAfter_of_repeat hfree hpasses hleaves hrepeat hscan⟩

theorem walkAfter_deadEnd (hserves : host.Serves heap ready) (hready : ready .inside state)
    (hpasses : heap.Passes policy start hops)
    (hdistinct : heap.Distinct start (hops + 2))
    (hnone : heap.pointer (heap.trail start (hops + 1)) = none) :
    ∃ later, ready .inside later ∧
      walkAfter host heap policy start hops state =
        (.error (.inconsistent (.danglingPointer start (heap.trail start (hops + 1)))),
          later) := by
  obtain ⟨scanned, hscan, hscanned⟩ := hserves.scan (heap.trail start hops) hready
  obtain ⟨looked, hlookup, hlooked⟩ := hserves.lookup (heap.trail start (hops + 1)) hscanned
  rw [hnone] at hlookup
  have hfree := hserves.not_cancelled _ _ hready
  exact ⟨looked, hlooked, walkAfter_of_none hfree hpasses hdistinct hscan hlookup⟩

end Path

end Retention
