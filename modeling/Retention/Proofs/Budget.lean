import Retention.Proofs.Calls
import Retention.Proofs.Resolution
import Retention.Resolution.Counter

/-!
# Hop budgets

Resolution looks up the instances of a trail one after another, up to the one that it rests at or to
the one that the budget ends at. A look-up comes before the budget is compared, and that before the
poll, so a rest exactly at the limit is found, a budget of nothing allows for one look-up, and an
analysis that is cancelled already still finds what one look-up settles.
-/

namespace Retention

namespace Resolution

open HeapView

variable {σ : Type} {host : Host σ} {heap : HeapView} {ready : Phase → σ → Prop}
  {phase : Phase} {start current : InstanceId} {limit : UInt64} {state : σ} {budget : Nat}

/-! ## Counters -/

/-- A round of the counter, if it can count the hop. -/
theorem settleCounting_of_counted {host : Host σ} {hops counted : UInt64}
    (hcounted : Word.sum? hops 1 = some counted) :
    settleCounting host start limit hops current state =
      match host.pointer current state with
      | (none, state) => some (.ok .unreachable, state)
      | (some next, state) =>
          if next = current then some (.ok (.root current), state)
          else if limit < counted then
            some (.error (.inconsistent (.chainTooLong start limit)), state)
          else if host.cancelled state then some (.error .interrupted, state)
          else settleCounting host start limit counted next state := by
  rw [settleCounting]
  rcases host.pointer current state with ⟨_ | next, looked⟩
  · rfl
  · by_cases hself : next = current
    · simp only [hself, if_true]
    · simp only [hself, if_false]
      split
      next hnone =>
        rw [hcounted] at hnone
        cases hnone
      next found hfound =>
        rw [hcounted] at hfound
        cases hfound
        rfl

/-- Below the greatest limit every hop can be counted, and what is left of the budget is what the
counter has not come to yet. -/
theorem settleCounting_eq (host : Host σ) (start : InstanceId)
    (hlimit : limit.toNat + 1 < UInt64.size) {hops : UInt64} (hhops : hops.toNat ≤ limit.toNat)
    (current : InstanceId) (state : σ) :
    settleCounting host start limit hops current state =
      some (settle host start limit (limit.toNat - hops.toNat) current state) := by
  induction hleft : limit.toNat - hops.toNat generalizing hops current state with
  | zero =>
      have hcounted : Word.sum? hops 1 = some (hops + 1) :=
        Word.sum?_of_lt (by rw [UInt64.toNat_one]; omega)
      have hcount := Word.toNat_of_sum? hcounted
      have hexceeds : limit < hops + 1 := by
        rw [UInt64.lt_iff_toNat_lt, hcount, UInt64.toNat_one]
        omega
      rw [settleCounting_of_counted hcounted, settle]
      rcases host.pointer current state with ⟨_ | next, looked⟩
      · rfl
      · simp only [hexceeds, if_true]
        split <;> rfl
  | succ left ih =>
      have hcounted : Word.sum? hops 1 = some (hops + 1) :=
        Word.sum?_of_lt (by rw [UInt64.toNat_one]; omega)
      have hcount := Word.toNat_of_sum? hcounted
      rw [UInt64.toNat_one] at hcount
      have hwithin : ¬ limit < hops + 1 := by
        rw [UInt64.lt_iff_toNat_lt, hcount]
        omega
      rw [settleCounting_of_counted hcounted, settle]
      rcases host.pointer current state with ⟨_ | next, looked⟩
      · rfl
      · have hrest : settleCounting host start limit (hops + 1) next looked = _ :=
          ih (by omega) next looked (by omega)
        simp only [hwithin, if_false, hrest]
        split
        · rfl
        · split <;> rfl

theorem resolveCounting_eq (host : Host σ) (hlimit : limit.toNat + 1 < UInt64.size)
    (start : InstanceId) (state : σ) :
    resolveCounting host limit start state = some (resolve host limit start state) :=
  settleCounting_eq host start hlimit (Nat.zero_le _) start state

/-! ## Look-ups -/

/-- The look-ups lead to a rest, or as far as the budget does. -/
theorem settle_asked (hserves : host.Serves heap ready) {recorded : Recorded σ}
    (hready : ready phase recorded.state) {hops : Nat} (hmoves : heap.Moves current hops)
    (hle : hops ≤ budget) (hlast : hops = budget ∨ ¬ heap.Leaves (heap.trail current hops)) :
    Asked recorded (settle host.recorded start limit budget current recorded).2
      (heap.lookups current (hops + 1)) := by
  induction hops generalizing current budget recorded with
  | zero =>
      obtain ⟨looked, hlookup, -, hasked⟩ := hserves.lookup_asked current hready
      rw [settle, hlookup]
      cases hpointer : heap.pointer current with
      | none => exact hasked
      | some next =>
          by_cases hself : next = current
          · simp only [hself, if_true]
            exact hasked
          · have hleaves : heap.Leaves current := ⟨next, hpointer, hself⟩
            obtain rfl : 0 = budget := hlast.resolve_right (not_not.mpr hleaves)
            simp only [hself, if_false]
            exact hasked
  | succ hops ih =>
      obtain ⟨looked, hlookup, hlooked, hasked⟩ := hserves.lookup_asked current hready
      obtain ⟨budget, rfl⟩ : ∃ fewer, budget = fewer + 1 := ⟨budget - 1, by omega⟩
      obtain ⟨next, hpointer, hne⟩ := hmoves 0 (Nat.succ_pos hops)
      rw [trail_zero] at hpointer hne
      rw [trail_succ_of_pointer hpointer] at hlast
      have hrest := ih hlooked (hmoves.after hpointer) (by omega) (hlast.imp_left Nat.succ.inj)
      rw [settle, hlookup, hpointer, lookups_succ hpointer]
      simp only [hne, if_false, hserves.not_cancelled_recorded hlooked, Bool.false_eq_true]
      exact hasked.trans hrest

theorem resolve_asked (hserves : host.Serves heap ready) (hready : ready phase state) {hops : Nat}
    (hmoves : heap.Moves start hops) (hle : hops ≤ limit.toNat)
    (hlast : hops = limit.toNat ∨ ¬ heap.Leaves (heap.trail start hops)) :
    (resolve host.recorded limit start (.start state)).2.calls =
      heap.lookups start (hops + 1) := by
  have hstart : ready phase (Recorded.start state).state := hready
  exact settle_asked hserves hstart hmoves hle hlast

/-! ## Cancelled analyses -/

theorem settle_of_pointer_ne {next : InstanceId} {looked : σ}
    (hlookup : host.pointer current state = (some next, looked)) (hne : next ≠ current)
    (hcancelled : host.cancelled looked = true) :
    settle host start limit budget current state =
      (.error (if budget = 0 then .inconsistent (.chainTooLong start limit) else .interrupted),
        looked) := by
  cases budget with
  | zero =>
      rw [settle]
      simp [hlookup, hne]
  | succ budget =>
      rw [settle]
      simp [hlookup, hne, hcancelled]

theorem settle_of_not_leaves {looked : σ}
    (hlookup : host.pointer current state = (heap.pointer current, looked))
    (hstays : ¬ heap.Leaves current) :
    settle host start limit budget current state = (.ok (heap.restKey current), looked) := by
  rw [settle, hlookup]
  rcases pointer_of_not_leaves hstays with hnone | hself
  · simp [hnone, restKey]
  · simp [hself, restKey]

/-- If the start is left, an analysis that is cancelled already is interrupted after its look-up,
unless the budget does not allow for a hop anyway. -/
theorem resolve_of_cancelled (hanswers : host.Answers heap) (htoken : host.TokenLaws)
    (hcancelled : host.cancelled state = true) (limit : UInt64) (hleaves : heap.Leaves start) :
    resolve host limit start state =
      (.error (if limit = 0 then .inconsistent (.chainTooLong start limit) else .interrupted),
        (host.pointer start state).2) := by
  obtain ⟨next, hpointer, hne⟩ := hleaves
  have hlookup : host.pointer start state = (some next, (host.pointer start state).2) :=
    Prod.ext ((hanswers.pointer_fst start state).trans hpointer) rfl
  have hbudget : limit.toNat = 0 ↔ limit = 0 := UInt64.toNat_inj (b := 0)
  unfold resolve
  rw [settle_of_pointer_ne hlookup hne (htoken.pointer start hcancelled)]
  simp only [hbudget]

/-- One look-up is all that an analysis makes that is cancelled already. -/
theorem calls_of_cancelled (hanswers : host.Answers heap) (htoken : host.TokenLaws)
    (hcancelled : host.cancelled state = true) (limit : UInt64) (start : InstanceId) :
    (resolve host.recorded limit start (.start state)).2.calls = [.lookup start] := by
  have hlater : (resolve host.recorded limit start (.start state)).2 =
      (host.recorded.pointer start (.start state)).2 := by
    by_cases hleaves : heap.Leaves start
    · have hrecorded : host.recorded.cancelled (.start state) = true := hcancelled
      rw [resolve_of_cancelled hanswers.recorded htoken.recorded hrecorded limit hleaves]
    · have hlookup : host.recorded.pointer start (.start state) = (heap.pointer start, _) :=
        Prod.ext (hanswers.recorded.pointer_fst start (.start state)) rfl
      rw [resolve, settle_of_not_leaves hlookup hleaves]
  rw [hlater]
  rfl

/-! ## Within and beyond the budget -/

/-- A trail that does not end within the budget leads on beyond it. -/
theorem moves_of_not_ends {budget : Nat}
    (hnever : ∀ hops ≤ budget,
      ¬ heap.Ends start (.root hops) ∧ ¬ heap.Ends start (.deadEnd hops)) :
    heap.Moves start (budget + 1) := by
  obtain ⟨ending, hends⟩ := exists_ends heap start
  cases ending with
  | root hops =>
      have hbeyond : budget < hops := Nat.lt_of_not_le fun hle => (hnever hops hle).1 hends
      exact hends.1.mono hbeyond
  | deadEnd hops =>
      have hbeyond : budget < hops := Nat.lt_of_not_le fun hle => (hnever hops hle).2 hends
      exact hends.1.mono hbeyond
  | loop hops => exact fun i _ => hends.leaves_of_loop i

theorem not_leaves_iff :
    ¬ heap.Leaves start ↔ heap.Ends start (.root 0) ∨ heap.Ends start (.deadEnd 0) := by
  constructor
  · intro hstays
    rcases pointer_of_not_leaves hstays with hnone | hself
    · exact .inr ⟨moves_zero, hnone⟩
    · exact .inl ⟨moves_zero, hself⟩
  · rintro (hends | hends)
    · exact hends.rests_of_root.stays
    · exact hends.rests_of_deadEnd.stays

/-- What resolving an instance comes to on a host, and all that the host is asked for. -/
structure Settles (host : Host σ) (limit : UInt64) (start : InstanceId) (state : σ)
    (result : Except Failure RootKey) (calls : List HostCall) : Prop where
  result : (resolveCounting host limit start state).map Prod.fst = some result
  calls : (resolveCounting host.recorded limit start (.start state)).map
    (fun run => run.2.calls) = some calls

theorem Settles.of_resolve {result : Except Failure RootKey} {calls : List HostCall}
    (hlimit : limit.toNat + 1 < UInt64.size)
    (hresult : (resolve host limit start state).1 = result)
    (hcalls : (resolve host.recorded limit start (.start state)).2.calls = calls) :
    Settles host limit start state result calls where
  result := by
    rw [resolveCounting_eq host hlimit]
    exact congrArg some hresult
  calls := by
    rw [resolveCounting_eq host.recorded hlimit]
    exact congrArg some hcalls

theorem settles_of_ends (hserves : host.Serves heap ready) (hready : ready phase state)
    (hlimit : limit.toNat + 1 < UInt64.size) {hops : Nat} (hle : hops ≤ limit.toNat)
    (hrests : heap.Rests start hops) :
    Settles host limit start state (.ok (heap.restKey (heap.trail start hops)))
      (heap.lookups start (hops + 1)) := by
  obtain ⟨later, hrun, -⟩ := resolve_of_rests hserves hready limit hrests
  rw [if_pos hle] at hrun
  exact .of_resolve hlimit (congrArg Prod.fst hrun)
    (resolve_asked hserves hready hrests.moves hle (.inr hrests.stays))

theorem settles_of_moves (hserves : host.Serves heap ready) (hready : ready phase state)
    (hlimit : limit.toNat + 1 < UInt64.size) (hmoves : heap.Moves start (limit.toNat + 1)) :
    Settles host limit start state (.error (.inconsistent (.chainTooLong start limit)))
      (heap.lookups start (limit.toNat + 1)) := by
  obtain ⟨later, hrun, -⟩ := resolve_of_moves hserves hready hmoves
  exact .of_resolve hlimit (congrArg Prod.fst hrun)
    (resolve_asked hserves hready (hmoves.mono (Nat.le_succ _)) le_rfl (.inl rfl))

/-- Resolution within a limit, on a host that is not cancelled and on one that is. A root or a dead
end at most as many hops away as the limit says is found with one look-up more than there are hops;
everything else is too long, which takes one look-up more than the limit. Cancelled, the first
look-up already decides. -/
theorem hop_budget_exact {τ : Type} {other : Host τ} {begun : τ}
    (hserves : host.Serves heap ready) (hready : ready phase state)
    (hanswers : other.Answers heap) (htoken : other.TokenLaws)
    (hcancelled : other.cancelled begun = true) (limit : UInt64)
    (hlimit : limit.toNat + 1 < UInt64.size) (start : InstanceId) :
    (∀ hops ≤ limit.toNat, heap.Ends start (.root hops) →
      Settles host limit start state (.ok (.root (heap.trail start hops)))
        (heap.lookups start (hops + 1))) ∧
    (∀ hops ≤ limit.toNat, heap.Ends start (.deadEnd hops) →
      Settles host limit start state (.ok .unreachable) (heap.lookups start (hops + 1))) ∧
    ((∀ hops ≤ limit.toNat,
        ¬ heap.Ends start (.root hops) ∧ ¬ heap.Ends start (.deadEnd hops)) →
      Settles host limit start state (.error (.inconsistent (.chainTooLong start limit)))
        (heap.lookups start (limit.toNat + 1))) ∧
    (heap.Circles start →
      Settles host limit start state (.error (.inconsistent (.chainTooLong start limit)))
        (heap.lookups start (limit.toNat + 1))) ∧
    (heap.Ends start (.root 0) ∨ heap.Ends start (.deadEnd 0) ∨ limit = 0 →
      Settles other limit start begun (resolve host limit start state).1 [.lookup start]) ∧
    (¬ (heap.Ends start (.root 0) ∨ heap.Ends start (.deadEnd 0) ∨ limit = 0) →
      Settles other limit start begun (.error .interrupted) [.lookup start]) := by
  have hdecided : ∀ result, (resolve other limit start begun).1 = result →
      Settles other limit start begun result [.lookup start] := by
    intro result hresult
    exact .of_resolve hlimit hresult (calls_of_cancelled hanswers htoken hcancelled limit start)
  rw [← or_assoc, ← not_leaves_iff]
  refine ⟨?_, ?_, ?_, ?_, ?_, ?_⟩
  · intro hops hle hends
    have hsettles := settles_of_ends hserves hready hlimit hle hends.rests_of_root
    rwa [restKey_of_self hends.2] at hsettles
  · intro hops hle hends
    have hsettles := settles_of_ends hserves hready hlimit hle hends.rests_of_deadEnd
    rwa [restKey_of_none hends.2] at hsettles
  · intro hnever
    exact settles_of_moves hserves hready hlimit (moves_of_not_ends hnever)
  · intro hcircles
    exact settles_of_moves hserves hready hlimit fun i _ => hcircles.leaves i
  · intro hdecides
    apply hdecided
    by_cases hleaves : heap.Leaves start
    · obtain rfl : limit = 0 := hdecides.resolve_left (not_not.mpr hleaves)
      rw [resolve_of_cancelled hanswers htoken hcancelled 0 hleaves]
      obtain ⟨_, hrun, -⟩ : ∃ later, resolve host 0 start state = (_, later) ∧ _ :=
        settle_zero hserves hready hleaves
      exact (congrArg Prod.fst hrun).symm
    · obtain ⟨_, hrun, -⟩ := settle_of_rest hserves hready hleaves
      rw [resolve, settle_of_not_leaves (Prod.ext (hanswers.pointer_fst start begun) rfl) hleaves]
      exact (congrArg Prod.fst hrun).symm
  · intro hopen
    obtain ⟨hleaves, hlimit⟩ := not_or.mp hopen
    apply hdecided
    rw [resolve_of_cancelled hanswers htoken hcancelled limit (not_not.mp hleaves), if_neg hlimit]

/-- In the sample heap three hops are just enough for 1 and two are not, 5 leads into a loop, and a
token that is cancelled at the beginning leaves nothing but what is known of 4 at once. -/
theorem hop_budget_exact_sample :
    let host := Monitor.host sample .plain ⟨true, none, none⟩
    let begun : Monitor := { Monitor.fresh with cancelled := true }
    Settles host 3 ⟨1⟩ .fresh (.ok (.root ⟨4⟩))
        [.lookup ⟨1⟩, .lookup ⟨2⟩, .lookup ⟨3⟩, .lookup ⟨4⟩] ∧
      Settles host 2 ⟨1⟩ .fresh (.error (.inconsistent (.chainTooLong ⟨1⟩ 2)))
        [.lookup ⟨1⟩, .lookup ⟨2⟩, .lookup ⟨3⟩] ∧
      Settles host 2 ⟨5⟩ .fresh (.error (.inconsistent (.chainTooLong ⟨5⟩ 2)))
        [.lookup ⟨5⟩, .lookup ⟨6⟩, .lookup ⟨7⟩] ∧
      Settles host 3 ⟨4⟩ begun (.ok (.root ⟨4⟩)) [.lookup ⟨4⟩] ∧
      Settles host 3 ⟨1⟩ begun (.error .interrupted) [.lookup ⟨1⟩] := by
  intro host begun
  have hserves : host.Serves sample (Monitor.Ready ⟨true, none, none⟩) :=
    Monitor.host_serves sample rfl rfl rfl
  have hready : Monitor.Ready ⟨true, none, none⟩ .outside .fresh := Monitor.fresh_ready _
  have hanswers : host.Answers sample := hserves.toAnswers
  have htoken : host.TokenLaws := Monitor.host_tokenLaws sample .plain ⟨true, none, none⟩
  have hcancelled : host.cancelled begun = true := rfl
  have hexact := hop_budget_exact hserves hready hanswers htoken hcancelled
  have hroot : sample.Ends ⟨4⟩ (.root 0) := ⟨moves_zero, by decide⟩
  have hcircles : sample.Circles ⟨5⟩ := ⟨1, 3, by decide, ⟨⟨7⟩, by decide, by decide⟩, by decide⟩
  have hnever : ∀ hops ≤ 2,
      ¬ sample.Ends ⟨1⟩ (.root hops) ∧ ¬ sample.Ends ⟨1⟩ (.deadEnd hops) := by
    intro hops hle
    constructor
    · intro hends
      cases hends.unique sample_ends_root
      omega
    · intro hends
      cases hends.unique sample_ends_root
  refine ⟨?_, ?_, ?_, ?_, ?_⟩
  · exact (hexact 3 (by decide) ⟨1⟩).1 3 le_rfl sample_ends_root
  · exact (hexact 2 (by decide) ⟨1⟩).2.2.1 hnever
  · exact (hexact 2 (by decide) ⟨5⟩).2.2.2.1 hcircles
  · exact (hexact 3 (by decide) ⟨4⟩).2.2.2.2.1 (.inl hroot)
  · refine (hexact 3 (by decide) ⟨1⟩).2.2.2.2.2 ?_
    rintro (hends | hends | hlimit)
    · cases hends.unique sample_ends_root
    · cases hends.unique sample_ends_root
    · cases hlimit

end Resolution

end Retention
