import Retention.Aggregation

/-!
# Aggregations as tallies

Both forms of aggregation come down to the same two steps: visiting the instances in order,
which changes the host's state, and adding up what the visits came to, which does not. The
exhaustive form makes every visit and polls before it adds up; the sequential form adds up as
it goes, makes no visit after one that failed, and polls only after a last success.
-/

namespace Retention.Aggregation

variable {σ : Type} {host : Host σ} {limit : UInt64}

/-- Visits all instances in order and records what each visit came to. -/
def visitAll (host : Host σ) (limit : UInt64) :
    List InstanceId → σ → List (InstanceId × Except Failure RootKey) × σ
  | [], state => ([], state)
  | id :: rest, state =>
      let (key, state) := visit host limit id state
      let (visits, state) := visitAll host limit rest state
      ((id, key) :: visits, state)

/-- What an aggregation that has come to `result` comes to after more visits. -/
def tally (result : Except Failure RootGroups)
    (visits : List (InstanceId × Except Failure RootKey)) : Except Failure RootGroups :=
  visits.foldl (fun result visit => extend result visit.1 visit.2) result

/-- The first visit that failed is the one of `id`, with `failure`. -/
def FailsFirst (visits : List (InstanceId × Except Failure RootKey)) (id : InstanceId)
    (failure : Failure) : Prop :=
  ∃ before after, visits = before ++ (id, .error failure) :: after ∧
    ∀ visit ∈ before, ∃ key, visit.2 = .ok key

/-! ## Adding up -/

section Tally

variable {visits : List (InstanceId × Except Failure RootKey)} {id : InstanceId}
  {failure : Failure}

@[simp] theorem tally_cons_ok (groups : RootGroups) (id : InstanceId) (key : RootKey)
    (visits : List (InstanceId × Except Failure RootKey)) :
    tally (.ok groups) ((id, .ok key) :: visits) = tally (.ok (groups.insert key id)) visits :=
  rfl

/-- Nothing is added to a failure. -/
@[simp] theorem tally_error (failure : Failure)
    (visits : List (InstanceId × Except Failure RootKey)) :
    tally (.error failure) visits = .error failure := by
  induction visits with
  | nil => rfl
  | cons visit visits ih => exact ih

@[simp] theorem tally_cons_error (groups : RootGroups) (id : InstanceId) (failure : Failure)
    (visits : List (InstanceId × Except Failure RootKey)) :
    tally (.ok groups) ((id, .error failure) :: visits) = .error failure :=
  tally_error failure visits

theorem FailsFirst.tally_eq (groups : RootGroups) (hfails : FailsFirst visits id failure) :
    tally (.ok groups) visits = .error failure := by
  obtain ⟨before, after, rfl, hbefore⟩ := hfails
  -- Each success only changes the groups that the failure then displaces.
  induction before generalizing groups with
  | nil => exact tally_cons_error groups id failure after
  | cons visit before ih =>
      obtain ⟨visited, key⟩ := visit
      obtain ⟨key, rfl⟩ := hbefore _ List.mem_cons_self
      exact ih _ fun visit hvisit => hbefore visit (List.mem_cons_of_mem _ hvisit)

theorem failsFirst_cons_ok {visited : InstanceId} {key : RootKey}
    (hfails : FailsFirst visits id failure) :
    FailsFirst ((visited, .ok key) :: visits) id failure := by
  obtain ⟨before, after, rfl, hbefore⟩ := hfails
  refine ⟨(visited, .ok key) :: before, after, rfl, ?_⟩
  simpa using hbefore

/-- Either all visits succeeded or one of them was the first to fail. -/
theorem all_ok_or_failsFirst (visits : List (InstanceId × Except Failure RootKey)) :
    (∀ visit ∈ visits, ∃ key, visit.2 = .ok key) ∨ ∃ id failure, FailsFirst visits id failure := by
  induction visits with
  | nil => exact .inl fun _ hvisit => nomatch hvisit
  | cons visit visits ih =>
      obtain ⟨visited, result⟩ := visit
      cases result with
      | error failure => exact .inr ⟨visited, failure, [], visits, rfl, fun _ h => nomatch h⟩
      | ok key =>
          rcases ih with hok | ⟨id, failure, hfails⟩
          · refine .inl ?_
            simpa using hok
          · exact .inr ⟨id, failure, failsFirst_cons_ok hfails⟩

/-- A tally of successes comes to groups. -/
theorem tally_of_all_ok (groups : RootGroups)
    (hok : ∀ visit ∈ visits, ∃ key, visit.2 = .ok key) :
    ∃ found, tally (.ok groups) visits = .ok found := by
  induction visits generalizing groups with
  | nil => exact ⟨groups, rfl⟩
  | cons visit visits ih =>
      obtain ⟨visited, key⟩ := visit
      obtain ⟨key, rfl⟩ := hok _ List.mem_cons_self
      exact ih _ fun visit hvisit => hok visit (List.mem_cons_of_mem _ hvisit)

/-- A tally fails exactly with the failure of the first visit that did. -/
theorem tally_eq_error_iff (groups : RootGroups)
    (visits : List (InstanceId × Except Failure RootKey)) (failure : Failure) :
    tally (.ok groups) visits = .error failure ↔ ∃ id, FailsFirst visits id failure := by
  constructor
  · intro htally
    rcases all_ok_or_failsFirst visits with hok | ⟨id, first, hfails⟩
    · obtain ⟨found, hfound⟩ := tally_of_all_ok groups hok
      rw [htally] at hfound
      cases hfound
    · obtain rfl : first = failure := by
        simpa using (hfails.tally_eq groups).symm.trans htally
      exact ⟨id, hfails⟩
  · rintro ⟨id, hfails⟩
    exact hfails.tally_eq groups

end Tally

/-! ## The two forms -/

section Conclude

variable {state : σ}

theorem conclude_of_cancelled (result : Except Failure RootGroups)
    (hcancelled : host.cancelled state = true) :
    conclude host result state = (.error .interrupted, state) :=
  if_pos hcancelled

theorem conclude_of_not_cancelled (result : Except Failure RootGroups)
    (hcancelled : host.cancelled state = false) :
    conclude host result state = (result, state) := by
  rw [conclude, hcancelled]
  rfl

theorem conclude_state (result : Except Failure RootGroups) (state : σ) :
    (conclude host result state).2 = state := by
  unfold conclude
  split
  · rfl
  · rfl

theorem conclude_eq_ok_iff (result : Except Failure RootGroups) (groups : RootGroups) :
    (conclude host result state).1 = .ok groups ↔
      result = .ok groups ∧ host.cancelled state = false := by
  cases hcancelled : host.cancelled state with
  | false =>
      rw [conclude_of_not_cancelled result hcancelled]
      exact (and_iff_left rfl).symm
  | true =>
      rw [conclude_of_cancelled result hcancelled]
      exact ⟨fun hgroups => (nomatch hgroups), fun hgroups => (nomatch hgroups.2)⟩

/-- Ends an aggregation that is over with its first failure: only groups are withheld. -/
def concludeGroups (host : Host σ) (result : Except Failure RootGroups) (state : σ) :
    Except Failure RootGroups :=
  match result with
  | .error failure => .error failure
  | .ok groups => (conclude host (.ok groups) state).1

theorem concludeGroups_error (failure : Failure) (state : σ) :
    concludeGroups host (.error failure) state = .error failure :=
  rfl

theorem concludeGroups_ok_of_cancelled (groups : RootGroups)
    (hcancelled : host.cancelled state = true) :
    concludeGroups host (.ok groups) state = .error .interrupted := by
  rw [concludeGroups, conclude_of_cancelled _ hcancelled]

theorem concludeGroups_of_not_cancelled (result : Except Failure RootGroups)
    (hcancelled : host.cancelled state = false) :
    concludeGroups host result state = result := by
  cases result with
  | error failure => rfl
  | ok groups => rw [concludeGroups, conclude_of_not_cancelled _ hcancelled]

theorem concludeGroups_eq_ok_iff (result : Except Failure RootGroups) (groups : RootGroups) :
    concludeGroups host result state = .ok groups ↔
      result = .ok groups ∧ host.cancelled state = false := by
  cases result with
  | error failure => exact ⟨fun hgroups => (nomatch hgroups), fun hgroups => (nomatch hgroups.1)⟩
  | ok found => exact conclude_eq_ok_iff (.ok found) groups

end Conclude

/-- The exhaustive form makes all visits and then concludes with their tally. -/
theorem gatherAll_eq (host : Host σ) (limit : UInt64) (instances : List InstanceId)
    (result : Except Failure RootGroups) (state : σ) :
    gatherAll host limit instances result state =
      conclude host (tally result (visitAll host limit instances state).1)
        (visitAll host limit instances state).2 := by
  induction instances generalizing result state with
  | nil => rfl
  | cons id rest ih =>
      -- What has been tallied so far has no part in the visits to come.
      rw [gatherAll, visitAll]
      exact ih _ _

/-- The sequential form comes to the same tally, of which a failure stands whatever would
happen to the token later, since the visits after it are not made. -/
theorem gather_fst (host : Host σ) (limit : UInt64) (instances : List InstanceId)
    (groups : RootGroups) (state : σ) :
    (gather host limit instances groups state).1 =
      concludeGroups host (tally (.ok groups) (visitAll host limit instances state).1)
        (visitAll host limit instances state).2 := by
  induction instances generalizing groups state with
  | nil => rfl
  | cons id rest ih =>
      rw [gather, visitAll]
      cases hvisit : visit host limit id state with
      | mk key later =>
          cases key with
          | error failure => simp only [tally_cons_error, concludeGroups_error]
          | ok key =>
              simp only [tally_cons_ok]
              exact ih _ _

theorem visitAll_map_fst (host : Host σ) (limit : UInt64) (instances : List InstanceId)
    (state : σ) : (visitAll host limit instances state).1.map Prod.fst = instances := by
  induction instances generalizing state with
  | nil => rfl
  | cons id rest ih =>
      rw [visitAll, List.map_cons, ih]

end Retention.Aggregation
