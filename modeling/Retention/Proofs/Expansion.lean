import Retention.Proofs.Policy
import Retention.Proofs.Reading

/-!
# Expanding the members of groups

Aggregation keeps no path, only the root that an instance resolves to. To show how a member of a
group is held, its path is built anew, by a walk with failures of its own. On the heap of the
aggregation that walk cannot miss: what made the instance a member is that its trail rests at the
root of the group, and within the budget of the aggregation.
-/

namespace Retention

variable {σ τ : Type} {heap : HeapView} {limit : UInt64}

/-- An outcome leads from a member to its root in at most so many hops. -/
def PathOutcome.Leads (member root : InstanceId) (most : Nat) : PathOutcome → Prop
  | .noRoot => False
  | .isRoot => member = root
  | .chain found => member ≠ root ∧ found.start = member ∧ found.root = root ∧
      found.length + found.skipped.length ≤ most

namespace HeapView

variable {id root : InstanceId}

/-- An instance has the key of a root if its trail ends there within the limit. -/
theorem ends_of_key (hkey : heap.key? limit id = some (.root root)) :
    ∃ hops ≤ limit.toNat, heap.Ends id (.root hops) ∧ heap.trail id hops = root := by
  obtain ⟨ending, hends⟩ := exists_ends heap id
  obtain ⟨_, hresolve, _⟩ := @Resolution.resolve_of_ends Unit (Host.quiet heap) heap
    (fun _ _ => True) .outside id () (Host.quiet_serves heap) trivial limit ending hends
  rw [key?, resolved, hresolve] at hkey
  cases ending with
  | root hops =>
      rw [settled] at hkey
      split at hkey
      next hle =>
        cases hkey
        exact ⟨hops, hle, hends, rfl⟩
      next => cases hkey
  | deadEnd hops =>
      rw [settled] at hkey
      split at hkey
      next => cases hkey
      next => cases hkey
  | loop hops => cases hkey

/-- What comes of a trail that ends at a root leads there. -/
theorem outcome_leads {hops most : Nat} (hends : heap.Ends id (.root hops)) (hle : hops ≤ most) :
    ∃ outcome, heap.outcome id (.root hops) = .ok outcome ∧
      outcome.Leads id (heap.trail id hops) most := by
  cases hops with
  | zero => exact ⟨.isRoot, rfl, rfl⟩
  | succ hops =>
      have hne : heap.trail id 0 ≠ heap.trail id (hops + 1) :=
        hends.rests_of_root.distinct 0 (hops + 1) hops.succ_pos (Nat.lt_succ_self _)
      refine ⟨_, rfl, hne, rfl, rfl, ?_⟩
      exact (records_ofHops heap id (hops + 1)).length_eq.trans_le hle

end HeapView

namespace Path

variable {host : Host σ} {ready : Phase → σ → Prop} {state : σ} {member root : InstanceId}
  {policy : MissingEdgePolicy} {outcome : PathOutcome} {result : Except Failure PathOutcome}

/-- The path of an instance leads to the root that the instance has for its key. -/
theorem build_skip_of_key (hserves : host.Serves heap ready) (hready : ready .outside state)
    (hkey : heap.key? limit member = some (.root root)) :
    ∃ outcome, (build host .skip member state).1 = .ok outcome ∧
      outcome.Leads member root limit.toNat := by
  obtain ⟨hops, hle, hends, rfl⟩ := HeapView.ends_of_key hkey
  obtain ⟨outcome, houtcome, hleads⟩ := HeapView.outcome_leads hends hle
  exact ⟨outcome, (build_skip_of_ends hserves hready hends).trans houtcome, hleads⟩

/-- What a path comes to under a policy, given what it comes to if missing references are skipped:
the same, unless the policy is to fail and the path lacks a reference. -/
def Shows (policy : MissingEdgePolicy) (outcome : PathOutcome)
    (result : Except Failure PathOutcome) : Prop :=
  result = .ok outcome ∨
    policy = .fail ∧ ∃ chain hop, outcome = .chain chain ∧ hop ∈ chain.skipped ∧
      result = .error (.inconsistent (.missingEdge hop.source hop.target))

theorem build_shows (hanswers : host.Answers heap)
    (hskip : (build host .skip member state).1 = .ok outcome) (policy : MissingEdgePolicy) :
    Shows policy outcome (build host policy member state).1 := by
  cases policy with
  | skip => exact .inl hskip
  | fail => exact (build_fail_of_skip_ok hanswers hskip).imp_right fun hfails => ⟨rfl, hfails⟩

/-- A path that leads to a root is not shown as having none. -/
theorem Shows.ne_noRoot {most : Nat} (hshows : Shows policy outcome result)
    (hleads : outcome.Leads member root most) : result ≠ .ok .noRoot := by
  rintro rfl
  rcases hshows with heq | ⟨-, _, _, -, -, heq⟩
  · cases heq
    exact hleads
  · cases heq

/-- The only failure in showing a path is over a missing reference. -/
theorem Shows.error {failure : Failure} (hshows : Shows policy outcome (.error failure)) :
    ∃ source target, failure = .inconsistent (.missingEdge source target) := by
  rcases hshows with heq | ⟨-, _, hop, -, -, heq⟩
  · cases heq
  · cases heq
    exact ⟨hop.source, hop.target, rfl⟩

end Path

namespace Analyzer

variable {host : Host σ} {ready : Phase → σ → Prop} {state prepared : σ} {group : RootGroup}
  {index : Nat} {member root : InstanceId}

/-! ## Members that are not looked up -/

theorem memberPath_of_count_le (viewer : Analyzer) (host : Host σ) (state : σ)
    (hle : group.count ≤ index) :
    viewer.memberPath host group index state =
      (.error (.config (.memberOutOfRange index group.count)), state) := by
  unfold memberPath
  rw [Array.getElem?_eq_none hle]

theorem memberPath_of_unreachable (viewer : Analyzer) (host : Host σ) (state : σ)
    (hkey : group.key = .unreachable) (hlt : index < group.count) :
    viewer.memberPath host group index state = (.ok .noRoot, state) := by
  unfold memberPath
  rw [Array.getElem?_eq_getElem hlt]
  simp [RootGroup.isExpandable, hkey]

/-! ## Members with a root -/

theorem memberPath_of_root (viewer : Analyzer) (hprepare : host.prepare state = (.ok (), prepared))
    (hkey : group.key = .root root) (hmember : group.members[index]? = some member) :
    viewer.memberPath host group index state =
      Path.build host viewer.settings.missingEdge member prepared := by
  unfold memberPath buildPath
  rw [hmember, hprepare]
  simp [RootGroup.isExpandable, hkey]

/-- Every member of an aggregation can be expanded, by every viewer of the heap. An index beyond
the group and a member of the unreachable bucket are settled without a call. The path of any other
member leads to the root of its group within the budget of the aggregation; a viewer that skips
missing references shows it, and one that fails over them shows it or names one that the path
lacks. -/
theorem members_expand {grouping : Host τ} (hgrouping : grouping.Answers heap)
    (analyzer : Analyzer) {instances : List InstanceId} {expected : UInt64} {begun : τ}
    {groups : RootGroups}
    (haggregate : (analyzer.aggregate grouping instances expected begun).1 = .ok groups)
    (hserves : host.Serves heap ready) (hprepare : host.prepare state = (.ok (), prepared))
    (hready : ready .outside prepared) (hgroup : group ∈ groups.groups) (index : Nat) :
    let shown := fun viewer : Analyzer => (viewer.memberPath host group index state).1
    let calls := fun viewer : Analyzer =>
      Analysis.log (fun host => viewer.memberPath host group index) host state
    (group.count ≤ index → ∀ viewer, calls viewer = [] ∧
        shown viewer = .error (.config (.memberOutOfRange index group.count))) ∧
      (index < group.count → group.key = .unreachable → ∀ viewer, calls viewer = [] ∧
        shown viewer = .ok .noRoot) ∧
      ∀ member root, group.members[index]? = some member → group.key = .root root →
        ∃ outcome, outcome.Leads member root analyzer.settings.maxRootDistance.toNat ∧
          ∀ viewer : Analyzer,
            Path.Shows viewer.settings.missingEdge outcome (shown viewer) ∧
              shown viewer ≠ .ok .noRoot ∧ ∀ failure, shown viewer = .error failure →
                ∃ source target, failure = .inconsistent (.missingEdge source target) := by
  intro shown calls
  refine ⟨fun hle viewer => ?_, fun hlt hkey viewer => ?_, fun member root hmember hkey => ?_⟩
  · constructor
    · exact congrArg (fun run => run.2.log) (viewer.memberPath_of_count_le host.recorded _ hle)
    · exact congrArg Prod.fst (viewer.memberPath_of_count_le host state hle)
  · constructor
    · exact congrArg (fun run => run.2.log)
        (viewer.memberPath_of_unreachable host.recorded _ hkey hlt)
    · exact congrArg Prod.fst (viewer.memberPath_of_unreachable host state hkey hlt)
  · -- The group holds the instances that resolve to its key, so its members do.
    obtain ⟨hparts, -⟩ := analyzer.aggregate_partitions hgrouping haggregate
    have hmem : member ∈ group.members.toList :=
      Array.mem_toList_iff.mpr (Array.mem_of_getElem? hmember)
    rw [hparts.members group hgroup, List.mem_filter, hkey] at hmem
    obtain ⟨outcome, hskip, hleads⟩ :=
      Path.build_skip_of_key hserves hready (of_decide_eq_true hmem.2)
    refine ⟨outcome, hleads, fun viewer => ?_⟩
    have hshows : Path.Shows viewer.settings.missingEdge outcome (shown viewer) := by
      have hpath := viewer.memberPath_of_root hprepare hkey hmember
      rw [show shown viewer = _ from congrArg Prod.fst hpath]
      exact Path.build_shows hserves.toAnswers hskip _
    refine ⟨hshows, hshows.ne_noRoot hleads, fun failure hfailure => ?_⟩
    rw [hfailure] at hshows
    exact hshows.error

/-- Instances 1 and 4 of the sample heap are grouped under 4, and 9 is unreachable. With a tracker
in use every viewer shows where 1 leads, and no call is made for 9 or for a third member. -/
theorem members_expand_sample :
    let analyzer : Analyzer := ⟨{ Settings.default with maxRootDistance := 3 }, by decide⟩
    let groupOf4 : RootGroup := ⟨.root ⟨4⟩, #[⟨1⟩, ⟨4⟩]⟩
    let unreachable : RootGroup := ⟨.unreachable, #[⟨9⟩]⟩
    let host := Monitor.host .sample .plain ⟨true, none, none⟩
    ∃ groups outcome,
      (analyzer.aggregate (Host.quiet .sample) [⟨9⟩, ⟨1⟩, ⟨4⟩] 3 ()).1 = .ok groups ∧
      groups.groups.toList = [unreachable, groupOf4] ∧ outcome.Leads ⟨1⟩ ⟨4⟩ 3 ∧
      ∀ viewer : Analyzer,
        Path.Shows viewer.settings.missingEdge outcome
            (viewer.memberPath host groupOf4 0 .fresh).1 ∧
          (viewer.memberPath host unreachable 0 .fresh).1 = .ok .noRoot ∧
          (viewer.memberPath host groupOf4 2 .fresh).1 =
            .error (.config (.memberOutOfRange 2 2)) ∧
          Analysis.log (fun host => viewer.memberPath host groupOf4 2) host .fresh = [] := by
  intro analyzer groupOf4 unreachable host
  have hanswers : (Host.quiet .sample).Answers .sample := (Host.quiet_serves .sample).toAnswers
  have hserves : host.Serves .sample (Monitor.Ready ⟨true, none, none⟩) :=
    Monitor.host_serves .sample rfl rfl rfl
  have hgroups : (analyzer.aggregate (Host.quiet .sample) [⟨9⟩, ⟨1⟩, ⟨4⟩] 3 ()).1.toOption.map
      (fun groups => groups.groups.toList) = some [unreachable, groupOf4] := by
    subst analyzer groupOf4 unreachable
    cbv
  cases hresult : (analyzer.aggregate (Host.quiet .sample) [⟨9⟩, ⟨1⟩, ⟨4⟩] 3 ()).1 with
  | error failure =>
      rw [hresult] at hgroups
      cases hgroups
  | ok groups =>
      rw [hresult] at hgroups
      have hlist : groups.groups.toList = [unreachable, groupOf4] := Option.some.inj hgroups
      have hmem : ∀ group ∈ [unreachable, groupOf4], group ∈ groups.groups := by
        intro group hgroup
        rwa [← Array.mem_toList_iff, hlist]
      let prepared : Monitor := { Monitor.fresh with prepares := 1 }
      have hprepare : host.prepare .fresh = (.ok (), prepared) := rfl
      have hready : Monitor.Ready ⟨true, none, none⟩ .outside prepared :=
        ⟨rfl, fun _ => ProgressState.noConfusion⟩
      have hexpand := fun group hgroup =>
        members_expand hanswers analyzer hresult hserves hprepare hready (hmem group hgroup)
      obtain ⟨-, -, hleads⟩ := hexpand groupOf4 (by simp) 0
      obtain ⟨-, hnone, -⟩ := hexpand unreachable (by simp) 0
      obtain ⟨hbeyond, -, -⟩ := hexpand groupOf4 (by simp) 2
      obtain ⟨outcome, hleads, hshown⟩ := hleads ⟨1⟩ ⟨4⟩ rfl rfl
      refine ⟨groups, outcome, rfl, hlist, hleads, fun viewer => ?_⟩
      obtain ⟨hcalls, houtside⟩ := hbeyond (by decide) viewer
      exact ⟨(hshown viewer).1, (hnone (by decide) rfl viewer).2, houtside, hcalls⟩

end Analyzer

end Retention
