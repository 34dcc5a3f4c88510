import Retention.Proofs.Resolution

/-!
# Where chains arrive

The hops of a walk follow on one another and lead to the root, but a chain keeps the steps and the
skipped hops apart. So its steps alone lead on wherever no hop was skipped, and nowhere else: the
last step arrives at the root exactly if the last hop was found, and a step starts where the one
before it ended exactly if no skipped hop stands between them.
-/

namespace Retention

/-! ## Routes -/

namespace Hop

def source : Hop → InstanceId
  | .found step => step.referrer
  | .skipped hop => hop.source

def target : Hop → InstanceId
  | .found step => step.referent
  | .skipped hop => hop.target

end Hop

/-- Hops that follow on one another, from one instance to another. -/
inductive Route : InstanceId → List Hop → InstanceId → Prop where
  | nil (id : InstanceId) : Route id [] id
  | cons {hop : Hop} {rest : List Hop} {finish : InstanceId}
      (hrest : Route hop.target rest finish) : Route hop.source (hop :: rest) finish

/-- A route comes through no instance twice. -/
def Simple (start : InstanceId) (hops : List Hop) : Prop :=
  (start :: hops.map Hop.target).Nodup

namespace Route

variable {start middle finish : InstanceId} {hops before after : List Hop} {hop : Hop}

theorem eq_of_nil (hroute : Route start [] finish) : start = finish := by
  cases hroute
  rfl

theorem append (hbefore : Route start before middle) (hafter : Route middle after finish) :
    Route start (before ++ after) finish := by
  induction hbefore with
  | nil => exact hafter
  | cons _ ih => exact .cons (ih hafter)

theorem split (hroute : Route start (before ++ hop :: after) finish) :
    Route start before hop.source ∧ Route hop.target after finish := by
  induction before generalizing start with
  | nil =>
      cases hroute with
      | cons hafter => exact ⟨.nil _, hafter⟩
  | cons first before ih =>
      cases hroute with
      | cons hrest =>
          obtain ⟨hbefore, hafter⟩ := ih hrest
          exact ⟨.cons hbefore, hafter⟩

/-- A route ends at its start or where one of its hops leads. -/
theorem finish_mem (hroute : Route start hops finish) :
    finish ∈ start :: hops.map Hop.target := by
  induction hroute with
  | nil => exact List.mem_cons_self
  | cons _ ih => exact List.mem_cons_of_mem _ ih

end Route

/-! ## Steps and skipped hops -/

namespace RootChain

variable {start root finish : InstanceId} {hops before after : List Hop}

theorem mem_steps_iff {step : ChainStep} :
    step ∈ (ofHops start root hops).steps ↔ .found step ∈ hops := by
  simp only [ofHops, List.mem_filterMap]
  constructor
  · rintro ⟨hop, hmem, hstep⟩
    cases hop with
    | found found =>
        cases hstep
        exact hmem
    | skipped => cases hstep
  · intro hmem
    exact ⟨_, hmem, rfl⟩

theorem mem_skipped_iff {skipped : SkippedHop} :
    skipped ∈ (ofHops start root hops).skipped ↔ .skipped skipped ∈ hops := by
  simp only [ofHops, List.mem_filterMap]
  constructor
  · rintro ⟨hop, hmem, hskipped⟩
    cases hop with
    | found => cases hskipped
    | skipped found =>
        cases hskipped
        exact hmem
  · intro hmem
    exact ⟨_, hmem, rfl⟩

theorem instances_subset : (ofHops start root hops).instances ⊆ start :: hops.map Hop.target := by
  intro id hid
  rcases List.mem_cons.mp hid with rfl | hid
  · exact List.mem_cons_self
  · obtain ⟨step, hstep, rfl⟩ := List.mem_map.mp hid
    exact List.mem_cons_of_mem _ (List.mem_map.mpr ⟨_, mem_steps_iff.mp hstep, rfl⟩)

theorem instances_append (before after : List Hop) :
    (ofHops start root (before ++ after)).instances = (ofHops start root before).instances ++
      (after.filterMap Hop.step?).map ChainStep.referent := by
  simp [ofHops, instances]

/-- The instances of a chain lead up to where its hops do, unless a skipped hop leads there. -/
theorem getLast?_instances_iff (root : InstanceId) (hroute : Route start hops finish)
    (hsimple : Simple start hops) :
    (ofHops start root hops).instances.getLast? = some finish ↔
      ∀ skipped ∈ (ofHops start root hops).skipped, skipped.target ≠ finish := by
  rcases List.eq_nil_or_concat hops with rfl | ⟨before, last, hconcat⟩
  · cases hroute
    simp [ofHops, instances]
  · rw [List.concat_eq_append] at hconcat
    subst hconcat
    obtain ⟨-, hlast⟩ := hroute.split
    obtain rfl := hlast.eq_of_nil
    rw [Simple, List.map_append, ← List.cons_append] at hsimple
    have hfresh : last.target ∉ start :: before.map Hop.target := by
      intro hmem
      exact (List.nodup_append.mp hsimple).2.2 _ hmem _ List.mem_cons_self rfl
    cases last with
    | found step =>
        have harrives : (ofHops start root (before ++ [.found step])).instances.getLast? =
            some step.referent := by
          rw [instances_append]
          exact List.getLast?_concat
        refine iff_of_true harrives fun skipped hskipped heq => hfresh ?_
        rw [mem_skipped_iff, List.mem_append] at hskipped
        have hmem : .skipped skipped ∈ before := hskipped.resolve_right (by simp)
        exact List.mem_cons_of_mem _ (List.mem_map.mpr ⟨_, hmem, heq⟩)
    | skipped hop =>
        -- What the chain arrives at it has arrived at before the hop that it skips.
        have hinstances : (ofHops start root (before ++ [.skipped hop])).instances =
            (ofHops start root before).instances := by
          rw [instances_append]
          exact List.append_nil _
        rw [hinstances]
        refine iff_of_false (fun hgetLast => hfresh ?_) fun hnone => ?_
        · exact instances_subset (List.mem_of_getLast? hgetLast)
        · exact hnone hop (mem_skipped_iff.mpr (by simp)) rfl

/-- The step at a place of a chain is a hop of the route, behind the hops of the steps before it. -/
theorem exists_hop_of_step {i : Nat} {step : ChainStep}
    (hstep : (ofHops start root hops).steps[i]? = some step) :
    ∃ before after, hops = before ++ .found step :: after ∧
      (ofHops start root before).steps.length = i := by
  induction hops generalizing i with
  | nil => cases hstep
  | cons hop rest ih =>
      cases hop with
      | found first =>
          cases i with
          | zero =>
              cases hstep
              exact ⟨[], rest, rfl, rfl⟩
          | succ i =>
              obtain ⟨before, after, rfl, rfl⟩ := ih (i := i) hstep
              exact ⟨.found first :: before, after, rfl, rfl⟩
      | skipped hop =>
          obtain ⟨before, after, rfl, rfl⟩ := ih hstep
          exact ⟨.skipped hop :: before, after, rfl, rfl⟩

/-- A step starts where the chain has come to, unless a skipped hop leads there. -/
theorem instances_eq_referrer_iff (hroute : Route start hops finish) (hsimple : Simple start hops)
    {i : Nat} {step : ChainStep} (hstep : (ofHops start root hops).steps[i]? = some step) :
    (ofHops start root hops).instances[i]? = some step.referrer ↔
      ∀ skipped ∈ (ofHops start root hops).skipped, skipped.target ≠ step.referrer := by
  obtain ⟨before, after, rfl, rfl⟩ := exists_hop_of_step hstep
  obtain ⟨hbefore, -⟩ := hroute.split
  rw [Simple, List.map_append, ← List.cons_append] at hsimple
  have hearlier := getLast?_instances_iff root hbefore (List.nodup_append.mp hsimple).1
  have hplace : (ofHops start root (before ++ .found step :: after)).instances[
        (ofHops start root before).steps.length]? =
      (ofHops start root before).instances.getLast? := by
    have hlength : (ofHops start root before).instances.length =
        (ofHops start root before).steps.length + 1 := by simp [instances]
    rw [instances_append, List.getLast?_eq_getElem?, hlength, Nat.add_sub_cancel,
      List.getElem?_append_left (by omega)]
  rw [hplace]
  refine hearlier.trans ⟨fun hnone skipped hskipped => ?_, fun hnone skipped hskipped => ?_⟩
  · rw [mem_skipped_iff, List.mem_append] at hskipped
    rcases hskipped with hskipped | hskipped
    · exact hnone skipped (mem_skipped_iff.mpr hskipped)
    · -- Later hops do not lead back to where the step starts.
      intro heq
      have hafter : skipped.target ∈ (Hop.found step :: after).map Hop.target :=
        List.mem_map.mpr ⟨_, hskipped, rfl⟩
      exact (List.nodup_append.mp hsimple).2.2 _ hbefore.finish_mem _ hafter heq.symm
  · exact hnone skipped (mem_skipped_iff.mpr (List.mem_append_left _ (mem_skipped_iff.mp hskipped)))

/-- The last step of a chain that comes from elsewhere arrives at the root, unless a skipped hop
leads there. -/
theorem terminal_arrives_iff (hroute : Route start hops root) (hsimple : Simple start hops)
    (hne : start ≠ root) :
    (∃ step, (ofHops start root hops).terminal? = some step ∧ step.referent = root) ↔
      ∀ skipped ∈ (ofHops start root hops).skipped, skipped.target ≠ root := by
  rw [← getLast?_instances_iff root hroute hsimple, terminal?, instances, List.getLast?_cons,
    List.getLast?_map]
  cases (ofHops start root hops).steps.getLast? with
  | none => simpa [ofHops] using hne
  | some step => simp

end RootChain

/-! ## Walks -/

namespace HeapView

variable {heap : HeapView} {start : InstanceId}

theorem hopAt_eq (heap : HeapView) (start : InstanceId) (i : Nat) :
    (heap.hopAt start i).source = heap.trail start i ∧
      (heap.hopAt start i).target = heap.trail start (i + 1) := by
  unfold hopAt
  split
  next => exact ⟨rfl, rfl⟩
  next => exact ⟨rfl, rfl⟩

theorem hopsTo_succ (heap : HeapView) (start : InstanceId) (hops : Nat) :
    heap.hopsTo start (hops + 1) = heap.hopsTo start hops ++ [heap.hopAt start hops] := by
  simp [hopsTo, List.range_succ]

/-- The hops of a walk follow on one another. -/
theorem route_hopsTo (heap : HeapView) (start : InstanceId) (hops : Nat) :
    Route start (heap.hopsTo start hops) (heap.trail start hops) := by
  induction hops with
  | zero => exact .nil start
  | succ hops ih =>
      obtain ⟨hsource, htarget⟩ := heap.hopAt_eq start hops
      rw [hopsTo_succ, ← htarget]
      rw [← hsource] at ih
      exact ih.append (.cons (.nil _))

theorem targets_hopsTo (heap : HeapView) (start : InstanceId) (hops : Nat) :
    start :: (heap.hopsTo start hops).map Hop.target =
      (List.range (hops + 1)).map (heap.trail start) := by
  rw [List.range_succ_eq_map, List.map_cons, List.map_map, hopsTo, List.map_map]
  congr 1
  exact List.map_congr_left fun i _ => (heap.hopAt_eq start i).2

theorem Distinct.simple {hops : Nat} (hdistinct : heap.Distinct start (hops + 1)) :
    Simple start (heap.hopsTo start hops) := by
  rw [Simple, targets_hopsTo]
  refine List.Nodup.map_on ?_ List.nodup_range
  intro i hi j hj heq
  rw [List.mem_range] at hi hj
  rcases Nat.lt_trichotomy i j with hlt | hsame | hlt
  · exact absurd heq (hdistinct i j hlt hj)
  · exact hsame
  · exact absurd heq.symm (hdistinct j i hlt hi)

/-- A chain that is the outcome of a path is that of a trail to a root. -/
theorem ends_of_outcome_chain {ending : Ending} {chain : RootChain}
    (houtcome : heap.outcome start ending = .ok (.chain chain)) :
    ∃ hops, ending = .root (hops + 1) ∧ chain =
      RootChain.ofHops start (heap.trail start (hops + 1)) (heap.hopsTo start (hops + 1)) := by
  match ending with
  | .root 0 => cases houtcome
  | .root (hops + 1) =>
      cases houtcome
      exact ⟨hops, rfl, rfl⟩
  | .deadEnd 0 => cases houtcome
  | .deadEnd (hops + 1) => cases houtcome
  | .loop hops => cases houtcome

/-- A heap that shows every second hop of the walk from 1 to the root 5. -/
def patchy : HeapView where
  pointer id :=
    match id.raw.toNat with
    | 1 => some ⟨2⟩
    | 2 => some ⟨3⟩
    | 3 => some ⟨4⟩
    | 4 => some ⟨5⟩
    | 5 => some ⟨5⟩
    | _ => none
  references id :=
    match id.raw.toNat with
    | 1 => [⟨.field "next", ⟨2⟩⟩]
    | 3 => [⟨.field "next", ⟨4⟩⟩]
    | _ => []

theorem patchy_ends_root : patchy.Ends ⟨1⟩ (.root 4) := by
  refine ⟨?_, by decide⟩
  intro i hi
  obtain rfl | rfl | rfl | rfl : i = 0 ∨ i = 1 ∨ i = 2 ∨ i = 3 := by omega
  · exact ⟨⟨2⟩, by decide, by decide⟩
  · exact ⟨⟨3⟩, by decide, by decide⟩
  · exact ⟨⟨4⟩, by decide, by decide⟩
  · exact ⟨⟨5⟩, by decide, by decide⟩

end HeapView

namespace Path

open HeapView

variable {σ : Type} {host : Host σ} {heap : HeapView} {ready : Phase → σ → Prop} {phase : Phase}
  {start : InstanceId} {state resolving : σ}

/-- What a chain says of the way to its root, under the default settings. Steps and skipped hops are
the hops of one route from the start to the root, which resolution finds as well with a budget of
as many hops. The last step arrives at the root exactly if no skipped hop leads there. A step starts
at the start of the chain or where the step before it ended, exactly if no skipped hop leads to
where it starts. -/
theorem chain_arrives (hserves : host.Serves heap ready) (hready : ready .outside state)
    (hresolving : ready phase resolving) {chain : RootChain}
    (hbuild : (build host Settings.default.missingEdge start state).1 = .ok (.chain chain)) :
    (∃ hops, chain = RootChain.ofHops start chain.root hops ∧ Route start hops chain.root ∧
        Simple start hops) ∧
      (∀ limit, chain.length + chain.skipped.length ≤ limit.toNat →
        (Resolution.resolve host limit start resolving).1 = .ok (.root chain.root)) ∧
      ((∃ step, chain.terminal? = some step ∧ step.referent = chain.root) ↔
        ∀ skipped ∈ chain.skipped, skipped.target ≠ chain.root) ∧
      ∀ (i : Nat) (step : ChainStep), chain.steps[i]? = some step →
        (chain.instances[i]? = some step.referrer ↔
          ∀ skipped ∈ chain.skipped, skipped.target ≠ step.referrer) := by
  obtain ⟨ending, hends⟩ := exists_ends heap start
  have houtcome := (build_skip_of_ends hserves hready hends).symm.trans hbuild
  obtain ⟨hops, rfl, rfl⟩ := ends_of_outcome_chain houtcome
  have hdistinct := hends.rests_of_root.distinct
  have hroute := heap.route_hopsTo start (hops + 1)
  have hsimple := hdistinct.simple
  have hne : start ≠ heap.trail start (hops + 1) :=
    hdistinct 0 (hops + 1) hops.succ_pos (hops + 1).lt_succ_self
  refine ⟨⟨_, rfl, hroute, hsimple⟩, fun limit hlimit => ?_,
    RootChain.terminal_arrives_iff hroute hsimple hne,
    fun i step hstep => RootChain.instances_eq_referrer_iff hroute hsimple hstep⟩
  obtain ⟨hagree, -, -⟩ :=
    Resolution.resolve_agrees_with_path hserves hresolving hready limit start
  exact (hagree.root_iff _).mpr (.inr ⟨_, hbuild, rfl, hlimit⟩)

/-- In the sample heap the hop from 2 to 3 is skipped on the way from 1 to 4. So the last step
arrives at the root, and the second one does not start where the first one ended. -/
theorem chain_arrives_sample :
    let sink : SinkPlan := ⟨true, none, none⟩
    let host := Monitor.host sample .plain sink
    host.Serves sample (Monitor.Ready sink) ∧ Monitor.Ready sink .outside .fresh ∧
      ∃ chain, (build host Settings.default.missingEdge ⟨1⟩ .fresh).1 = .ok (.chain chain) ∧
        (∃ step, chain.terminal? = some step ∧ step.referent = ⟨4⟩) ∧
        (Resolution.resolve host 3 ⟨1⟩ .fresh).1 = .ok (.root ⟨4⟩) ∧
        chain.instances[1]? ≠ some ⟨3⟩ := by
  intro sink host
  have hserves : host.Serves sample (Monitor.Ready sink) := Monitor.host_serves sample rfl rfl rfl
  have hready : Monitor.Ready sink .outside .fresh := Monitor.fresh_ready sink
  have hbuild : (build host Settings.default.missingEdge ⟨1⟩ .fresh).1 = .ok (.chain
      ⟨⟨1⟩, ⟨4⟩, [⟨⟨1⟩, ⟨2⟩, .field "next"⟩, ⟨⟨3⟩, ⟨4⟩, .slot 0⟩], [⟨⟨2⟩, ⟨3⟩⟩]⟩) :=
    (build_skip_of_ends hserves hready sample_ends_root).trans (by decide)
  obtain ⟨-, hresolve, hterminal, hsteps⟩ := chain_arrives hserves hready hready hbuild
  refine ⟨hserves, hready, _, hbuild, hterminal.mpr (by decide), hresolve 3 (by decide), ?_⟩
  intro hstarts
  exact (hsteps 1 _ rfl).mp hstarts ⟨⟨2⟩, ⟨3⟩⟩ List.mem_cons_self rfl

/-- Skipped hops leave a chain whose last step stops short of the root and whose steps do not follow
on one another. -/
theorem chain_stops_short :
    let sink : SinkPlan := ⟨true, none, none⟩
    let host := Monitor.host patchy .plain sink
    host.Serves patchy (Monitor.Ready sink) ∧ Monitor.Ready sink .outside .fresh ∧
      ∃ chain, (build host Settings.default.missingEdge ⟨1⟩ .fresh).1 = .ok (.chain chain) ∧
        (¬ ∃ step, chain.terminal? = some step ∧ step.referent = chain.root) ∧
        ¬ ∀ (i : Nat) (step : ChainStep), chain.steps[i]? = some step →
          chain.instances[i]? = some step.referrer := by
  intro sink host
  have hserves : host.Serves patchy (Monitor.Ready sink) := Monitor.host_serves patchy rfl rfl rfl
  have hready : Monitor.Ready sink .outside .fresh := Monitor.fresh_ready sink
  have hbuild : (build host Settings.default.missingEdge ⟨1⟩ .fresh).1 = .ok (.chain
      ⟨⟨1⟩, ⟨5⟩, [⟨⟨1⟩, ⟨2⟩, .field "next"⟩, ⟨⟨3⟩, ⟨4⟩, .field "next"⟩],
        [⟨⟨2⟩, ⟨3⟩⟩, ⟨⟨4⟩, ⟨5⟩⟩]⟩) :=
    (build_skip_of_ends hserves hready patchy_ends_root).trans (by decide)
  refine ⟨hserves, hready, _, hbuild, ?_, fun hgapless => ?_⟩
  · rintro ⟨step, hterminal, hroot⟩
    cases hterminal
    cases hroot
  · cases hgapless 1 _ rfl

end Path

end Retention
