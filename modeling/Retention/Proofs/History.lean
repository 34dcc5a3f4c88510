import Mathlib.Data.List.Basic
import Mathlib.Data.List.Induction
import Retention.Progress.Words
import Retention.Proofs.Service

/-!
# Histories of a tracker

A tracker remembers nothing of its past but a state and two numbers. Over any history of calls these
say what the accepted calls say: the state, whether there was a setup and whether a finish came
after the last one, and the numbers, how many steps came after it and how many it announced. This
also holds of a tracker that is kept in words, one value of which is kept back.
-/

namespace Retention

/-- A call on a tracker. -/
inductive ProgressCall where
  | setup (length : Option UInt64)
  | step
  | finish
deriving DecidableEq, Repr

namespace ProgressCall

/-! ## Histories -/

variable {τ : Type} {take : τ → ProgressCall → Except Failure Unit × τ}

/-- One more call on a tracker, together with the calls that it accepted before. -/
def note (take : τ → ProgressCall → Except Failure Unit × τ) (past : List ProgressCall × τ)
    (call : ProgressCall) : List ProgressCall × τ :=
  match take past.2 call with
  | (.ok (), later) => (past.1 ++ [call], later)
  | (.error _, later) => (past.1, later)

/-- Calls made one after another: those that were accepted, and the tracker after all of them. -/
def history (take : τ → ProgressCall → Except Failure Unit × τ) (tracker : τ)
    (calls : List ProgressCall) : List ProgressCall × τ :=
  calls.foldl (note take) ([], tracker)

theorem history_concat (tracker : τ) (calls : List ProgressCall) (call : ProgressCall) :
    history take tracker (calls ++ [call]) = note take (history take tracker calls) call :=
  List.foldl_concat _ _ _ _

theorem length_accepted_le (tracker : τ) (calls : List ProgressCall) :
    (history take tracker calls).1.length ≤ calls.length := by
  induction calls using List.reverseRecOn with
  | nil => exact Nat.le_refl 0
  | append_singleton calls call ih =>
      rw [history_concat, note, List.length_append, List.length_singleton]
      split
      next =>
        rw [List.length_append, List.length_singleton]
        exact Nat.succ_le_succ ih
      next => exact Nat.le_succ_of_le ih

/-- No setup is among the calls. -/
def SetupFree (calls : List ProgressCall) : Prop :=
  ∀ length, .setup length ∉ calls

theorem SetupFree.concat {calls : List ProgressCall} (hfree : SetupFree calls)
    {call : ProgressCall} (hcall : ∀ length, .setup length ≠ call) :
    SetupFree (calls ++ [call]) := by
  intro length hmem
  rcases List.mem_append.mp hmem with hmem | hmem
  · exact hfree length hmem
  · exact hcall length (List.mem_singleton.mp hmem)

theorem not_setupFree (before : List ProgressCall) (length : Option UInt64)
    (since : List ProgressCall) : ¬ SetupFree (before ++ .setup length :: since) :=
  fun hfree => hfree length (List.mem_append_right before List.mem_cons_self)

/-- The last setup is the last however the calls are taken apart at a setup. -/
theorem setup_cases {before before' since since' : List ProgressCall}
    {length length' : Option UInt64}
    (heq : before ++ .setup length :: since = before' ++ .setup length' :: since')
    (hlast : SetupFree since') :
    (length = length' ∧ since = since') ∨
      ∃ between, since = between ++ .setup length' :: since' := by
  rcases List.append_eq_append_iff.mp heq with ⟨between, -, hrest⟩ | ⟨between, -, hrest⟩
  · cases between with
    | nil =>
        cases hrest
        exact .inl ⟨rfl, rfl⟩
    | cons _ between =>
        cases hrest
        exact .inr ⟨between, rfl⟩
  · cases between with
    | nil =>
        cases hrest
        exact .inl ⟨rfl, rfl⟩
    | cons _ between =>
        cases hrest
        exact absurd hlast (not_setupFree between length since)

end ProgressCall

/-! ## Trackers -/

namespace Progress

open ProgressCall

variable {progress : Progress} {accepted : List ProgressCall}

/-- What a tracker makes of a call. -/
def take (progress : Progress) : ProgressCall → Except Failure Unit × Progress
  | .setup length => progress.setup length
  | .step => progress.step
  | .finish => (.ok (), progress.finish)

theorem step_of_not_stepping (hfree : progress.state ≠ .stepping) :
    progress.step = (.error (.invalidProgress "step" progress.state.label), progress) := by
  unfold step
  split
  next hstepping => exact absurd hstepping hfree
  next => rfl

theorem finish_of_stepping (hstepping : progress.state = .stepping) :
    progress.finish = { progress with state := .finished } := by
  unfold finish
  rw [hstepping]

theorem finish_of_not_stepping (hfree : progress.state ≠ .stepping) :
    progress.finish = progress := by
  unfold finish
  split
  next hstepping => exact absurd hstepping hfree
  next => rfl

/-- A tracker is what the calls that it accepted say. -/
inductive Recounts : List ProgressCall → Progress → Prop where
  | unstarted {accepted : List ProgressCall} (hnone : SetupFree accepted) :
      Recounts accepted .unstarted
  | started (before : List ProgressCall) (length : Option UInt64) (since : List ProgressCall)
      (hlast : SetupFree since) :
      Recounts (before ++ .setup length :: since)
        ⟨if .finish ∈ since then .finished else .stepping, UInt64.ofNat (since.count .step),
          length.map (min · maxTotal)⟩

theorem Recounts.step (hrecounts : Recounts accepted progress)
    (hstepping : progress.state = .stepping) :
    Recounts (accepted ++ [.step]) { progress with stepsDone := progress.stepsDone + 1 } := by
  cases hrecounts with
  | unstarted => cases hstepping
  | started before length since hlast =>
      have hunfinished : .finish ∉ since := by
        intro hmem
        simp [hmem] at hstepping
      have hnext := Recounts.started before length (since ++ [.step])
        (hlast.concat fun _ => ProgressCall.noConfusion)
      rw [List.append_assoc, List.cons_append]
      simpa [hunfinished, List.count_append] using hnext

theorem Recounts.finish (hrecounts : Recounts accepted progress) :
    Recounts (accepted ++ [.finish]) progress.finish := by
  cases hrecounts with
  | unstarted hnone => exact .unstarted (hnone.concat fun _ => ProgressCall.noConfusion)
  | started before length since hlast =>
      have hnext := Recounts.started before length (since ++ [.finish])
        (hlast.concat fun _ => ProgressCall.noConfusion)
      rw [List.append_assoc, List.cons_append]
      by_cases hfinished : .finish ∈ since
      · simpa [hfinished, List.count_append, Progress.finish] using hnext
      · simpa [hfinished, List.count_append, Progress.finish] using hnext

/-- A call is refused without effect, or counts among those that were accepted. -/
theorem Recounts.take (hrecounts : Recounts accepted progress) (call : ProgressCall) :
    (∃ failure, progress.take call = (.error failure, progress)) ∨
      ∃ later, progress.take call = (.ok (), later) ∧ Recounts (accepted ++ [call]) later := by
  cases call with
  | setup length =>
      by_cases hstepping : progress.state = .stepping
      · exact .inl ⟨_, setup_of_stepping length hstepping⟩
      · refine .inr ⟨_, setup_of_not_stepping length hstepping, ?_⟩
        exact .started accepted length [] fun _ hmem => nomatch hmem
  | step =>
      by_cases hstepping : progress.state = .stepping
      · exact .inr ⟨_, step_of_stepping hstepping, hrecounts.step hstepping⟩
      · exact .inl ⟨_, step_of_not_stepping hstepping⟩
  | finish => exact .inr ⟨_, rfl, hrecounts.finish⟩

/-- Over any history a tracker is what the accepted calls say. -/
theorem recounts_history (calls : List ProgressCall) :
    Recounts (history take .unstarted calls).1 (history take .unstarted calls).2 := by
  induction calls using List.reverseRecOn with
  | nil => exact .unstarted fun _ hmem => nomatch hmem
  | append_singleton calls call ih =>
      rw [history_concat, note]
      obtain ⟨failure, hrefused⟩ | ⟨later, haccepted, hrecounts⟩ := ih.take call
      · rw [hrefused]
        exact ih
      · rw [haccepted]
        exact hrecounts

/-! ## What a history says -/

theorem Recounts.stepping_iff (hrecounts : Recounts accepted progress) :
    progress.state = .stepping ↔
      ∃ before length since, accepted = before ++ .setup length :: since ∧ .finish ∉ since := by
  cases hrecounts with
  | unstarted hnone =>
      refine ⟨(fun hstepping => nomatch hstepping), ?_⟩
      rintro ⟨before, length, since, rfl, -⟩
      exact absurd hnone (not_setupFree before length since)
  | started before length since hlast =>
      constructor
      · intro hstepping
        refine ⟨before, length, since, rfl, fun hmem => ?_⟩
        simp [hmem] at hstepping
      · rintro ⟨before', length', since', heq, hunfinished⟩
        have hunfinished : .finish ∉ since := by
          rcases setup_cases heq.symm hlast with ⟨-, rfl⟩ | ⟨between, rfl⟩
          · exact hunfinished
          · exact fun hmem =>
              hunfinished (List.mem_append_right between (List.mem_cons_of_mem _ hmem))
        exact if_neg hunfinished

theorem Recounts.finished_iff (hrecounts : Recounts accepted progress) :
    progress.state = .finished ↔
      ∃ before length since, accepted = before ++ .setup length :: since ∧ SetupFree since ∧
        .finish ∈ since := by
  cases hrecounts with
  | unstarted hnone =>
      refine ⟨(fun hfinished => nomatch hfinished), ?_⟩
      rintro ⟨before, length, since, rfl, -, -⟩
      exact absurd hnone (not_setupFree before length since)
  | started before length since hlast =>
      constructor
      · intro hfinished
        refine ⟨before, length, since, rfl, hlast, ?_⟩
        by_contra hmem
        simp [hmem] at hfinished
      · rintro ⟨before', length', since', heq, hlast', hmem⟩
        rcases setup_cases heq hlast' with ⟨-, rfl⟩ | ⟨between, rfl⟩
        · exact if_pos hmem
        · exact absurd hlast (not_setupFree between length' since')

theorem Recounts.unstarted_iff (hrecounts : Recounts accepted progress) :
    progress.state = .unstarted ↔ SetupFree accepted := by
  cases hrecounts with
  | unstarted hnone => exact ⟨fun _ => hnone, fun _ => rfl⟩
  | started before length since hlast =>
      constructor
      · intro hunstarted
        by_cases hmem : .finish ∈ since
        · simp [hmem] at hunstarted
        · simp [hmem] at hunstarted
      · intro hnone
        exact absurd hnone (not_setupFree before length since)

theorem Recounts.eq_unstarted (hrecounts : Recounts accepted progress)
    (hnone : SetupFree accepted) : progress = .unstarted := by
  cases hrecounts with
  | unstarted => rfl
  | started before length since hlast => exact absurd hnone (not_setupFree before length since)

/-- The numbers are those of the last run. -/
theorem Recounts.numbers {before since : List ProgressCall} {length : Option UInt64}
    (hrecounts : Recounts (before ++ .setup length :: since) progress) (hlast : SetupFree since) :
    progress.stepsDone = UInt64.ofNat (since.count .step) ∧
      progress.total = length.map (min · maxTotal) := by
  generalize haccepted : before ++ .setup length :: since = accepted at hrecounts
  cases hrecounts with
  | unstarted hnone =>
      subst haccepted
      exact absurd hnone (not_setupFree before length since)
  | started before' length' since' hlast' =>
      rcases setup_cases haccepted hlast' with ⟨rfl, rfl⟩ | ⟨between, rfl⟩
      · exact ⟨rfl, rfl⟩
      · exact absurd hlast (not_setupFree between length' since')

end Progress

/-! ## Words -/

namespace ProgressWords

open ProgressCall

variable {words : ProgressWords}

/-- What a tracker in words makes of a call. -/
def take (words : ProgressWords) : ProgressCall → Except Failure Unit × ProgressWords
  | .setup length => words.setup length
  | .step => words.step
  | .finish => (.ok (), words.finish)

theorem state_eq_stepping_iff : words.state = .stepping ↔ words.code = steppingCode := by
  unfold state
  split
  next hcode => simp [hcode]
  next hcode =>
    split
    next => simp [hcode]
    next => simp [hcode]

/-- A known total never becomes the number that stands for an unknown one. -/
theorem min_ne_unknownTotal (total : UInt64) : min total (unknownTotal - 1) ≠ unknownTotal := by
  intro heq
  rw [show min total (unknownTotal - 1) =
    if total ≤ unknownTotal - 1 then total else unknownTotal - 1 from rfl] at heq
  split at heq
  next hle =>
    subst heq
    exact absurd hle (by decide)
  next => exact absurd heq (by decide)

theorem read_setup (words : ProgressWords) (length : Option UInt64) :
    (words.setup length).1 = (words.read.setup length).1 ∧
      (words.setup length).2.read = (words.read.setup length).2 := by
  by_cases hcode : words.code = steppingCode
  · have hstepping : words.read.state = .stepping := state_eq_stepping_iff.mpr hcode
    have hsame : words.setup length =
        (.error (.invalidProgress "setup" words.read.state.label), words) := by
      cases length with
      | none => exact if_pos hcode
      | some total => exact if_pos hcode
    rw [hsame, Progress.setup_of_stepping length hstepping]
    exact ⟨rfl, rfl⟩
  · have hfree : words.read.state ≠ .stepping := mt state_eq_stepping_iff.mp hcode
    rw [Progress.setup_of_not_stepping length hfree]
    cases length with
    | none =>
        rw [setup, start, if_neg hcode]
        exact ⟨rfl, rfl⟩
    | some total =>
        rw [setup, start, if_neg hcode]
        refine ⟨rfl, ?_⟩
        change Progress.mk .stepping 0 (if _ then none else some _) = _
        rw [if_neg (min_ne_unknownTotal total)]
        rfl

theorem read_step (words : ProgressWords) :
    words.step.1 = words.read.step.1 ∧ words.step.2.read = words.read.step.2 := by
  by_cases hstepping : words.state = .stepping
  · rw [step, if_pos hstepping, Progress.step_of_stepping hstepping]
    exact ⟨rfl, rfl⟩
  · rw [step, if_neg hstepping, Progress.step_of_not_stepping hstepping]
    exact ⟨rfl, rfl⟩

theorem read_finish (words : ProgressWords) : words.finish.read = words.read.finish := by
  by_cases hcode : words.code = steppingCode
  · have hstepping : words.read.state = .stepping := state_eq_stepping_iff.mpr hcode
    rw [finish, if_pos hcode, Progress.finish_of_stepping hstepping]
    rfl
  · have hfree : words.read.state ≠ .stepping := mt state_eq_stepping_iff.mp hcode
    rw [finish, if_neg hcode, Progress.finish_of_not_stepping hfree]

/-- Whatever is called, words answer as the tracker that they are read as, and are read as the
tracker that it becomes. -/
theorem read_take (words : ProgressWords) (call : ProgressCall) :
    (words.take call).1 = (words.read.take call).1 ∧
      (words.take call).2.read = (words.read.take call).2 := by
  cases call with
  | setup length => exact words.read_setup length
  | step => exact words.read_step
  | finish => exact ⟨rfl, words.read_finish⟩

/-- Over any history the words of a tracker accept the same calls, and are read as the tracker. -/
theorem read_history (calls : List ProgressCall) :
    (history take unstarted calls).1 = (history Progress.take .unstarted calls).1 ∧
      (history take unstarted calls).2.read = (history Progress.take .unstarted calls).2 := by
  induction calls using List.reverseRecOn with
  | nil => exact ⟨rfl, rfl⟩
  | append_singleton calls call ih =>
      obtain ⟨haccepted, hread⟩ := ih
      obtain ⟨hresult, hlater⟩ := read_take (history take unstarted calls).2 call
      rw [hread] at hresult hlater
      rw [history_concat, history_concat, note, note, haccepted]
      cases hwords : take (history take unstarted calls).2 call with
      | mk answer later =>
          cases hprogress : Progress.take (history Progress.take .unstarted calls).2 call with
          | mk result progress =>
              rw [hwords, hprogress] at hresult hlater
              obtain rfl : answer = result := hresult
              cases answer with
              | error failure => exact ⟨rfl, hlater⟩
              | ok _ => exact ⟨rfl, hlater⟩

end ProgressWords

/-! ## Trackers over their histories -/

namespace Progress

open ProgressCall

/-- A tracker over any history of calls. It refuses a setup exactly if it is stepping and a step
exactly if it is not, names its state and stays as it was; a finish counts only if it is stepping.
It is stepping if no finish came after some accepted setup, finished if one came after the last,
and otherwise unstarted; and its numbers are those of the calls since the last accepted setup. A
tracker that is kept in words does the same, and a known total is never read as an unknown one. -/
theorem history_recounted (calls : List ProgressCall) (hcalls : calls.length < UInt64.size) :
    let accepted := (history take .unstarted calls).1
    let progress := (history take .unstarted calls).2
    let words := (history ProgressWords.take .unstarted calls).2
    (words.read = progress ∧ ∀ call, (words.take call).1 = (progress.take call).1 ∧
        (words.take call).2.read = (progress.take call).2) ∧
      (∀ length, (progress.state = .stepping → progress.setup length =
          (.error (.invalidProgress "setup" progress.state.label), progress)) ∧
        (progress.state ≠ .stepping → (progress.setup length).1 = .ok ())) ∧
      ((progress.state = .stepping → progress.step.1 = .ok ()) ∧
        (progress.state ≠ .stepping → progress.step =
          (.error (.invalidProgress "step" progress.state.label), progress))) ∧
      ((progress.state ≠ .stepping → progress.finish = progress) ∧
        progress.finish.finish = progress.finish) ∧
      (progress.state = .stepping ↔ ∃ before length since,
        accepted = before ++ .setup length :: since ∧ .finish ∉ since) ∧
      (progress.state = .finished ↔ ∃ before length since,
        accepted = before ++ .setup length :: since ∧ SetupFree since ∧ .finish ∈ since) ∧
      (progress.state = .unstarted ↔ SetupFree accepted) ∧
      (SetupFree accepted → progress.stepsDone = 0 ∧ progress.total = none) ∧
      (∀ before length since, accepted = before ++ .setup length :: since → SetupFree since →
        progress.stepsDone.toNat = since.count .step ∧
          progress.total = length.map (min · maxTotal)) := by
  intro accepted progress words
  have hrecounts : Recounts accepted progress := recounts_history calls
  have hread : words.read = progress := (ProgressWords.read_history calls).2
  refine ⟨⟨hread, fun call => ?_⟩, fun length => ⟨setup_of_stepping length, fun hfree => ?_⟩,
    ⟨fun hstepping => ?_, step_of_not_stepping⟩,
    ⟨finish_of_not_stepping, finish_of_not_stepping progress.finish_not_stepping⟩,
    hrecounts.stepping_iff, hrecounts.finished_iff, hrecounts.unstarted_iff, fun hnone => ?_,
    fun before length since haccepted hlast => ?_⟩
  · rw [← hread]
    exact ProgressWords.read_take words call
  · rw [setup_of_not_stepping length hfree]
  · rw [step_of_stepping hstepping]
  · rw [hrecounts.eq_unstarted hnone]
    exact ⟨rfl, rfl⟩
  · rw [haccepted] at hrecounts
    obtain ⟨hsteps, htotal⟩ := hrecounts.numbers hlast
    refine ⟨?_, htotal⟩
    -- There were fewer steps than calls, so the count has not run over.
    have hcount : since.count .step ≤ since.length := List.count_le_length
    have hlength : accepted.length = before.length + (since.length + 1) := by
      rw [haccepted, List.length_append, List.length_cons]
    have hle : accepted.length ≤ calls.length := length_accepted_le _ _
    rw [hsteps, UInt64.toNat_ofNat_of_lt' (by omega)]

/-- A finish comes too early, a step and a setup are refused, and the announced length is the number
that is kept back. -/
theorem history_recounted_sample :
    let calls : List ProgressCall := [.finish, .step, .setup (some 18446744073709551615), .step,
      .setup none, .step, .finish, .finish]
    let progress := (history take .unstarted calls).2
    calls.length < UInt64.size ∧
      (history take .unstarted calls).1 =
        [.finish, .setup (some 18446744073709551615), .step, .step, .finish, .finish] ∧
      progress.state = .finished ∧ progress.stepsDone.toNat = 2 ∧ progress.total = some maxTotal ∧
      (history ProgressWords.take .unstarted calls).2.read = progress := by
  intro calls progress
  have hcalls : calls.length < UInt64.size := by decide
  have haccepted : (history take .unstarted calls).1 = [.finish] ++
      .setup (some 18446744073709551615) :: [.step, .step, .finish, .finish] := by decide
  have hlast : SetupFree [.step, .step, .finish, .finish] := by
    intro length hmem
    simp at hmem
  obtain ⟨⟨hread, -⟩, -, -, -, -, hfinished, -, -, hnumbers⟩ := history_recounted calls hcalls
  obtain ⟨hsteps, htotal⟩ := hnumbers _ _ _ haccepted hlast
  refine ⟨hcalls, haccepted, hfinished.mpr ⟨_, _, _, haccepted, hlast, by decide⟩, hsteps, ?_,
    hread⟩
  exact htotal.trans (by decide)

end Progress

end Retention
