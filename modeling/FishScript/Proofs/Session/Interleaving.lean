import FishScript.Proofs.Session.EventLoop

/-!
# Passes and completions in any order

However the event loop interleaves arrivals, hooks and completions, an older text never
comes after a newer one. The symbols that are known are at every moment those that were
known at the start, or all the symbols of one text that has arrived; what completions see
only moves on to later texts; diagnostics are published in the order of arrival; and when
all jobs are over, the symbols are those of the jobs one after another.

## Main definitions

- `EventLoop.views` — the symbols that there may be
- `EventLoop.versions` — what completions have seen, what is known, and what may come
- `EventLoop.Ordered` — versions are real and in order

## Main results

- `EventLoop.Ordered.step`, `EventLoop.ordered_after` — the turns keep the order
- `EventLoop.Ordered.current_le_after` — the known symbols only move on to later texts
- `EventLoop.interleaving` — all that is said above, after any turns
-/

namespace FishScript

namespace EventLoop

/-- The symbols that there may be, by number: those known at the start, then those of the
text of each job. -/
def views (known : Symbols) (jobs : List Job) : List Symbols :=
  known :: jobs.map fun job => Symbols.ofText job.pass.text

/-- What the completions have seen, what is known, and what the jobs ahead may leave behind. -/
def versions (loop : EventLoop) : List Version :=
  loop.seen ++ loop.current ::
    loop.ahead.map fun next => ⟨next.1, Symbols.ofText next.2.pass.text⟩

/-- All versions are views, and none has a later number than those behind it. -/
structure Ordered (known : Symbols) (jobs : List Job) (loop : EventLoop) : Prop where
  arrived : loop.arrived = jobs.length
  sorted : loop.versions.Pairwise fun a b => a.number ≤ b.number
  valid : ∀ version ∈ loop.versions, (views known jobs)[version.number]? = some version.symbols

theorem length_views (known : Symbols) (jobs : List Job) :
    (views known jobs).length = jobs.length + 1 := by
  rw [views, List.length_cons, List.length_map]

theorem views_concat (known : Symbols) (jobs : List Job) (job : Job) :
    views known (jobs ++ [job]) = views known jobs ++ [Symbols.ofText job.pass.text] := by
  simp [views]

theorem ordered_start (known : Symbols) : Ordered known [] (start known) where
  arrived := rfl
  sorted := List.pairwise_singleton _ _
  valid := by
    intro version hversion
    rw [List.mem_singleton.1 hversion]
    rfl

/-- A version may be noted twice. -/
theorem pairwise_insert_again {before after : List Version} {version : Version}
    (h : (before ++ version :: after).Pairwise fun a b => a.number ≤ b.number) :
    (before ++ version :: version :: after).Pairwise fun a b => a.number ≤ b.number := by
  rw [List.pairwise_append, List.pairwise_cons] at h ⊢
  obtain ⟨hbefore, ⟨hversion, hafter⟩, hacross⟩ := h
  refine ⟨hbefore, ⟨?_, List.pairwise_cons.2 ⟨hversion, hafter⟩⟩, ?_⟩
  · exact List.forall_mem_cons.2 ⟨Nat.le_refl _, hversion⟩
  · intro a ha b hb
    obtain rfl | hb := List.mem_cons.1 hb
    · exact hacross a ha b List.mem_cons_self
    · exact hacross a ha b hb

namespace Ordered

variable {known : Symbols} {jobs : List Job} {loop : EventLoop}

/-- No version is later than the last job. -/
theorem number_le (h : Ordered known jobs loop) {version : Version}
    (hversion : version ∈ loop.versions) : version.number ≤ jobs.length := by
  obtain ⟨hlt, -⟩ := List.getElem?_eq_some_iff.1 (h.valid version hversion)
  rw [length_views] at hlt
  omega

theorem arrive (h : Ordered known jobs loop) (notice : String) (job : Job) :
    Ordered known (jobs ++ [job]) (loop.step (.arrive notice job)) := by
  have hversions : (loop.step (.arrive notice job)).versions =
      loop.versions ++ [⟨loop.arrived + 1, Symbols.ofText job.pass.text⟩] := by
    simp [versions, EventLoop.step, ahead]
  refine ⟨?_, ?_, ?_⟩
  · rw [EventLoop.step, h.arrived, List.length_append]
    rfl
  · rw [hversions, List.pairwise_append]
    refine ⟨h.sorted, List.pairwise_singleton _ _, ?_⟩
    intro a ha b hb
    have hle := h.number_le ha
    rw [List.mem_singleton.1 hb, h.arrived]
    show a.number ≤ jobs.length + 1
    omega
  · intro version hversion
    rw [hversions, List.mem_append] at hversion
    rw [views_concat]
    obtain hold | hnew := hversion
    · have hview := h.valid version hold
      exact (List.getElem?_append_left (List.getElem?_eq_some_iff.1 hview).1).trans hview
    · rw [List.mem_singleton.1 hnew, h.arrived, ← length_views known jobs]
      exact List.getElem?_concat_length

/-- A turn that brings no job may leave versions out or note one again, in the same order. -/
theorem of_versions (h : Ordered known jobs loop) {next : EventLoop}
    (harrived : next.arrived = loop.arrived)
    (hsorted : next.versions.Pairwise fun a b => a.number ≤ b.number)
    (hsubset : next.versions ⊆ loop.versions) : Ordered known jobs next where
  arrived := harrived.trans h.arrived
  sorted := hsorted
  valid := fun version hversion => h.valid version (hsubset hversion)

theorem grant (h : Ordered known jobs loop) : Ordered known jobs (loop.step .grant) := by
  obtain ⟨holder, waiting, hstep, hahead⟩ := loop.step_grant
  have hversions : (loop.step .grant).versions = loop.versions := by
    rw [versions, hahead, hstep]
    rfl
  have harrived : (loop.step .grant).arrived = loop.arrived := by rw [hstep]
  refine h.of_versions harrived ?_ ?_
  · rw [hversions]
    exact h.sorted
  · rw [hversions]
    exact List.Subset.refl _

/-- While the lock is held, the version of the job that holds it is the next to come. -/
theorem versions_of_holder {number : Nat} {job : Job} (h : loop.holder = some (number, job)) :
    loop.versions = loop.seen ++ loop.current :: ⟨number, Symbols.ofText job.pass.text⟩ ::
      loop.waiting.map fun next => ⟨next.1, Symbols.ofText next.2.pass.text⟩ := by
  rw [versions, ahead, h]
  rfl

/-- A hook that indexes puts the version of its job in place of the current one, which is not
later. Other hooks leave the versions as they are. -/
theorem hook (h : Ordered known jobs loop) : Ordered known jobs (loop.step .hook) := by
  obtain hstep | ⟨number, pass, next, hooks, hholder, hstep⟩ := loop.step_hook
  · rw [hstep]
    exact h
  · have hsorted := h.sorted
    have hversions := versions_of_holder hholder
    have hcurrent : (loop.step .hook).current =
        if next.indexes pass then ⟨number, Symbols.ofText pass.text⟩ else loop.current := by
      rw [hstep, symbols_attempt]
      split <;> rfl
    have hversions' : (loop.step .hook).versions =
        loop.seen ++ (loop.step .hook).current :: ⟨number, Symbols.ofText pass.text⟩ ::
          loop.waiting.map fun next => ⟨next.1, Symbols.ofText next.2.pass.text⟩ := by
      have hholder' : (loop.step .hook).holder = some (number, ⟨pass, hooks⟩) := by rw [hstep]
      rw [versions_of_holder hholder', hstep]
    have harrived : (loop.step .hook).arrived = loop.arrived := by rw [hstep]
    by_cases hindexes : next.indexes pass
    · rw [if_pos hindexes] at hcurrent
      rw [hcurrent] at hversions'
      rw [hversions] at hsorted
      -- the version that was current is left out, and the one of the job comes twice
      refine h.of_versions harrived ?_ ?_
      · rw [hversions']
        refine pairwise_insert_again (hsorted.sublist ?_)
        exact (List.sublist_cons_self _ _).append_left _
      · rw [hversions', hversions]
        simp
    · rw [if_neg hindexes] at hcurrent
      rw [hcurrent, ← hversions] at hversions'
      refine h.of_versions harrived ?_ ?_
      · rw [hversions']
        exact hsorted
      · rw [hversions']
        exact List.Subset.refl _

theorem release (h : Ordered known jobs loop) : Ordered known jobs (loop.step .release) := by
  obtain hstep | ⟨number, pass, hholder, hstep⟩ := loop.step_release
  · rw [hstep]
    exact h
  · have hversions : (loop.step .release).versions.Sublist loop.versions := by
      rw [versions_of_holder hholder, hstep]
      exact ((List.sublist_cons_self _ _).cons_cons _).append_left _
    have harrived : (loop.step .release).arrived = loop.arrived := by rw [hstep]
    exact h.of_versions harrived (h.sorted.sublist hversions) hversions.subset

/-- A completion sees the current version. -/
theorem completion (h : Ordered known jobs loop) :
    Ordered known jobs (loop.step .completion) := by
  have hversions : (loop.step .completion).versions = loop.seen ++ loop.current :: loop.current ::
      loop.ahead.map fun next => ⟨next.1, Symbols.ofText next.2.pass.text⟩ := by
    rw [versions, EventLoop.step, List.append_assoc]
    rfl
  refine h.of_versions rfl ?_ ?_
  · rw [hversions]
    exact pairwise_insert_again h.sorted
  · rw [hversions, versions]
    simp

theorem step (h : Ordered known jobs loop) (turn : Turn) :
    Ordered known (jobs ++ turn.job?.toList) (loop.step turn) := by
  cases turn with
  | arrive notice job => exact h.arrive notice job
  | grant => simpa [Turn.job?] using h.grant
  | hook => simpa [Turn.job?] using h.hook
  | release => simpa [Turn.job?] using h.release
  | completion => simpa [Turn.job?] using h.completion

/-- A job ahead never leaves behind the symbols of a text that came before the current one. -/
theorem current_le_step (h : Ordered known jobs loop) (turn : Turn) :
    loop.current.number ≤ (loop.step turn).current.number := by
  cases turn with
  | arrive notice job => exact Nat.le_refl _
  | grant =>
    obtain ⟨holder, waiting, hstep, -⟩ := loop.step_grant
    have hcurrent : (loop.step .grant).current = loop.current := by rw [hstep]
    exact Nat.le_of_eq (congrArg Version.number hcurrent).symm
  | hook =>
    obtain hstep | ⟨number, pass, next, hooks, hholder, hstep⟩ := loop.step_hook
    · exact Nat.le_of_eq (congrArg (·.current.number) hstep).symm
    · have hsorted := h.sorted
      rw [versions_of_holder hholder, List.pairwise_append, List.pairwise_cons] at hsorted
      have hle : loop.current.number ≤ number := hsorted.2.1.1 _ List.mem_cons_self
      have hnumber : (loop.step .hook).current.number =
          if next.indexes pass then number else loop.current.number := by rw [hstep]
      rw [hnumber]
      split
      · exact hle
      · exact Nat.le_refl _
  | release =>
    obtain hstep | ⟨number, pass, -, hstep⟩ := loop.step_release
    · exact Nat.le_of_eq (congrArg (·.current.number) hstep).symm
    · exact Nat.le_of_eq (congrArg (·.current.number) hstep).symm
  | completion => exact Nat.le_refl _

theorem current_le_after (h : Ordered known jobs loop) (turns : List Turn) :
    loop.current.number ≤ (loop.after turns).current.number := by
  induction turns generalizing jobs loop with
  | nil => exact Nat.le_refl _
  | cons turn turns ih => exact Nat.le_trans (h.current_le_step turn) (ih (h.step turn))

end Ordered

/-- Versions are in order after any turns. -/
theorem ordered_after (known : Symbols) (turns : List Turn) :
    Ordered known (jobsOf turns) ((start known).after turns) :=
  after_induction (fun _ _ turn h => h.step turn) (ordered_start known) turns

/-- The turns of the event loop come in any order. After any of them, the known symbols are
those of the start or those of one text as a whole, and so is what each completion has seen,
never from an earlier text than before. The known symbols do not go back to an earlier text
later either. Diagnostics have been published in the order of arrival; and once no job is
ahead, symbols and journal are those of the jobs in turn. -/
theorem interleaving (known : Symbols) (turns : List Turn) :
    let jobs := jobsOf turns
    let loop := (start known).after turns
    (views known jobs)[loop.current.number]? = some loop.current.symbols ∧
    (∀ version ∈ loop.seen, (views known jobs)[version.number]? = some version.symbols) ∧
    (loop.seen ++ [loop.current]).Pairwise (fun a b => a.number ≤ b.number) ∧
    (∀ later, loop.current.number ≤ (loop.after later).current.number) ∧
    loop.journal.published <+: jobs.flatMap Job.published ∧
    (loop.ahead = [] → loop.current.symbols = (inTurn jobs known).symbols ∧
      loop.journal.filter (!·.isInfo) = (inTurn jobs known).journal) := by
  intro jobs loop
  have hordered : Ordered known jobs loop := ordered_after known turns
  have hfollows : Follows known jobs loop := follows_after known turns
  refine ⟨?_, ?_, ?_, hordered.current_le_after, hfollows.published_prefix, hfollows.finished⟩
  · exact hordered.valid loop.current (List.mem_append_right _ List.mem_cons_self)
  · intro version hversion
    exact hordered.valid version (List.mem_append_left _ hversion)
  · refine hordered.sorted.sublist ?_
    exact ((List.nil_sublist _).cons_cons loop.current).append_left loop.seen

/-- Two documents, the second of which arrives in the middle of the first pass, and three
completions. A hook from outside fails in the first pass, publishing in the second. -/
def crossing : List Turn :=
  let first := Pass.mk (Text.ofString "function a") .none
  let second := Pass.mk (Text.ofString "function b")
    (Outages.none.set .publish (some ⟨.connection, "closed"⟩))
  [.arrive "first" ⟨first, [.syntaxDiagnostics, .symbolIndex,
      .listener "added" (some ⟨.runtime, "broken"⟩)]⟩,
    .grant, .completion, .hook,
    .arrive "second" ⟨second, [.syntaxDiagnostics, .symbolIndex]⟩,
    .grant, .hook, .completion, .hook, .release,
    .grant, .hook, .hook, .completion, .release]

theorem crossing_comes_to_its_end :
    let loop := (start .empty).after crossing
    loop.ahead = [] ∧ loop.seen.map Version.number = [0, 1, 2] ∧
      loop.current.symbols = Symbols.ofText (Text.ofString "function b") ∧
      loop.current.symbols = (inTurn (jobsOf crossing) .empty).symbols := by
  have hahead : ((start .empty).after crossing).ahead = [] := by decide +kernel
  obtain ⟨-, -, -, -, -, hend⟩ := interleaving .empty crossing
  exact ⟨hahead, by decide +kernel, by decide +kernel, (hend hahead).1⟩

end EventLoop

end FishScript
