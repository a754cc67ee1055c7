import FishScript.Proofs.Session.Publishing
import FishScript.Proofs.Session.Together

/-!
# The event loop

A running server takes turns between the documents that arrive, the passes of their texts
and the completions. A lock keeps the passes apart: one pass at a time holds it, and those
that wait get it in the order of their arrival. Everything else may happen in any order.
Between two hooks of a pass other documents may arrive and completions may be served.

Whatever the order of the turns, what the passes do is what they do one after another.

## Main definitions

- `Job` — a pass and the hooks that it has to run
- `inTurn` — what several jobs bring about one after another
- `EventLoop` — the state between two turns, and `EventLoop.step` for one turn
- `EventLoop.after` — the state after some turns
- `EventLoop.Follows` — the state, together with the jobs ahead, comes to what all jobs come
  to in turn

## Main results

- `inTurn_eq_broadcastAll` — jobs with the same hooks in turn
- `published_inTurn` — what jobs publish in turn
- `EventLoop.Follows.step`, `EventLoop.follows_after` — the turns keep to the jobs in turn
- `EventLoop.finished_eq_step` — a step of a session is what turns in any order come to
- `EventLoop.ahead_after_finishing` — the lock is never stuck
-/

namespace FishScript

/-- The pass of a text that has arrived, and the hooks that it has to run. Whether a hook
fails is up to the outages of the pass or to the hook. -/
structure Job where
  pass : Pass
  hooks : List Hook
deriving DecidableEq

/-- What several jobs bring about one after another. -/
def inTurn : List Job → Symbols → Effect
  | [], symbols => ⟨symbols, []⟩
  | job :: jobs, symbols =>
    let first := broadcast job.pass job.hooks symbols
    let later := inTurn jobs first.symbols
    ⟨later.symbols, first.journal ++ later.journal⟩

/-- Symbols together with the number of the job that they stem from. -/
structure Version where
  number : Nat
  symbols : Symbols
deriving DecidableEq

/-- The state of the event loop between two turns. Jobs are numbered from one in the order of
their arrival. -/
structure EventLoop where
  /-- The job that holds the lock, with the hooks that have not run yet. -/
  holder : Option (Nat × Job)
  /-- The jobs that wait for the lock. -/
  waiting : List (Nat × Job)
  arrived : Nat
  /-- The symbols that are known now. Their number is only kept for what is said about them. -/
  current : Version
  journal : Journal
  /-- What the completions that were served have seen. -/
  seen : List Version
deriving DecidableEq

/-- What may happen next. -/
inductive Turn where
  /-- A document arrives: the client is told, and the job waits for the lock. -/
  | arrive (notice : String) (job : Job)
  /-- The first of the jobs that wait gets the lock. -/
  | grant
  /-- The next hook of the job that holds the lock runs. -/
  | hook
  /-- A job without further hooks gives the lock back. -/
  | release
  /-- A completion is served. -/
  | completion
deriving DecidableEq

def Turn.job? : Turn → Option Job
  | .arrive _ job => some job
  | _ => none

/-- Whether a hook puts the symbols of its text in place of the known ones. -/
def Hook.indexes (pass : Pass) : Hook → Bool
  | .symbolIndex => pass.outages.extract.isNone
  | _ => false

namespace EventLoop

/-- An event loop in which nothing has arrived. -/
def start (known : Symbols) : EventLoop where
  holder := none
  waiting := []
  arrived := 0
  current := ⟨0, known⟩
  journal := []
  seen := []

/-- One turn. A turn that cannot be taken changes nothing. -/
def step (loop : EventLoop) : Turn → EventLoop
  | .arrive notice job =>
    { loop with
      waiting := loop.waiting ++ [(loop.arrived + 1, job)]
      arrived := loop.arrived + 1
      journal := loop.journal ++ [.event (.message .info notice)] }
  | .grant =>
    match loop.holder, loop.waiting with
    | none, first :: later => { loop with holder := some first, waiting := later }
    | _, _ => loop
  | .hook =>
    match loop.holder with
    | some (number, ⟨pass, hook :: hooks⟩) =>
      let effect := hook.attempt pass loop.current.symbols
      { loop with
        holder := some (number, ⟨pass, hooks⟩)
        current := ⟨if hook.indexes pass then number else loop.current.number, effect.symbols⟩
        journal := loop.journal ++ effect.journal }
    | _ => loop
  | .release =>
    match loop.holder with
    | some (_, ⟨_, []⟩) => { loop with holder := none }
    | _ => loop
  | .completion => { loop with seen := loop.seen ++ [loop.current] }

/-- The state after some turns. -/
def after (loop : EventLoop) (turns : List Turn) : EventLoop :=
  turns.foldl step loop

/-- The jobs that are not over. The one that holds the lock comes first. -/
def ahead (loop : EventLoop) : List (Nat × Job) :=
  loop.holder.toList ++ loop.waiting

end EventLoop

/-! ### Jobs in turn -/

theorem inTurn_append (a b : List Job) (symbols : Symbols) :
    inTurn (a ++ b) symbols =
      let first := inTurn a symbols
      let later := inTurn b first.symbols
      ⟨later.symbols, first.journal ++ later.journal⟩ := by
  induction a generalizing symbols with
  | nil => rfl
  | cons job a ih => simp [inTurn, ih]

/-- Jobs that have the same hooks to run are passes through these hooks. -/
theorem inTurn_eq_broadcastAll (hooks : List Hook) (passes : List Pass) (symbols : Symbols) :
    inTurn (passes.map fun pass => ⟨pass, hooks⟩) symbols =
      broadcastAll hooks passes symbols := by
  induction passes generalizing symbols with
  | nil => rfl
  | cons pass passes ih => rw [List.map_cons, inTurn, broadcastAll, ih]

/-- A job in turn begins with its first hook. -/
theorem inTurn_hook (pass : Pass) (hook : Hook) (hooks : List Hook) (jobs : List Job)
    (symbols : Symbols) :
    inTurn (⟨pass, hook :: hooks⟩ :: jobs) symbols =
      let first := hook.attempt pass symbols
      let later := inTurn (⟨pass, hooks⟩ :: jobs) first.symbols
      ⟨later.symbols, first.journal ++ later.journal⟩ := by
  simp [inTurn, broadcast]

/-- A job publishes once for each of its hooks that checks the syntax. -/
def Job.published (job : Job) : List Event :=
  (job.hooks.filter (· == .syntaxDiagnostics)).flatMap fun _ => (Check.ofPass job.pass).published

/-- The events of a journal that publish diagnostics. -/
def Journal.published (journal : Journal) : List Event :=
  journal.events.filter Event.isPublish

theorem Journal.published_append (a b : Journal) :
    published (a ++ b) = published a ++ published b := by
  rw [published, events_append, List.filter_append]
  rfl

/-- Entries that do not publish can be left out. -/
theorem Journal.published_filter {p : Entry → Bool}
    (h : ∀ sent : Event, sent.isPublish → p (.event sent)) (journal : Journal) :
    published (journal.filter p) = published journal := by
  rw [published, published, events_filter, List.filter_filter]
  refine List.filter_congr fun sent _ => ?_
  cases hsent : sent.isPublish with
  | false => rfl
  | true => rw [h sent hsent, Bool.and_true]

/-- What publishes is among the entries of checks. -/
theorem Journal.published_filter_concernsCheck (journal : Journal) :
    published (journal.filter Entry.concernsCheck) = published journal :=
  published_filter (fun _ h => h) journal

/-- What publishes does not tell of an arrival. -/
theorem Journal.published_filter_not_isInfo (journal : Journal) :
    published (journal.filter (!·.isInfo)) = published journal := by
  refine published_filter (fun sent h => ?_) journal
  cases sent with
  | publish uri diagnostics => rfl
  | message severity content => cases h
  | hook name text => rfl
  | register name => rfl
  | canHandle name => rfl
  | complete name => rfl
  | analyze name text => rfl

/-- One hook publishes what its check has found, or nothing. -/
theorem published_attempt (pass : Pass) (hook : Hook) (symbols : Symbols) :
    (hook.attempt pass symbols).journal.published =
      if hook == .syntaxDiagnostics then (Check.ofPass pass).published else [] := by
  rw [← Journal.published_filter_concernsCheck, filter_attempt,
    Journal.published_filter_concernsCheck]
  cases hook with
  | syntaxDiagnostics =>
    have hentries := Check.events_entries [Check.ofPass pass]
    rw [List.flatMap_singleton, List.flatMap_singleton] at hentries
    rw [Hook.run, checkSyntax_eq_entries, Journal.published, hentries]
    show (Check.ofPass pass).published.filter Event.isPublish = (Check.ofPass pass).published
    unfold Check.published
    split <;> rfl
  | symbolIndex =>
    rw [← Journal.published_filter_concernsCheck, Hook.run, filter_indexSymbols]
    rfl
  | extension name fault => rfl
  | listener name fault => rfl

theorem published_broadcast (pass : Pass) (hooks : List Hook) (symbols : Symbols) :
    (broadcast pass hooks symbols).journal.published = Job.published ⟨pass, hooks⟩ := by
  induction hooks generalizing symbols with
  | nil => rfl
  | cons hook hooks ih =>
    rw [broadcast, Journal.published_append, published_attempt, ih, Job.published, Job.published,
      List.filter_cons]
    split
    · rw [List.flatMap_cons]
    · rfl

/-- Jobs publish in turn. -/
theorem published_inTurn (jobs : List Job) (symbols : Symbols) :
    (inTurn jobs symbols).journal.published = jobs.flatMap Job.published := by
  induction jobs generalizing symbols with
  | nil => rfl
  | cons job jobs ih =>
    rw [inTurn, Journal.published_append, published_broadcast, ih, List.flatMap_cons]

/-! ### Turns -/

/-- A hook leaves the symbols of its text behind if it indexes, and the known ones if not. -/
theorem symbols_attempt (pass : Pass) (hook : Hook) (symbols : Symbols) :
    (hook.attempt pass symbols).symbols =
      if hook.indexes pass then Symbols.ofText pass.text else symbols := by
  cases hook with
  | syntaxDiagnostics => rfl
  | symbolIndex =>
    rw [Hook.attempt, Hook.run, Hook.indexSymbols, Hook.indexes]
    cases pass.outages.extract <;> rfl
  | extension name fault => rfl
  | listener name fault => rfl

namespace EventLoop

/-- Granting the lock changes no more than which job holds it. -/
theorem step_grant (loop : EventLoop) :
    ∃ holder waiting, loop.step .grant = { loop with holder := holder, waiting := waiting } ∧
      (loop.step .grant).ahead = loop.ahead := by
  obtain ⟨holder, waiting, arrived, current, journal, seen⟩ := loop
  cases holder with
  | some job => exact ⟨_, _, rfl, rfl⟩
  | none =>
    cases waiting with
    | nil => exact ⟨_, _, rfl, rfl⟩
    | cons first later => exact ⟨_, _, rfl, rfl⟩

/-- The hook that runs is the next one of the first job ahead. -/
theorem step_hook (loop : EventLoop) :
    loop.step .hook = loop ∨ ∃ number pass hook hooks, 
      loop.holder = some (number, ⟨pass, hook :: hooks⟩) ∧
      loop.step .hook = { loop with
        holder := some (number, ⟨pass, hooks⟩)
        current := ⟨if hook.indexes pass then number else loop.current.number,
          (hook.attempt pass loop.current.symbols).symbols⟩
        journal := loop.journal ++ (hook.attempt pass loop.current.symbols).journal } := by
  obtain ⟨holder, waiting, arrived, current, journal, seen⟩ := loop
  rcases holder with _ | ⟨number, pass, _ | ⟨hook, hooks⟩⟩
  · exact Or.inl rfl
  · exact Or.inl rfl
  · exact Or.inr ⟨number, pass, hook, hooks, rfl, rfl⟩

/-- The lock is given back by a job that has run all its hooks. -/
theorem step_release (loop : EventLoop) :
    loop.step .release = loop ∨ ∃ number pass, loop.holder = some (number, ⟨pass, []⟩) ∧
      loop.step .release = { loop with holder := none } := by
  obtain ⟨holder, waiting, arrived, current, journal, seen⟩ := loop
  rcases holder with _ | ⟨number, pass, _ | ⟨hook, hooks⟩⟩
  · exact Or.inl rfl
  · exact Or.inr ⟨number, pass, rfl, rfl⟩
  · exact Or.inl rfl

/-! ### The jobs in turn -/

/-- The loop has done a part of what the jobs do in turn, and what is ahead is the rest of
it. -/
def Follows (known : Symbols) (jobs : List Job) (loop : EventLoop) : Prop :=
  inTurn jobs known =
    let later := inTurn (loop.ahead.map Prod.snd) loop.current.symbols
    ⟨later.symbols, loop.journal.filter (!·.isInfo) ++ later.journal⟩

theorem follows_start (known : Symbols) : Follows known [] (start known) := rfl

namespace Follows

variable {known : Symbols} {jobs : List Job} {loop : EventLoop}

/-- A job that arrives comes last, in turn as in the queue. -/
theorem arrive (h : Follows known jobs loop) (notice : String) (job : Job) :
    Follows known (jobs ++ [job]) (loop.step (.arrive notice job)) := by
  have hahead : (loop.step (.arrive notice job)).ahead.map Prod.snd =
      loop.ahead.map Prod.snd ++ [job] := by
    simp [EventLoop.step, ahead]
  have hjournal : (loop.step (.arrive notice job)).journal.filter (!·.isInfo) =
      loop.journal.filter (!·.isInfo) := by
    rw [EventLoop.step, List.filter_append]
    exact List.append_nil _
  have hcurrent : (loop.step (.arrive notice job)).current = loop.current := rfl
  rw [Follows, hahead, hjournal, hcurrent, inTurn_append, inTurn_append, h]
  simp

theorem grant (h : Follows known jobs loop) : Follows known jobs (loop.step .grant) := by
  obtain ⟨holder, waiting, hstep, hahead⟩ := loop.step_grant
  rw [Follows, hahead, hstep]
  exact h

/-- A hook that runs moves from what is ahead to what has been done. -/
theorem hook (h : Follows known jobs loop) : Follows known jobs (loop.step .hook) := by
  obtain hstep | ⟨number, pass, next, hooks, hholder, hstep⟩ := loop.step_hook
  · rw [hstep]
    exact h
  · have hwritten : (next.attempt pass loop.current.symbols).journal.filter (!·.isInfo) =
        (next.attempt pass loop.current.symbols).journal :=
      List.filter_eq_self.2
        (by simpa using not_isInfo_attempt pass next loop.current.symbols)
    have hahead : loop.ahead = (number, ⟨pass, next :: hooks⟩) :: loop.waiting := by
      rw [ahead, hholder]
      rfl
    rw [hstep, Follows, h, hahead, List.map_cons, inTurn_hook, List.filter_append, hwritten]
    simp [ahead]

theorem release (h : Follows known jobs loop) : Follows known jobs (loop.step .release) := by
  obtain hstep | ⟨number, pass, hholder, hstep⟩ := loop.step_release
  · rw [hstep]
    exact h
  · rw [hstep, Follows, h, ahead, hholder]
    rfl

theorem step (h : Follows known jobs loop) (turn : Turn) :
    Follows known (jobs ++ turn.job?.toList) (loop.step turn) := by
  cases turn with
  | arrive notice job => exact h.arrive notice job
  | grant => simpa [Turn.job?] using h.grant
  | hook => simpa [Turn.job?] using h.hook
  | release => simpa [Turn.job?] using h.release
  | completion =>
    have hstep : Follows known jobs (loop.step .completion) := h
    simpa [Turn.job?] using hstep

end Follows

/-- The jobs that some turns bring, in the order of their arrival. -/
def jobsOf (turns : List Turn) : List Job :=
  turns.filterMap Turn.job?

/-- What each turn keeps up holds after any number of them. -/
theorem after_induction {motive : List Job → EventLoop → Prop}
    (step : ∀ jobs loop turn, motive jobs loop →
      motive (jobs ++ turn.job?.toList) (loop.step turn))
    {jobs : List Job} {loop : EventLoop} (h : motive jobs loop) (turns : List Turn) :
    motive (jobs ++ jobsOf turns) (loop.after turns) := by
  induction turns generalizing jobs loop with
  | nil =>
    rw [jobsOf, List.filterMap_nil, List.append_nil]
    exact h
  | cons turn turns ih =>
    have hjobs : jobsOf (turn :: turns) = turn.job?.toList ++ jobsOf turns := by
      rw [jobsOf, List.filterMap_cons]
      cases turn.job? <;> rfl
    rw [hjobs, ← List.append_assoc]
    exact ih (step jobs loop turn h)

/-- After any turns, what has been done and what is ahead make up the jobs in turn. -/
theorem follows_after (known : Symbols) (turns : List Turn) :
    Follows known (jobsOf turns) ((start known).after turns) :=
  after_induction (fun _ _ turn h => h.step turn) (follows_start known) turns

/-- With no job ahead, all that the jobs do in turn has been done. -/
theorem Follows.finished {known : Symbols} {jobs : List Job} {loop : EventLoop}
    (h : Follows known jobs loop) (hahead : loop.ahead = []) :
    loop.current.symbols = (inTurn jobs known).symbols ∧
      loop.journal.filter (!·.isInfo) = (inTurn jobs known).journal := by
  rw [Follows, hahead] at h
  rw [h]
  exact ⟨rfl, (List.append_nil _).symm⟩

/-- What has been published is what the jobs publish in turn, as far as they have come. -/
theorem Follows.published_prefix {known : Symbols} {jobs : List Job} {loop : EventLoop}
    (h : Follows known jobs loop) : loop.journal.published <+: jobs.flatMap Job.published := by
  have hpublished := published_inTurn jobs known
  rw [h, Journal.published_append, Journal.published_filter_not_isInfo] at hpublished
  exact ⟨_, hpublished⟩

/-- Requests that a session takes in one step may be dealt with in turns of any order: the
symbols and the journal come out the same, notices aside. -/
theorem finished_eq_step {session : Session} (h : session.Sound) (requests : List Request)
    {turns : List Turn}
    (hjobs : jobsOf turns = (session.passesFor requests).map fun pass => ⟨pass, session.hooks⟩)
    (hahead : ((start session.symbols).after turns).ahead = []) :
    let loop := (start session.symbols).after turns
    let outcome := session.step (.together (Session.apart requests))
    loop.current.symbols = outcome.session.symbols ∧
      loop.journal.filter (!·.isInfo) = outcome.journal.filter (!·.isInfo) := by
  intro loop outcome
  have horder : Batch.order (.together (Session.apart requests)) =
      requests.map Action.request := by
    rw [Session.apart_eq, Batch.order_together_single]
  obtain ⟨hsession, hwritten⟩ := h.step_requests horder
  have hinTurn : inTurn (jobsOf turns) session.symbols = session.effectOf requests := by
    rw [hjobs, inTurn_eq_broadcastAll]
    rfl
  obtain ⟨hsymbols, hjournal⟩ := (follows_after session.symbols turns).finished hahead
  rw [hinTurn] at hsymbols hjournal
  constructor
  · rw [hsession]
    exact hsymbols
  · rw [hwritten, (session.filter_isInfo_step requests).2]
    exact hjournal

theorem after_append (loop : EventLoop) (a b : List Turn) :
    loop.after (a ++ b) = (loop.after a).after b :=
  List.foldl_append

/-! ### The end of the jobs -/

/-- The turns in which a job that holds the lock comes to its end. -/
def turnsOf (job : Job) : List Turn :=
  List.replicate job.hooks.length .hook ++ [.release]

/-- Turns in which all jobs that are ahead come to their end. -/
def finishing (loop : EventLoop) : List Turn :=
  (loop.holder.map fun held => turnsOf held.2).getD [] ++
    loop.waiting.flatMap fun next => .grant :: turnsOf next.2

/-- A job that holds the lock comes to its end and leaves the lock free. -/
theorem after_turnsOf {loop : EventLoop} {number : Nat} {job : Job}
    (h : loop.holder = some (number, job)) :
    (loop.after (turnsOf job)).holder = none ∧
      (loop.after (turnsOf job)).waiting = loop.waiting := by
  obtain ⟨pass, hooks⟩ := job
  induction hooks generalizing loop with
  | nil =>
    obtain ⟨holder, waiting, arrived, current, journal, seen⟩ := loop
    cases h
    exact ⟨rfl, rfl⟩
  | cons hook hooks ih =>
    obtain ⟨holder, waiting, arrived, current, journal, seen⟩ := loop
    cases h
    exact ih rfl

/-- With the lock free, the jobs that wait come to their end one after another. -/
theorem ahead_after_waiting {loop : EventLoop} {waiting : List (Nat × Job)}
    (hfree : loop.holder = none) (hwaiting : loop.waiting = waiting) :
    (loop.after (waiting.flatMap fun next => .grant :: turnsOf next.2)).ahead = [] := by
  induction waiting generalizing loop with
  | nil =>
    show loop.ahead = []
    rw [ahead, hfree, hwaiting]
    rfl
  | cons next waiting ih =>
    have hgrant : loop.step .grant = { loop with holder := some next, waiting := waiting } := by
      simp only [step, hfree, hwaiting]
    have hheld : (loop.step .grant).holder = some (next.1, next.2) := by rw [hgrant]
    have hlater : (loop.step .grant).waiting = waiting := by rw [hgrant]
    obtain ⟨hfree', hwaiting'⟩ := after_turnsOf hheld
    have hend := ih hfree' (hwaiting'.trans hlater)
    rw [← after_append] at hend
    exact hend

/-- The lock is never stuck: without further arrivals all jobs come to their end. -/
theorem ahead_after_finishing (loop : EventLoop) :
    jobsOf loop.finishing = [] ∧ (loop.after loop.finishing).ahead = [] := by
  have hturns : ∀ job turn, turn ∈ turnsOf job → turn.job? = none := by
    intro job turn hturn
    obtain hhook | hrelease := List.mem_append.1 hturn
    · rw [List.eq_of_mem_replicate hhook]
      rfl
    · rw [List.mem_singleton.1 hrelease]
      rfl
  constructor
  · refine List.filterMap_eq_nil_iff.2 fun turn hturn => ?_
    obtain hheld | hwaiting := List.mem_append.1 hturn
    · cases hholder : loop.holder with
      | none =>
        rw [hholder] at hheld
        exact absurd hheld List.not_mem_nil
      | some held =>
        rw [hholder] at hheld
        exact hturns held.2 turn hheld
    · obtain ⟨next, -, hnext⟩ := List.mem_flatMap.1 hwaiting
      obtain rfl | hnext := List.mem_cons.1 hnext
      · rfl
      · exact hturns next.2 turn hnext
  · cases hholder : loop.holder with
    | none =>
      rw [finishing, hholder]
      exact ahead_after_waiting hholder rfl
    | some held =>
      have hheld : loop.holder = some (held.1, held.2) := hholder
      obtain ⟨hfree, hwaiting⟩ := after_turnsOf hheld
      have hend := ahead_after_waiting hfree hwaiting
      rw [← after_append] at hend
      rw [finishing, hholder]
      exact hend

end EventLoop

end FishScript
