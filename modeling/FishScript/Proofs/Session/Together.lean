import FishScript.Proofs.Session.Passes

/-!
# Requests that are made together

A client may send several requests before the first is dealt with. Nothing is lost and
nothing comes in another order than if it waited after each: only the notices of all
requests come first, and completion answers from the symbols of before.

## Main definitions

- `Session.apart` — requests as steps of their own
- `Entry.isInfo` — the entries of a journal that tell a client about an arrival

## Main results

- `Session.Sound.step_requests` — a step that makes nothing but requests
- `Session.Sound.after_apart`, `Session.Sound.journalOf_apart` — requests one after another
- `Session.together_eq_apart` — the comparison of both
-/

namespace FishScript

/-- Whether an event tells a client that something has arrived. -/
def Event.isInfo : Event → Bool
  | .message .info _ => true
  | _ => false

/-- Whether an entry of a journal tells a client that something has arrived. -/
def Entry.isInfo : Entry → Bool
  | .event sent => sent.isInfo
  | .record _ => false

/-! ### Entries of passes -/

theorem not_isInfo_checkSyntax (pass : Pass) : ∀ entry ∈ Hook.checkSyntax pass, ¬entry.isInfo := by
  unfold Hook.checkSyntax
  cases Hook.published pass <;> cases pass.outages.publish <;> simp [Entry.isInfo, Event.isInfo]

theorem not_isInfo_attempt (pass : Pass) (hook : Hook) (symbols : Symbols) :
    ∀ entry ∈ (hook.attempt pass symbols).journal, ¬entry.isInfo := by
  intro entry hentry
  obtain hrun | hreport := List.mem_append.1 hentry
  · cases hook with
    | syntaxDiagnostics => exact not_isInfo_checkSyntax pass entry hrun
    | symbolIndex =>
      simp only [Hook.run, Hook.indexSymbols] at hrun
      split at hrun <;> rw [List.mem_singleton.1 hrun] <;> exact Bool.false_ne_true
    | extension name fault =>
      rw [List.mem_singleton.1 hrun]
      exact Bool.false_ne_true
    | listener name fault =>
      rw [List.mem_singleton.1 hrun]
      exact Bool.false_ne_true
  · cases hfault : hook.fault? pass.outages with
    | none =>
      rw [hfault] at hreport
      exact absurd hreport List.not_mem_nil
    | some fault =>
      rw [hfault] at hreport
      obtain rfl | hreport := List.mem_cons.1 hreport
      · exact Bool.false_ne_true
      · rw [List.mem_singleton.1 hreport]
        exact Bool.false_ne_true

/-- Hooks report faults, but they never tell of an arrival. -/
theorem not_isInfo_broadcast (pass : Pass) (hooks : List Hook) (symbols : Symbols) :
    ∀ entry ∈ (broadcast pass hooks symbols).journal, ¬entry.isInfo := by
  induction hooks generalizing symbols with
  | nil => exact fun entry h => absurd h List.not_mem_nil
  | cons hook hooks ih =>
    intro entry hentry
    obtain hfirst | hlater := List.mem_append.1 hentry
    · exact not_isInfo_attempt pass hook symbols entry hfirst
    · exact ih _ entry hlater

theorem not_isInfo_broadcastAll (hooks : List Hook) (passes : List Pass) (symbols : Symbols) :
    ∀ entry ∈ (broadcastAll hooks passes symbols).journal, ¬entry.isInfo := by
  induction passes generalizing symbols with
  | nil => exact fun entry h => absurd h List.not_mem_nil
  | cons pass passes ih =>
    intro entry hentry
    obtain hfirst | hlater := List.mem_append.1 hentry
    · exact not_isInfo_broadcast pass hooks symbols entry hfirst
    · exact ih _ entry hlater

/-! ### Requests that arrive -/

/-- What a client is told when requests arrive. -/
def Request.notices (requests : List Request) : Journal :=
  (requests.filterMap Request.notice?).map fun notice => .event (.message .info notice)

theorem Request.notices_append (a b : List Request) :
    Request.notices (a ++ b) = Request.notices a ++ Request.notices b := by
  rw [notices, List.filterMap_append, List.map_append]
  rfl

theorem Request.isInfo_notices (requests : List Request) :
    ∀ entry ∈ Request.notices requests, entry.isInfo := by
  intro entry hentry
  obtain ⟨notice, -, rfl⟩ := List.mem_map.1 hentry
  rfl

theorem Request.flatMap_notices (requests : List Request) :
    (requests.map Action.request).flatMap Action.notices = Request.notices requests := by
  induction requests with
  | nil => rfl
  | cons request requests ih =>
    have hfirst : (Action.request request).notices = Request.notices [request] := by
      cases request <;> rfl
    rw [List.map_cons, List.flatMap_cons, ih, hfirst, ← notices_append]
    rfl

namespace Session

/-- Requests that are made one after another. -/
def apart (requests : List Request) : List Step :=
  requests.map fun request => .single (.request request)

theorem apart_eq (requests : List Request) :
    apart requests = (requests.map Action.request).map Batch.single := by
  rw [List.map_map]
  rfl

def passesFor (session : Session) (requests : List Request) : List Pass :=
  (requests.filterMap Request.text?).map fun text => ⟨text, session.outages⟩

theorem intake_requests_session (session : Session) (requests : List Request) :
    (Intake.ofActions session (requests.map .request)).session = session := by
  induction requests with
  | nil => rfl
  | cons request requests ih =>
    rw [List.map_cons, Intake.ofActions, arrive, receive_session]
    exact ih

theorem intake_requests_texts (session : Session) (requests : List Request) :
    (Intake.ofActions session (requests.map .request)).texts = session.passesFor requests := by
  induction requests with
  | nil => rfl
  | cons request requests ih =>
    rw [List.map_cons, Intake.ofActions, arrive, receive_session, Action.text?]
    rw [passesFor] at ih ⊢
    rw [List.filterMap_cons]
    cases request.text? with
    | none => exact ih
    | some text => exact congrArg (⟨text, session.outages⟩ :: ·) ih

/-- No pass of a request meets other outages than those of its arrival. -/
theorem intake_requests_passes (session : Session) (requests : List Request) :
    (Intake.ofActions session (requests.map .request)).passes = session.passesFor requests := by
  have hset : session.outages.set .validate session.outages.validate = session.outages := rfl
  rw [Intake.passes, intake_requests_texts, intake_requests_session, passesFor]
  cases requests.filterMap Request.text? with
  | nil => rfl
  | cons text texts => simp [hset]

theorem Sound.intake_requests_replies {session : Session} (h : session.Sound)
    (requests : List Request) :
    (Intake.ofActions session (requests.map .request)).replies =
      requests.map session.answer := by
  induction requests with
  | nil => rfl
  | cons request requests ih =>
    rw [List.map_cons, Intake.ofActions, Session.arrive, receive_session, h.receive_reply, ih]
    rfl

/-! ### Steps and histories of requests -/

/-- What the passes of some requests bring about. -/
def effectOf (session : Session) (requests : List Request) : Effect :=
  broadcastAll session.hooks (session.passesFor requests) session.symbols

/-- A step that makes nothing but requests changes the symbols only. -/
theorem Sound.step_requests {session : Session} (h : session.Sound) {step : Step}
    {requests : List Request} (hstep : step.order = requests.map .request) :
    (session.step step).session = { session with symbols := (session.effectOf requests).symbols } ∧
      (session.step step).journal =
        Request.notices requests ++ (session.effectOf requests).journal := by
  rw [Session.step, hstep, intake_requests_passes, intake_requests_session, h.journal_intake,
    Request.flatMap_notices]
  exact ⟨rfl, rfl⟩

theorem not_isInfo_effectOf (session : Session) (requests : List Request) :
    ∀ entry ∈ (session.effectOf requests).journal, ¬entry.isInfo :=
  not_isInfo_broadcastAll session.hooks (session.passesFor requests) session.symbols

theorem effectOf_cons (session : Session) (request : Request) (requests : List Request) :
    session.effectOf (request :: requests) =
      let first := session.effectOf [request]
      let later := effectOf { session with symbols := first.symbols } requests
      ⟨later.symbols, first.journal ++ later.journal⟩ := by
  have hpasses : session.passesFor (request :: requests) =
      session.passesFor [request] ++ session.passesFor requests := by
    simp only [passesFor, ← List.map_append, ← List.filterMap_append, List.singleton_append]
  rw [effectOf, hpasses, broadcastAll_append]
  rfl

theorem filter_isInfo_step (session : Session) (requests : List Request) :
    (Request.notices requests ++ (session.effectOf requests).journal).filter Entry.isInfo =
        Request.notices requests ∧
      (Request.notices requests ++ (session.effectOf requests).journal).filter (!·.isInfo) =
        (session.effectOf requests).journal := by
  have hnotices := Request.isInfo_notices requests
  have heffect := session.not_isInfo_effectOf requests
  constructor
  · rw [List.filter_append, List.filter_eq_self.2 hnotices, List.filter_eq_nil_iff.2 heffect,
      List.append_nil]
  · rw [List.filter_append, List.filter_eq_nil_iff.2 (by simpa using hnotices),
      List.filter_eq_self.2 (by simpa using heffect), List.nil_append]

theorem Sound.step_apart {session : Session} (h : session.Sound) (request : Request) :
    (session.step (.single (.request request))).session =
        { session with symbols := (session.effectOf [request]).symbols } ∧
      (session.step (.single (.request request))).journal =
        Request.notices [request] ++ (session.effectOf [request]).journal :=
  h.step_requests (Batch.order_single _)

theorem Sound.after_apart {session : Session} (h : session.Sound) (requests : List Request) :
    session.after (apart requests) =
      { session with symbols := (session.effectOf requests).symbols } := by
  induction requests generalizing session with
  | nil => rfl
  | cons request requests ih =>
    -- the next request meets other symbols, and a session that is the same otherwise
    have hstep := (h.step_apart request).1
    have hlater := ih (h.withSymbols (session.effectOf [request]).symbols)
    calc session.after (apart (request :: requests))
        = (session.step (.single (.request request))).session.after (apart requests) := rfl
      _ = { session with symbols := (session.effectOf (request :: requests)).symbols } := by
        rw [hstep, hlater, session.effectOf_cons request requests]

/-- Requests one after another write their notices and the entries of their passes in turn. -/
theorem Sound.journalOf_apart {session : Session} (h : session.Sound) (requests : List Request) :
    (session.journalOf (apart requests)).filter Entry.isInfo = Request.notices requests ∧
      (session.journalOf (apart requests)).filter (!·.isInfo) =
        (session.effectOf requests).journal := by
  induction requests generalizing session with
  | nil => exact ⟨rfl, rfl⟩
  | cons request requests ih =>
    obtain ⟨hsession, hjournal⟩ := h.step_apart request
    obtain ⟨hinfo, hrest⟩ := ih (h.withSymbols (session.effectOf [request]).symbols)
    -- each request writes its notice first, then the entries of its pass
    obtain ⟨hinfo₁, hrest₁⟩ := session.filter_isInfo_step [request]
    have hsplit : session.journalOf (apart (request :: requests)) =
        (Request.notices [request] ++ (session.effectOf [request]).journal) ++
          journalOf { session with symbols := (session.effectOf [request]).symbols }
            (apart requests) := by
      rw [← hjournal, ← hsession]
      rfl
    constructor
    · rw [hsplit, List.filter_append, hinfo₁, hinfo, ← Request.notices_append]
      rfl
    · rw [hsplit, List.filter_append, hrest₁, hrest, session.effectOf_cons request requests]

/-! ### Answers -/

/-- Requests that are made one after another are each answered from the session that the
earlier ones left behind. -/
theorem Sound.replies_apart {session : Session} (h : session.Sound) (requests : List Request) :
    (session.run (apart requests)).map Outcome.reply = requests.mapIdx fun index request =>
      .single ((session.after (apart (requests.take index))).answer request) := by
  induction requests generalizing session with
  | nil => rfl
  | cons request requests ih =>
    have hlater := ih (h.step (.single (.request request)))
    rw [List.mapIdx_cons]
    exact congr (congrArg List.cons (h.reply_single request)) hlater

/-- Requests that are made together are all answered from the session that they meet. -/
theorem Sound.reply_together {session : Session} (h : session.Sound) (requests : List Request) :
    (session.step (.together (apart requests))).reply =
      .together (requests.map fun request => .single (session.answer request)) := by
  have hreplies := h.intake_requests_replies requests
  have hlength : (requests.map session.answer).length = (requests.map Action.request).length := by
    rw [List.length_map, List.length_map]
  rw [Session.step, apart_eq, Batch.order_together_single, hreplies,
    Batch.answered_together_single _ hlength, List.map_map]
  rfl

/-! ### The comparison -/

/-- Requests that are made together, in whatever state a history has left the session, leave
the same session behind as if they are made one after another, and they write the same
events and records in the same order, except that the notices of all of them come first.
Completion, however, answers from the symbols of before. -/
theorem together_eq_apart (history : List Step) (requests : List Request) :
    let session := start.after history
    let outcome := session.step (.together (apart requests))
    let journal := session.journalOf (apart requests)
    outcome.session = session.after (apart requests) ∧
    outcome.journal.events.filter (!·.isInfo) = journal.events.filter (!·.isInfo) ∧
    outcome.journal.records = journal.records ∧
    outcome.journal = journal.filter Entry.isInfo ++ journal.filter (!·.isInfo) ∧
    journal.filter Entry.isInfo = (requests.filterMap Request.notice?).map (fun notice =>
      Entry.event (.message .info notice)) ∧
    outcome.reply =
      .together (requests.map fun request => .single (session.answer request)) ∧
    (session.run (apart requests)).map Outcome.reply = requests.mapIdx fun index request =>
      .single ((session.after (apart (requests.take index))).answer request) := by
  intro session outcome journal
  have hsound : session.Sound := sound_after history
  have horder : Batch.order (.together (apart requests)) = requests.map Action.request := by
    rw [apart_eq, Batch.order_together_single]
  obtain ⟨hsession, hwritten⟩ := hsound.step_requests horder
  obtain ⟨hinfo, hrest⟩ := hsound.journalOf_apart requests
  have hjournal : outcome.journal =
      journal.filter Entry.isInfo ++ journal.filter (!·.isInfo) := by
    rw [hinfo, hrest]
    exact hwritten
  refine ⟨?_, ?_, ?_, hjournal, ?_, hsound.reply_together requests, hsound.replies_apart requests⟩
  · rw [hsound.after_apart]
    exact hsession
  · rw [hjournal, Journal.events_append, Journal.events_filter, Journal.events_filter]
    simp [List.filter_filter, Entry.isInfo]
  · have hnone : journal.records.filter (fun record => (Entry.record record).isInfo) = [] :=
      List.filter_eq_nil_iff.2 fun _ _ => Bool.false_ne_true
    have hall : journal.records.filter (fun record => !(Entry.record record).isInfo) =
        journal.records := List.filter_eq_self.2 fun _ _ => rfl
    rw [hjournal, Journal.records_append, Journal.records_filter, Journal.records_filter, hnone,
      hall, List.nil_append]
  · rw [hinfo]
    rfl

end Session

end FishScript
