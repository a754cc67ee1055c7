import FishScript.Proofs.Session.Passes

/-!
# The symbols of a session

The symbols that a session knows are those of the text that was indexed last, whatever
else has failed or was dropped in the meantime. Completion answers from them.

## Main definitions

- `Session.indexedTexts` — the texts of a history whose extraction did not fail
- `Symbols.ofLast` — the symbols after several texts have been indexed

## Main results

- `Session.Sound.symbols_step` — one step of a sound session
- `Session.symbols_after` — a whole history
- `Session.symbols_of_last_indexed` — every outcome of a run, and its completions
-/

namespace FishScript

/-- The symbols after some texts have been indexed, if these were the symbols before. -/
def Symbols.ofLast (symbols : Symbols) (texts : List Text) : Symbols :=
  texts.getLast?.elim symbols Symbols.ofText

theorem Symbols.ofLast_append (symbols : Symbols) (a b : List Text) :
    symbols.ofLast (a ++ b) = (symbols.ofLast a).ofLast b := by
  unfold ofLast
  rw [List.getLast?_append]
  cases b.getLast? <;> rfl

theorem Symbols.ofLast_cons (symbols : Symbols) (text : Text) (texts : List Text) :
    symbols.ofLast (text :: texts) = (Symbols.ofText text).ofLast texts :=
  symbols.ofLast_append [text] texts

/-! ### Passes -/

/-- Hooks from outside do not touch the symbols. -/
theorem symbols_broadcast_listeners (pass : Pass) (added : List (String × Option Fault))
    (symbols : Symbols) :
    (broadcast pass (added.map fun listener => .listener listener.1 listener.2) symbols).symbols =
      symbols := by
  induction added with
  | nil => rfl
  | cons listener added ih => exact ih

namespace Session.Sound

variable {session : Session}

/-- A pass replaces the symbols by those of its text, unless the extraction fails. -/
theorem symbols_broadcast (h : session.Sound) (pass : Pass) (symbols : Symbols) :
    (broadcast pass session.hooks symbols).symbols =
      if pass.outages.failing .extract then symbols else Symbols.ofText pass.text := by
  obtain ⟨added, hadded⟩ := h.hooks
  rw [hadded]
  calc (broadcast pass (.syntaxDiagnostics :: .symbolIndex :: added.map _) symbols).symbols
      = (broadcast pass (added.map _) (Hook.indexSymbols pass symbols).symbols).symbols := rfl
    _ = (Hook.indexSymbols pass symbols).symbols := symbols_broadcast_listeners pass added _
    _ = _ := by
      rw [Hook.indexSymbols, Outages.failing]
      cases pass.outages.extract <;> rfl

theorem symbols_broadcastAll (h : session.Sound) {passes : List Pass} {failing : Bool}
    (hpasses : ∀ pass ∈ passes, pass.outages.failing .extract = failing) (symbols : Symbols) :
    (broadcastAll session.hooks passes symbols).symbols =
      if failing then symbols else symbols.ofLast (passes.map Pass.text) := by
  induction passes generalizing symbols with
  | nil => cases failing <;> rfl
  | cons pass passes ih =>
    -- the passes of one step agree on whether the extraction fails
    obtain ⟨hpass, hpasses⟩ := List.forall_mem_cons.1 hpasses
    have hlater := ih hpasses (broadcast pass session.hooks symbols).symbols
    rw [h.symbols_broadcast, hpass] at hlater
    rw [broadcastAll, List.map_cons, Symbols.ofLast_cons]
    cases failing with
    | true => simpa [h.symbols_broadcast, hpass] using hlater
    | false => simpa [h.symbols_broadcast, hpass] using hlater

end Session.Sound

/-! ### Steps and histories -/

namespace Session

/-- The texts of a history that were indexed, if `failing` tells whether the extraction
fails before it. A text is indexed if the extraction does not fail after all that arrives
together with it. -/
def indexedTexts (failing : Bool) : List Step → List Text
  | [] => []
  | step :: steps =>
    let failing' := Operation.extract.failsAfterAll failing step.order
    (if failing' then [] else step.order.filterMap Action.broughtText?) ++
      indexedTexts failing' steps

theorem indexedTexts_append (failing : Bool) (a b : List Step) :
    indexedTexts failing (a ++ b) = indexedTexts failing a ++
      indexedTexts (Operation.extract.failsAfterAll failing (a.flatMap Batch.order)) b := by
  induction a generalizing failing with
  | nil => rfl
  | cons step a ih =>
    simp only [List.cons_append, indexedTexts, ih, List.flatMap_cons, Operation.failsAfterAll,
      List.foldl_append, List.append_assoc]

theorem Sound.symbols_step {session : Session} (h : session.Sound) (step : Step) :
    (session.step step).session.symbols = session.symbols.ofLast
      (indexedTexts (session.outages.failing .extract) [step]) := by
  have hpasses : ∀ pass ∈ (Intake.ofActions session step.order).passes,
      pass.outages.failing .extract =
        Operation.extract.failsAfterAll (session.outages.failing .extract) step.order :=
    fun pass hpass => Intake.failing_of_mem_passes hpass (by decide)
  have hsymbols := (h.intake step.order).symbols_broadcastAll hpasses
    (Intake.ofActions session step.order).session.symbols
  rw [Intake.text_passes, Intake.symbols_ofActions] at hsymbols
  rw [indexedTexts, indexedTexts, List.append_nil]
  calc (session.step step).session.symbols
      = (broadcastAll (Intake.ofActions session step.order).session.hooks
          (Intake.ofActions session step.order).passes session.symbols).symbols := by
        rw [Session.step, Intake.symbols_ofActions]
    _ = _ := by
        rw [hsymbols]
        split <;> rfl

theorem Sound.symbols_after {session : Session} (h : session.Sound) (history : List Step) :
    (session.after history).symbols = session.symbols.ofLast
      (indexedTexts (session.outages.failing .extract) history) := by
  induction history generalizing session with
  | nil => rfl
  | cons step history ih =>
    have hsplit := indexedTexts_append (session.outages.failing .extract) [step] history
    rw [List.flatMap_singleton, ← session.failing_step] at hsplit
    rw [after_cons, ih (h.step step), h.symbols_step, ← Symbols.ofLast_append, ← hsplit]
    rfl

/-- The symbols after a history are those of the last text that was indexed in it. -/
theorem symbols_after (history : List Step) :
    (start.after history).symbols = Symbols.empty.ofLast (indexedTexts false history) :=
  sound_start.symbols_after history

/-! ### Completion -/

/-- A completion request that is made alone brings no text, so it changes nothing. -/
theorem step_completion (session : Session) :
    (session.step (.single (.request .completion))).session = session := by
  have harrive : (session.arrive (.request .completion)).session = session :=
    receive_session session .completion
  simp [Session.step, Batch.order_single, Intake.ofActions, harrive, Intake.passes, Action.text?,
    Request.text?, broadcastAll]

/-- After every step of every run the symbols are those of the text that was indexed last,
and there are none before. A completion request that is made alone, while there is a
registry, leaves them as they are and answers the catalog, then an item for each function,
then one for each variable. -/
theorem symbols_of_last_indexed (history : List Step) (step : Step) (later : List Step) :
    ∃ outcome, (start.run (history ++ step :: later))[history.length]? = some outcome ∧
      outcome.session.symbols =
        (indexedTexts false (history ++ [step])).getLast?.elim .empty Symbols.ofText ∧
      (step = .single (.request .completion) →
        (start.after history).registry.isSome →
          outcome.session.symbols =
            (indexedTexts false history).getLast?.elim .empty Symbols.ofText ∧
          outcome.reply = .single (.items (Catalog.items ++
            outcome.session.symbols.functionNames.map Item.ofFunction ++
            outcome.session.symbols.variableNames.map Item.ofVariable)) ∧
          Catalog.items.length = 77) := by
  refine ⟨_, getElem?_run start history step later, ?_, ?_⟩
  · have hafter : ((start.after history).step step).session = start.after (history ++ [step]) := by
      rw [after_append]
      rfl
    rw [hafter]
    exact symbols_after (history ++ [step])
  · rintro rfl hregistry
    have hsound := sound_after history
    have hsession := step_completion (start.after history)
    have hreply := hsound.reply_single .completion
    rw [answer, hregistry, if_pos rfl] at hreply
    rw [hsession, hreply]
    refine ⟨symbols_after history, ?_, Catalog.length_items⟩
    rw [Symbols.completion, Symbols.items, List.append_assoc]

/-- A text whose extraction fails leaves the symbols of the text before. -/
theorem completion_after_failed_extraction :
    let declaring := Text.ofString "function greet\nset name world"
    let history : List Step := [
      .single (.request (.opened "file:///a.fish" declaring)),
      .single (.fail .extract ⟨.runtime, "no index"⟩),
      .single (.request (.changed "file:///a.fish" [Text.ofString "set other 1"]))]
    (start.after history).registry.isSome ∧
    ∃ outcome, (start.run (history ++ [.single (.request .completion)]))[3]? = some outcome ∧
      outcome.session.symbols = ⟨[Text.ofString "greet"], [Text.ofString "name"]⟩ ∧
      outcome.reply = .single (.items (Catalog.items ++
        [Item.ofFunction (Text.ofString "greet"), Item.ofVariable (Text.ofString "name")])) := by
  intro declaring history
  have hregistry : (start.after history).registry.isSome := by
    have hkept : ¬∃ step ∈ history, Action.dropRegistry ∈ step.order := by
      simp [history, Batch.order_single]
    rw [sound_start.registry_after, if_neg hkept]
    rfl
  have hindexed : indexedTexts false history = [declaring] := by
    simp [history, indexedTexts, Batch.order_single, Operation.failsAfterAll, Operation.failsAfter,
      Action.broughtText?]
  have hsymbols : Symbols.ofText declaring =
      ⟨[Text.ofString "greet"], [Text.ofString "name"]⟩ := by decide +kernel
  obtain ⟨outcome, hrun, -, hcompletion⟩ :=
    symbols_of_last_indexed history (.single (.request .completion)) []
  obtain ⟨hafter, hreply, -⟩ := hcompletion rfl hregistry
  rw [hindexed] at hafter
  have hknown : outcome.session.symbols = ⟨[Text.ofString "greet"], [Text.ofString "name"]⟩ :=
    hafter.trans hsymbols
  refine ⟨hregistry, outcome, hrun, hknown, ?_⟩
  rw [hreply, hknown, List.append_assoc]
  rfl

end Session

end FishScript
