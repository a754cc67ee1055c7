import FishScript.Proofs.Completion.Snippet
import FishScript.Proofs.Session.Indexing

/-!
# What completion inserts

Whatever happens to a session, the items that completion offers behind the catalog are made from
names that were found in a text, and names have nothing in them that a snippet could take for a
placeholder. So each of these items is inserted as it stands, also where the request was made
together with others.

## Main results

- `Batch.mem_order_answered` — the answers of a batch are those that were given
- `Session.Sound.mem_replies` — what completion answers on arrival
- `Session.completion_inserts_literally` — every completion of a run
-/

namespace FishScript

namespace Batch

variable {α β : Type}

theorem mem_joinWaves {a : α} {first later : List (List α)} :
    a ∈ (joinWaves first later).flatten ↔ a ∈ first.flatten ∨ a ∈ later.flatten := by
  induction first, later using joinWaves.induct with
  | case1 later => simp [joinWaves]
  | case2 first _ => cases first <;> simp [joinWaves]
  | case3 a first b later ih =>
    simp only [joinWaves, List.flatten_cons, List.mem_append, ih]
    exact or_or_or_comm

theorem order_together (parts : List (Batch α)) :
    (together parts).order = (wavesOf parts).flatten := by
  rw [order, waves, List.flatten_cons, List.nil_append]

theorem mem_wavesOf_cons {a : α} {part : Batch α} {parts : List (Batch α)} :
    a ∈ (wavesOf (part :: parts)).flatten ↔ a ∈ part.order ∨ a ∈ (wavesOf parts).flatten := by
  rw [wavesOf, mem_joinWaves, order]

mutual

/-- A batch is filled with answers that are there, and those that are left were there before. -/
theorem mem_fill (missing : β) : ∀ (batch : Batch α) (given : List (List β)),
    (∀ b ∈ (batch.fill missing given).1.order, b = missing ∨ b ∈ given.flatten) ∧
      ∀ b ∈ (batch.fill missing given).2.flatten, b ∈ given.flatten
  | .single _, (answer :: wave) :: given => by
    rw [fill, order_single]
    refine ⟨fun b hb => Or.inr ?_, fun b hb => List.mem_cons_of_mem answer hb⟩
    rw [List.mem_singleton.1 hb]
    exact List.mem_cons_self
  | .single _, [] => by
    simp [fill, order_single]
  | .single _, [] :: given => by
    simp [fill, order_single]
  | .together parts, given => by
    obtain ⟨hfilled, hleft⟩ := mem_fillAll missing parts given.tail
    -- the first wave is not for what is inside
    have hgiven : ∀ b, b ∈ given.flatten ↔ b ∈ (given.take 1).flatten ∨ b ∈ given.tail.flatten := by
      intro b
      cases given <;> simp
    rw [fill, order_together]
    refine ⟨fun b hb => (hfilled b hb).imp_right fun h => (hgiven b).2 (Or.inr h), fun b hb => ?_⟩
    rw [List.flatten_append, List.mem_append] at hb
    exact (hgiven b).2 (hb.imp_right (hleft b))

theorem mem_fillAll (missing : β) : ∀ (parts : List (Batch α)) (given : List (List β)),
    (∀ b ∈ (wavesOf (fillAll missing parts given).1).flatten, b = missing ∨ b ∈ given.flatten) ∧
      ∀ b ∈ (fillAll missing parts given).2.flatten, b ∈ given.flatten
  | [], given => by
    simp [fillAll, wavesOf]
  | part :: parts, given => by
    obtain ⟨hfirst, hleft⟩ := mem_fill missing part given
    obtain ⟨hlater, hrest⟩ := mem_fillAll missing parts (part.fill missing given).2
    refine ⟨fun b hb => ?_, fun b hb => hleft b (hrest b hb)⟩
    obtain hb | hb := mem_wavesOf_cons.1 hb
    · exact hfirst b hb
    · exact (hlater b hb).imp_right (hleft b)

end

theorem mem_cut {b : β} {pieces : List (List α)} {answers : List β}
    (h : b ∈ (cut pieces answers).flatten) : b ∈ answers := by
  induction pieces generalizing answers with
  | nil => exact absurd h List.not_mem_nil
  | cons piece pieces ih =>
    rw [cut, List.flatten_cons, List.mem_append] at h
    exact h.elim List.mem_of_mem_take fun h => List.mem_of_mem_drop (ih h)

/-- The answers of a batch are those that were given. -/
theorem mem_order_answered {missing b : β} {batch : Batch α} {answers : List β}
    (h : b ∈ (batch.answered missing answers).order) : b = missing ∨ b ∈ answers :=
  ((mem_fill missing batch _).1 b h).imp_right mem_cut

end Batch

namespace Session

/-- Only completion is answered with items. -/
theorem Sound.reply_arrive {session : Session} (h : session.Sound) {action : Action}
    {items : List Item} (hitems : (session.arrive action).reply = .items items) :
    items = if session.registry.isSome then session.symbols.completion else [] := by
  cases action with
  | request request =>
    have hanswer := (h.receive_reply request).symm.trans hitems
    cases request with
    | completion => exact (Reply.items.inj hanswer).symm
    | _ => cases hanswer
  | registerAgain =>
    rw [Session.arrive, h.registerAgain_eq] at hitems
    cases hitems
  | _ => cases hitems

/-- What completion answers when it arrives at a sound session: the catalog and the names of the
symbols, or nothing if the registry has been dropped. The symbols are those of before, whatever
has arrived in the meantime. -/
theorem Sound.mem_replies {session : Session} (h : session.Sound) {actions : List Action}
    {items : List Item} (hitems : .items items ∈ (Intake.ofActions session actions).replies) :
    items = session.symbols.completion ∨
      items = [] ∧ (session.registry = none ∨ .dropRegistry ∈ actions) := by
  induction actions generalizing session with
  | nil => exact absurd hitems List.not_mem_nil
  | cons action actions ih =>
    obtain hfirst | hlater := List.mem_cons.1 hitems
    · have hanswer := h.reply_arrive hfirst.symm
      cases hregistry : session.registry with
      | some registry =>
        rw [hregistry] at hanswer
        exact Or.inl hanswer
      | none =>
        rw [hregistry] at hanswer
        exact Or.inr ⟨hanswer, Or.inl rfl⟩
    · have hanswer := ih (h.arrive action) hlater
      rw [session.symbols_arrive, h.registry_arrive] at hanswer
      refine hanswer.imp_right (And.imp_right ?_)
      rintro (hnone | hlast)
      · by_cases hdrop : action = .dropRegistry
        · exact Or.inr (hdrop ▸ List.mem_cons_self)
        · rw [if_neg hdrop] at hnone
          exact Or.inl hnone
      · exact Or.inr (List.mem_cons_of_mem action hlast)

/-- The names that a session knows are words of the text that was indexed last. -/
theorem names_after {history : List Step} {name : Text}
    (h : name ∈ (start.after history).symbols.functionNames ++
      (start.after history).symbols.variableNames) :
    name.IsName ∧ ∃ text, (indexedTexts false history).getLast? = some text ∧ name <:+: text := by
  rw [symbols_after, Symbols.ofLast] at h
  cases hlast : (indexedTexts false history).getLast? with
  | none =>
    rw [hlast] at h
    exact absurd h List.not_mem_nil
  | some text =>
    rw [hlast] at h
    obtain h | h := List.mem_append.1 h
    · exact ⟨Declaration.isName_of_mem_names h, text, rfl, Declaration.infix_of_mem_names h⟩
    · exact ⟨Declaration.isName_of_mem_names h, text, rfl, Declaration.infix_of_mem_names h⟩

/-- Whenever completion is answered, alone or with other actions, it offers the catalog, then
items for functions and then items for variables, or nothing if the registry has been dropped.
An item for a function is plain and inserts its label. An item for a variable is a snippet that
inserts a `$` and its label, and has no placeholder. All these labels are names, and words of the
text that was indexed last before. -/
theorem completion_inserts_literally (history : List Step) (step : Step) (later : List Step) :
    ∃ outcome, (start.run (history ++ step :: later))[history.length]? = some outcome ∧
      ∀ items, .items items ∈ outcome.reply.order →
        (items = [] ∧ ((start.after history).registry = none ∨ .dropRegistry ∈ step.order)) ∨
        ∃ forFunctions forVariables, items = Catalog.items ++ forFunctions ++ forVariables ∧
          (∀ item ∈ forFunctions, item.format = .plain ∧ item.insertText = item.label) ∧
          (∀ item ∈ forVariables, item.format = .snippet ∧
            Snippet.read item.insertText = (Text.sigil :: item.label).map .literal) ∧
          ∀ item ∈ forFunctions ++ forVariables, item.label.IsName ∧
            ∃ text, (indexedTexts false history).getLast? = some text ∧ item.label <:+: text := by
  refine ⟨_, getElem?_run start history step later, fun items hitems => ?_⟩
  have hreplies : .items items ∈ (Intake.ofActions (start.after history) step.order).replies :=
    (Batch.mem_order_answered hitems).resolve_left nofun
  obtain rfl | hempty := (sound_after history).mem_replies hreplies
  · refine Or.inr ⟨_, _, (List.append_assoc ..).symm, ?_, ?_, ?_⟩
    · intro item hitem
      obtain ⟨name, -, rfl⟩ := List.mem_map.1 hitem
      exact ⟨rfl, rfl⟩
    · intro item hitem
      obtain ⟨name, hname, rfl⟩ := List.mem_map.1 hitem
      exact ⟨rfl, Item.read_ofVariable (names_after (List.mem_append_right _ hname)).1⟩
    · intro item hitem
      obtain hitem | hitem := List.mem_append.1 hitem
      · obtain ⟨name, hname, rfl⟩ := List.mem_map.1 hitem
        exact names_after (List.mem_append_left _ hname)
      · obtain ⟨name, hname, rfl⟩ := List.mem_map.1 hitem
        exact names_after (List.mem_append_right _ hname)
  · exact Or.inl hempty

/-- The function and the variable of a script, offered together with the catalog. -/
theorem completion_inserts_both_names :
    let declaring := Text.ofString "function greet\nset name world"
    let history : List Step := [.single (.request (.opened "file:///a.fish" declaring))]
    let offered := Catalog.items ++
      [Item.ofFunction (Text.ofString "greet"), Item.ofVariable (Text.ofString "name")]
    ∃ outcome, (start.run (history ++ [.single (.request .completion)]))[1]? = some outcome ∧
      outcome.reply = .single (.items offered) ∧
      ∃ forFunctions forVariables, offered = Catalog.items ++ forFunctions ++ forVariables ∧
        (∀ item ∈ forFunctions, item.format = .plain ∧ item.insertText = item.label) ∧
        ∀ item ∈ forVariables, item.format = .snippet ∧
          Snippet.read item.insertText = (Text.sigil :: item.label).map .literal := by
  intro declaring history offered
  obtain ⟨outcome, hrun, hitems⟩ :=
    completion_inserts_literally history (.single (.request .completion)) []
  have hregistry : (start.after history).registry.isSome := rfl
  have hsymbols : (start.after history).symbols =
      ⟨[Text.ofString "greet"], [Text.ofString "name"]⟩ := by decide +kernel
  have hreply : outcome.reply = .single (.items offered) := by
    have houtcome := Option.some.inj (hrun.symm.trans (getElem?_run start history _ []))
    rw [houtcome, (sound_after history).reply_single .completion, answer, hregistry, if_pos rfl,
      Symbols.completion, hsymbols]
    rfl
  refine ⟨outcome, hrun, hreply, ?_⟩
  have hmem : .items offered ∈ outcome.reply.order := by
    rw [hreply, Batch.order_single]
    exact List.mem_singleton_self _
  obtain ⟨hempty, -⟩ | ⟨forFunctions, forVariables, hoffered, hfunctions, hvariables, -⟩ :=
    hitems offered hmem
  · exact absurd hempty (List.append_ne_nil_of_right_ne_nil _ (List.cons_ne_nil _ _))
  · exact ⟨forFunctions, forVariables, hoffered, hfunctions, hvariables⟩

end Session

end FishScript
