/-!
# Batches

Things that are started together form a batch, and a batch may be started as one of
the things of another. They begin in waves: first those of the outer batch in order,
then those of the batches directly inside it, and so on inwards.

## Main definitions

- `Batch` — single things, and batches of them
- `Batch.order` — the things of a batch in the order in which they begin
- `Batch.answered` — the batch with an answer in place of each thing

## Main results

- `Batch.order_together_single` — the things of a batch that holds no other begin in
  the order in which they are listed
- `Batch.answered_together_single` — and get their answers in this order
-/

namespace FishScript

/-- A single thing, or several that are started together. -/
inductive Batch (α : Type) where
  | single (entry : α)
  | together (parts : List (Batch α))

namespace Batch

variable {α β : Type}

/-- Joins the waves of two batches that are started together. -/
def joinWaves : List (List α) → List (List α) → List (List α)
  | [], later => later
  | first, [] => first
  | a :: first, b :: later => (a ++ b) :: joinWaves first later

mutual

/-- What begins in each wave. What is inside of a batch begins one wave later. -/
def waves : Batch α → List (List α)
  | .single entry => [[entry]]
  | .together parts => [] :: wavesOf parts

/-- What begins in each wave if several batches are started together. -/
def wavesOf : List (Batch α) → List (List α)
  | [] => []
  | part :: parts => joinWaves (waves part) (wavesOf parts)

end

/-- The things of a batch in the order in which they begin. -/
def order (batch : Batch α) : List α :=
  batch.waves.flatten

/-- Cuts a list into pieces that are as long as the given ones. -/
def cut : List (List α) → List β → List (List β)
  | [], _ => []
  | piece :: pieces, answers =>
    answers.take piece.length :: cut pieces (answers.drop piece.length)

mutual

/-- Puts the next answer of its wave in place of each thing. Also yields the answers
that are left, and fills up with `missing` when there are too few. -/
def fill (missing : β) : Batch α → List (List β) → Batch β × List (List β)
  | .single _, (answer :: wave) :: waves => (.single answer, wave :: waves)
  | .single _, waves => (.single missing, waves)
  | .together parts, waves =>
    let (filled, left) := fillAll missing parts waves.tail
    (.together filled, waves.take 1 ++ left)

/-- Puts answers in place of the things of several batches, in order. -/
def fillAll (missing : β) : List (Batch α) → List (List β) → List (Batch β) × List (List β)
  | [], waves => ([], waves)
  | part :: parts, waves =>
    let (first, left) := fill missing part waves
    let (later, left) := fillAll missing parts left
    (first :: later, left)

end

/-- The batch with an answer in place of each thing. The answers are given in the order
in which the things begin. -/
def answered (missing : β) (batch : Batch α) (answers : List β) : Batch β :=
  (batch.fill missing (cut batch.waves answers)).1

theorem order_single (entry : α) : (single entry).order = [entry] := by
  simp [order, waves]

theorem wavesOf_map_single (entry : α) (entries : List α) :
    wavesOf ((entry :: entries).map single) = [entry :: entries] := by
  induction entries generalizing entry with
  | nil => simp [wavesOf, waves, joinWaves]
  | cons next entries ih =>
    rw [List.map_cons, wavesOf, ih]
    simp [waves, joinWaves]

theorem order_together_single (entries : List α) :
    (together (entries.map single)).order = entries := by
  cases entries with
  | nil => simp [order, waves, wavesOf]
  | cons entry entries => simp only [order, waves, wavesOf_map_single]; simp

theorem fillAll_map_single (missing : β) {entries : List α} {answers : List β}
    (h : answers.length = entries.length) (waves : List (List β)) :
    fillAll missing (entries.map single) (answers :: waves) =
      (answers.map single, [] :: waves) := by
  induction entries generalizing answers with
  | nil =>
    rw [List.eq_nil_of_length_eq_zero h]
    simp [fillAll]
  | cons entry entries ih =>
    obtain ⟨answer, answers, rfl⟩ := List.exists_cons_of_length_eq_add_one h
    have hlater := ih (Nat.succ.inj h)
    simp [fillAll, fill, hlater]

/-- The things of a batch that holds no other get their answers in the order in which they
are listed. -/
theorem answered_together_single (missing : β) {entries : List α} {answers : List β}
    (h : answers.length = entries.length) :
    (together (entries.map single)).answered missing answers =
      together (answers.map single) := by
  cases entries with
  | nil =>
    rw [List.eq_nil_of_length_eq_zero h]
    simp [answered, waves, wavesOf, cut, fill, fillAll]
  | cons entry entries =>
    have hcut : cut (together ((entry :: entries).map single)).waves answers = [[], answers] := by
      rw [waves, wavesOf_map_single]
      simp [cut, ← h]
    rw [answered, hcut, fill, List.tail_cons, fillAll_map_single missing h]

theorem answered_single (missing : β) (entry : α) (answer : β) :
    (single entry).answered missing [answer] = single answer := by
  simp [answered, waves, cut, fill]

end Batch

end FishScript
