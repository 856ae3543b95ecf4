import Mathlib.Data.List.Basic
import Mathlib.Logic.Function.Iterate

/-!
# A queue served from its head in batches

Every round takes a batch from the head of a queue and serves it; an item that
is stuck goes back to its place.  A queue is cleared of all other items exactly
when no item waits behind as many stuck ones as a batch holds.
-/

namespace Tca.BatchedQueues

variable {Item : Type*} (limit : Nat) (stuck : Item → Bool)

/-- One round: of the batch at the head only the stuck items remain. -/
def serve (queue : List Item) : List Item :=
  (queue.take limit).filter stuck ++ queue.drop limit

/-- In front of every item that is not stuck stand fewer stuck items than a
batch holds. -/
def Flows (queue : List Item) : Prop :=
  ∀ front item back, queue = front ++ item :: back → stuck item = false →
    front.countP stuck < limit

/-- The number of items that are not stuck. -/
def waiting (queue : List Item) : Nat :=
  queue.countP fun item => !stuck item

variable {limit stuck}

theorem waiting_eq_zero_iff {queue : List Item} :
    waiting stuck queue = 0 ↔ ∀ item ∈ queue, stuck item = true := by
  simp [waiting, List.countP_eq_zero]

theorem serve_sublist (queue : List Item) :
    (serve limit stuck queue).Sublist queue := by
  have halves : (serve limit stuck queue).Sublist
      (queue.take limit ++ queue.drop limit) :=
    List.filter_sublist.append (List.Sublist.refl _)
  rw [List.take_append_drop] at halves
  exact halves

/-- Rounds put nothing into the queue. -/
theorem iterate_serve_subset (limit : Nat) (stuck : Item → Bool) (rounds : Nat) (queue : List Item) :
    (serve limit stuck)^[rounds] queue ⊆ queue := by
  induction rounds with
  | zero => exact List.Subset.refl queue
  | succ rounds ih =>
      rw [Function.iterate_succ_apply']
      exact List.Subset.trans (serve_sublist _).subset ih

/-- A round as a filter of a queue without repetitions. -/
theorem filter_eq_serve [DecidableEq Item] {queue : List Item}
    (nodup : queue.Nodup) :
    queue.filter (fun item => !decide (item ∈ queue.take limit) || stuck item) =
      serve limit stuck queue := by
  have halves := (List.take_append_drop limit queue).symm
  have disjoint : ∀ item ∈ queue.drop limit, item ∉ queue.take limit := by
    intro item isLater isTaken
    rw [halves, List.nodup_append] at nodup
    exact nodup.2.2 item isTaken item isLater rfl
  have ofBatch : (queue.take limit).filter
      (fun item => !decide (item ∈ queue.take limit) || stuck item) =
        (queue.take limit).filter stuck := by
    apply List.filter_congr
    intro item isTaken
    simp [isTaken]
  have ofRest : (queue.drop limit).filter
      (fun item => !decide (item ∈ queue.take limit) || stuck item) =
        queue.drop limit := by
    rw [List.filter_eq_self]
    intro item isLater
    simp [disjoint item isLater]
  calc queue.filter
        (fun item => !decide (item ∈ queue.take limit) || stuck item)
      = (queue.take limit ++ queue.drop limit).filter
          (fun item => !decide (item ∈ queue.take limit) || stuck item) := by
        rw [List.take_append_drop]
    _ = serve limit stuck queue := by
        rw [List.filter_append, ofBatch, ofRest, serve]

/-- What stands behind the batch of a round stands behind the stuck part of
the batch afterwards, so an item that is not stuck keeps its place. -/
theorem serve_eq_append {queue front back : List Item} {item : Item}
    (split : serve limit stuck queue = front ++ item :: back)
    (isFree : stuck item = false) :
    ∃ between, front = (queue.take limit).filter stuck ++ between ∧
      queue.drop limit = between ++ item :: back := by
  obtain ⟨between, frontIs, dropIs⟩ | ⟨extra, batchIs, restIs⟩ :=
    List.append_eq_append_iff.mp split
  · exact ⟨between, frontIs, dropIs⟩
  · cases extra with
    | nil =>
        refine ⟨[], ?_, ?_⟩
        · rw [List.append_nil] at batchIs ⊢
          exact batchIs.symm
        · exact restIs.symm
    | cons first others =>
        obtain ⟨rfl, -⟩ : item = first ∧ back = others ++ queue.drop limit := by
          simpa using restIs
        have inBatch : item ∈ (queue.take limit).filter stuck := by
          rw [batchIs]
          simp
        rw [List.mem_filter, isFree] at inBatch
        exact absurd inBatch.2 Bool.false_ne_true

/-- A round leaves as many stuck items in front of any other item. -/
theorem flows_serve {queue : List Item} (flows : Flows limit stuck queue) :
    Flows limit stuck (serve limit stuck queue) := by
  intro front item back split isFree
  obtain ⟨between, rfl, dropIs⟩ := serve_eq_append split isFree
  have before := flows (queue.take limit ++ between) item back
    (by rw [List.append_assoc, ← dropIs, List.take_append_drop]) isFree
  rw [List.countP_append] at before ⊢
  simpa [List.countP_filter] using before

/-- The first item that is not stuck stands behind stuck items only. -/
theorem exists_first_free {queue : List Item} (some_waits : waiting stuck queue ≠ 0) :
    ∃ front item back, queue = front ++ item :: back ∧ stuck item = false ∧
      ∀ other ∈ front, stuck other = true := by
  induction queue with
  | nil => exact absurd rfl some_waits
  | cons head tail ih =>
      cases headStuck : stuck head with
      | false => exact ⟨[], head, tail, rfl, headStuck, by simp⟩
      | true =>
          have tailWaits : waiting stuck tail ≠ 0 := by
            simpa [waiting, headStuck] using some_waits
          obtain ⟨front, item, back, rfl, isFree, allStuck⟩ := ih tailWaits
          exact ⟨head :: front, item, back, rfl, isFree, by simpa [headStuck]⟩

/-- A round drops the items of its batch that are not stuck. -/
theorem waiting_serve (limit : Nat) (stuck : Item → Bool) (queue : List Item) :
    waiting stuck (serve limit stuck queue) +
        waiting stuck (queue.take limit) = waiting stuck queue := by
  have whole := congrArg (waiting stuck) (List.take_append_drop limit queue)
  rw [waiting, List.countP_append] at whole
  rw [← whole, serve, waiting, List.countP_append, List.countP_filter]
  simp [waiting, Nat.add_comm]

/-- As long as items flow, every round serves one that is not stuck. -/
theorem waiting_serve_lt {queue : List Item} (flows : Flows limit stuck queue)
    (some_waits : waiting stuck queue ≠ 0) :
    waiting stuck (serve limit stuck queue) < waiting stuck queue := by
  obtain ⟨front, item, back, rfl, isFree, allStuck⟩ :=
    exists_first_free some_waits
  have inBatch := flows front item back rfl isFree
  rw [List.countP_eq_length.mpr allStuck] at inBatch
  have batchWaits : 0 < waiting stuck ((front ++ item :: back).take limit) := by
    rw [waiting, List.countP_pos_iff]
    refine ⟨item, ?_, by simp [isFree]⟩
    rw [List.take_append]
    apply List.mem_append_right
    obtain ⟨more, limitIs⟩ := Nat.exists_eq_add_of_lt inBatch
    have takesMore : limit - front.length = more + 1 := by omega
    rw [takesMore]
    exact List.mem_cons_self
  have served := waiting_serve limit stuck (front ++ item :: back)
  omega

/-- Enough rounds serve everything that flows. -/
theorem waiting_iterate_serve {rounds : Nat} {queue : List Item}
    (flows : Flows limit stuck queue) (enough : waiting stuck queue ≤ rounds) :
    waiting stuck ((serve limit stuck)^[rounds] queue) = 0 := by
  induction rounds generalizing queue with
  | zero => exact Nat.le_zero.mp enough
  | succ rounds ih =>
      rw [Function.iterate_succ_apply]
      apply ih (flows_serve flows)
      by_cases some_waits : waiting stuck queue = 0
      · have served := waiting_serve limit stuck queue
        omega
      · have fewer := waiting_serve_lt flows some_waits
        omega

/-- An item behind a batch of stuck items is never served. -/
theorem blocked_serve {queue front back : List Item} {item : Item}
    (split : queue = front ++ item :: back)
    (blocked : limit ≤ front.countP stuck) :
    ∃ front', serve limit stuck queue = front' ++ item :: back ∧
      limit ≤ front'.countP stuck := by
  have longFront : limit ≤ front.length :=
    Nat.le_trans blocked List.countP_le_length
  refine ⟨(front.take limit).filter stuck ++ front.drop limit, ?_, ?_⟩
  · rw [serve, split, List.take_append_of_le_length longFront,
      List.drop_append_of_le_length longFront, List.append_assoc]
  · have whole := congrArg (List.countP stuck)
      (List.take_append_drop limit front)
    rw [List.countP_append] at whole
    rw [List.countP_append, List.countP_filter]
    simpa [whole] using blocked

/-- Rounds clear the queue of all items that are not stuck, as many rounds as
items suffice, exactly when the items flow. -/
theorem exists_cleared_iff (queue : List Item) :
    (∃ rounds ≤ queue.length, ∀ item ∈ (serve limit stuck)^[rounds] queue,
      stuck item = true) ↔ Flows limit stuck queue := by
  constructor
  · rintro ⟨rounds, -, cleared⟩ front item back split isFree
    by_contra notBelow
    have stays : ∀ count, ∃ front',
        (serve limit stuck)^[count] queue = front' ++ item :: back ∧
          limit ≤ front'.countP stuck := by
      intro count
      induction count with
      | zero => exact ⟨front, split, Nat.le_of_not_lt notBelow⟩
      | succ count ih =>
          obtain ⟨front', splitThen, blocked⟩ := ih
          rw [Function.iterate_succ_apply']
          exact blocked_serve splitThen blocked
    obtain ⟨front', splitThen, -⟩ := stays rounds
    have stillThere := cleared item (by rw [splitThen]; simp)
    rw [isFree] at stillThere
    exact Bool.false_ne_true stillThere
  · intro flows
    refine ⟨waiting stuck queue, List.countP_le_length, ?_⟩
    rw [← waiting_eq_zero_iff]
    exact waiting_iterate_serve flows (Nat.le_refl _)

end Tca.BatchedQueues
