import Mathlib.Data.List.Basic
import Mathlib.Order.Lattice

/-!
# Sliding windows over a history of times

A component that counts the recent entries of a growing history need not keep
the whole history.  It may forget what is older than its current window,
because later windows start later.  The file states when a kept list serves as
well as the history, and that forgetting and appending preserve this.
-/

namespace Tca.SlidingWindows

variable {Time : Type*} [LinearOrder Time]

/-- The times that lie in a closed window. -/
def inWindow (first last : Time) (times : List Time) : List Time :=
  times.filter fun time => first ≤ time ∧ time ≤ last

/-- A time inside the window is counted. -/
theorem length_inWindow_append {first last time : Time} (times : List Time)
    (inside : first ≤ time ∧ time ≤ last) :
    (inWindow first last (times ++ [time])).length =
      (inWindow first last times).length + 1 := by
  simp [inWindow, List.filter_append, inside.1, inside.2]

/-- A later window over a finished history holds no more times. -/
theorem length_inWindow_le {first last later laterLast : Time}
    {times : List Time} (ordered : first ≤ later)
    (past : ∀ time ∈ times, time ≤ last) :
    (inWindow later laterLast times).length ≤
      (inWindow first last times).length := by
  apply List.Sublist.length_le
  have earlier : inWindow first last times =
      times.filter fun time => first ≤ time := by
    apply List.filter_congr
    intro time member
    simp [past time member]
  rw [earlier]
  apply List.monotone_filter_right
  intro time inLater
  simp only [decide_eq_true_eq] at inLater ⊢
  exact ordered.trans inLater.1

/-- The kept times and the history agree on every window that starts at the
cutoff or later. -/
def SameFrom (cutoff : Time) (kept history : List Time) : Prop :=
  ∀ first, cutoff ≤ first →
    (kept.filter fun time => first ≤ time) =
      history.filter fun time => first ≤ time

variable {cutoff later : Time} {kept history : List Time}

theorem SameFrom.refl (cutoff : Time) (history : List Time) :
    SameFrom cutoff history history :=
  fun _ _ => rfl

theorem SameFrom.mono (same : SameFrom cutoff kept history)
    (ordered : cutoff ≤ later) : SameFrom later kept history :=
  fun first fromLater => same first (ordered.trans fromLater)

/-- Forgetting what is older than the window and appending a new time keeps the
agreement for later windows. -/
theorem SameFrom.forget_append (same : SameFrom cutoff kept history)
    (ordered : cutoff ≤ later) (time : Time) :
    SameFrom later ((kept.filter fun old => later ≤ old) ++ [time])
      (history ++ [time]) := by
  intro first fromLater
  have absorbed : ((kept.filter fun old => later ≤ old).filter
      fun old => first ≤ old) = kept.filter fun old => first ≤ old := by
    rw [List.filter_filter]
    apply List.filter_congr
    intro old _
    have : first ≤ old → later ≤ old := fromLater.trans
    grind
  rw [List.filter_append, List.filter_append, absorbed,
    same first (ordered.trans fromLater)]

/-- What is kept counts a window that ends with the last time. -/
theorem SameFrom.length_inWindow {last : Time}
    (same : SameFrom cutoff kept history) (ordered : cutoff ≤ later)
    (past : ∀ time ∈ history, time ≤ last) :
    (inWindow later last history).length =
      (kept.filter fun time => later ≤ time).length := by
  have window : inWindow later last history =
      history.filter fun time => later ≤ time := by
    apply List.filter_congr
    intro time member
    simp [past time member]
  rw [window, same later ordered]

end Tca.SlidingWindows
