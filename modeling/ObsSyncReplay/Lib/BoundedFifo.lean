import ObsSyncReplay.Lib.Runs
import Mathlib.Data.List.DropRight

/-!
A queue of bounded length, known by what happens at its two ends. Whatever keeps its items in
such a queue has, since it was last cleared, let in exactly what it has given out and what it
still holds, in this order.
-/

namespace BoundedFifo

variable {α β : Type*} {capacity : Nat}

inductive Event (α : Type*) where
  | pushed (item : α)
  | popped (item : α)
  | cleared
  | idle

/-- `Trace capacity events items`: a queue that was empty at first holds these items after the
events. -/
inductive Trace (capacity : Nat) : List (Event α) → List α → Prop
  | empty : Trace capacity [] []
  | push {events : List (Event α)} {items : List α} (item : α) (h : Trace capacity events items)
      (hfits : items.length < capacity) :
      Trace capacity (events ++ [.pushed item]) (items ++ [item])
  | pop {events : List (Event α)} {items : List α} (item : α)
      (h : Trace capacity events (item :: items)) : Trace capacity (events ++ [.popped item]) items
  | clear {events : List (Event α)} {items : List α} (h : Trace capacity events items) :
      Trace capacity (events ++ [.cleared]) []
  | idle {events : List (Event α)} {items : List α} (h : Trace capacity events items) :
      Trace capacity (events ++ [.idle]) items

namespace Event

def isCleared : Event α → Bool
  | .cleared => true
  | _ => false

def pushedItem : Event α → Option α
  | .pushed item => some item
  | _ => none

def poppedItem : Event α → Option α
  | .popped item => some item
  | _ => none

end Event

/-- The events since the queue was last cleared. -/
def sinceCleared (events : List (Event α)) : List (Event α) :=
  events.rtakeWhile (fun event => !event.isCleared)

def pushes (events : List (Event α)) : List α := (sinceCleared events).filterMap Event.pushedItem

def pops (events : List (Event α)) : List α := (sinceCleared events).filterMap Event.poppedItem

section Ends

variable {events : List (Event α)} {event : Event α}

theorem pushes_concat (h : event.isCleared = false) :
    pushes (events ++ [event]) = pushes events ++ event.pushedItem.toList := by
  unfold pushes sinceCleared
  rw [List.rtakeWhile_concat_pos _ _ _ (by simp [h]), List.filterMap_append]
  cases hitem : event.pushedItem <;> simp [hitem]

theorem pops_concat (h : event.isCleared = false) :
    pops (events ++ [event]) = pops events ++ event.poppedItem.toList := by
  unfold pops sinceCleared
  rw [List.rtakeWhile_concat_pos _ _ _ (by simp [h]), List.filterMap_append]
  cases hitem : event.poppedItem <;> simp [hitem]

theorem sinceCleared_concat_cleared (h : event.isCleared = true) :
    sinceCleared (events ++ [event]) = [] := by
  unfold sinceCleared
  rw [List.rtakeWhile_concat_neg _ _ _ (by simp [h])]

end Ends

variable {events : List (Event α)} {items : List α}

theorem Trace.bounded (h : Trace capacity events items) : items.length ≤ capacity := by
  induction h with
  | empty => exact Nat.zero_le _
  | push item _ hfits _ =>
      rw [List.length_append, List.length_singleton]
      exact hfits
  | pop item _ ih => exact (Nat.le_succ _).trans ih
  | clear _ _ => exact Nat.zero_le _
  | idle _ ih => exact ih

/-- First in, first out: what went in is what came out, and then what is still there. -/
theorem Trace.conserved (h : Trace capacity events items) :
    pushes events = pops events ++ items := by
  induction h with
  | empty => rfl
  | push item _ _ ih =>
      rw [pushes_concat rfl, pops_concat rfl, ih]
      simp [Event.pushedItem, Event.poppedItem]
  | pop item _ ih =>
      rw [pushes_concat rfl, pops_concat rfl, ih]
      simp [Event.pushedItem, Event.poppedItem]
  | clear _ _ =>
      unfold pushes pops
      rw [sinceCleared_concat_cleared rfl]
      rfl
  | idle _ ih =>
      rw [pushes_concat rfl, pops_concat rfl, ih]
      simp [Event.pushedItem, Event.poppedItem]

/-- One event does this to the items. -/
inductive Effect (capacity : Nat) : Event α → List α → List α → Prop
  | push (item : α) (items : List α) (hfits : items.length < capacity) :
      Effect capacity (.pushed item) items (items ++ [item])
  | pop (item : α) (items : List α) : Effect capacity (.popped item) (item :: items) items
  | clear (items : List α) : Effect capacity .cleared items []
  | idle (items : List α) : Effect capacity .idle items items

theorem Trace.concat {event : Event α} {items' : List α} (h : Trace capacity events items)
    (heffect : Effect capacity event items items') :
    Trace capacity (events ++ [event]) items' := by
  cases heffect with
  | push item _ hfits => exact h.push item hfits
  | pop item _ => exact h.pop item
  | clear _ => exact h.clear
  | idle _ => exact h.idle

end BoundedFifo
