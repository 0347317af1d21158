import SandPlatform.Foundation.Run

/-!
# Framed streams

A stream of items is cut into frames: the head of a frame says how many items of
body follow it.  The cut is made item by item, so it can be followed along a
stream that is still growing; only the newest frame may be unfinished.
-/

namespace SandPlatform.Foundation

universe u

variable {α : Type u}

/-- A head and the items behind it. -/
structure Frame (α : Type u) where
  head : α
  body : List α
  deriving DecidableEq

namespace Frame

/-- The stretch of the stream that a frame stands for. -/
def items (frame : Frame α) : List α :=
  frame.head :: frame.body

variable (size : α → Nat)

/-- The body is as long as the head says. -/
def Whole (frame : Frame α) : Prop :=
  frame.body.length = size frame.head

/-- One more item, with the newest frame in front: it completes that frame or
begins a new one. -/
def push : List (Frame α) → α → List (Frame α)
  | [], item => [⟨item, []⟩]
  | frame :: earlier, item =>
      if frame.body.length < size frame.head then
        ⟨frame.head, frame.body ++ [item]⟩ :: earlier
      else
        ⟨item, []⟩ :: frame :: earlier

/-- The frames of a stream, newest first. -/
def parse (stream : List α) : List (Frame α) :=
  run (push size) [] stream

/-- The newest frame, if there is one, is not waiting for items. -/
def Settled (frames : List (Frame α)) : Prop :=
  ∀ frame ∈ frames.head?, frame.Whole size

variable {size}

theorem parse_snoc (stream : List α) (item : α) :
    parse size (stream ++ [item]) = push size (parse size stream) item :=
  run_snoc _ _ _ _

theorem push_of_unfinished {frame : Frame α} (unfinished : frame.body.length < size frame.head)
    (earlier : List (Frame α)) (item : α) :
    push size (frame :: earlier) item =
      ⟨frame.head, frame.body ++ [item]⟩ :: earlier :=
  if_pos unfinished

theorem push_of_settled {frames : List (Frame α)} (settled : Settled size frames)
    (item : α) : push size frames item = ⟨item, []⟩ :: frames := by
  cases frames with
  | nil => rfl
  | cons frame earlier =>
      have whole : frame.body.length = size frame.head := settled frame rfl
      exact if_neg (by rw [whole]; exact Nat.lt_irrefl _)

/-- A body is completed item by item. -/
theorem run_push_body (head : α) (earlier : List (Frame α)) {done rest : List α}
    (fits : done.length + rest.length ≤ size head) :
    run (push size) (⟨head, done⟩ :: earlier) rest = ⟨head, done ++ rest⟩ :: earlier := by
  induction rest generalizing done with
  | nil => rw [List.append_nil]; rfl
  | cons item rest ih =>
      rw [List.length_cons] at fits
      have unfinished : done.length < size head := by omega
      have next : push size (⟨head, done⟩ :: earlier) item =
          ⟨head, done ++ [item]⟩ :: earlier := push_of_unfinished unfinished earlier item
      rw [run_cons, next, ih (by rw [List.length_append, List.length_singleton]; omega),
        List.append_assoc]
      rfl

/-- The stretch of a whole frame is cut as that frame. -/
theorem parse_items {frame : Frame α} (whole : frame.Whole size) :
    parse size frame.items = [frame] := by
  have fits : ([] : List α).length + frame.body.length ≤ size frame.head := by
    rw [List.length_nil, Nat.zero_add]
    exact Nat.le_of_eq whole
  exact run_push_body frame.head [] fits

/-- The oldest frame begins with the first item. -/
theorem parse_cons (first : α) (rest : List α) :
    ∃ later body, parse size (first :: rest) = later ++ [⟨first, body⟩] := by
  have step (frames : List (Frame α)) (item : α)
      (oldest : ∃ later body, frames = later ++ [⟨first, body⟩]) :
      ∃ later body, push size frames item = later ++ [⟨first, body⟩] := by
    obtain ⟨later, body, rfl⟩ := oldest
    cases later with
    | nil =>
        rw [List.nil_append, push]
        split
        · exact ⟨[], _, rfl⟩
        · exact ⟨[⟨item, []⟩], body, rfl⟩
    | cons newest later =>
        rw [List.cons_append, push]
        split
        · exact ⟨_ :: later, body, rfl⟩
        · exact ⟨⟨item, []⟩ :: newest :: later, body, rfl⟩
  have begun : ∃ later body, push size [] first = later ++ [⟨first, body⟩] := ⟨[], [], rfl⟩
  rw [parse, run_cons]
  exact run_of_kept step rest begun

end Frame

end SandPlatform.Foundation
