import SandPlatform.Heci.Bounds
import SandPlatform.Heci.Mailbox
import SandPlatform.Heci.Progress

/-!
# Failed exchanges

`get_attkb` tests the status of an exchange with `status < 0`, and no status is
negative.  A failed exchange is therefore judged by the buffer alone: by the
words the device did deliver and, for the others, by the request that is still
there.  The replies `get_attkb` refuses are described here in these terms.
-/

namespace SandPlatform.Heci

open SandPlatform.Foundation
open SandPlatform.Hardware
open SandPlatform.Kernel

universe u

/-! ## Delivered fields -/

namespace Exchange

/-- A word of the buffer, if the device delivered it. -/
def delivered (exchange : Exchange) (index : Nat) : Option (BitVec 32) :=
  exchange.reply.stored.lookup index

/-- The result byte.  The request leaves zero in its place. -/
def deliveredResult (exchange : Exchange) : BitVec 8 :=
  match exchange.delivered 0 with
  | some word => Word.field word 24 8
  | none => 0

/-- The total size.  The request leaves its own offset in its place. -/
def deliveredTotal (exchange : Exchange) : Nat :=
  match exchange.delivered 1 with
  | some word => (Word.field word 0 16).toNat
  | none => exchange.offset % 2 ^ 16

/-- The size of a chunk.  The request leaves its encryption flag in its
place. -/
def deliveredReadSize (exchange : Exchange) : Nat :=
  match exchange.delivered 2 with
  | some word => (Word.field word 0 16).toNat
  | none => 1

end Exchange

/-- The replies to the chunk requests contain one that is refused, with
`accepted` bytes of the file accepted before them. -/
def ChunkRefused (total : Nat) : Nat → List Exchange → Prop
  | _, [] => False
  | accepted, exchange :: rest =>
      exchange.deliveredResult ≠ 0 ∨
        min (total - accepted) alignedMaxTransferBuffer <
          exchange.deliveredReadSize ∨
        ChunkRefused total (accepted + exchange.deliveredReadSize) rest

/-- One of the replies is refused: a result other than zero, a total size of
zero, or a chunk larger than what was asked for. -/
def Refused : List Exchange → Prop
  | [] => False
  | exchange :: chunks =>
      exchange.deliveredResult ≠ 0 ∨ exchange.deliveredTotal = 0 ∨
        ChunkRefused exchange.deliveredTotal 0 chunks

/-- The bytes of the file accepted after the given chunk replies, starting from
`accepted` of them.  A refused reply ends the download. -/
def acceptedChunks (total : Nat) : Nat → List Exchange → Nat
  | accepted, [] => accepted
  | accepted, exchange :: rest =>
      if exchange.deliveredResult ≠ 0 ∨
          min (total - accepted) alignedMaxTransferBuffer <
            exchange.deliveredReadSize then
        accepted
      else
        acceptedChunks total (accepted + exchange.deliveredReadSize) rest

/-- The sum of the chunk sizes in the accepted replies. -/
def acceptedSize : List Exchange → Nat
  | [] => 0
  | exchange :: chunks =>
      if exchange.deliveredResult ≠ 0 ∨ exchange.deliveredTotal = 0 then
        0
      else
        acceptedChunks exchange.deliveredTotal 0 chunks

/-! ## Fields of the shared buffer -/

namespace Recorded

variable {exchange : Exchange}

theorem word_eq (recorded : Recorded exchange) (index : Nat) :
    exchange.reply.word index = (exchange.delivered index).getD
      (requestWords exchange.offset exchange.size index) := by
  rw [Message.word, recorded.request]
  rfl

theorem result_eq (recorded : Recorded exchange) :
    exchange.reply.result = exchange.deliveredResult := by
  rw [Message.result, recorded.word_eq, Exchange.deliveredResult]
  cases exchange.delivered 0 with
  | some word => rfl
  | none =>
      change Word.field (requestWords exchange.offset exchange.size 0) 24 8 = 0
      rw [requestWords, Word.field_setField_of_disjoint _ _ (by omega) (by omega),
        Word.field_setField_of_disjoint _ _ (by omega) (by omega),
        Word.field_zero]

theorem totalFileSize_eq (recorded : Recorded exchange) :
    exchange.reply.totalFileSize = exchange.deliveredTotal := by
  rw [Message.totalFileSize, recorded.word_eq, Exchange.deliveredTotal]
  cases exchange.delivered 1 with
  | some word => rfl
  | none =>
      change (Word.field (requestWords exchange.offset exchange.size 1) 0 16).toNat =
        exchange.offset % 2 ^ 16
      rw [offset_requestWords, BitVec.toNat_ofNat]

theorem readSize_eq (recorded : Recorded exchange) :
    exchange.reply.readSize = exchange.deliveredReadSize := by
  rw [Message.readSize, recorded.word_eq, Exchange.deliveredReadSize]
  cases exchange.delivered 2 with
  | some word => rfl
  | none =>
      change (Word.field (Word.setField (0 : BitVec 32) 0 (1 : BitVec 1)) 0
        16).toNat = 1
      decide

end Recorded

/-! ## Refused replies and the phase of a download -/

theorem foldl_next_refused (exchanges : List Exchange) {progress : Progress}
    (refused : progress.phase = .refused) :
    exchanges.foldl Progress.next progress = progress := by
  induction exchanges with
  | nil => rfl
  | cons exchange rest ih =>
      have unchanged : progress.next exchange = progress := by
        rw [Progress.next, refused]
      rw [List.foldl_cons, unchanged, ih]

/-- While the file is being read, giving up means a refused chunk. -/
theorem foldl_next_reading {total : Nat} {progress : Progress}
    (reading : progress.phase = .reading total) {exchanges : List Exchange}
    (recorded : ∀ exchange ∈ exchanges, Recorded exchange) :
    (exchanges.foldl Progress.next progress).phase = .refused ↔
      ChunkRefused total progress.file.length exchanges := by
  induction exchanges generalizing progress with
  | nil => simp [reading, ChunkRefused]
  | cons exchange rest ih =>
      have first := recorded exchange List.mem_cons_self
      have others : ∀ other ∈ rest, Recorded other :=
        fun other member => recorded other (List.mem_cons_of_mem _ member)
      rw [List.foldl_cons, ChunkRefused, ← or_assoc, ← first.result_eq,
        ← first.readSize_eq]
      by_cases refuses : exchange.reply.result ≠ 0 ∨
          Progress.allowance total progress.file < exchange.reply.readSize
      · rw [Progress.next_reading_refused exchange reading refuses]
        rw [foldl_next_refused rest rfl]
        exact iff_of_true rfl (Or.inl refuses)
      · rw [Progress.next_reading_accepted exchange reading refuses,
          ih (by exact reading) others, List.length_append, Memory.length_read]
        exact (or_iff_right refuses).symm

/-- A download gives up exactly on a refused reply. -/
theorem progressOf_refused_iff {exchanges : List Exchange}
    (recorded : ∀ exchange ∈ exchanges, Recorded exchange) :
    (progressOf exchanges).phase = .refused ↔ Refused exchanges := by
  cases exchanges with
  | nil => simp [Refused, Progress.initial]
  | cons exchange chunks =>
      have first := recorded exchange List.mem_cons_self
      have others : ∀ other ∈ chunks, Recorded other :=
        fun other member => recorded other (List.mem_cons_of_mem _ member)
      rw [progressOf, List.foldl_cons, Refused, ← or_assoc, ← first.result_eq,
        ← first.totalFileSize_eq]
      by_cases refuses : exchange.reply.result ≠ 0 ∨
          exchange.reply.totalFileSize = 0
      · have next : Progress.initial.next exchange = ⟨.refused, []⟩ :=
          if_pos refuses
        rw [next, foldl_next_refused chunks rfl]
        exact iff_of_true rfl (Or.inl refuses)
      · have next : Progress.initial.next exchange =
            ⟨.reading exchange.reply.totalFileSize, []⟩ := if_neg refuses
        rw [next, foldl_next_reading rfl others]
        exact (or_iff_right refuses).symm

/-- While the file is being read, it grows by the accepted chunks. -/
theorem length_foldl_next {total : Nat} {progress : Progress}
    (reading : progress.phase = .reading total) {exchanges : List Exchange}
    (recorded : ∀ exchange ∈ exchanges, Recorded exchange) :
    (exchanges.foldl Progress.next progress).file.length =
      acceptedChunks total progress.file.length exchanges := by
  induction exchanges generalizing progress with
  | nil => rfl
  | cons exchange rest ih =>
      have first := recorded exchange List.mem_cons_self
      have others : ∀ other ∈ rest, Recorded other :=
        fun other member => recorded other (List.mem_cons_of_mem _ member)
      rw [List.foldl_cons, acceptedChunks, ← first.result_eq, ← first.readSize_eq]
      by_cases refuses : exchange.reply.result ≠ 0 ∨
          Progress.allowance total progress.file < exchange.reply.readSize
      · rw [Progress.next_reading_refused exchange reading refuses,
          foldl_next_refused rest rfl]
        exact (if_pos refuses).symm
      · rw [Progress.next_reading_accepted exchange reading refuses,
          ih (by exact reading) others, List.length_append, Memory.length_read]
        exact (if_neg refuses).symm

/-- The accepted part of the file is as long as the accepted replies say. -/
theorem length_progressOf_file {exchanges : List Exchange}
    (recorded : ∀ exchange ∈ exchanges, Recorded exchange) :
    (progressOf exchanges).file.length = acceptedSize exchanges := by
  cases exchanges with
  | nil => rfl
  | cons exchange chunks =>
      have first := recorded exchange List.mem_cons_self
      have others : ∀ other ∈ chunks, Recorded other :=
        fun other member => recorded other (List.mem_cons_of_mem _ member)
      rw [progressOf, List.foldl_cons, acceptedSize, ← first.result_eq,
        ← first.totalFileSize_eq]
      by_cases refuses : exchange.reply.result ≠ 0 ∨
          exchange.reply.totalFileSize = 0
      · have next : Progress.initial.next exchange = ⟨.refused, []⟩ :=
          if_pos refuses
        rw [next, foldl_next_refused chunks rfl, if_pos refuses]
        rfl
      · have next : Progress.initial.next exchange =
            ⟨.reading exchange.reply.totalFileSize, []⟩ := if_neg refuses
        rw [next, length_foldl_next rfl others, if_neg refuses]
        rfl

/-! ## Zero after a failure -/

section Download

variable {σ : Type u} (device : Device σ) (hw : Hw σ) (block : Memory Cell)

/-- The exchanges `get_attkb` makes while its loops stay within a bound. -/
def exchangesWithin (bound : Nat) : List Exchange :=
  (getAttkb device bound false (Download.start hw block)).2.exchanges

/-- `get_attkb` returns zero exactly when some reply is refused. -/
theorem returns_zero_iff_refused (bound : Nat) :
    (getAttkb device bound false (Download.start hw block)).1 = .ok 0 ↔
      Refused (exchangesWithin device hw block bound) := by
  have follows := getAttkb_follows device bound hw block
  have reports := follows.reports
  rw [exchangesWithin, ← progressOf_refused_iff follows.recorded]
  constructor
  · intro zero
    rw [zero] at reports
    rcases reports with ⟨_, refused⟩ | ⟨nonzero, _⟩
    · exact refused
    · exact absurd rfl nonzero
  · intro refused
    cases outcome : (getAttkb device bound false (Download.start hw block)).1 with
    | error reason =>
        rw [outcome] at reports
        exact absurd refused reports
    | ok size =>
        rw [outcome] at reports
        rcases reports with ⟨zero, _⟩ | ⟨_, reading, _⟩
        · rw [zero]
        · rw [refused] at reading
          cases reading

/-- A failed exchange makes `get_attkb` return zero exactly when none fails or
some reply is refused. -/
theorem getAttkb_zero_after_failure_iff :
    ((∃ bound, ∃ exchange ∈ exchangesWithin device hw block bound,
        exchange.status ≠ 0) →
      ∃ bound,
        (getAttkb device bound false (Download.start hw block)).1 = .ok 0) ↔
      (∀ bound, ∀ exchange ∈ exchangesWithin device hw block bound,
        exchange.status = 0) ∨
      ∃ bound, Refused (exchangesWithin device hw block bound) := by
  constructor
  · intro zeroAfterFailure
    by_cases failure : ∃ bound, ∃ exchange ∈ exchangesWithin device hw block bound,
        exchange.status ≠ 0
    · obtain ⟨bound, zero⟩ := zeroAfterFailure failure
      exact Or.inr ⟨bound, (returns_zero_iff_refused device hw block bound).mp zero⟩
    · left
      intro bound exchange member
      by_contra failed
      exact failure ⟨bound, exchange, member, failed⟩
  · rintro (succeeded | ⟨bound, refused⟩) ⟨bound', exchange, member, failed⟩
    · exact absurd (succeeded bound' exchange member) failed
    · exact ⟨bound, (returns_zero_iff_refused device hw block bound).mpr refused⟩

end Download

/-- A keybox of one byte on a device whose window can be mapped once: the size
query succeeds and the read request fails. -/
def vanishingDevice : Device Mailbox :=
  mailboxDevice (byteReply [0xA5]) fun count => count == 0

/-- The failed read leaves the request in the buffer, which passes for a chunk of
one byte: a keybox of size one is reported. -/
theorem vanishingDevice_reports_size :
    (getAttkb vanishingDevice 8 false
      (Download.start ⟨Mailbox.empty, []⟩ fun _ => Cell.zero)).1 = .ok 1 := by
  decide +kernel

theorem vanishingDevice_fails :
    ∃ exchange ∈ exchangesWithin vanishingDevice ⟨Mailbox.empty, []⟩
      (fun _ => Cell.zero) 8, exchange.status ≠ 0 := by
  decide +kernel

/-- After a failed exchange a size other than zero is reported. -/
theorem getAttkb_nonzero_after_failure :
    ¬ ((∃ bound, ∃ exchange ∈ exchangesWithin vanishingDevice
          ⟨Mailbox.empty, []⟩ (fun _ => Cell.zero) bound, exchange.status ≠ 0) →
        ∃ bound, (getAttkb vanishingDevice bound false
          (Download.start ⟨Mailbox.empty, []⟩ fun _ => Cell.zero)).1 = .ok 0) := by
  intro zeroAfterFailure
  obtain ⟨bound, zero⟩ := zeroAfterFailure ⟨8, vanishingDevice_fails⟩
  have same := Exec.unique_of_extends
    (fun small large le => getAttkb_extends vanishingDevice false le)
    (Prod.ext zero rfl) (Prod.ext vanishingDevice_reports_size rfl)
  exact absurd same.1 Nat.zero_ne_one

end SandPlatform.Heci
