import SandPlatform.DeviceInfo.Runs
import SandPlatform.Foundation.Run

/-!
# The life of the secure-info region

`prepare_secinfo_region` maps a region and lets the hypervisor fill it,
`sys_get_device_info` reads it and `clear_sensitive_data` wipes and releases it.
The length of the wipe and the guard against a second one are both the first word
of the region, which the hypervisor wrote.  Every access through `g_sec_info` and
every release is put on record.
-/

namespace SandPlatform.Platform

open SandPlatform.Foundation
open SandPlatform.Hardware
open SandPlatform.DeviceInfo

universe u

/-- An access through `g_sec_info`, or a release of the region with the contents
it has at that moment. -/
inductive Event
  | read (start size : Nat)
  | write (start size : Nat)
  | release (contents : Memory (BitVec 8))

/-- What is behind `g_sec_info`, what was done through it, oldest first, and
whether the kernel has stopped. -/
structure Region where
  memory : Memory (BitVec 8)
  events : List Event
  halted : Bool

/-- The region after `prepare_secinfo_region`: the hypervisor has written the
contents. -/
def prepareSecinfoRegion (contents : Memory (BitVec 8)) : Region :=
  ⟨contents, [], false⟩

namespace Region

/-- `g_sec_info->size_of_this_struct`. -/
def sizeOfThisStruct (region : Region) : Nat :=
  readU32 region.memory SecInfo.sizeOfThisStruct

/-- Several events one after another. -/
def record (events : List Event) (region : Region) : Region :=
  { region with events := region.events ++ events }

/-- A read of `size_of_this_struct`. -/
def readSize : Exec Stop Region Nat := do
  Exec.modify (record [.read SecInfo.sizeOfThisStruct.start
    SecInfo.sizeOfThisStruct.size])
  Exec.gets sizeOfThisStruct

/-- `memset(g_sec_info, 0, size)`. -/
def memset (size : Nat) : Exec Stop Region Unit :=
  Exec.modify fun region =>
    { region with
      memory := region.memory.fill 0 size 0
      events := region.events ++ [.write 0 size] }

/-- `vmm_free_region`; afterwards anything can be found at the address. -/
def vmmFreeRegion (later : Memory (BitVec 8)) : Exec Stop Region Unit :=
  Exec.modify fun region =>
    { region with
      memory := later
      events := region.events ++ [.release region.memory] }

end Region

/-- `clear_sensitive_data`, which reads the size twice; `later` is what the region holds
after it is released. -/
def clearSensitiveData (later : Memory (BitVec 8)) : Exec Stop Region Unit := do
  let guard ← Region.readSize
  if 0 < guard then do
    let size ← Region.readSize
    Region.memset size
    Region.vmmFreeRegion later
  else
    pure ()

/-! ## Calls -/

variable {σ : Type u}

/-- One call, with everything it does not take from the region. -/
inductive Call (σ : Type u)
  | clear (later : Memory (BitVec 8))
  | getDeviceInfo (device : Device σ) (env : Env) (bound : Nat) (hw : Hw σ)
      (user : Memory (BitVec 8)) (info : Nat)

/-- The system call as it acts on the region: it only reads, and a call that
panics, or never returns, is the last one. -/
def Region.getDeviceInfo (device : Device σ) (env : Env) (bound : Nat) (hw : Hw σ)
    (user : Memory (BitVec 8)) (info : Nat) (region : Region) : Region :=
  let call := sysGetDeviceInfo device env bound region.memory info
    (Kernel.start hw user)
  { region with
    events := region.events ++
      call.2.secReads.map fun range => .read range.1 range.2
    halted := match call.1 with
      | .ok _ => false
      | .error _ => true }

/-- A stopped kernel makes no further calls. -/
def step (region : Region) (call : Call σ) : Region :=
  if region.halted then
    region
  else
    match call with
    | .clear later => (clearSensitiveData later region).2
    | .getDeviceInfo device env bound hw user info =>
        region.getDeviceInfo device env bound hw user info

/-! ## The lifecycle invariant -/

/-- The region is zero when it is released, nothing outside of it is written, and
a release is the last thing that happens: there is no second one and no access
after it. -/
structure Sound (regionSize : Nat) (events : List Event) : Prop where
  wiped : ∀ contents, .release contents ∈ events →
    ∀ i, i < regionSize → contents i = 0
  bounded : ∀ start size, .write start size ∈ events → start + size ≤ regionSize
  final : ∀ before after contents, events = before ++ .release contents :: after →
    after = []

/-- The region has been released. -/
def Released (events : List Event) : Prop :=
  ∃ contents, Event.release contents ∈ events

/-- What a single event has to satisfy. -/
def Event.Fine (regionSize : Nat) : Event → Prop
  | .read _ _ => True
  | .write start size => start + size ≤ regionSize
  | .release contents => ∀ i, i < regionSize → contents i = 0

/-- Nothing follows a release in a sound record. -/
theorem Sound.not_released_of_snoc {regionSize : Nat} {events : List Event}
    {event : Event} (sound : Sound regionSize (events ++ [event])) :
    ¬ Released events := by
  rintro ⟨contents, member⟩
  obtain ⟨before, after, same⟩ := List.append_of_mem member
  have extended := sound.final before (after ++ [event]) contents
    (by rw [same, List.append_assoc, List.cons_append])
  exact absurd extended (by simp)

theorem Sound.fine_of_snoc {regionSize : Nat} {events : List Event}
    {event : Event} (sound : Sound regionSize (events ++ [event])) :
    event.Fine regionSize := by
  have last : event ∈ events ++ [event] :=
    List.mem_append_right _ (List.mem_singleton_self _)
  cases event with
  | read start size => trivial
  | write start size => exact sound.bounded start size last
  | release contents => exact sound.wiped contents last

theorem Sound.of_snoc {regionSize : Nat} {events : List Event} {event : Event}
    (sound : Sound regionSize (events ++ [event])) : Sound regionSize events where
  wiped contents member := sound.wiped contents (List.mem_append_left _ member)
  bounded start size member :=
    sound.bounded start size (List.mem_append_left _ member)
  final before after contents same := by
    have released : Released events := by
      rw [same]
      exact ⟨contents, List.mem_append_right _ List.mem_cons_self⟩
    exact absurd released sound.not_released_of_snoc

/-- A record without a release goes on with any fine event. -/
theorem Sound.snoc {regionSize : Nat} {events : List Event} {event : Event}
    (sound : Sound regionSize events) (live : ¬ Released events)
    (fine : event.Fine regionSize) : Sound regionSize (events ++ [event]) where
  wiped contents member := by
    rcases List.mem_append.mp member with earlier | last
    · exact sound.wiped contents earlier
    · rw [← List.mem_singleton.mp last] at fine
      exact fine
  bounded start size member := by
    rcases List.mem_append.mp member with earlier | last
    · exact sound.bounded start size earlier
    · rw [← List.mem_singleton.mp last] at fine
      exact fine
  final before after contents same := by
    rcases List.eq_nil_or_concat after with empty | ⟨front, last, split⟩
    · exact empty
    · rw [split, List.concat_eq_append, ← List.cons_append,
        ← List.append_assoc] at same
      have earlier := (List.append_inj' same rfl).1
      refine absurd ⟨contents, ?_⟩ live
      rw [earlier]
      exact List.mem_append_right _ List.mem_cons_self

/-- One more event keeps a record sound exactly when the region has not been
released and the event is fine. -/
theorem sound_snoc_iff (regionSize : Nat) (events : List Event) (event : Event) :
    Sound regionSize (events ++ [event]) ↔
      Sound regionSize events ∧ ¬ Released events ∧ event.Fine regionSize := by
  constructor
  · intro sound
    exact ⟨sound.of_snoc, sound.not_released_of_snoc, sound.fine_of_snoc⟩
  · rintro ⟨sound, live, fine⟩
    exact sound.snoc live fine

theorem released_snoc_read (events : List Event) (start size : Nat) :
    Released (events ++ [.read start size]) ↔ Released events := by
  simp [Released]

theorem released_snoc_write (events : List Event) (start size : Nat) :
    Released (events ++ [.write start size]) ↔ Released events := by
  simp [Released]

/-- Reads are harmless as long as the region is there. -/
theorem sound_append_reads_iff (regionSize : Nat) (events : List Event)
    (ranges : List (Nat × Nat)) :
    Sound regionSize (events ++ ranges.map fun range => .read range.1 range.2) ↔
      Sound regionSize events ∧ (ranges ≠ [] → ¬ Released events) := by
  induction ranges generalizing events with
  | nil => simp
  | cons range rest ih =>
      rw [List.map_cons, List.append_cons, ih, sound_snoc_iff,
        released_snoc_read, and_assoc]
      have first : range :: rest ≠ [] := List.cons_ne_nil _ _
      constructor
      · rintro ⟨sound, ⟨live, _⟩, _⟩
        exact ⟨sound, fun _ => live⟩
      · rintro ⟨sound, live⟩
        exact ⟨sound, ⟨live first, trivial⟩, fun _ => live first⟩

/-! ## Steps -/

/-- What a call has to find: the region not yet released, and for a clear a first
word that is zero, or one that does not exceed the region and behind which the
region is zero already. -/
def CallFine (regionSize : Nat) (region : Region) (call : Call σ) : Prop :=
  region.halted = true ∨
    ¬ Released region.events ∧
      match call with
      | .clear _ =>
          region.sizeOfThisStruct = 0 ∨
            region.sizeOfThisStruct ≤ regionSize ∧
              ∀ i, region.sizeOfThisStruct ≤ i → i < regionSize →
                region.memory i = 0
      | .getDeviceInfo _ _ _ _ _ _ => True

theorem clearSensitiveData_of_zero {region : Region}
    (zero : region.sizeOfThisStruct = 0) (later : Memory (BitVec 8)) :
    (clearSensitiveData later region).2.events = region.events ++ [.read 0 4] := by
  have guard : Region.readSize region =
      (.ok 0, region.record [.read 0 4]) := congrArg
    (fun size => (Except.ok size, region.record [.read 0 4])) zero
  rw [clearSensitiveData, Exec.bind_of_ok guard, if_neg (Nat.lt_irrefl 0)]
  rfl

theorem clearSensitiveData_of_pos {region : Region}
    (positive : 0 < region.sizeOfThisStruct) (later : Memory (BitVec 8)) :
    (clearSensitiveData later region).2.events =
      region.events ++ [.read 0 4] ++ [.read 0 4] ++
        [.write 0 region.sizeOfThisStruct] ++
        [.release (region.memory.fill 0 region.sizeOfThisStruct 0)] := by
  have guard (region : Region) : Region.readSize region =
      (.ok region.sizeOfThisStruct, region.record [.read 0 4]) := rfl
  rw [clearSensitiveData, Exec.bind_of_ok (guard region), if_pos positive,
    Exec.bind_of_ok (guard _)]
  rfl

/-- Wiping the announced size leaves zeroes exactly when the rest is zero. -/
theorem fill_zero_iff {memory : Memory (BitVec 8)} {size regionSize : Nat} :
    (∀ i, i < regionSize → memory.fill 0 size 0 i = 0) ↔
      ∀ i, size ≤ i → i < regionSize → memory i = 0 := by
  constructor
  · intro wiped i behind inside
    have zero := wiped i inside
    rw [Memory.fill_apply_of_not_mem (by omega)] at zero
    exact zero
  · intro rest i inside
    by_cases before : i < size
    · exact Memory.fill_apply_of_mem (Nat.zero_le i) (by omega)
    · rw [Memory.fill_apply_of_not_mem (by omega)]
      exact rest i (Nat.le_of_not_lt before) inside

theorem sound_clear_iff (regionSize : Nat) (region : Region)
    (later : Memory (BitVec 8)) :
    Sound regionSize (clearSensitiveData later region).2.events ↔
      Sound regionSize region.events ∧ ¬ Released region.events ∧
        (region.sizeOfThisStruct = 0 ∨
          region.sizeOfThisStruct ≤ regionSize ∧
            ∀ i, region.sizeOfThisStruct ≤ i → i < regionSize →
              region.memory i = 0) := by
  by_cases zero : region.sizeOfThisStruct = 0
  · rw [clearSensitiveData_of_zero zero, sound_snoc_iff]
    have fine : (Event.read 0 4).Fine regionSize := trivial
    rw [and_iff_left fine, and_iff_left (Or.inl zero)]
  · rw [clearSensitiveData_of_pos (Nat.pos_of_ne_zero zero), sound_snoc_iff,
      sound_snoc_iff, sound_snoc_iff, sound_snoc_iff, or_iff_right zero]
    simp only [released_snoc_read, released_snoc_write, Event.Fine, Nat.zero_add,
      fill_zero_iff]
    tauto

/-- One call keeps the record sound exactly when it finds what it has to find. -/
theorem sound_step_iff (regionSize : Nat) (region : Region) (call : Call σ) :
    Sound regionSize (step region call).events ↔
      Sound regionSize region.events ∧ CallFine regionSize region call := by
  by_cases halted : region.halted = true
  · have unchanged : step region call = region := if_pos halted
    rw [unchanged]
    exact (and_iff_left (Or.inl halted)).symm
  · refine Iff.trans ?_ (and_congr_right fun _ => (or_iff_right halted).symm)
    cases call with
    | clear later =>
        have cleared : step region (.clear later : Call σ) =
            (clearSensitiveData later region).2 := if_neg halted
        rw [cleared]
        exact sound_clear_iff regionSize region later
    | getDeviceInfo device env bound hw user info =>
        have called : step region (.getDeviceInfo device env bound hw user info) =
            region.getDeviceInfo device env bound hw user info := if_neg halted
        have reads := (sysGetDeviceInfo_run device env bound region.memory info
          (Kernel.start hw user)).secReads_ne_nil
        rw [called, Region.getDeviceInfo, sound_append_reads_iff,
          forall_prop_of_true reads, and_iff_left trivial]

/-- Over every run the record is sound exactly when every call finds what it has
to find: the region is still there, and a clear wipes nothing or all of it. -/
theorem lifecycle_sound_iff (regionSize : Nat) (contents : Memory (BitVec 8))
    (calls : List (Call σ)) :
    Sound regionSize (run step (prepareSecinfoRegion contents) calls).events ↔
      Along step (CallFine regionSize) (prepareSecinfoRegion contents) calls := by
  have empty : Sound regionSize (prepareSecinfoRegion contents).events := by
    constructor
    · intro released member
      cases member
    · intro start size member
      cases member
    · intro before after released same
      have nonempty : before ++ Event.release released :: after ≠ [] :=
        List.append_ne_nil_of_right_ne_nil _ (List.cons_ne_nil _ _)
      exact absurd same.symm nonempty
  have runs := run_iff_along (fun region => Sound regionSize region.events)
    (sound_step_iff regionSize) (prepareSecinfoRegion contents) calls
  exact runs.trans (and_iff_right empty)

/-- A second clear of a block of the expected size reads the released region. -/
theorem second_clear_reads_released :
    ¬ Sound 4096 (run step (prepareSecinfoRegion blankSecInfo)
      [(.clear blankSecInfo : Call Unit), .clear blankSecInfo]).events := by
  intro sound
  have positive : 0 < (prepareSecinfoRegion blankSecInfo).sizeOfThisStruct := by
    decide
  have released : Released (step (prepareSecinfoRegion blankSecInfo)
      (.clear blankSecInfo : Call Unit)).events := by
    change Released (clearSensitiveData blankSecInfo
      (prepareSecinfoRegion blankSecInfo)).2.events
    rw [clearSensitiveData_of_pos positive]
    exact ⟨_, List.mem_append_right _ (List.mem_singleton_self _)⟩
  have last : Sound 4096 (step (step (prepareSecinfoRegion blankSecInfo)
      (.clear blankSecInfo : Call Unit)) (.clear blankSecInfo : Call Unit)).events :=
    sound
  rcases ((sound_step_iff 4096 _ _).mp last).2 with halted | ⟨live, _⟩
  · exact absurd halted (by decide)
  · exact live released

end SandPlatform.Platform
