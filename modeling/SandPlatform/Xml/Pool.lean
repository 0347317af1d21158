import Mathlib.Logic.Function.Basic
import SandPlatform.Foundation.Linked
import SandPlatform.Foundation.Run

/-!
# Memory pools

`MemPoolT` keeps the chunks that are free in a list that is linked through their own
memory, so a user may overwrite the link of a chunk while it is his.  Over any run in
which users give back and write only what is theirs, no chunk is given out twice, and
there are no more blocks than the most chunks in use at one time need.
-/

namespace SandPlatform.Xml

open SandPlatform.Foundation
open Function (update)

/-- A chunk by its block and its place there. -/
structure Chunk where
  block : Nat
  index : Nat
  deriving DecidableEq

/-- The memory of a chunk is its link while it is free.  The counters are `int`s: they
count as integers do for as long as they fit one. -/
structure MemPool where
  next : Chunk → Option Chunk
  blockPtrs : Nat
  root : Option Chunk
  currentAllocs : Int
  nAllocs : Int
  maxAllocs : Int

namespace MemPool

/-- No counter has overflown. -/
structure InRange (pool : MemPool) : Prop where
  currentAllocs : 0 ≤ pool.currentAllocs ∧ pool.currentAllocs < 0x80000000
  nAllocs : 0 ≤ pool.nAllocs ∧ pool.nAllocs < 0x80000000
  maxAllocs : 0 ≤ pool.maxAllocs ∧ pool.maxAllocs < 0x80000000

/-- `COUNT`. -/
def chunkCount (size : Nat) : Nat :=
  1024 / size

/-- A pool without blocks. -/
def new : MemPool :=
  ⟨fun _ => none, 0, none, 0, 0, 0⟩

/-- The loop over the chunks of a new block. -/
def linkChunks (count block : Nat) (next : Chunk → Option Chunk) : Chunk → Option Chunk :=
  update
    ((List.range (count - 1)).foldl
      (fun next i => update next ⟨block, i⟩ (some ⟨block, i + 1⟩)) next)
    ⟨block, count - 1⟩ none

/-- The first part of `Alloc`: there is a chunk at the root. -/
def refill (count : Nat) (pool : MemPool) : Chunk × MemPool :=
  match pool.root with
  | some root => (root, pool)
  | none =>
      let block := pool.blockPtrs
      (⟨block, 0⟩,
        { pool with
          blockPtrs := block + 1
          next := linkChunks count block pool.next
          root := some ⟨block, 0⟩ })

/-- `Alloc`: the first chunk of the list is given out, after a new block is put in an empty
list. -/
def alloc (count : Nat) (pool : MemPool) : Chunk × MemPool :=
  let (result, pool) := pool.refill count
  let currentAllocs := pool.currentAllocs + 1
  (result,
    { pool with
      root := pool.next result
      currentAllocs := currentAllocs
      maxAllocs := if currentAllocs > pool.maxAllocs then currentAllocs else pool.maxAllocs
      nAllocs := pool.nAllocs + 1 })

/-- `Free`: the chunk is put in front of the list. -/
def free (mem : Option Chunk) (pool : MemPool) : MemPool :=
  match mem with
  | none => pool
  | some chunk =>
      { pool with
        currentAllocs := pool.currentAllocs - 1
        next := update pool.next chunk pool.root
        root := some chunk }

end MemPool

/-! ## Users of a pool -/

/-- A pool, the chunks that are in use, and what was written to them. -/
structure PoolUse where
  pool : MemPool
  live : List Chunk
  peak : Nat
  total : Nat
  written : Chunk → Option (Option Chunk)

/-- A call of the pool, or a write to the memory of a chunk. -/
inductive PoolEvent
  | alloc
  | free (mem : Option Chunk)
  | write (chunk : Chunk) (value : Option Chunk)

/-- Whether an event is a call of `Alloc`. -/
def PoolEvent.isAlloc : PoolEvent → Bool
  | .alloc => true
  | _ => false

namespace PoolUse

/-- A pool from which nothing was taken. -/
def start : PoolUse :=
  ⟨MemPool.new, [], 0, 0, fun _ => none⟩

/-- What an event does to the pool, and what is remembered of it. -/
def step (count : Nat) (usage : PoolUse) : PoolEvent → PoolUse
  | .alloc =>
      let (chunk, pool) := usage.pool.alloc count
      { pool := pool
        live := chunk :: usage.live
        peak := max usage.peak (usage.live.length + 1)
        total := usage.total + 1
        written := update usage.written chunk none }
  | .free mem =>
      { usage with
        pool := usage.pool.free mem
        live := match mem with
          | none => usage.live
          | some chunk => usage.live.erase chunk }
  | .write chunk value =>
      { usage with
        pool := { usage.pool with next := update usage.pool.next chunk value }
        written := update usage.written chunk (some value) }

/-- Only a chunk in use is given back or written. -/
def Allowed (usage : PoolUse) : PoolEvent → Prop
  | .alloc => True
  | .free none => True
  | .free (some chunk) => chunk ∈ usage.live
  | .write chunk _ => chunk ∈ usage.live

instance (usage : PoolUse) (event : PoolEvent) : Decidable (usage.Allowed event) :=
  match event with
  | .alloc => inferInstanceAs (Decidable True)
  | .free none => inferInstanceAs (Decidable True)
  | .free (some chunk) => inferInstanceAs (Decidable (chunk ∈ usage.live))
  | .write chunk _ => inferInstanceAs (Decidable (chunk ∈ usage.live))

/-- The chunks in use and the free ones are all chunks of all blocks. -/
structure Holds (count : Nat) (usage : PoolUse) (free : List Chunk) : Prop where
  path : Path usage.pool.next usage.pool.root free
  nodup : (usage.live ++ free).Nodup
  members : ∀ chunk, chunk ∈ usage.live ++ free ↔
    chunk.block < usage.pool.blockPtrs ∧ chunk.index < count
  size : usage.live.length + free.length = usage.pool.blockPtrs * count
  current : usage.pool.currentAllocs = usage.live.length
  allocs : usage.pool.nAllocs = usage.total
  most : usage.pool.maxAllocs = usage.peak
  below : usage.live.length ≤ usage.peak
  kept : ∀ chunk ∈ usage.live, ∀ value, usage.written chunk = some value →
    usage.pool.next chunk = value

/-- The least number of blocks that have as many chunks as were ever in use. -/
structure Fits (count : Nat) (usage : PoolUse) : Prop where
  enough : usage.peak ≤ usage.pool.blockPtrs * count
  least : usage.pool.blockPtrs * count < usage.peak + count

end PoolUse

/-! ## A new block -/

/-- Some chunks of a block, in order. -/
def chunksFrom (block first count : Nat) : List Chunk :=
  (List.range' first count).map (Chunk.mk block)

theorem mem_chunksFrom {block first count : Nat} {chunk : Chunk} :
    chunk ∈ chunksFrom block first count ↔
      chunk.block = block ∧ first ≤ chunk.index ∧ chunk.index < first + count := by
  rcases chunk with ⟨block', index⟩
  simp only [chunksFrom, List.mem_map, List.mem_range'_1, Chunk.mk.injEq]
  constructor
  · rintro ⟨i, inside, rfl, rfl⟩
    exact ⟨rfl, inside⟩
  · rintro ⟨rfl, inside⟩
    exact ⟨index, inside, rfl, rfl⟩

theorem nodup_chunksFrom (block first count : Nat) : (chunksFrom block first count).Nodup := by
  apply List.Pairwise.map (Chunk.mk block) _ List.nodup_range'
  intro i j different same
  exact different (Chunk.mk.inj same).2

theorem chunksFrom_succ (block first count : Nat) :
    chunksFrom block first (count + 1) = ⟨block, first⟩ :: chunksFrom block (first + 1) count :=
  rfl

namespace MemPool

theorem linked_apply (block i : Nat) (next : Chunk → Option Chunk) (chunk : Chunk) :
    (List.range i).foldl
        (fun (next : Chunk → Option Chunk) i => update next ⟨block, i⟩ (some ⟨block, i + 1⟩))
        next chunk =
      if chunk.block = block ∧ chunk.index < i then some ⟨block, chunk.index + 1⟩
      else next chunk := by
  induction i with
  | zero => simp
  | succ i ih =>
      rw [List.range_succ, List.foldl_append, List.foldl_cons, List.foldl_nil]
      by_cases last : chunk = ⟨block, i⟩
      · subst last
        simp
      · have other : chunk.block = block ∧ chunk.index < i + 1 ↔
            chunk.block = block ∧ chunk.index < i := by
          constructor
          · rintro ⟨inBlock, below⟩
            refine ⟨inBlock, Nat.lt_of_le_of_ne (Nat.le_of_lt_succ below) fun same => last ?_⟩
            rw [← inBlock, ← same]
          · rintro ⟨inBlock, below⟩
            exact ⟨inBlock, Nat.lt_succ_of_lt below⟩
        rw [Function.update_of_ne last, ih]
        simp only [other]

theorem linkChunks_of_ne {count block : Nat} {next : Chunk → Option Chunk} {chunk : Chunk}
    (other : chunk.block ≠ block) : linkChunks count block next chunk = next chunk := by
  have different : chunk ≠ ⟨block, count - 1⟩ := fun same => other (by rw [same])
  rw [linkChunks, Function.update_of_ne different, linked_apply, if_neg (fun both => other both.1)]

theorem linkChunks_apply {count block index : Nat} (next : Chunk → Option Chunk)
    (inside : index < count) :
    linkChunks count block next ⟨block, index⟩ =
      if index + 1 < count then some ⟨block, index + 1⟩ else none := by
  rw [linkChunks]
  by_cases last : index = count - 1
  · subst last
    rw [Function.update_self, if_neg (by omega)]
  · have different : (⟨block, index⟩ : Chunk) ≠ ⟨block, count - 1⟩ :=
      fun same => last (Chunk.mk.inj same).2
    rw [Function.update_of_ne different, linked_apply, if_pos ⟨rfl, by simp only; omega⟩,
      if_pos (by omega)]

/-- From any chunk on, the links of a new block lead to its last chunk. -/
theorem linkChunks_path {count block first : Nat} (next : Chunk → Option Chunk)
    {more : Nat} (whole : first + more = count) :
    Path (linkChunks count block next) (if first < count then some ⟨block, first⟩ else none)
      (chunksFrom block first more) := by
  induction more generalizing first with
  | zero =>
      rw [if_neg (by omega)]
      rfl
  | succ more ih =>
      rw [chunksFrom_succ, if_pos (by omega)]
      refine ⟨rfl, ?_⟩
      rw [linkChunks_apply next (by omega)]
      exact ih (by omega)

end MemPool

/-! ## Steps -/

namespace PoolUse

variable {count : Nat} {usage : PoolUse}

theorem holds_start (count : Nat) : start.Holds count [] where
  path := rfl
  nodup := List.nodup_nil
  members chunk := by simp [start, MemPool.new]
  size := by simp [start, MemPool.new]
  current := rfl
  allocs := rfl
  most := rfl
  below := Nat.le_refl 0
  kept chunk member := absurd member (by simp [start])

/-- There is a new block. -/
def addBlock (count : Nat) (usage : PoolUse) : PoolUse :=
  { usage with
    pool := { usage.pool with
      blockPtrs := usage.pool.blockPtrs + 1
      next := MemPool.linkChunks count usage.pool.blockPtrs usage.pool.next
      root := some ⟨usage.pool.blockPtrs, 0⟩ } }

/-- The chunk at the root is given out. -/
def takeRoot (usage : PoolUse) (chunk : Chunk) : PoolUse where
  pool := { usage.pool with
    root := usage.pool.next chunk
    currentAllocs := usage.pool.currentAllocs + 1
    maxAllocs := if usage.pool.currentAllocs + 1 > usage.pool.maxAllocs then
      usage.pool.currentAllocs + 1 else usage.pool.maxAllocs
    nAllocs := usage.pool.nAllocs + 1 }
  live := chunk :: usage.live
  peak := max usage.peak (usage.live.length + 1)
  total := usage.total + 1
  written := update usage.written chunk none

theorem alloc_of_root (count : Nat) {chunk : Chunk} (root : usage.pool.root = some chunk) :
    (usage.pool.alloc count).1 = chunk ∧ usage.step count .alloc = usage.takeRoot chunk := by
  simp [step, MemPool.alloc, MemPool.refill, root, takeRoot]

theorem alloc_of_none (count : Nat) (root : usage.pool.root = none) :
    (usage.pool.alloc count).1 = ⟨usage.pool.blockPtrs, 0⟩ ∧
      usage.step count .alloc =
        (usage.addBlock count).takeRoot ⟨usage.pool.blockPtrs, 0⟩ := by
  simp [step, MemPool.alloc, MemPool.refill, root, takeRoot, addBlock]

theorem Holds.addBlock (holds : usage.Holds count []) (positive : 0 < count) :
    (usage.addBlock count).Holds count (chunksFrom usage.pool.blockPtrs 0 count) := by
  have before : ∀ chunk, chunk ∈ usage.live ↔
      chunk.block < usage.pool.blockPtrs ∧ chunk.index < count := by
    intro chunk
    rw [← holds.members, List.append_nil]
  have apart : ∀ chunk ∈ usage.live, chunk.block ≠ usage.pool.blockPtrs := fun chunk member =>
    Nat.ne_of_lt ((before chunk).mp member).1
  have nodup := holds.nodup
  have size := holds.size
  rw [List.append_nil] at nodup
  rw [List.length_nil, Nat.add_zero] at size
  have path : Path (MemPool.linkChunks count usage.pool.blockPtrs usage.pool.next)
      (if 0 < count then some ⟨usage.pool.blockPtrs, 0⟩ else none)
      (chunksFrom usage.pool.blockPtrs 0 count) :=
    MemPool.linkChunks_path usage.pool.next (Nat.zero_add count)
  rw [if_pos positive] at path
  refine ⟨path, ?_, ?_, ?_, holds.current, holds.allocs, holds.most, holds.below, ?_⟩
  · change (usage.live ++ chunksFrom usage.pool.blockPtrs 0 count).Nodup
    rw [List.nodup_append]
    refine ⟨nodup, nodup_chunksFrom _ _ _, fun chunk member new inNew same => ?_⟩
    exact apart chunk member (same ▸ (mem_chunksFrom.mp inNew).1)
  · intro chunk
    change chunk ∈ usage.live ++ chunksFrom usage.pool.blockPtrs 0 count ↔
      chunk.block < usage.pool.blockPtrs + 1 ∧ chunk.index < count
    rw [List.mem_append, before, mem_chunksFrom]
    constructor
    · rintro (⟨old, inside⟩ | ⟨new, _, inside⟩) <;> omega
    · rintro ⟨below, inside⟩
      omega
  · simp only [PoolUse.addBlock, chunksFrom, List.length_map, List.length_range']
    rw [size, Nat.add_mul, Nat.one_mul]
  · intro chunk member value isValue
    rw [← holds.kept chunk member value isValue]
    exact MemPool.linkChunks_of_ne (apart chunk member)

theorem Holds.takeRoot {chunk : Chunk} {free : List Chunk}
    (holds : usage.Holds count (chunk :: free)) : (usage.takeRoot chunk).Holds count free := by
  have nodup := holds.nodup
  have size := holds.size
  have current := holds.current
  have most := holds.most
  rw [List.nodup_append, List.nodup_cons] at nodup
  rcases nodup with ⟨nodupLive, ⟨notFree, nodupFree⟩, apart⟩
  have notLive : chunk ∉ usage.live := fun member => apart chunk member chunk List.mem_cons_self rfl
  refine ⟨holds.path.2, ?_, ?_, ?_, ?_, ?_, ?_, Nat.le_max_right _ _, ?_⟩
  · change (chunk :: usage.live ++ free).Nodup
    rw [List.cons_append, List.nodup_cons, List.mem_append, List.nodup_append, not_or]
    exact ⟨⟨notLive, notFree⟩, nodupLive, nodupFree,
      fun a inLive b inFree => apart a inLive b (List.mem_cons_of_mem _ inFree)⟩
  · intro other
    change other ∈ chunk :: usage.live ++ free ↔
      other.block < usage.pool.blockPtrs ∧ other.index < count
    rw [← holds.members, List.cons_append, List.mem_cons, List.mem_append, List.mem_append,
      List.mem_cons, or_left_comm]
  · rw [List.length_cons] at size
    change (chunk :: usage.live).length + free.length = usage.pool.blockPtrs * count
    rw [List.length_cons]
    omega
  · simp [PoolUse.takeRoot, current]
  · simp [PoolUse.takeRoot, holds.allocs]
  · simp only [PoolUse.takeRoot]
    rw [current, most]
    split_ifs <;> omega
  · intro other member value isValue
    simp only [PoolUse.takeRoot] at isValue member ⊢
    by_cases same : other = chunk
    · rw [same, Function.update_self] at isValue
      cases isValue
    · rw [Function.update_of_ne same] at isValue
      exact holds.kept other ((List.mem_cons.mp member).resolve_left same) value isValue

/-- `Alloc` gives out a chunk that is not in use. -/
theorem Holds.alloc {free : List Chunk} (holds : usage.Holds count free) (positive : 0 < count)
    (fits : usage.Fits count) :
    (usage.pool.alloc count).1 ∉ usage.live ∧
      ∃ free', (usage.step count .alloc).Holds count free' ∧
        (usage.step count .alloc).Fits count := by
  have enough := fits.enough
  have least := fits.least
  have size := holds.size
  have below := holds.below
  cases free with
  | cons chunk free =>
      have nodup := holds.nodup
      rw [List.nodup_append] at nodup
      rw [List.length_cons] at size
      rcases alloc_of_root count holds.path.1 with ⟨result, stepped⟩
      rw [result, stepped]
      refine ⟨fun member => nodup.2.2 chunk member chunk List.mem_cons_self rfl, free,
        holds.takeRoot, ?_, ?_⟩
      · simp only [PoolUse.takeRoot]
        omega
      · simp only [PoolUse.takeRoot]
        omega
  | nil =>
      have added := holds.addBlock positive
      rcases Nat.exists_eq_add_one.mpr positive with ⟨more, isMore⟩
      rw [List.length_nil, Nat.add_zero] at size
      rw [isMore, chunksFrom_succ, ← isMore] at added
      rcases alloc_of_none count holds.path with ⟨result, stepped⟩
      rw [result, stepped]
      refine ⟨fun member => ?_, _, added.takeRoot, ?_, ?_⟩
      · have inside := (holds.members _).mp (List.mem_append_left [] member)
        exact Nat.lt_irrefl _ inside.1
      · simp only [PoolUse.takeRoot, PoolUse.addBlock]
        rw [Nat.add_mul, Nat.one_mul]
        omega
      · simp only [PoolUse.takeRoot, PoolUse.addBlock]
        rw [Nat.add_mul, Nat.one_mul]
        omega

/-- A chunk in use goes to the root. -/
theorem Holds.free {chunk : Chunk} {free : List Chunk} (holds : usage.Holds count free)
    (inUse : chunk ∈ usage.live) :
    (usage.step count (.free (some chunk))).Holds count (chunk :: free) := by
  have nodup := holds.nodup
  have size := holds.size
  rw [List.nodup_append] at nodup
  rcases nodup with ⟨nodupLive, nodupFree, apart⟩
  have notFree : chunk ∉ free := fun member => apart chunk inUse chunk member rfl
  have shorter := List.length_erase_of_mem inUse
  have some := List.length_pos_of_mem inUse
  refine ⟨⟨rfl, ?_⟩, ?_, ?_, ?_, ?_, holds.allocs, holds.most, ?_, ?_⟩
  · simp only [step, MemPool.free, Function.update_self]
    refine holds.path.congr fun other member => Function.update_of_ne ?_ _ _
    exact fun same => notFree (same ▸ member)
  · change (usage.live.erase chunk ++ chunk :: free).Nodup
    rw [List.nodup_append, List.nodup_cons]
    refine ⟨nodupLive.erase chunk, ⟨notFree, nodupFree⟩, fun other inLive other' member same => ?_⟩
    have stays := (nodupLive.mem_erase_iff.mp inLive)
    rcases List.mem_cons.mp member with isChunk | inFree
    · exact stays.1 (same.trans isChunk)
    · exact apart other stays.2 other' inFree same
  · intro other
    change other ∈ usage.live.erase chunk ++ chunk :: free ↔
      other.block < usage.pool.blockPtrs ∧ other.index < count
    rw [← holds.members, List.mem_append, List.mem_append, List.mem_cons,
      nodupLive.mem_erase_iff]
    by_cases same : other = chunk
    · simp [same, inUse]
    · simp [same]
  · change (usage.live.erase chunk).length + (chunk :: free).length =
      usage.pool.blockPtrs * count
    rw [List.length_cons]
    omega
  · simp only [step, MemPool.free, holds.current]
    omega
  · exact Nat.le_trans List.length_erase_le holds.below
  · intro other member value isValue
    have stays := nodupLive.mem_erase_iff.mp member
    simp only [step, MemPool.free, Function.update_of_ne stays.1]
    exact holds.kept other stays.2 value isValue

theorem Holds.write {chunk : Chunk} {free : List Chunk} (holds : usage.Holds count free)
    (inUse : chunk ∈ usage.live) (value : Option Chunk) :
    (usage.step count (.write chunk value)).Holds count free := by
  have nodup := holds.nodup
  rw [List.nodup_append] at nodup
  refine ⟨?_, holds.nodup, holds.members, holds.size, holds.current, holds.allocs, holds.most,
    holds.below, ?_⟩
  · refine holds.path.congr fun other member => Function.update_of_ne ?_ _ _
    exact fun same => nodup.2.2 chunk inUse other member same.symm
  · intro other member value' isValue
    simp only [step] at isValue ⊢
    by_cases same : other = chunk
    · rw [same, Function.update_self] at isValue ⊢
      exact Option.some.inj isValue
    · rw [Function.update_of_ne same] at isValue ⊢
      exact holds.kept other member value' isValue

/-! ## Runs -/

/-- What holds of a pool between two calls. -/
structure Sound (count : Nat) (usage : PoolUse) : Prop where
  holds : ∃ free, usage.Holds count free
  fits : usage.Fits count

theorem Sound.step (positive : 0 < count) (sound : usage.Sound count) {event : PoolEvent}
    (allowed : usage.Allowed event) : (usage.step count event).Sound count := by
  rcases sound.holds with ⟨free, holds⟩
  cases event with
  | alloc =>
      rcases (holds.alloc positive sound.fits).2 with ⟨free', holds', fits⟩
      exact ⟨⟨free', holds'⟩, fits⟩
  | free mem =>
      cases mem with
      | none => exact sound
      | some chunk => exact ⟨⟨_, holds.free allowed⟩, sound.fits.enough, sound.fits.least⟩
  | write chunk value =>
      exact ⟨⟨free, holds.write allowed value⟩, sound.fits.enough, sound.fits.least⟩

theorem run_sound (positive : 0 < count) {events : List PoolEvent}
    (allowed : Along (step count) Allowed start events) :
    (run (step count) start events).Sound count := by
  have kept : ∀ usage event, Sound count usage → Allowed usage event →
      Sound count (usage.step count event) := fun _ _ sound allowed => sound.step positive allowed
  refine run_invariant kept ⟨⟨[], holds_start count⟩, ?_, ?_⟩ allowed
  · simp [start]
  · simp [start, MemPool.new, positive]

theorem run_total (count : Nat) (usage : PoolUse) (events : List PoolEvent) :
    (run (step count) usage events).total = usage.total + events.countP PoolEvent.isAlloc := by
  induction events generalizing usage with
  | nil => rfl
  | cons event events ih =>
      rw [run_cons, ih, List.countP_cons]
      cases event with
      | alloc =>
          simp only [step, PoolEvent.isAlloc, if_true]
          omega
      | free mem => rfl
      | write chunk value => rfl

/-- There were never more chunks in use than were given out. -/
theorem step_peak (count : Nat) {event : PoolEvent} (sound : usage.Sound count)
    (most : usage.peak ≤ usage.total) :
    (usage.step count event).peak ≤ (usage.step count event).total := by
  rcases sound.holds with ⟨free, holds⟩
  have below := holds.below
  cases event with
  | alloc =>
      simp only [step]
      omega
  | free mem => exact most
  | write chunk value => exact most

theorem run_peak (positive : 0 < count) {events : List PoolEvent}
    (allowed : Along (step count) Allowed start events) :
    (run (step count) start events).peak ≤ (run (step count) start events).total := by
  have kept : ∀ usage event, Sound count usage ∧ usage.peak ≤ usage.total →
      Allowed usage event → Sound count (usage.step count event) ∧
        (usage.step count event).peak ≤ (usage.step count event).total :=
    fun _ _ both allowed => ⟨both.1.step positive allowed, step_peak count both.1 both.2⟩
  have nothing : Along (step count) Allowed start [] := trivial
  have started : Sound count start := run_sound positive nothing
  exact (run_invariant kept ⟨started, Nat.le_refl 0⟩ allowed).2

/-- The counters fit an `int` while fewer than `2 ^ 31` chunks have been given out. -/
theorem Holds.inRange {free : List Chunk} (holds : usage.Holds count free)
    (most : usage.peak ≤ usage.total) (few : usage.total < 2 ^ 31) : usage.pool.InRange := by
  have below := holds.below
  constructor
  · rw [holds.current]
    omega
  · rw [holds.allocs]
    omega
  · rw [holds.most]
    omega

/-- What a run leaves: `Alloc` gives out a chunk of a block that is not in use, what was
written to the chunks in use is still there, the counters have not overflown and count, and
there are as many blocks as the most chunks in use at one time need. -/
structure Kept (count allocs : Nat) (usage : PoolUse) : Prop where
  fresh : (usage.pool.alloc count).1 ∉ usage.live
  nodup : usage.live.Nodup
  inside : ∀ chunk ∈ usage.live, chunk.block < usage.pool.blockPtrs ∧ chunk.index < count
  written : ∀ chunk ∈ usage.live, ∀ value, usage.written chunk = some value →
    usage.pool.next chunk = value
  inRange : usage.pool.InRange
  current : usage.pool.currentAllocs = usage.live.length
  allocs : usage.pool.nAllocs = allocs
  most : usage.pool.maxAllocs = usage.peak
  enough : usage.peak ≤ usage.pool.blockPtrs * count
  least : usage.pool.blockPtrs * count < usage.peak + count

/-- A pool keeps its promises over any run with fewer than `2 ^ 31` calls of `Alloc`. -/
theorem run_pool {size : Nat} (positive : 0 < size) (small : size ≤ 1024)
    {events : List PoolEvent} (few : events.countP PoolEvent.isAlloc < 2 ^ 31)
    (allowed : Along (step (MemPool.chunkCount size)) Allowed start events) :
    (run (step (MemPool.chunkCount size)) start events).Kept (MemPool.chunkCount size)
      (events.countP PoolEvent.isAlloc) := by
  have some : 0 < MemPool.chunkCount size := Nat.div_pos small positive
  have sound := run_sound some allowed
  have total := run_total (MemPool.chunkCount size) start events
  have none : start.total = 0 := rfl
  rw [none, Nat.zero_add] at total
  rcases sound.holds with ⟨free, holds⟩
  have nodup := holds.nodup
  rw [List.nodup_append] at nodup
  have member {chunk : Chunk} (inUse : chunk ∈ (run _ start events).live) :=
    (holds.members chunk).mp (List.mem_append_left free inUse)
  have allocs := holds.allocs
  rw [total] at allocs
  exact ⟨(holds.alloc some sound.fits).1, nodup.1, fun _ inUse => member inUse, holds.kept,
    holds.inRange (run_peak some allowed) (total ▸ few), holds.current, allocs, holds.most,
    sound.fits.enough, sound.fits.least⟩

/-- Two blocks of two chunks, of which one is given back after it was written. -/
theorem run_pool_blocks :
    (run (step (MemPool.chunkCount 512)) start
        [.alloc, .alloc, .alloc, .write ⟨0, 1⟩ (some ⟨0, 1⟩), .free (some ⟨0, 1⟩)]).Kept
      (MemPool.chunkCount 512) 3 := by
  have allowed : Along (step (MemPool.chunkCount 512)) Allowed start
      [.alloc, .alloc, .alloc, .write ⟨0, 1⟩ (some ⟨0, 1⟩), .free (some ⟨0, 1⟩)] :=
    ⟨trivial, trivial, trivial, by decide, by decide, trivial⟩
  exact run_pool (by decide) (by decide) (by decide) allowed

end PoolUse

end SandPlatform.Xml
