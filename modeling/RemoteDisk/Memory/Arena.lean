import RemoteDisk.Geometry

/-!
# DMA memory

Memory that the engine may be pointed at is handed out in runs of whole pages. Which pages a
run takes is left to an allocator (`Allocator`), of which no more is known than what every
allocator promises: a run does not start at address zero, it ends inside the address space,
and it shares no page with a run that was handed out before. Pages are never taken back. The
allocator that is taken where none is given hands out the pages that follow the last ones
(`Allocator.bump`).
-/

namespace RemoteDisk

/-- A buffer the engine can reach, by bus address. -/
structure Buffer where
  /-- The bus address of its first byte. -/
  base : UInt64
  /-- Its length in bytes. -/
  size : Nat
  deriving Repr, DecidableEq, Inhabited

/-- **Pages that follow one another**, numbered from address zero. -/
structure PageRun where
  /-- Its first page. -/
  first : Nat
  /-- Pages in the run. -/
  count : Nat
  deriving Repr, DecidableEq, Inhabited

namespace PageRun

/-- The page that follows the run. -/
def stop (run : PageRun) : Nat := run.first + run.count

/-- Two runs share no page. -/
def Apart (run other : PageRun) : Prop := run.stop ≤ other.first ∨ other.stop ≤ run.first

/-- The page that follows the last of some runs, and `start` where that is later. -/
def top (start : Nat) : List PageRun → Nat
  | [] => start
  | run :: rest => max run.stop (top start rest)

theorem le_top (start : Nat) (runs : List PageRun) : start ≤ top start runs := by
  induction runs with
  | nil => exact Nat.le_refl start
  | cons run rest ih => exact Nat.le_trans ih (Nat.le_max_right _ _)

/-- No run reaches beyond the page that follows the last of them. -/
theorem stop_le_top {start : Nat} {runs : List PageRun} {run : PageRun} (handed : run ∈ runs) :
    run.stop ≤ top start runs := by
  induction runs with
  | nil => exact (List.not_mem_nil handed).elim
  | cons other rest ih =>
    rcases List.mem_cons.mp handed with rfl | later
    · exact Nat.le_max_left _ _
    · exact Nat.le_trans (ih later) (Nat.le_max_right _ _)

end PageRun

/-- **What hands out pages**: where the next run of so many pages starts, given the runs that
were handed out before, or nothing where it is refused. -/
structure Allocator where
  /-- The first page of the next run. -/
  place : (handed : List PageRun) → (count : Nat) → Option Nat
  /-- No run starts at address zero. -/
  nonzero : ∀ {handed count first}, place handed count = some first → 0 < first
  /-- Every run ends inside the address space. -/
  below : ∀ {handed count first}, place handed count = some first →
    (first + count) * Geometry.pageSize < Geometry.wordLimit
  /-- A run shares no page with those that were handed out before. -/
  apart : ∀ {handed count first}, place handed count = some first →
    ∀ run ∈ handed, PageRun.Apart ⟨first, count⟩ run

namespace Allocator

/-- The first page that `bump` hands out. -/
def firstPage : Nat := 0x80000

/-- **The allocator that moves on** through `pages` pages: it hands out those that follow all
that were handed out before. No pages at all are refused, and so are more than are left. -/
def bump (pages : Nat) : Allocator where
  place handed count :=
    let first := PageRun.top firstPage handed
    if count = 0 ∨ firstPage + pages < first + count
      ∨ Geometry.wordLimit ≤ (first + count) * Geometry.pageSize then none
    else some first
  nonzero := by
    intro handed count first placed
    obtain ⟨-, ⟨⟩⟩ := Option.ite_none_left_eq_some.mp placed
    exact Nat.lt_of_lt_of_le (by decide) (PageRun.le_top firstPage handed)
  below := by
    intro handed count first placed
    obtain ⟨room, ⟨⟩⟩ := Option.ite_none_left_eq_some.mp placed
    exact Nat.lt_of_not_le fun beyond => room (.inr (.inr beyond))
  apart := by
    intro handed count first placed run earlier
    obtain ⟨-, ⟨⟩⟩ := Option.ite_none_left_eq_some.mp placed
    exact .inr (PageRun.stop_le_top earlier)

end Allocator

/-- **The DMA memory of a machine.** -/
structure Arena where
  /-- The runs that were handed out, the last one first. -/
  handed : List PageRun := []
  /-- Pages there are, where no allocator is given. -/
  pages : Nat := 4096
  /-- What hands out further runs. -/
  allocator : Allocator := .bump pages

namespace Arena

/-- **Pages that hold `len` bytes.** -/
def pagesFor (len : Nat) : Nat := (len + (Geometry.pageSize - 1)) / Geometry.pageSize

/-- The next run of whole pages, for a buffer of `len` bytes. -/
def alloc? (a : Arena) (len : Nat) : Option (Buffer × Arena) := do
  let count := pagesFor len
  let first ← a.allocator.place a.handed count
  return (⟨UInt64.ofNat (first * Geometry.pageSize), len⟩,
    { a with handed := ⟨first, count⟩ :: a.handed })

/-- `count` buffers of `len` bytes each, or none if one of them is
refused. -/
def allocMany? (a : Arena) (len : Nat) : (count : Nat) → Option (List Buffer × Arena)
  | 0 => some ([], a)
  | count + 1 => do
    let (first, a) ← a.alloc? len
    let (rest, a) ← a.allocMany? len count
    return (first :: rest, a)

end Arena

end RemoteDisk
