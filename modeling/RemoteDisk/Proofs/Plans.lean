import RemoteDisk.Proofs.Tiling

/-!
# Plans, one chunk at a time

A plan is asked for its next chunk again and again. Every call hands out the first of the
chunks that were still to come and leaves the others (`Chunk.Plan.chunks_step`), so the chunk of
a call is that of the same number in the list of all of them, and what the plan says of the
chunks to come is right after every call. The calls after the last chunk change nothing.

That list is known in closed form, for every segment and for every longest chunk, those of no
bytes included: they count as one byte long (`Chunk.Plan.start_cuts`).
-/

namespace RemoteDisk.Chunk.Plan

variable {p : Plan}

/-! ## One call -/

/-- **A call for the next chunk**, with the plan it leaves. A plan that has come to its end
hands out nothing and stays as it is. -/
def step (p : Plan) : Option Chunk × Plan :=
  match p.next? with
  | some (chunk, rest) => (some chunk, rest)
  | none => (none, p)

theorem step_of_some {c : Chunk} {rest : Plan} (h : p.next? = some (c, rest)) :
    p.step = (some c, rest) := by
  unfold step
  rw [h]

theorem step_of_none (h : p.next? = none) : p.step = (none, p) := by
  unfold step
  rw [h]

/-- **A call hands out the first chunk** of those that were to come. -/
theorem step_fst (p : Plan) : p.step.1 = p.chunks.head? := by
  unfold chunks
  split
  · next h => rw [step_of_none h, List.head?_nil]
  · next h => rw [step_of_some h, List.head?_cons]

/-- A call leaves the chunks behind the one that it hands out. -/
theorem chunks_step (p : Plan) : p.step.2.chunks = p.chunks.tail := by
  rcases next : p.next? with _ | ⟨c, rest⟩
  · have none : p.chunks = [] := chunks_of_total_le (le_of_next?_eq_none next)
    rw [step_of_none next, none, List.tail_nil]
  · rw [step_of_some next]
    conv_rhs => unfold chunks
    split
    · next h => cases next.symm.trans h
    · next h =>
      cases next.symm.trans h
      rfl

/-- A call stays within the segment, whose length it does not change. -/
theorem step_within (within : p.offset ≤ p.total) :
    p.step.2.offset ≤ p.total ∧ p.step.2.total = p.total := by
  rcases next : p.next? with _ | ⟨c, rest⟩
  · rw [step_of_none next]
    exact ⟨within, rfl⟩
  · obtain ⟨left, rfl, rfl⟩ := next?_eq_some next
    rw [step_of_some next]
    refine ⟨?_, rfl⟩
    unfold nextLen
    dsimp only
    omega

/-! ## Many calls -/

/-- The plan after a number of calls. -/
def after (p : Plan) : Nat → Plan
  | 0 => p
  | k + 1 => (p.after k).step.2

/-- **As many calls hand out as many chunks**, and leave the others. -/
theorem chunks_after (p : Plan) (k : Nat) : (p.after k).chunks = p.chunks.drop k := by
  induction k with
  | zero => rfl
  | succ k ih => rw [after, chunks_step, ih, List.tail_drop]

theorem after_within (within : p.offset ≤ p.total) (k : Nat) :
    (p.after k).offset ≤ p.total ∧ (p.after k).total = p.total := by
  induction k with
  | zero => exact ⟨within, rfl⟩
  | succ k ih =>
    obtain ⟨inside, same⟩ := ih
    rw [← same] at inside ⊢
    exact step_within inside

/-- **What a plan says of the chunks to come** is their number. -/
theorem remaining_eq_length (p : Plan) : p.remaining = p.chunks.length := by
  rw [chunks_eq, List.length_map, List.length_range]

/-! ## Whole segments -/

/-- **A plan that cuts a segment into units**, whatever calls are made for its chunks. -/
structure Cuts (total unit : Nat) (p : Plan) : Prop where
  /-- There are as many chunks as there are units, rounded up. -/
  number : p.chunks.length = total ⌈/⌉ unit
  /-- Calls hand them out in order, and nothing after them. -/
  next : ∀ k, (p.after k).step.1 = p.chunks[k]?
  /-- After every call the plan knows how many are still to come. -/
  coming : ∀ k, (p.after k).remaining = total ⌈/⌉ unit - k
  /-- After no call has the plan passed the end of the segment. -/
  within : ∀ k, (p.after k).offset ≤ total
  /-- The chunks start a unit apart. -/
  apart : ∀ k (hk : k < p.chunks.length), p.chunks[k].offset = k * unit
  /-- No chunk is empty or longer than a unit. -/
  short : ∀ c ∈ p.chunks, 1 ≤ c.len ∧ c.len ≤ unit
  /-- All chunks but the last are one unit long. -/
  full : ∀ k (hk : k + 1 < p.chunks.length), p.chunks[k].len = unit
  /-- They follow one another without a gap, from the start of the segment to its end. -/
  tiles : Tiles 0 p.chunks total
  /-- Every byte of the segment is part of exactly one of them, and no other byte is part of
  any. -/
  once : ∀ b, p.chunks.countP (fun c => c.offset ≤ b ∧ b < c.offset + c.len)
    = if b < total then 1 else 0
  /-- Their ends have numbers, and so has their count. -/
  stops : ∀ c ∈ p.chunks, c.stop = .ok (c.offset + c.len)
  counted : p.chunks.length < Geometry.wordLimit

/-- A longest chunk of no bytes counts as one of one byte. -/
theorem start_max (total longest : Nat) : start total (max longest 1) = start total longest := by
  unfold start
  congr 1
  omega

/-- **Every segment is cut exactly**, whatever the longest chunk is. -/
theorem start_cuts (total longest : UInt64) :
    Cuts total.toNat (max longest.toNat 1) (start total.toNat longest.toNat) := by
  have pos : 0 < max longest.toNat 1 := by omega
  have top : total.toNat < Geometry.wordLimit := total.toNat_lt
  have closed := chunks_start_eq pos total.toNat
  rw [start_max] at closed
  have number : (start total.toNat longest.toNat).chunks.length
      = total.toNat ⌈/⌉ max longest.toNat 1 := by
    rw [closed, List.length_map, List.length_range]
  have tiles := tiles_start total.toNat longest.toNat
  have piece (k : Nat) (hk : k < (start total.toNat longest.toNat).chunks.length) :
      (start total.toNat longest.toNat).chunks[k] = ⟨k * max longest.toNat 1,
        min (max longest.toNat 1) (total.toNat - k * max longest.toNat 1)⟩ := by
    have here := List.getElem_of_eq closed hk
    rwa [List.getElem_map, List.getElem_range] at here
  have whole (c : Chunk) (hc : c ∈ (start total.toNat longest.toNat).chunks) := mem_chunks hc
  exact
    { number
      next := fun k => by rw [step_fst, chunks_after, List.head?_drop]
      coming := fun k => by rw [remaining_eq_length, chunks_after, List.length_drop, number]
      within := fun k => (after_within (Nat.zero_le _) k).1
      apart := fun k hk => by rw [piece k hk]
      short := fun c hc => ⟨(whole c hc).1, (whole c hc).2.1⟩
      full := fun k hk => by
        rw [piece k (Nat.lt_of_succ_lt hk)]
        refine Nat.min_eq_left ?_
        have next := mul_lt_of_lt_ceilDiv pos (number ▸ hk)
        rw [Nat.succ_mul] at next
        omega
      tiles
      once := fun b => by
        rw [tiles.countP_eq b]
        exact if_congr (and_iff_right (Nat.zero_le b)) rfl rfl
      stops := fun c hc => if_pos (Nat.lt_of_le_of_lt (whole c hc).2.2.2 top)
      counted := by
        refine Nat.lt_of_le_of_lt ?_ top
        rw [number]
        exact (ceilDiv_le_iff_le_mul pos).mpr (Nat.le_mul_of_pos_left _ pos) }

example : (((start 3 0).after 1).step.1, ((start 3 0).after 2).remaining) = (some ⟨1, 1⟩, 1) := by
  decide

end RemoteDisk.Chunk.Plan
