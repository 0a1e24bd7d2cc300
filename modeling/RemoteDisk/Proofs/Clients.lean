import RemoteDisk.Proofs.Healthy
import Mathlib.Data.Set.BooleanAlgebra
import Mathlib.Data.Set.Disjoint
import Mathlib.Order.CompletePartialOrder
import Mathlib.Order.Interval.Set.Defs

/-!
# Clients that share a disk

Several clients use one healthy disk, each within sectors of its own, and
their requests are carried out one at a time in some order. Everything they
use is shared: one bounce buffer, one set of registers, one completion slot.
Nevertheless a client cannot tell that it is not alone.

The reason is a footprint. A request reads and writes remote memory within
its own sectors only (`Store.carryAll_agree`, `Store.carryAll_elsewhere`), and
of what else a request finds it looks at nothing. So the replies to a client
follow from its own sectors, and these from its own requests. Counters and the
length of the log are sums over all requests, and the order of the requests
does not matter to a sum.
-/

namespace RemoteDisk

/-! ## The footprint of a request -/

namespace Memory

variable {places : Set Nat} {m n : Memory}

/-- **Memories that agree** at some places. -/
def AgreeOn (places : Set Nat) (m n : Memory) : Prop := ∀ a ∈ places, n.byte a = m.byte a

theorem AgreeOn.write (h : m.AgreeOn places n) (address : Nat) (data : ByteArray) :
    (m.write address data).AgreeOn places (n.write address data) :=
  fun a ha => byte_write_congr (h a ha) address data

/-- A range within these places is read alike. -/
theorem AgreeOn.read (h : m.AgreeOn places n) {address count : Nat}
    (inside : ∀ i < count, address + i ∈ places) : n.read address count = m.read address count :=
  read_congr fun i hi => h _ (inside i hi)

end Memory

/-- **A piece that lies at some places** of a window. -/
def Piece.LiesIn (base : UInt64) (places : Set Nat) (p : Piece) : Prop :=
  ∀ i < p.size, p.remote - base.toNat + i ∈ places

namespace Store

variable {bounce : Buffer} {base : UInt64} {places : Set Nat} {ps : List Piece}

/-- **What pieces carry over follows from the places they lie at**: where these
agree, they do so afterwards, and the same bytes are delivered. -/
theorem carryAll_agree (lies : ∀ p ∈ ps, p.LiesIn base places) {s t : Store}
    (remote : s.remote.AgreeOn places t.remote) (delivered : t.delivered = s.delivered) :
    (s.carryAll bounce base ps).remote.AgreeOn places (t.carryAll bounce base ps).remote
      ∧ (t.carryAll bounce base ps).delivered = (s.carryAll bounce base ps).delivered := by
  induction ps generalizing s t with
  | nil => exact ⟨remote, delivered⟩
  | cons p ps ih =>
    have inside := lies p List.mem_cons_self
    have others := fun q hq => lies q (List.mem_cons_of_mem p hq)
    rcases p with ⟨place, offset, ⟨buffer, size⟩ | data⟩
    · have same : t.remote.read (place - base.toNat) size
          = s.remote.read (place - base.toNat) size := remote.read inside
      refine ih others remote ?_
      show t.delivered ++ [⟨buffer, offset, t.remote.read _ size⟩]
        = s.delivered ++ [⟨buffer, offset, s.remote.read _ size⟩]
      rw [delivered, same]
    · exact ih others (remote.write _ data) delivered

/-- **Pieces change nothing elsewhere.** -/
theorem carryAll_elsewhere (lies : ∀ p ∈ ps, p.LiesIn base places) {a : Nat} (ha : a ∉ places)
    (s : Store) : (s.carryAll bounce base ps).remote.byte a = s.remote.byte a := by
  induction ps generalizing s with
  | nil => rfl
  | cons p ps ih =>
    have inside := lies p List.mem_cons_self
    refine (ih (fun q hq => lies q (List.mem_cons_of_mem p hq)) _).trans ?_
    rcases p with ⟨place, offset, _ | data⟩
    · rfl
    · show (s.remote.write _ data).byte a = _
      rw [Memory.byte_write, dif_neg]
      rintro ⟨start, stop⟩
      refine ha ?_
      rw [← Nat.add_sub_cancel' start]
      exact inside _ (by show _ < data.size; omega)

end Store

/-! ## Sectors of one's own -/

/-- **A range of sectors**, from the first up to where it stops. -/
structure Extent where
  first : Nat
  stop : Nat

namespace Extent

/-- The sectors of a range. -/
def sectors (e : Extent) : Set Nat := Set.Ico e.first e.stop

/-- The places of its bytes in the window. -/
def places (e : Extent) : Set Nat := {a | a / Geometry.sectorSize ∈ e.sectors}

/-- **A request for these sectors**, or some of them. -/
structure Holds (e : Extent) (r : Request) : Prop where
  moves : r.operation.direction? ≠ none
  start : e.first ≤ r.sector.toNat
  stop : r.sector.toNat + r.sectors ≤ e.stop

variable {e : Extent} {d : Device} {r : Request}

/-- The pieces of a request lie within its sectors. -/
theorem Holds.liesIn (holds : e.Holds r) (sound : d.Sound) :
    ∀ p ∈ d.pieces r, p.LiesIn d.config.remoteBase e.places := by
  intro p hp i hi
  have sized : 0 < d.route.bounce.size := by
    show 0 < d.bounce.size
    rw [sound.size]
    decide
  obtain ⟨-, -, -, start, stop⟩ := Route.mem_pieces sized hp
  have first := holds.start
  have last := holds.stop
  have total : Segment.total r.segments.toList = r.segments.totalBytes := rfl
  have base : d.route.remoteBase = d.config.remoteBase := rfl
  show _ ∈ Set.Ico e.first e.stop
  unfold Route.address at start stop
  unfold Request.sectors at last
  unfold Geometry.sectorSize at *
  rw [base] at start stop
  rw [total] at stop
  constructor <;> omega

/-- A request for sectors of the disk is accepted. -/
theorem Holds.accepted (holds : e.Holds r) (inside : e.stop ≤ d.capacity) :
    d.inRange r = true :=
  Device.inRange_iff.mpr (Nat.le_trans holds.stop inside)

/-- The length of a request that an extent holds is a word. -/
theorem Holds.total (holds : e.Holds r) (sound : d.Sound) (inside : e.stop ≤ d.capacity) :
    r.segments.totalBytes < Geometry.wordLimit := by
  have stop := holds.stop
  have size := sound.sizeBytes
  have word := d.config.sizeBytes.toNat_lt
  unfold Device.sizeBytes at size
  unfold Request.sectors at stop
  unfold Geometry.sectorSize at *
  unfold Geometry.wordLimit
  omega

end Extent

/-! ## Turns -/

section Turns

variable {ι α : Type} [DecidableEq ι]

/-- **One client's part** of a list whose items are marked with their
clients. -/
def turns (i : ι) (items : List (ι × α)) : List α := (items.filter (·.1 = i)).map Prod.snd

theorem turns_cons (i j : ι) (x : α) (items : List (ι × α)) :
    turns i ((j, x) :: items) = if j = i then x :: turns i items else turns i items := by
  unfold turns
  by_cases h : j = i <;> simp [h]

/-- **Lists of which every client has the same part** differ in their order
alone. -/
theorem perm_of_turns {items others : List (ι × α)}
    (h : ∀ i, turns i others = turns i items) : others.Perm items := by
  classical
  have count (i : ι) (x : α) (l : List (ι × α)) : l.count (i, x) = (turns i l).count x := by
    induction l with
    | nil => rfl
    | cons item l ih =>
      obtain ⟨j, y⟩ := item
      rw [turns_cons, List.count_cons, ih]
      by_cases same : j = i <;> simp [same, List.count_cons]
  refine List.perm_iff_count.mpr fun ⟨i, x⟩ => ?_
  rw [count, count, h]

end Turns

/-! ## Requests of several clients -/

namespace Device

section Attend

variable {ι : Type} {d : Device} {m n : Machine} {r : Request} {e : Extent}

/-- **Requests of several clients carried out in order**, each answered to its
client. -/
def attend (d : Device) : List (ι × Request) → Machine → List (ι × Response) × Machine
  | [], m => ([], m)
  | (i, r) :: schedule, m =>
    let (reply, m) := d.answer r m
    let (replies, m) := d.attend schedule m
    ((i, reply) :: replies, m)

/-- **Clients that share a disk**: each owns sectors of it, no two the same
ones, and asks for its own. -/
structure Shares (d : Device) (own : ι → Extent) (schedule : List (ι × Request)) : Prop where
  apart : ∀ i j, i ≠ j → Disjoint (own i).sectors (own j).sectors
  inside : ∀ i, (own i).stop ≤ d.capacity
  holds : ∀ t ∈ schedule, (own t.1).Holds t.2

/-- A request for sectors of a healthy disk is carried out. -/
theorem Healthy.carries (healthy : d.Healthy m) (holds : e.Holds r) (inside : e.stop ≤ d.capacity) :
    (d.answer r m).1 = ⟨.ok .ok, .completed,
        r.buffersAfter ((storeOf m).carryAll d.bounce d.config.remoteBase (d.pieces r)).delivered⟩
      ∧ d.Carries r m (d.answer r m).2 :=
  healthy.answer holds.moves (holds.total healthy.sound inside) (holds.accepted inside)

/-- **A client cannot tell machines apart** that agree on its sectors: it is
answered alike, and they agree on its sectors again. -/
theorem Healthy.answer_agree (healthy : d.Healthy m) (healthy' : d.Healthy n)
    (holds : e.Holds r) (inside : e.stop ≤ d.capacity)
    (agree : m.window.memory.AgreeOn e.places n.window.memory) :
    (d.answer r n).1 = (d.answer r m).1
      ∧ (d.answer r m).2.window.memory.AgreeOn e.places (d.answer r n).2.window.memory := by
  obtain ⟨reply, carries⟩ := healthy.carries holds inside
  obtain ⟨reply', carries'⟩ := healthy'.carries holds inside
  obtain ⟨remote, delivered⟩ : _ ∧ ((storeOf n).carryAll d.bounce _ _).delivered = _ :=
    Store.carryAll_agree (holds.liesIn healthy.sound) (s := storeOf m) (t := storeOf n) agree rfl
  rw [reply, reply', delivered, carries.remote, carries'.remote]
  exact ⟨rfl, remote⟩

/-- **A client leaves the sectors of others alone.** -/
theorem Healthy.answer_elsewhere (healthy : d.Healthy m) (holds : e.Holds r)
    (inside : e.stop ≤ d.capacity) {a : Nat} (ha : a ∉ e.places) :
    (d.answer r m).2.window.memory.byte a = m.window.memory.byte a := by
  rw [(healthy.carries holds inside).2.remote]
  exact Store.carryAll_elsewhere (holds.liesIn healthy.sound) ha _

variable {own : ι → Extent} {schedule : List (ι × Request)} {i : ι} {t : ι × Request}

theorem Shares.head (shares : d.Shares own (t :: schedule)) : (own t.1).Holds t.2 :=
  shares.holds t List.mem_cons_self

theorem Shares.tail (shares : d.Shares own (t :: schedule)) : d.Shares own schedule :=
  { shares with holds := fun u hu => shares.holds u (List.mem_cons_of_mem t hu) }

/-- The bytes of two clients lie at different places. -/
theorem Shares.not_mem (shares : d.Shares own schedule) {j : ι} (other : j ≠ i) {a : Nat}
    (ha : a ∈ (own i).places) : a ∉ (own j).places :=
  fun ha' => Set.disjoint_left.mp (shares.apart j i other) ha' ha

/-- **All requests are carried out**, and the disk stays healthy. -/
theorem Healthy.attend_completed (healthy : d.Healthy m) (shares : d.Shares own schedule) :
    ∀ t ∈ (d.attend schedule m).1, t.2.status = .ok .ok ∧ t.2.phase = .completed := by
  induction schedule generalizing m with
  | nil => simp [attend]
  | cons t schedule ih =>
    obtain ⟨reply, carries⟩ := healthy.carries shares.head (shares.inside t.1)
    intro u hu
    rcases List.mem_cons.mp hu with rfl | hu
    · show (d.answer t.2 m).1.status = _ ∧ (d.answer t.2 m).1.phase = _
      rw [reply]
      exact ⟨rfl, rfl⟩
    · exact ih carries.healthy shares.tail u hu

/-- **What all requests leave**: one after another their transfers are in the
log, and each is counted. -/
theorem Healthy.attend_left (healthy : d.Healthy m) (shares : d.Shares own schedule) :
    (d.attend schedule m).2.transfers.toList = m.transfers.toList
        ++ schedule.flatMap (fun t => (d.pieces t.2).map (Piece.transfer d.bounce))
      ∧ (d.attend schedule m).2.counters
        = schedule.foldl (fun c t => d.charged m.rung c t.2) m.counters := by
  induction schedule generalizing m with
  | nil => simp [attend]
  | cons t schedule ih =>
    obtain ⟨-, carries⟩ := healthy.carries shares.head (shares.inside t.1)
    obtain ⟨log, counters⟩ := ih carries.healthy shares.tail
    constructor
    · show (d.attend schedule (d.answer t.2 m).2).2.transfers.toList = _
      rw [log, carries.log, List.flatMap_cons, List.append_assoc]
    · show (d.attend schedule (d.answer t.2 m).2).2.counters = _
      rw [counters, carries.counters, Machine.rung_congr carries.wire, List.foldl_cons]

/-- **Where nobody's sectors are**, nothing changes. -/
theorem Healthy.attend_elsewhere (healthy : d.Healthy m) (shares : d.Shares own schedule)
    {a : Nat} (ha : ∀ i, a ∉ (own i).places) :
    (d.attend schedule m).2.window.memory.byte a = m.window.memory.byte a := by
  induction schedule generalizing m with
  | nil => rfl
  | cons t schedule ih =>
    obtain ⟨-, carries⟩ := healthy.carries shares.head (shares.inside t.1)
    exact (ih carries.healthy shares.tail).trans
      (healthy.answer_elsewhere shares.head (shares.inside t.1) (ha t.1))

/-- **A client is served as if it were alone**: it is answered alike, and its
sectors hold the same bytes afterwards. -/
theorem Healthy.attend_alone [DecidableEq ι] (healthy : d.Healthy m) (healthy' : d.Healthy n)
    (shares : d.Shares own schedule) (i : ι)
    (agree : m.window.memory.AgreeOn (own i).places n.window.memory) :
    turns i (d.attend schedule m).1 = (answers d.answer (turns i schedule) n).1
      ∧ (d.attend schedule m).2.window.memory.AgreeOn (own i).places
        (answers d.answer (turns i schedule) n).2.window.memory := by
  induction schedule generalizing m n with
  | nil => exact ⟨rfl, agree⟩
  | cons t schedule ih =>
    obtain ⟨j, r⟩ := t
    have holds : (own j).Holds r := shares.head
    have inside := shares.inside j
    obtain ⟨-, carries⟩ := healthy.carries holds inside
    rw [turns_cons]
    by_cases mine : j = i
    · subst mine
      obtain ⟨-, carries'⟩ := healthy'.carries holds inside
      obtain ⟨reply, agree'⟩ := healthy.answer_agree healthy' holds inside agree
      obtain ⟨replies, last⟩ := ih carries.healthy carries'.healthy shares.tail agree'
      rw [if_pos rfl]
      refine ⟨?_, last⟩
      show turns j ((j, (d.answer r m).1) :: (d.attend schedule (d.answer r m).2).1)
        = (d.answer r n).1 :: (answers d.answer (turns j schedule) (d.answer r n).2).1
      rw [turns_cons, if_pos rfl, replies, reply]
    · -- the request of another leaves this client's sectors alone
      have agree' : (d.answer r m).2.window.memory.AgreeOn (own i).places n.window.memory :=
        fun a ha => (agree a ha).trans
          (healthy.answer_elsewhere holds inside (shares.not_mem mine ha)).symm
      obtain ⟨replies, last⟩ := ih carries.healthy healthy' shares.tail agree'
      rw [if_neg mine]
      refine ⟨?_, last⟩
      show turns i ((j, (d.answer r m).1) :: (d.attend schedule (d.answer r m).2).1) = _
      rw [turns_cons, if_neg mine, replies]

/-- It does not matter to the counters which of two requests comes first. -/
theorem charged_comm (rung : UInt64) (c : Counters) (r r' : Request) :
    d.charged rung (d.charged rung c r) r' = d.charged rung (d.charged rung c r') r := by
  have swap (x y z : UInt64) : x + y + z = x + z + y := by
    rw [UInt64.add_assoc, UInt64.add_comm y, ← UInt64.add_assoc]
  unfold charged
  rcases r.operation.direction? with _ | _ | _ <;> rcases r'.operation.direction? with _ | _ | _ <;>
    simp only [Direction.counted, swap]

/-- **Clients are independent.** Whatever order the requests of several clients
are carried out in, each is completed, every client is answered as if it were
alone, and the transfers of a request stand together in the log. Another order
that is the same to every client leaves the same bytes, the same counters and
as many transfers. -/
theorem clients_independent [DecidableEq ι] (healthy : d.Healthy m)
    (shares : d.Shares own schedule) :
    let run := d.attend schedule m
    (∀ t ∈ run.1, t.2.status = .ok .ok ∧ t.2.phase = .completed)
      ∧ (∀ i, turns i run.1 = (answers d.answer (turns i schedule) m).1)
      ∧ run.2.transfers.toList = m.transfers.toList
        ++ schedule.flatMap (fun t => (d.pieces t.2).map (Piece.transfer d.bounce))
      ∧ ∀ other : List (ι × Request), (∀ i, turns i other = turns i schedule) →
        let run' := d.attend other m
        (∀ a, run'.2.window.memory.byte a = run.2.window.memory.byte a)
          ∧ run'.2.counters = run.2.counters
          ∧ run'.2.transfers.size = run.2.transfers.size := by
  intro run
  have agree (i : ι) : m.window.memory.AgreeOn (own i).places m.window.memory := fun _ _ => rfl
  obtain ⟨log, counters⟩ := healthy.attend_left shares
  refine ⟨healthy.attend_completed shares,
    fun i => (healthy.attend_alone healthy shares i (agree i)).1, log, fun other same => ?_⟩
  have perm := perm_of_turns same
  have shares' : d.Shares own other :=
    { shares with holds := fun t ht => shares.holds t (perm.mem_iff.mp ht) }
  obtain ⟨log', counters'⟩ := healthy.attend_left shares'
  refine ⟨fun a => ?_, ?_, ?_⟩
  · by_cases mine : ∃ i, a ∈ (own i).places
    · -- both runs leave what the client would leave alone
      obtain ⟨i, ha⟩ := mine
      have alone := (healthy.attend_alone healthy shares i (agree i)).2 a ha
      have alone' := (healthy.attend_alone healthy shares' i (agree i)).2 a ha
      rw [same i] at alone'
      exact alone'.symm.trans alone
    · rw [not_exists] at mine
      exact (healthy.attend_elsewhere shares' mine).trans
        (healthy.attend_elsewhere shares mine).symm
  · rw [counters', counters]
    exact perm.foldl_eq' (fun t _ u _ c => charged_comm m.rung c t.2 u.2) m.counters
  · rw [← Array.length_toList, ← Array.length_toList, log', log, List.length_append,
      List.length_append, (perm.flatMap_right _).length_eq]

end Attend

/-- Two clients with a sector each: the second one's write comes between the
first one's write and read, or before both of them. -/
theorem clients_independent_two :
    ∃ d m, onBench { sizeBytes := 1024, errorMask := 0x10 } { clock := Clock.stepping }
        = (.ok (.ok d), m)
      ∧ turns false (d.attend [(false, .write 0 [⟨#[1, 2, 3]⟩]), (true, .write 1 [⟨#[4]⟩]),
          (false, .read 0 [⟨#[0, 0]⟩])] m).1
        = (answers d.answer [.write 0 [⟨#[1, 2, 3]⟩], .read 0 [⟨#[0, 0]⟩]] m).1
      ∧ (d.attend [(true, .write 1 [⟨#[4]⟩]), (false, .write 0 [⟨#[1, 2, 3]⟩]),
          (false, .read 0 [⟨#[0, 0]⟩])] m).2.counters
        = (d.attend [(false, .write 0 [⟨#[1, 2, 3]⟩]), (true, .write 1 [⟨#[4]⟩]),
          (false, .read 0 [⟨#[0, 0]⟩])] m).2.counters := by
  have brought : onBench { sizeBytes := 1024, errorMask := 0x10 } { clock := Clock.stepping }
      = (.ok (.ok ⟨{ sizeBytes := 1024, errorMask := 0x10 }, 2, some 33,
          ⟨0x80000000, Geometry.bounceSize⟩⟩), (onBench { sizeBytes := 1024, errorMask := 0x10 }
            { clock := Clock.stepping }).2) := Op.apply_eq rfl
  obtain ⟨-, healthy⟩ := onBench_healthy brought rfl (by decide) (by decide) (by decide)
    (.inl (by decide))
  let own : Bool → Extent := fun i => if i then ⟨1, 2⟩ else ⟨0, 1⟩
  have shares : Shares ⟨{ sizeBytes := 1024, errorMask := 0x10 }, 2, some 33,
      ⟨0x80000000, Geometry.bounceSize⟩⟩ own [(false, .write 0 [⟨#[1, 2, 3]⟩]),
        (true, .write 1 [⟨#[4]⟩]), (false, .read 0 [⟨#[0, 0]⟩])] := by
    refine ⟨?_, by decide, ?_⟩
    · intro i j other
      refine Set.disjoint_left.mpr fun a => ?_
      cases i <;> cases j <;> simp [own, Extent.sectors] at other ⊢ <;> omega
    · simp only [List.forall_mem_cons, List.not_mem_nil, false_imp_iff, implies_true, and_true]
      refine ⟨⟨?_, ?_, ?_⟩, ⟨?_, ?_, ?_⟩, ⟨?_, ?_, ?_⟩⟩ <;> decide +kernel
  obtain ⟨-, replies, -, orders⟩ := clients_independent healthy shares
  refine ⟨_, _, brought, replies false, (orders _ fun i => ?_).2.1⟩
  cases i <;> rfl

end Device

end RemoteDisk
