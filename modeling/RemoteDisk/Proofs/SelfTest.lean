import RemoteDisk.Command.Run
import RemoteDisk.Proofs.Steps

/-!
# What a self test that is passed tells

A self test writes three patterns that differ in every word, and clears the local
buffer that copies arrive in before each of them. So a copy that was not made is
found out where it should have arrived there. The remote range that the second
copy goes to is not cleared: what it held before may be the pattern it is to
receive, and then nobody notices if the engine finishes without copying
(`allAccept_iff`). This is all that a self test can overlook
(`run_passed`), and it does overlook it (`run_passed_without_copy`).

On an engine that copies, and whose transfers are noticed to end, a self test is
passed, and it leaves every byte but those of its five ranges alone
(`run_healthy`).
-/

namespace RemoteDisk.SelfTest

/-! ## Ranges that share no byte -/

/-- Two test ranges share no byte. -/
def Apart (a b : Nat) : Prop := a + testSize ≤ b ∨ b + testSize ≤ a

theorem Apart.symm {a b : Nat} (h : Apart a b) : Apart b a := Or.symm h

section Ranges

variable {address source destination : UInt64} {word : Nat → UInt32} {g : Nat → UInt8}
  {base : UInt32} {a b : Nat} {did : Transfer → Bool}

/-- A range that is filled with a pattern holds it. -/
theorem holds_filled (g : Nat → UInt8) (address : UInt64) (base : UInt32) :
    Holds (filled address (patternWord base) g) address.toNat base :=
  fun _ hi => word_filled hi g

/-- A range that is cleared holds no pattern but zero. -/
theorem not_holds_cleared (nonzero : base ≠ 0) :
    ¬Holds (filled address (fun _ => 0) g) address.toNat base := by
  intro holds
  have first := holds 0 (by decide)
  rw [word_filled (by decide)] at first
  exact nonzero (first.trans (UInt32.add_zero base)).symm

/-- Filling a range leaves the ranges that share no byte with it as they were. -/
theorem holds_filled_apart (apart : Apart a address.toNat) :
    Holds (filled address word g) a base ↔ Holds g a base := by
  have same (i : Nat) (hi : i < testWords) :
      Bus.word (filled address word g) (a + 4 * i) = Bus.word g (a + 4 * i) := by
    have within := word_within hi
    unfold Apart at apart
    exact Bus.word_lay_outside (by omega)
  exact forall₂_congr fun i hi => by rw [same i hi]

/-- **A range that is copied** holds what its source does. -/
theorem holds_carried : Holds (carried did source destination g) destination.toNat base
    ↔ if did (transferOf source destination) then Holds g source.toNat base
      else Holds g destination.toNat base := by
  unfold carried
  split
  · exact forall₂_congr fun i hi => by rw [show testSize = 4 * testWords from rfl, Bus.word_copy hi]
  · exact Iff.rfl

/-- Copying a range leaves the ranges that share no byte with its destination as they were. -/
theorem holds_carried_apart (apart : Apart a destination.toNat) :
    Holds (carried did source destination g) a base ↔ Holds g a base := by
  have same (i : Nat) (hi : i < testWords) :
      Bus.word (Bus.copy source.toNat destination.toNat testSize g) (a + 4 * i)
        = Bus.word g (a + 4 * i) := by
    have within := word_within hi
    unfold Apart at apart
    exact Bus.word_lay_outside (by omega)
  unfold carried
  split
  · exact forall₂_congr fun i hi => by rw [same i hi]
  · exact Iff.rfl

/-- Bytes outside a range that is filled are left alone. -/
theorem filled_outside (h : b < address.toNat ∨ address.toNat + testSize ≤ b) :
    filled address word g b = g b := Bus.lay_outside h

/-- Bytes outside the destination of a copy are left alone. -/
theorem carried_outside (h : b < destination.toNat ∨ destination.toNat + testSize ≤ b) :
    carried did source destination g b = g b := by
  unfold carried
  split
  · exact Bus.lay_outside h
  · rfl

end Ranges

/-- **The five ranges of a self test share no byte.** -/
structure Layout.Disjoint (layout : Layout) : Prop where
  nearby : layout.locals.Pairwise fun a b => Apart a.toNat b.toNat
  remote : ∀ a ∈ layout.locals, Apart a.toNat layout.remoteBase.toNat
  target : ∀ a ∈ layout.locals, Apart a.toNat layout.target.toNat
  distant : Apart layout.remoteBase.toNat layout.target.toNat

namespace Layout.Disjoint

variable {layout : Layout}

theorem first_second (d : layout.Disjoint) : Apart layout.first.toNat layout.second.toNat :=
  (List.pairwise_cons.mp d.nearby).1 _ List.mem_cons_self

theorem first_third (d : layout.Disjoint) : Apart layout.first.toNat layout.third.toNat :=
  (List.pairwise_cons.mp d.nearby).1 _ (List.mem_cons_of_mem _ List.mem_cons_self)

theorem second_third (d : layout.Disjoint) : Apart layout.second.toNat layout.third.toNat :=
  (List.pairwise_cons.mp (List.pairwise_cons.mp d.nearby).2).1 _ List.mem_cons_self

end Layout.Disjoint

/-- Ranges inside the window and ranges outside it share no byte. -/
theorem Layout.Fits.disjoint {layout : Layout} {buffers : List Buffer} {m : Machine}
    (fits : layout.Fits buffers m)
    (at_ : layout.target.toNat = layout.remoteBase.toNat + remoteOffset) : layout.Disjoint := by
  have room := fits.room
  have base := congrArg UInt64.toNat fits.base
  have wide : testSize ≤ remoteOffset := by decide
  refine ⟨fits.apart, fun a ha => ?_, fun a ha => ?_, .inl ?_⟩
  · have outside := fits.outside a ha
    unfold Apart
    omega
  · have outside := fits.outside a ha
    unfold Apart
    omega
  · omega

/-! ## What the steps find -/

section Contents

variable (layout : Layout) (did : Nat → Transfer → Bool) (g : Nat → UInt8)

/-- Memory after the local buffers were prepared. -/
def prepared : Nat → UInt8 :=
  filled layout.third (fun _ => 0) (filled layout.second (patternWord secondPattern)
    (filled layout.first (patternWord firstPattern)
      (filled layout.remoteBase (patternWord remotePattern) g)))

/-- Memory before the copy to the remote range. -/
def cleared : Nat → UInt8 :=
  filled layout.third (fun _ => 0) (carried (did 0) layout.first layout.third (prepared layout g))

/-- Memory after the copy to the remote range. -/
def stored : Nat → UInt8 :=
  carried (did 1) layout.second layout.target (cleared layout did g)

/-- Memory after the copy back. -/
def returned : Nat → UInt8 :=
  carried (did 2) layout.target layout.third (stored layout did g)

/-- The steps leave memory as it is after the copy back. -/
theorem contentsAfter_all :
    contentsAfter layout layout.target did Step.all g = returned layout did g := rfl

variable {layout did g} {base : UInt32} (d : layout.Disjoint)
include d

/-- The processor's remote pattern lies where it was written. -/
theorem prepared_remote :
    Holds (prepared layout g) layout.remoteBase.toNat remotePattern :=
  (holds_filled_apart (d.remote _ Layout.third_mem).symm).mpr
    ((holds_filled_apart (d.remote _ Layout.second_mem).symm).mpr
      ((holds_filled_apart (d.remote _ Layout.first_mem).symm).mpr (holds_filled _ _ _)))

/-- The first local buffer is prepared with the first local pattern. -/
theorem prepared_first : Holds (prepared layout g) layout.first.toNat firstPattern :=
  (holds_filled_apart d.first_third).mpr
    ((holds_filled_apart d.first_second).mpr (holds_filled _ _ _))

/-- The second local buffer is prepared with the second local pattern. -/
theorem prepared_second : Holds (prepared layout g) layout.second.toNat secondPattern :=
  (holds_filled_apart d.second_third).mpr (holds_filled _ _ _)

/-- **The remote range that the engine copies to** is as it was at first. -/
theorem prepared_target :
    Holds (prepared layout g) layout.target.toNat base ↔ Holds g layout.target.toNat base := by
  unfold prepared
  rw [holds_filled_apart (d.target _ Layout.third_mem).symm,
    holds_filled_apart (d.target _ Layout.second_mem).symm,
    holds_filled_apart (d.target _ Layout.first_mem).symm, holds_filled_apart d.distant.symm]

/-- **The first copy is found** where it was made. -/
theorem first_found :
    Holds (carried (did 0) layout.first layout.third (prepared layout g)) layout.third.toNat
      firstPattern ↔ did 0 (transferOf layout.first layout.third) = true := by
  rw [holds_carried]
  split
  · next made => exact ⟨fun _ => made, fun _ => prepared_first d⟩
  · next skipped =>
    exact ⟨fun holds => absurd holds (not_holds_cleared (by decide)), fun made =>
      absurd made skipped⟩

omit d in
/-- The third buffer is cleared before the copy to the remote range. -/
theorem cleared_third (nonzero : base ≠ 0) :
    ¬Holds (cleared layout did g) layout.third.toNat base := not_holds_cleared nonzero

theorem cleared_second : Holds (cleared layout did g) layout.second.toNat secondPattern :=
  (holds_filled_apart d.second_third).mpr
    ((holds_carried_apart d.second_third).mpr (prepared_second d))

theorem cleared_target :
    Holds (cleared layout did g) layout.target.toNat base ↔ Holds g layout.target.toNat base := by
  unfold cleared
  rw [holds_filled_apart (d.target _ Layout.third_mem).symm,
    holds_carried_apart (d.target _ Layout.third_mem).symm, prepared_target d]

/-- **The second pattern lies in the remote range** where it was copied there, or
where it had been there before. -/
theorem stored_target :
    Holds (stored layout did g) layout.target.toNat secondPattern
      ↔ did 1 (transferOf layout.second layout.target) = true
        ∨ Holds g layout.target.toNat secondPattern := by
  unfold stored
  rw [holds_carried, cleared_target d]
  split
  · next made => exact ⟨fun _ => .inl made, fun _ => cleared_second d⟩
  · next skipped => exact ⟨.inr, fun h => h.resolve_left skipped⟩

theorem returned_target :
    Holds (returned layout did g) layout.target.toNat secondPattern
      ↔ Holds (stored layout did g) layout.target.toNat secondPattern :=
  holds_carried_apart (d.target _ Layout.third_mem).symm

/-- **The second pattern comes back** where the engine copies it back from the remote range. -/
theorem returned_third :
    Holds (returned layout did g) layout.third.toNat secondPattern
      ↔ did 2 (transferOf layout.target layout.third) = true
        ∧ Holds (stored layout did g) layout.target.toNat secondPattern := by
  unfold returned
  rw [holds_carried]
  split
  · next made => exact ⟨fun holds => ⟨made, holds⟩, fun h => h.2⟩
  · next skipped =>
    have blank : ¬Holds (stored layout did g) layout.third.toNat secondPattern := by
      unfold stored
      rw [holds_carried_apart (d.target _ Layout.third_mem)]
      exact cleared_third (by decide)
    exact ⟨fun holds => absurd holds blank, fun h => absurd h.1 skipped⟩

omit d in
/-- Ranges that the engine copies nothing to are as they were prepared. -/
theorem returned_apart {a : Nat} (third : Apart a layout.third.toNat)
    (target : Apart a layout.target.toNat) :
    Holds (returned layout did g) a base ↔ Holds (prepared layout g) a base := by
  unfold returned stored cleared
  rw [holds_carried_apart third, holds_carried_apart target, holds_filled_apart third,
    holds_carried_apart third]

omit d in
/-- Bytes in none of the five ranges are as they were at first. -/
theorem returned_outside {b : Nat}
    (h : ∀ a ∈ layout.remoteBase :: layout.target :: layout.locals,
      b < a.toNat ∨ a.toNat + testSize ≤ b) : returned layout did g b = g b := by
  have remote := h _ List.mem_cons_self
  have target := h _ (List.mem_cons_of_mem _ List.mem_cons_self)
  have nearby {a : UInt64} (ha : a ∈ layout.locals) :=
    h a (List.mem_cons_of_mem _ (List.mem_cons_of_mem _ ha))
  unfold returned stored cleared prepared
  rw [carried_outside (nearby Layout.third_mem), carried_outside target,
    filled_outside (nearby Layout.third_mem), carried_outside (nearby Layout.third_mem),
    filled_outside (nearby Layout.third_mem), filled_outside (nearby Layout.second_mem),
    filled_outside (nearby Layout.first_mem), filled_outside remote]

/-- **What all steps want to find**: the first and the last copy have to be made,
and the second too, unless the pattern was there before. -/
theorem allAccept_iff :
    AllAccept layout layout.target did Step.all g
      ↔ did 0 (transferOf layout.first layout.third) = true
        ∧ (did 1 (transferOf layout.second layout.target) = true
          ∨ Holds g layout.target.toNat secondPattern)
        ∧ did 2 (transferOf layout.target layout.third) = true := by
  have written : Holds (filled layout.remoteBase (patternWord remotePattern) g)
      layout.remoteBase.toNat remotePattern := holds_filled _ _ _
  have steps : AllAccept layout layout.target did Step.all g
      ↔ True ∧ Holds (filled layout.remoteBase (patternWord remotePattern) g)
          layout.remoteBase.toNat remotePattern ∧ True
        ∧ Holds (carried (did 0) layout.first layout.third (prepared layout g))
          layout.third.toNat firstPattern ∧ True
        ∧ Holds (returned layout did g) layout.third.toNat secondPattern
        ∧ Holds (returned layout did g) layout.target.toNat secondPattern ∧ True := Iff.rfl
  rw [steps, first_found d, returned_third d, returned_target d, stored_target d]
  constructor
  · rintro ⟨-, -, -, first, -, ⟨last, second⟩, -⟩
    exact ⟨first, second, last⟩
  · rintro ⟨first, second, last⟩
    exact ⟨trivial, written, trivial, first, trivial, ⟨last, second⟩, second, trivial⟩

end Contents

/-! ## The transfers and what they reach -/

section Verdict

variable {layout : Layout} {buffers : List Buffer} {m m' : Machine}

/-- The transfers of a self test, in order. -/
theorem transfers_all (layout : Layout) :
    Step.all.flatMap (·.transfers layout layout.target) = [transferOf layout.first layout.third,
      transferOf layout.second layout.target, transferOf layout.target layout.third] := rfl

/-- A property of the first three starts and the transfers they are made with. -/
theorem transfers_all_forall {P : Nat → Transfer → Prop}
    (first : P 0 (transferOf layout.first layout.third))
    (second : P 1 (transferOf layout.second layout.target))
    (last : P 2 (transferOf layout.target layout.third)) (n : Nat) (t : Transfer)
    (h : (Step.all.flatMap (·.transfers layout layout.target))[n]? = some t) : P n t := by
  rw [transfers_all] at h
  rcases n with _ | _ | _ | n
  · obtain rfl := Option.some.inj h
    exact first
  · obtain rfl := Option.some.inj h
    exact second
  · obtain rfl := Option.some.inj h
    exact last
  · cases h

namespace Layout.Fits

/-- The engine reaches a local range, unless it starts at zero. -/
theorem reaches_nearby (fits : layout.Fits buffers m) {a : UInt64} (h : a ∈ layout.locals)
    (nonzero : a ≠ 0) : m.window.locate a (UInt64.ofNat testSize).toNat ≠ .invalid := by
  have outside := fits.outside a h
  have pos : 0 < testSize := by decide
  rw [Window.locate_nearby nonzero (by omega)]
  exact Target.noConfusion

/-- The engine reaches the remote range that it copies to. -/
theorem reaches_target (fits : layout.Fits buffers m)
    (at_ : layout.target.toNat = layout.remoteBase.toNat + remoteOffset) :
    m.window.locate layout.target (UInt64.ofNat testSize).toNat ≠ .invalid := by
  have room := fits.room
  have base := congrArg UInt64.toNat fits.base
  have size : (UInt64.ofNat testSize).toNat = testSize := by decide
  rw [size, Window.locate_remote (by decide) (by omega) (by omega)]
  exact Target.noConfusion

/-- **An engine that copies at every start** performs all three transfers. -/
theorem performs (fits : layout.Fits buffers m)
    (at_ : layout.target.toNat = layout.remoteBase.toNat + remoteOffset)
    (immediate : ∀ n < 3, m.behaviorAt n = some .immediate)
    (nonzero : ∀ a ∈ layout.locals, a ≠ 0) :
    m.Performs 0 (transferOf layout.first layout.third)
      ∧ m.Performs 1 (transferOf layout.second layout.target)
      ∧ m.Performs 2 (transferOf layout.target layout.third) := by
  have nearby {a : UInt64} (h : a ∈ layout.locals) := fits.reaches_nearby h (nonzero a h)
  have distant := fits.reaches_target at_
  exact ⟨⟨immediate 0 (by decide), decide_eq_true ⟨nearby first_mem, nearby third_mem⟩⟩,
    ⟨immediate 1 (by decide), decide_eq_true ⟨nearby second_mem, distant⟩⟩,
    ⟨immediate 2 (by decide), decide_eq_true ⟨distant, nearby third_mem⟩⟩⟩

end Layout.Fits

end Verdict

/-! ## A small machine -/

/-- Three pages of local memory and the window of a small machine. -/
def sampleLayout : Layout := ⟨0x200000000, 0x80000000, 0x80001000, 0x80002000⟩

/-- A buffer on each of the pages. -/
def sampleBuffers : List Buffer :=
  [⟨0x80000000, 256⟩, ⟨0x80001000, 256⟩, ⟨0x80002000, 256⟩]

/-- A machine that polls, with these behaviours laid out for its engine. -/
def sample (upcoming : List Behavior) : Machine :=
  { Command.freshMachine with
    controller := .engine { doneBits := Status.diskDone, upcoming }
    window := { base := 0x200000000, size := 0x2000 }
    channel := { mode := .polling 10 }
    processor := { view := .buffers sampleBuffers } }

section Sample

variable (upcoming : List Behavior)

theorem sample_fits : sampleLayout.Fits sampleBuffers (sample upcoming) where
  base := rfl
  room := show remoteOffset + testSize ≤ 0x2000 by decide
  outside := Layout.locals_forall (.inl (show (0x80000000 : UInt64).toNat + testSize
      ≤ (0x200000000 : UInt64).toNat by decide))
    (.inl (show (0x80001000 : UInt64).toNat + testSize ≤ (0x200000000 : UInt64).toNat by decide))
    (.inl (show (0x80002000 : UInt64).toNat + testSize ≤ (0x200000000 : UInt64).toNat by decide))
  held := Layout.locals_forall (by decide) (by decide) (by decide)
  apart := by decide
  sees := ⟨rfl, rfl⟩
  engine := ⟨_, rfl⟩
  pending := rfl

theorem sample_clear : sampleLayout.Clear where
  remote := by decide
  nearby := Layout.locals_forall (by decide) (by decide) (by decide)

theorem sample_attentive : (sample upcoming).Attentive where
  engine := ⟨_, rfl, .polling (fun h => nomatch h)
      (show Status.shows Status.diskDone Status.diskDone = true by decide),
    show Status.shows Status.diskDone 0 = false by decide⟩
  events := rfl

theorem sample_nonzero : ∀ a ∈ sampleLayout.locals, a ≠ 0 :=
  Layout.locals_forall (by decide) (by decide) (by decide)

end Sample

/-! ## Passed, but not copied -/

section Verdict

variable {layout : Layout} {buffers : List Buffer} {m m' : Machine}

/-- **A self test that is passed** has started its three transfers, and the engine
has copied the first and the last of them. It has copied the second too, unless
the remote range held the pattern before.

This holds whatever the clock, what happens at its reads and the bits that are
looked for are, and wherever the bytes of memory come from. -/
theorem run_passed {report : Report} (fits : layout.Fits buffers m)
    (now : ∀ n < 3, ∀ b, m.behaviorAt n = some b → b.isSynchronous = true)
    (h : run layout m = (.ok report, m')) (passed : report.passed = true) :
    m'.transfers.toList = m.transfers.toList ++ [transferOf layout.first layout.third,
        transferOf layout.second layout.target, transferOf layout.target layout.third]
      ∧ m.Performs 0 (transferOf layout.first layout.third)
      ∧ (m.Performs 1 (transferOf layout.second layout.target)
        ∨ Holds m.bus layout.target.toNat secondPattern)
      ∧ m.Performs 2 (transferOf layout.target layout.third) := by
  obtain ⟨at_, left, accept⟩ := run_leaves fits now h passed
  obtain ⟨first, second, last⟩ := (allAccept_iff (fits.disjoint at_)).mp accept
  exact ⟨left.transfers, Machine.copies_eq_true.mp first, second.imp_left
    Machine.copies_eq_true.mp, Machine.copies_eq_true.mp last⟩

/-- The small machine, whose engine copies at every start, passes its self test. -/
theorem run_passed_small : ∃ m', run sampleLayout (sample []) = (.ok Report.allPassed, m')
    ∧ m'.transfers.toList = (sample []).transfers.toList
      ++ [transferOf 0x80000000 0x80002000, transferOf 0x80001000 0x200001000,
        transferOf 0x200001000 0x80002000]
    ∧ (sample []).Performs 0 (transferOf 0x80000000 0x80002000)
    ∧ ((sample []).Performs 1 (transferOf 0x80001000 0x200001000)
      ∨ Holds (sample []).bus 0x200001000 secondPattern)
    ∧ (sample []).Performs 2 (transferOf 0x200001000 0x80002000) := by
  have immediate (n : Nat) (_ : n < 3) : (sample []).behaviorAt n = some .immediate :=
    congrArg some (Engine.behaviorAt_of_none rfl n)
  have fits := sample_fits []
  obtain ⟨first, second, last⟩ :=
    fits.performs sample_clear.target immediate sample_nonzero
  obtain ⟨m', passed⟩ := run_ok fits sample_clear (sample_attentive [])
    (transfers_all_forall (.inl first) (.inl second) (.inl last))
    ((allAccept_iff (fits.disjoint sample_clear.target)).mpr
      ⟨Machine.copies_eq_true.mpr first, .inl (Machine.copies_eq_true.mpr second),
        Machine.copies_eq_true.mpr last⟩)
  exact ⟨m', passed, run_passed fits (fun n hn b hb => by
    obtain rfl := Option.some.inj ((immediate n hn).symm.trans hb)
    rfl) passed (by decide)⟩

/-- **What a self test overlooks**: the second transfer is finished without a copy,
with bits that are not looked for, where the remote range holds the pattern
already. -/
theorem run_overlooks {bits : UInt32} (fits : layout.Fits buffers m) (clear : layout.Clear)
    (attentive : m.Attentive) (first : m.Performs 0 (transferOf layout.first layout.third))
    (second : m.behaviorAt 1 = some (.fault bits))
    (unseen : Status.shows bits m.channel.errorMask = false)
    (held : Holds m.bus layout.target.toNat secondPattern)
    (last : m.Performs 2 (transferOf layout.target layout.third)) :
    ∃ m', run layout m = (.ok Report.allPassed, m') :=
  run_ok fits clear attentive
    (transfers_all_forall (.inl first) (.inr ⟨bits, second, unseen⟩) (.inl last))
    ((allAccept_iff (fits.disjoint clear.target)).mpr
      ⟨Machine.copies_eq_true.mpr first, .inr held, Machine.copies_eq_true.mpr last⟩)

/-- The words of the second pattern, as they lie in memory. -/
def secondBytes : ByteArray :=
  ⟨((List.range testSize).map (Bus.spell (patternWord secondPattern))).toArray⟩

/-- **A small machine whose engine skips the second transfer**, and whose remote
memory holds already what that transfer was to bring. -/
def stale : Machine :=
  (sample [.immediate, .fault 0, .immediate]).store (.remote remoteOffset) secondBytes

/-- Only its bytes tell it from the machine that was never used. -/
theorem stale_leaves : (sample [.immediate, .fault 0, .immediate]).Leaves [] []
    (filled sampleLayout.target (patternWord secondPattern)
      (sample [.immediate, .fault 0, .immediate]).bus) stale :=
  have served := (sample_fits [.immediate, .fault 0, .immediate]).distant sample_clear.target
  .of_bare (Machine.bare_store _ _ _) (Machine.pending_store _ _ _)
    (Machine.bus_store served (by decide) List.toList_toArray)

/-- **A self test can be passed although a transfer was skipped**: that every
transfer of a test that is passed was copied is not true. -/
theorem run_passed_without_copy :
    ¬∀ (layout : Layout) (buffers : List Buffer) (m m' : Machine) (report : Report),
      layout.Fits buffers m →
      (∀ n < 3, ∀ b, m.behaviorAt n = some b → b.isSynchronous = true) →
      run layout m = (.ok report, m') → report.passed = true →
      m.Performs 0 (transferOf layout.first layout.third)
        ∧ m.Performs 1 (transferOf layout.second layout.target)
        ∧ m.Performs 2 (transferOf layout.target layout.third) := by
  intro claim
  have left := stale_leaves
  have fits := (sample_fits _).leaves left
  have nearby {a : UInt64} (h : a ∈ sampleLayout.locals) :=
    fits.reaches_nearby h (sample_nonzero a h)
  have distant := fits.reaches_target sample_clear.target
  have held : Holds stale.bus sampleLayout.target.toNat secondPattern := by
    rw [left.bus]
    exact holds_filled _ _ _
  have second : stale.behaviorAt 1 = some (.fault 0) := rfl
  obtain ⟨m', passed⟩ := run_overlooks fits sample_clear
    ((sample_attentive _).congr left.setting)
    ⟨rfl, decide_eq_true ⟨nearby Layout.first_mem, nearby Layout.third_mem⟩⟩ second
    (Status.shows_zero _) held
    ⟨rfl, decide_eq_true ⟨distant, nearby Layout.third_mem⟩⟩
  have synchronous (n : Nat) (hn : n < 3) (b : Behavior) (hb : stale.behaviorAt n = some b) :
      b.isSynchronous = true := by
    rcases n with _ | _ | _ | n
    · obtain rfl := Option.some.inj hb
      rfl
    · obtain rfl := Option.some.inj hb
      rfl
    · obtain rfl := Option.some.inj hb
      rfl
    · omega
  obtain ⟨-, ⟨copied, -⟩, -⟩ := claim _ _ _ m' _ fits synchronous passed (by decide)
  cases copied

/-! ## On an engine that works -/

/-- **What a self test leaves behind**, where the engine works. -/
structure Layout.Done (layout : Layout) (m m' : Machine) : Prop where
  /-- Three transfers were started: to a local buffer, to remote memory and back. -/
  transfers : m'.transfers.toList = m.transfers.toList
    ++ [⟨layout.first, layout.third, 256⟩, ⟨layout.second, layout.target, 256⟩,
      ⟨layout.target, layout.third, 256⟩]
  /-- Eleven ranges were flushed. -/
  flushes : m'.flushes.toList = m.flushes.toList
    ++ [layout.remoteBase, layout.first, layout.second, layout.third, layout.first, layout.third,
      layout.third, layout.second, layout.target, layout.target, layout.third].map
        fun address => ⟨address, 256⟩
  /-- The start of remote memory holds the remote pattern. -/
  remote : Holds m'.bus layout.remoteBase.toNat 0xAA000000
  /-- The first local buffer holds the first local pattern. -/
  first : Holds m'.bus layout.first.toNat 0xBB000000
  /-- The second local buffer holds the second local pattern. -/
  second : Holds m'.bus layout.second.toNat 0xCC000000
  /-- The third local buffer holds the second local pattern. -/
  third : Holds m'.bus layout.third.toNat 0xCC000000
  /-- The remote range that was copied to holds the second local pattern. -/
  target : Holds m'.bus layout.target.toNat 0xCC000000
  /-- No other byte has changed. -/
  elsewhere : ∀ b, (∀ a ∈ layout.remoteBase :: layout.target :: layout.locals,
    b < a.toNat ∨ a.toNat + 256 ≤ b) → m'.bus b = m.bus b

/-- **On an engine that works a self test is passed**, wherever its ranges lie and
whatever they hold at first: the engine copies at every start, the end of its
transfers is noticed, and its done bits are no error bits. -/
theorem run_healthy (fits : layout.Fits buffers m) (clear : layout.Clear)
    (attentive : m.Attentive) (immediate : ∀ n < 3, m.behaviorAt n = some .immediate)
    (nonzero : ∀ a ∈ layout.locals, a ≠ 0) :
    ∃ m', run layout m = (.ok Report.allPassed, m') ∧ layout.Done m m' := by
  obtain ⟨first, second, last⟩ := fits.performs clear.target immediate nonzero
  have did₀ := Machine.copies_eq_true.mpr first
  have did₁ := Machine.copies_eq_true.mpr second
  have did₂ := Machine.copies_eq_true.mpr last
  have apart := fits.disjoint clear.target
  obtain ⟨m', passed⟩ := run_ok fits clear attentive
    (transfers_all_forall (.inl first) (.inl second) (.inl last))
    ((allAccept_iff apart).mpr ⟨did₀, .inl did₁, did₂⟩)
  obtain ⟨-, left, -⟩ := run_leaves fits
    (fun n hn b hb => by
      obtain rfl := Option.some.inj ((immediate n hn).symm.trans hb)
      rfl) passed (by decide)
  have target := (stored_target (g := m.bus) apart).mpr (.inl did₁)
  refine ⟨m', passed, left.transfers, left.flushes, ?_, ?_, ?_, ?_, ?_, ?_⟩
  all_goals rw [left.bus, contentsAfter_all]
  · exact (returned_apart (apart.remote _ Layout.third_mem).symm apart.distant).mpr
      (prepared_remote apart)
  · exact (returned_apart apart.first_third (apart.target _ Layout.first_mem)).mpr
      (prepared_first apart)
  · exact (returned_apart apart.second_third (apart.target _ Layout.second_mem)).mpr
      (prepared_second apart)
  · exact (returned_third apart).mpr ⟨did₂, target⟩
  · exact (returned_target apart).mpr target
  · exact fun b hb => returned_outside hb

/-- The small machine passes its self test and is left as that leaves an engine that works. -/
theorem run_healthy_small :
    ∃ m', run sampleLayout (sample []) = (.ok Report.allPassed, m')
      ∧ sampleLayout.Done (sample []) m' :=
  run_healthy (sample_fits []) sample_clear (sample_attentive [])
    (fun n _ => congrArg some (Engine.behaviorAt_of_none rfl n)) sample_nonzero

end Verdict

end RemoteDisk.SelfTest
