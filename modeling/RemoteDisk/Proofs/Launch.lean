import RemoteDisk.Proofs.Bare
import RemoteDisk.Transfer

/-!
# Starting a transfer

A transfer is described to an engine by six register writes and started by a
seventh. This module follows them: the halves that are written are joined
again to the values they were split from, so the engine notes exactly the
transfer it was given (`launch_apply`), and from there on its behaviour
decides. Whatever that is, the log has grown by this one transfer and the
rest of the bare machine is as it was (`launch_bare`).
-/

namespace RemoteDisk

/-- **A value is the join of its halves.** -/
theorem Halves.join_low_high (v : UInt64) : Halves.join (Halves.low v) (Halves.high v) = v := by
  have hi : v.toNat / 2 ^ 32 < 2 ^ 32 := by
    have := v.toNat_lt
    omega
  have lo : v.toNat % 2 ^ 32 < 2 ^ 32 := Nat.mod_lt _ (by decide)
  have parts : 2 ^ 32 * (v.toNat / 2 ^ 32) + v.toNat % 2 ^ 32 = v.toNat := Nat.div_add_mod _ _
  have high : 2 ^ 32 * (v.toNat / 2 ^ 32) < 2 ^ 64 := by omega
  have shift : UInt64.toNat 32 % 64 = 32 := by decide
  apply UInt64.toNat.inj
  unfold Halves.join Halves.low Halves.high
  rw [UInt64.toNat_or, UInt64.toNat_shiftLeft, UInt32.toNat_toUInt64, UInt32.toNat_toUInt64,
    UInt64.toNat_toUInt32, UInt64.toNat_toUInt32, UInt64.toNat_shiftRight, shift,
    Nat.shiftRight_eq_div_pow, Nat.mod_eq_of_lt hi, Nat.shiftLeft_eq, Nat.mul_comm,
    Nat.mod_eq_of_lt high, Nat.or_comm, ← Nat.two_pow_add_eq_or_of_lt lo, parts]

/-- Registers lie at offsets of their own. -/
theorem Register.eq_of_offset_div {r s : Register} (h : r.offset / 4 = s.offset / 4) : r = s := by
  cases r <;> cases s <;> first
    | rfl
    | exact absurd h (by decide)

/-- Every register lies in the engine's register space. -/
theorem Register.offset_div_lt (r : Register) : r.offset / 4 < 8 := by
  cases r <;> decide

namespace Engine

/-- **A register holds what was last written to it**, and a write to another
register leaves it. -/
theorem get_set (e : Engine) (r s : Register) (value : UInt32) :
    (e.set r.offset value).get s = if r = s then value else e.get s := by
  unfold set get read
  dsimp only
  rw [Vector.getElem?_setIfInBounds]
  by_cases h : r = s
  · rw [if_pos h, if_pos (congrArg (fun r : Register => r.offset / 4) h),
      if_pos r.offset_div_lt]
    rfl
  · rw [if_neg h, if_neg (fun same => h (Register.eq_of_offset_div same))]

/-- Only the control register starts anything. -/
theorem starts_of_ne_control {r : Register} (h : r ≠ .control) (value : UInt32) :
    starts r.offset value = false := by
  cases r with
  | control => exact absurd rfl h
  | _ => rfl

/-- The engine after the register writes of a list. -/
def writeAll (e : Engine) (writes : List (Register × UInt32)) : Engine :=
  writes.foldl (fun e w => e.set w.1.offset w.2) e

theorem writeAll_concat (e : Engine) (writes : List (Register × UInt32)) (r : Register)
    (value : UInt32) :
    e.writeAll (writes ++ [(r, value)]) = (e.writeAll writes).set r.offset value := by
  rw [writeAll, List.foldl_append]
  rfl

/-- **The engine as a transfer that was described to it is started.** -/
def begun (e : Engine) (t : Transfer) : Engine :=
  ((e.writeAll (Register.program t.source t.destination t.length)).set
    Register.control.offset Register.startBit).started t

/-- **The six writes describe the transfer they were made from.** -/
theorem programmed_writeAll (e : Engine) (t : Transfer) (value : UInt32) :
    ((e.writeAll (Register.program t.source t.destination t.length)).set
      Register.control.offset value).programmed = t := by
  simp only [programmed, writeAll, Register.program, List.foldl, get_set, reduceCtorEq, if_true,
    if_false, Halves.join_low_high]

/-- The engine with one more transfer in its log, and one behaviour less
laid out ahead. -/
def noted (t : Transfer) (e : Engine) : Engine := { e.takeBehavior with log := e.log.push t }

@[simp] theorem doneBits_takeBehavior (e : Engine) : e.takeBehavior.doneBits = e.doneBits := by
  unfold takeBehavior
  split <;> rfl

/-- **A start is noted in the log** and uses up a behaviour. -/
theorem bare_begun (e : Engine) (t : Transfer) : (e.begun t).bare = e.bare.noted t := by
  rcases e with ⟨_, _, _, _ | _⟩ <;> rfl

/-- Register writes leave the behaviours laid out ahead. -/
theorem takeBehavior_writeAll (e : Engine) (writes : List (Register × UInt32)) :
    (e.writeAll writes).takeBehavior.behavior = e.takeBehavior.behavior := by
  induction writes generalizing e with
  | nil => rfl
  | cons w writes ih =>
    refine (ih (e.set w.1.offset w.2)).trans ?_
    rcases e with ⟨_, _, _, _ | _⟩ <;> rfl

end Engine

namespace Machine

variable (m : Machine)

/-- The engine of a machine whose engine was changed. -/
theorem controller_mapEngine {m : Machine} {e : Engine} (engine : m.controller = .engine e)
    (f : Engine → Engine) : (m.mapEngine f).controller = .engine (f e) := by
  rw [mapEngine, engine]

theorem channel_mapEngine (f : Engine → Engine) : (m.mapEngine f).channel = m.channel := by
  rcases m with ⟨_ | _⟩ <;> rfl

theorem wire_mapEngine (f : Engine → Engine) : (m.mapEngine f).wire = m.wire := by
  rcases m with ⟨_ | _⟩ <;> rfl

theorem mapEngine_id : m.mapEngine (fun e => e) = m := by
  rcases m with ⟨_ | _⟩ <;> rfl

theorem mapEngine_mapEngine (f g : Engine → Engine) :
    (m.mapEngine f).mapEngine g = m.mapEngine (fun e => g (f e)) := by
  rcases m with ⟨_ | _⟩ <;> rfl

theorem resetSignal_mapEngine (f : Engine → Engine) :
    (m.mapEngine f).resetSignal = m.resetSignal.mapEngine f := by
  rcases m with ⟨_ | _⟩ <;> rfl

/-- **The machine as a transfer is started**, before the engine's behaviour
takes over: the slot is empty, the status register clear and the log longer
by the transfer. -/
def begun (t : Transfer) (m : Machine) : Machine :=
  ((m.report .trace ("[DMA] " ++ t.text)).resetSignal.mapEngine (fun e => e.begun t)).report
    .trace ("[EMU] start " ++ t.text)

end Machine

namespace Act

open Op

variable {m : Machine} {e : Engine}

/-- A register write that starts nothing. -/
theorem writeRegister_apply (engine : m.controller = .engine e) {offset : Nat} {value : UInt32}
    (h : Engine.starts offset value = false) :
    writeRegister offset value m = (.ok (), m.mapEngine (fun e => e.set offset value)) := by
  unfold writeRegister
  rw [bind_ok (get_apply m), engine]
  dsimp only
  rw [bind_ok (modify_apply _ m), h]
  rfl

/-- Writes that leave the control register alone only replace registers. -/
theorem writeAll_apply (writes : List (Register × UInt32)) (h : ∀ w ∈ writes, w.1 ≠ .control)
    (engine : m.controller = .engine e) :
    writeAll writes m = (.ok (), m.mapEngine (fun e => e.writeAll writes)) := by
  induction writes generalizing m e with
  | nil => exact congrArg (Prod.mk _) m.mapEngine_id.symm
  | cons w writes ih =>
    have quiet := Engine.starts_of_ne_control (h w List.mem_cons_self) w.2
    rw [writeAll, bind_ok (writeRegister_apply engine quiet),
      ih (fun w hw => h w (List.mem_cons_of_mem _ hw)) (Machine.controller_mapEngine engine _),
      Machine.mapEngine_mapEngine]
    rfl

/-- **A write that sets the start bit** makes the engine start what its
registers describe. -/
theorem writeControl_apply {t : Transfer} {value : UInt32} (engine : m.controller = .engine e)
    (bit : value &&& Register.startBit ≠ 0)
    (described : (e.set Register.control.offset value).programmed = t) :
    writeRegister Register.control.offset value m =
      behave (e.set Register.control.offset value).takeBehavior.behavior t
        ((m.mapEngine (fun e => (e.set Register.control.offset value).started t)).report .trace
          ("[EMU] start " ++ t.text)) := by
  have starts : Engine.starts Register.control.offset value = true := bne_iff_ne.mpr bit
  unfold writeRegister
  rw [bind_ok (get_apply m), engine]
  dsimp only
  rw [bind_ok (modify_apply _ m), if_pos starts, bind_ok (get_apply _),
    Machine.controller_mapEngine engine]
  dsimp only [start]
  rw [described, bind_ok (modify_apply _ _), Machine.mapEngine_mapEngine]
  rfl

/-- The start bit alone is such a write. -/
theorem setStart_apply {t : Transfer} (engine : m.controller = .engine e)
    (described : (e.set Register.control.offset Register.startBit).programmed = t) :
    setStart m =
      behave (e.set Register.control.offset Register.startBit).takeBehavior.behavior t
        ((m.mapEngine (fun e =>
          (e.set Register.control.offset Register.startBit).started t)).report .trace
            ("[EMU] start " ++ t.text)) :=
  writeControl_apply engine (by decide) described

/-- **A launch hands the engine the transfer it was asked for**, and the
engine's behaviour decides what becomes of it. -/
theorem launch_apply (engine : m.controller = .engine e) (t : Transfer) :
    launch t.source t.destination t.length m
      = behave e.takeBehavior.behavior t (m.begun t) := by
  -- all seven writes are followed together, up to the start they end in
  let writes := Register.program t.source t.destination t.length
  have next := e.takeBehavior_writeAll (writes ++ [(.control, Register.startBit)])
  rw [Engine.writeAll_concat] at next
  have reported : (m.report .trace ("[DMA] " ++ t.text)).controller = .engine e := engine
  have described : ((m.report .trace ("[DMA] " ++ t.text)).mapEngine
      (fun e => e.writeAll writes)).resetSignal.controller = .engine (e.writeAll writes) :=
    Machine.controller_mapEngine reported _
  unfold launch
  rw [report, bind_ok (modify_apply _ m), program,
    bind_ok (writeAll_apply writes (by simp [writes, Register.program]) reported),
    bind_ok (modify_apply _ _),
    setStart_apply described (e.programmed_writeAll t _), next,
    Machine.resetSignal_mapEngine, Machine.mapEngine_mapEngine]
  rfl

/-! ## What a launch leaves of the bare machine -/

theorem keeps_behave (b : Behavior) (t : Transfer) :
    Keeps Machine.bare (fun _ => True) (behave b t) := by
  cases b with
  | immediate => exact keeps_complete t
  | deferred us => exact keeps_modify (fun m => m.bare_mapEngine (fun e => e.bare_defer us t))
  | hang => exact keeps_modify (fun m => m.bare_release)
  | fault bits => exact keeps_modify (fun m => m.bare_finish bits)

/-- A copy finds a buffer where the transfer is no longer than the longest
one. -/
theorem copy_ok {t : Transfer} (short : t.length.toNat ≤ Engine.longestBuffer) (m : Machine) :
    ∃ reached m', copy t m = (.ok reached, m') := by
  rw [copy_apply, if_neg (Nat.not_lt.mpr short)]
  split
  · exact ⟨_, _, rfl⟩
  · exact ⟨_, _, rfl⟩

/-- **No behaviour of the engine ends in a fault** where the transfer is no
longer than the longest buffer. -/
theorem behave_ok {t : Transfer} (short : t.length.toNat ≤ Engine.longestBuffer)
    (b : Behavior) (m : Machine) : ∃ m', behave b t m = (.ok (), m') := by
  cases b with
  | immediate =>
    obtain ⟨reached, m', copied⟩ := copy_ok short m
    exact ⟨_, bind_ok copied⟩
  | deferred us => exact ⟨_, rfl⟩
  | hang => exact ⟨_, rfl⟩
  | fault bits => exact ⟨_, rfl⟩

end Act

theorem Machine.bare_begun (m : Machine) (t : Transfer) :
    (m.begun t).bare = m.bare.mapEngine (Engine.noted t) := by
  rcases m with ⟨_ | e⟩
  · rfl
  · simp only [begun, mapEngine, resetSignal, mapChannel, report, bare, Controller.bare,
      Engine.bare_begun]
    rfl

/-- **A launch ends well and adds one transfer to the engine's log.** Of the
bare machine nothing else changes. -/
theorem Act.launch_bare {m : Machine} {e : Engine} (engine : m.controller = .engine e)
    {t : Transfer} (short : t.length.toNat ≤ Engine.longestBuffer) :
    ∃ m', launch t.source t.destination t.length m = (.ok (), m')
      ∧ m'.bare = m.bare.mapEngine (Engine.noted t) := by
  rw [launch_apply engine]
  obtain ⟨m', run⟩ := behave_ok short e.takeBehavior.behavior (m.begun t)
  have kept := (keeps_behave e.takeBehavior.behavior t (m.begun t)).1
  rw [run, Machine.bare_begun] at kept
  exact ⟨m', run, kept⟩

end RemoteDisk
