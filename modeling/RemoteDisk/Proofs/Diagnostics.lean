import RemoteDisk.Device.Diagnostics
import RemoteDisk.Proofs.Probe

/-!
# Answers to diagnostic commands

A command's answer is made of words, and its bytes read back as these words
(`Bytes.toCounters_ofCounters`). The buffer is measured against a table before the
command runs, and the answer is copied out after it; that the table and the answer
agree for every command (`Diagnostic.answerSize_eq`) is why copying it out cannot
fault any more. So a command is either refused and changes nothing, or answered in
full (`Device.ioctl_exactly`).
-/

namespace RemoteDisk

/-! ## Bytes and words -/

namespace Bytes

/-- Words laid out one after the other, eight bytes each. -/
def ofCounters (ns : List UInt64) : List UInt8 := ns.flatMap fun n => ofNat 8 n.toNat

/-- **The words that bytes stand for**, eight bytes each with the least
significant first. Fewer than eight bytes at the end are no word. -/
def toCounters : List UInt8 → List UInt64
  | b₀ :: b₁ :: b₂ :: b₃ :: b₄ :: b₅ :: b₆ :: b₇ :: rest =>
    UInt64.ofNat (toNat [b₀, b₁, b₂, b₃, b₄, b₅, b₆, b₇]) :: toCounters rest
  | _ => []

/-- The word in front of others is read first. -/
theorem toCounters_append (n : UInt64) (rest : List UInt8) :
    toCounters (ofNat 8 n.toNat ++ rest) = n :: toCounters rest := by
  have word : UInt64.ofNat (toNat (ofNat 8 n.toNat)) = n := by
    rw [toNat_ofNat, Nat.mod_eq_of_lt n.toNat_lt, UInt64.ofNat_toNat]
  exact congrArg (· :: toCounters rest) word

/-- **Words that were laid out** read back as they were. -/
theorem toCounters_ofCounters (ns : List UInt64) : toCounters (ofCounters ns) = ns := by
  induction ns with
  | nil => rfl
  | cons n ns ih =>
    unfold ofCounters at ih ⊢
    rw [List.flatMap_cons, toCounters_append, ih]

/-- A word takes eight bytes. -/
theorem length_ofCounters (ns : List UInt64) : (ofCounters ns).length = 8 * ns.length := by
  induction ns with
  | nil => rfl
  | cons n ns ih =>
    unfold ofCounters at ih ⊢
    rw [List.flatMap_cons, List.length_append, length_ofNat, ih, List.length_cons]
    omega

/-- **A buffer with words written over its start**: they are read back from
its first `n` bytes, and the others are as they were before. -/
structure Holds (before after : ByteArray) (n : Nat) (words : List UInt64) : Prop where
  /-- The buffer is as long as before. -/
  size : after.size = before.size
  /-- Its first bytes are the words. -/
  front : toCounters (after.extract 0 n).data.toList = words
  /-- The rest of it is as it was. -/
  rest : after.extract n before.size = before.extract n before.size

/-- A piece that fits is laid over a buffer whole. -/
theorem holds_overlay {piece buffer : ByteArray} (fits : piece.size ≤ buffer.size) :
    Holds buffer (overlay piece buffer) piece.size (toCounters piece.data.toList) := by
  have whole : overlay piece buffer = piece ++ buffer.extract piece.size buffer.size := by
    have all : piece.extract 0 buffer.size = piece := by
      rw [ByteArray.ext_iff, ByteArray.data_extract]
      exact Array.extract_eq_self_of_le fits
    unfold overlay
    rw [all]
  refine ⟨?_, ?_, ?_⟩
  · rw [whole, ByteArray.size_append, ByteArray.size_extract]
    omega
  · rw [whole, ByteArray.extract_append_eq_left rfl]
  · rw [whole]
    refine ByteArray.extract_append_eq_right rfl ?_
    rw [ByteArray.size_extract]
    omega

end Bytes

/-! ## Numbers of commands -/

namespace Diagnostic

/-- A command's number is decoded to it. -/
theorem ofNumber?_number (c : Diagnostic) : ofNumber? c.number = .ok c := by
  cases c <;> rfl

/-- A number that is no command's is refused. -/
theorem ofNumber?_unknown {n : UInt32} (other : ∀ c : Diagnostic, c.number ≠ n) :
    ofNumber? n = .error .unknownCommand := by
  have nowhere : all.find? (fun c => c.number == n) = none :=
    List.find?_eq_none.mpr (fun c _ same => other c (beq_iff_eq.mp same))
  unfold ofNumber?
  rw [nowhere]

/-- Different commands have different numbers. -/
theorem number_injective {c c' : Diagnostic} (h : c.number = c'.number) : c = c' := by
  have decoded := congrArg ofNumber? h
  rw [ofNumber?_number, ofNumber?_number] at decoded
  exact Except.ok.inj decoded

/-- **The words a command is answered with**, on a disk of some size and with
these counters. -/
def words (size : UInt64) (counters : Counters) : Diagnostic → List UInt64
  | getSize => [size]
  | getStats =>
    [counters.reads, counters.writes, counters.errors, counters.timeouts, counters.irqs]
  | resetStats => []

/-- **The machine after a command**: a reset sets the counters to zero and says
so in the journal, and that is all that any command does. -/
def leaves (m : Machine) : Diagnostic → Machine
  | getSize | getStats => m
  | resetStats =>
    { m with
      counters := { reads := 0, writes := 0, errors := 0, timeouts := 0, irqs := 0 }
      journal := m.journal.push ⟨.info, Geometry.diskName ++ ": statistics reset"⟩ }

/-- **The table of sizes is right**: it has eight bytes for each word of the
answer. -/
theorem answerSize_eq (c : Diagnostic) (size : UInt64) (counters : Counters) :
    c.answerSize = 8 * (c.words size counters).length := by
  cases c <;> rfl

example : all.map (fun c => (c.number, c.answerSize))
    = [(0x80084F01, 8), (0x80284F02, 40), (0x4F03, 0)] := by decide

end Diagnostic

/-! ## Commands -/

namespace Device

open Op

variable {d : Device}

/-- **Every command runs to its end**, and the bytes of its answer are its
words. -/
theorem diagnose_apply (sound : d.Sound) (c : Diagnostic) (m : Machine) :
    ∃ answer : Answer, d.diagnose c m = (.ok answer, c.leaves m)
      ∧ answer.bytes
        = (Bytes.ofCounters (c.words d.config.sizeBytes m.counters)).toByteArray := by
  cases c with
  | getSize =>
    refine ⟨.size d.config.sizeBytes, ?_, ?_⟩
    · have fits : d.sizeBytes < Geometry.wordLimit := by
        rw [sound.sizeBytes]
        exact d.config.sizeBytes.toNat_lt
      have word : Act.word d.sizeBytes m = (.ok d.config.sizeBytes, m) := by
        unfold Act.word
        rw [if_pos fits, sound.sizeBytes, UInt64.ofNat_toNat]
        rfl
      exact bind_ok word
    · exact congrArg List.toByteArray (List.append_nil _).symm
  | getStats => exact ⟨.stats m.counters, rfl, rfl⟩
  | resetStats => exact ⟨.reset, rfl, rfl⟩

/-- A number that is not decoded leaves the caller's buffer alone. -/
theorem command_of_error {number : UInt32} {e : DiagnosticError}
    (unknown : Diagnostic.ofNumber? number = .error e) (out : ByteArray) :
    (d.command number).run out = pure (.error e, out) := by
  unfold command
  rw [unknown]
  rfl

/-- **What a command does to the caller's buffer**, step by step. -/
theorem command_of_ok {number : UInt32} {c : Diagnostic}
    (known : Diagnostic.ofNumber? number = .ok c) (out : ByteArray) :
    (d.command number).run out
      = (if out.size < c.answerSize then pure (.error .bufferTooSmall, out) else do
          let answer ← d.diagnose c
          if out.size < answer.bytes.size then throw Fault.outOfBounds
          else pure (.ok answer.bytes.size, Bytes.overlay answer.bytes out)) := by
  unfold command
  rw [known]
  by_cases short : out.size < c.answerSize
  · simp only [short, StateT.run_bind, StateT.run_get, pure_bind, if_true]
    rfl
  · simp only [short, copyOut, StateT.run_bind, StateT.run_get, pure_bind, if_false,
      StateT.run_monadLift, bind_assoc]
    refine bind_congr fun answer => ?_
    by_cases beyond : out.size < answer.bytes.size
    · simp only [beyond, if_true]
      rfl
    · simp only [beyond, if_false]
      rfl

/-- **A number that is no command's** is refused, and nothing is touched. -/
theorem command_unknown {number : UInt32} (other : ∀ c : Diagnostic, c.number ≠ number)
    (out : ByteArray) (m : Machine) :
    (d.command number).run out m = (.ok (.error .unknownCommand, out), m) := by
  rw [command_of_error (Diagnostic.ofNumber?_unknown other)]
  rfl

/-- **A buffer too small for the answer** is refused, and nothing is touched. -/
theorem command_short {c : Diagnostic} {out : ByteArray} (short : out.size < c.answerSize)
    (m : Machine) :
    (d.command c.number).run out m = (.ok (.error .bufferTooSmall, out), m) := by
  rw [command_of_ok c.ofNumber?_number, if_pos short]
  rfl

/-- **In a buffer with enough room** the command is answered: copying the answer
out does not fault. -/
theorem command_answered (sound : d.Sound) {c : Diagnostic} {out : ByteArray}
    (room : c.answerSize ≤ out.size) (m : Machine) :
    ∃ out', (d.command c.number).run out m = (.ok (.ok c.answerSize, out'), c.leaves m)
      ∧ Bytes.Holds out out' c.answerSize (c.words d.config.sizeBytes m.counters) := by
  obtain ⟨answer, run, bytes⟩ := diagnose_apply sound c m
  have size : answer.bytes.size = c.answerSize := by
    rw [bytes, c.answerSize_eq d.config.sizeBytes m.counters, List.size_toByteArray,
      Bytes.length_ofCounters]
  have words : Bytes.toCounters answer.bytes.data.toList
      = c.words d.config.sizeBytes m.counters := by
    rw [bytes, List.data_toByteArray, Bytes.toCounters_ofCounters]
  refine ⟨Bytes.overlay answer.bytes out, ?_, ?_⟩
  · rw [command_of_ok c.ofNumber?_number, if_neg (Nat.not_lt.mpr room), ← size]
    refine (bind_ok run).trans ?_
    rw [if_neg (Nat.not_lt.mpr (size ▸ room))]
    rfl
  · rw [← words, ← size]
    exact Bytes.holds_overlay (Nat.le_trans (Nat.le_of_eq size) room)

/-- A command that runs to its end hands over the buffer with its result. -/
theorem ioctl_of_command {number : UInt32} {out out' : ByteArray} {m m' : Machine}
    {result : Except DiagnosticError Nat}
    (run : (d.command number).run out m = (.ok (result, out'), m')) :
    d.ioctl number out m = (.ok (result.map (·, out')), m') :=
  bind_ok run

/-- The answer of a command comes together with the buffer. -/
theorem ioctl_answered (sound : d.Sound) {c : Diagnostic} {out : ByteArray}
    (room : c.answerSize ≤ out.size) (m : Machine) :
    ∃ out', d.ioctl c.number out m = (.ok (.ok (c.answerSize, out')), c.leaves m)
      ∧ Bytes.Holds out out' c.answerSize (c.words d.config.sizeBytes m.counters) := by
  obtain ⟨out', run, holds⟩ := command_answered sound room m
  exact ⟨out', ioctl_of_command run, holds⟩

/-- **A command is refused without a trace or answered in full**, in every state
of a disk that was brought up. It is refused as unknown exactly where its number
is no command's, and for its buffer exactly where the command's answer is longer
than that; neither the machine nor the buffer is touched then. Otherwise the
start of the buffer holds the answer: the size of the disk, or the counters as
they were, or nothing. A reset leaves the counters at zero and an entry in the
journal, so that a query right after it is answered with zeros; the other
commands leave the machine as it was. -/
theorem ioctl_exactly {resources : Resources} {config : Config} {m₀ m₁ : Machine}
    (probed : probe resources config m₀ = (.ok (.ok d), m₁))
    (number : UInt32) (out : ByteArray) (m : Machine) :
    ∃ result out' m', (d.command number).run out m = (.ok (result, out'), m')
      ∧ d.ioctl number out m = (.ok (result.map (·, out')), m')
      ∧ (result = .error .unknownCommand ↔ ∀ c : Diagnostic, c.number ≠ number)
      ∧ (result = .error .bufferTooSmall
          ↔ ∃ c : Diagnostic, c.number = number ∧ out.size < c.answerSize)
      ∧ (∀ e, result = .error e → m' = m ∧ out' = out)
      ∧ (∀ n, result = .ok n → ∃ c : Diagnostic, c.number = number
          ∧ n = c.answerSize ∧ Bytes.Holds out out' n (c.words config.sizeBytes m.counters)
          ∧ m' = c.leaves m)
      ∧ (number = Diagnostic.resetStats.number → ∀ next : ByteArray, 40 ≤ next.size →
          ∃ next', d.ioctl Diagnostic.getStats.number next m' = (.ok (.ok (40, next')), m')
            ∧ Bytes.Holds next next' 40 [0, 0, 0, 0, 0]) := by
  obtain ⟨sound, rfl, -⟩ := probe_inv probed
  have zeros {m' : Machine} (reset : m' = Diagnostic.resetStats.leaves m) (next : ByteArray)
      (room : 40 ≤ next.size) :
      ∃ next', d.ioctl Diagnostic.getStats.number next m' = (.ok (.ok (40, next')), m')
        ∧ Bytes.Holds next next' 40 [0, 0, 0, 0, 0] := by
    subst reset
    exact ioctl_answered (c := .getStats) sound room _
  by_cases known : ∃ c : Diagnostic, c.number = number
  · obtain ⟨c, rfl⟩ := known
    rcases Nat.lt_or_ge out.size c.answerSize with short | room
    · have run := command_short (d := d) short m
      refine ⟨_, out, m, run, ioctl_of_command run, ?_, ?_, ?_, ?_, ?_⟩
      · exact ⟨nofun, fun other => absurd rfl (other c)⟩
      · exact ⟨fun _ => ⟨c, rfl, short⟩, fun _ => rfl⟩
      · exact fun e refused => ⟨rfl, rfl⟩
      · exact nofun
      · intro reset
        obtain rfl := Diagnostic.number_injective reset
        exact absurd short (Nat.not_lt_zero _)
    · obtain ⟨out', run, holds⟩ := command_answered sound room m
      refine ⟨_, out', _, run, ioctl_of_command run, ?_, ?_, ?_, ?_, ?_⟩
      · exact ⟨nofun, fun other => absurd rfl (other c)⟩
      · refine ⟨nofun, ?_⟩
        rintro ⟨c', same, short⟩
        obtain rfl := Diagnostic.number_injective same
        exact absurd short (Nat.not_lt.mpr room)
      · exact nofun
      · intro n same
        cases same
        exact ⟨c, rfl, rfl, holds, rfl⟩
      · intro reset
        exact zeros (congrArg (Diagnostic.leaves m) (Diagnostic.number_injective reset))
  · have other (c : Diagnostic) : c.number ≠ number := fun same => known ⟨c, same⟩
    have run := command_unknown (d := d) other out m
    refine ⟨_, out, m, run, ioctl_of_command run, ?_, ?_, ?_, ?_, ?_⟩
    · exact ⟨fun _ => other, fun _ => rfl⟩
    · exact ⟨nofun, fun ⟨c, same, _⟩ => absurd same (other c)⟩
    · exact fun e refused => ⟨rfl, rfl⟩
    · exact nofun
    · exact fun reset => absurd reset.symm (other _)

/-- A reset takes no room, and a query right after it finds five zeros. -/
theorem ioctl_exactly_reset :
    ∃ d m₁, probe { irq := some Geometry.interruptLine } {} {} = (.ok (.ok d), m₁)
      ∧ ∃ m', d.ioctl 0x4F03 ByteArray.empty { m₁ with counters := ⟨3, 1, 4, 1, 5⟩ }
          = (.ok (.ok (0, ByteArray.empty)), m')
        ∧ ∃ next', d.ioctl 0x80284F02 (Bytes.fill 41 0xEE) m' = (.ok (.ok (40, next')), m')
          ∧ Bytes.Holds (Bytes.fill 41 0xEE) next' 40 [0, 0, 0, 0, 0] := by
  have probed : probe { irq := some Geometry.interruptLine } {} {}
      = (.ok (.ok ⟨{}, 1048576, some 33, ⟨0x80000000, Geometry.bounceSize⟩⟩),
        (probe { irq := some Geometry.interruptLine } {} {}).2) :=
    Op.apply_eq rfl
  obtain ⟨result, out', m', run, answer, -, -, -, -, zeros⟩ :=
    ioctl_exactly probed 0x4F03 ByteArray.empty
      { (probe { irq := some Geometry.interruptLine } {} {}).2 with counters := ⟨3, 1, 4, 1, 5⟩ }
  refine ⟨_, _, probed, m', ?_, zeros rfl _ (by decide)⟩
  cases run
  exact answer

end Device

end RemoteDisk
