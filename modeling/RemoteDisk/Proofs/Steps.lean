import RemoteDisk.Proofs.Copies

/-!
# The steps of the self test

What each step flushes, which transfer it starts, what it leaves in memory and
what it wants to find there can be said without the machine: the steps are a
small program over the bytes of the bus, whose only unknown is which of the
transfers the engine copies. `takeStep_leaves` says that a step that is passed has
done just that, and `takeStep_ok` that it is passed where it finds what it wants
and its transfer passes for a success; both are extended to the steps of a list by
following its recursion.
-/

namespace RemoteDisk.SelfTest

open Op

/-! ## What a step does -/

namespace Step

variable (layout : Layout) (target : UInt64)

/-- The ranges that a step flushes. -/
def flushes : Step → List Flush
  | writeRemote => [⟨layout.remoteBase, testSize⟩]
  | readRemote | finalCheck => []
  | prepareLocal => [⟨layout.first, testSize⟩, ⟨layout.second, testSize⟩, ⟨layout.third, testSize⟩]
  | localToLocal => [⟨layout.first, testSize⟩, ⟨layout.third, testSize⟩]
  | localToRemote => [⟨layout.third, testSize⟩, ⟨layout.second, testSize⟩, ⟨target, testSize⟩]
  | remoteToLocal => [⟨target, testSize⟩, ⟨layout.third, testSize⟩]

/-- **The transfer that a step starts**, if it starts one. -/
def transfers : Step → List Transfer
  | writeRemote | readRemote | prepareLocal | finalCheck => []
  | localToLocal => [transferOf layout.first layout.third]
  | localToRemote => [transferOf layout.second target]
  | remoteToLocal => [transferOf target layout.third]

variable {layout target} in
/-- A step starts one transfer at most. -/
theorem transfers_head {step : Step} {t : Transfer} (h : t ∈ step.transfers layout target) :
    (step.transfers layout target)[0]? = some t := by
  cases step with
  | writeRemote | readRemote | prepareLocal | finalCheck => cases h
  | localToLocal | localToRemote | remoteToLocal =>
    obtain rfl := List.mem_singleton.mp h
    rfl

/-- **The bytes that a step leaves**, if `did` tells what the engine copies. -/
def contents (did : Transfer → Bool) : Step → (Nat → UInt8) → Nat → UInt8
  | writeRemote, g => filled layout.remoteBase (patternWord remotePattern) g
  | readRemote, g | finalCheck, g => g
  | prepareLocal, g => filled layout.third (fun _ => 0)
      (filled layout.second (patternWord secondPattern)
        (filled layout.first (patternWord firstPattern) g))
  | localToLocal, g => carried did layout.first layout.third g
  | localToRemote, g => carried did layout.second target (filled layout.third (fun _ => 0) g)
  | remoteToLocal, g => carried did target layout.third g

/-- **What a step wants to find** in memory at its end. -/
def Accepts : Step → (Nat → UInt8) → Prop
  | writeRemote, _ | prepareLocal, _ | localToRemote, _ => True
  | readRemote, g => Holds g layout.remoteBase.toNat remotePattern
  | localToLocal, g => Holds g layout.third.toNat firstPattern
  | remoteToLocal, g => Holds g layout.third.toNat secondPattern
  | finalCheck, g => Holds g target.toNat secondPattern

end Step

section Lists

variable (layout : Layout) (target : UInt64)

/-- What the engine copies at the starts that follow those of a step. -/
def later (step : Step) (did : Nat → Transfer → Bool) (n : Nat) : Transfer → Bool :=
  did (n + (step.transfers layout target).length)

/-- **The bytes that steps leave**, if `did n` tells whether the engine copies at
the `n`-th start. -/
def contentsAfter : (did : Nat → Transfer → Bool) → List Step → (Nat → UInt8) → Nat → UInt8
  | _, [], g => g
  | did, step :: rest, g =>
    contentsAfter (later layout target step did) rest (step.contents layout target (did 0) g)

/-- **Every step finds what it wants.** -/
def AllAccept : (did : Nat → Transfer → Bool) → List Step → (Nat → UInt8) → Prop
  | _, [], _ => True
  | did, step :: rest, g =>
    step.Accepts layout target (step.contents layout target (did 0) g)
      ∧ AllAccept (later layout target step did) rest (step.contents layout target (did 0) g)

end Lists

/-! ## One step after another -/

/-- The machine as a step is begun, with one more entry in the journal. -/
def begun (step : Step) (m : Machine) : Machine :=
  m.report .info ("STEP " ++ toString step.number ++ ": " ++ step.title)

/-- The machine after a step was passed, with one more entry in the journal. -/
def succeeded (step : Step) (m : Machine) : Machine :=
  m.report .info ("[SUCCESS] step " ++ toString step.number ++ " passed")

/-- The machine after a step failed, with one more entry in the journal. -/
def failed (step : Step) (m : Machine) : Machine :=
  m.report .error ("[FAIL] step " ++ toString step.number ++ " failed")

/-- **The first of some steps**: it is passed and the others follow, or it is the
last that is taken. -/
theorem takeSteps_cons_inv {layout : Layout} {target : UInt64} {step : Step} {rest : List Step}
    {outcomes : List (Step × StepOutcome)} {m m' : Machine}
    (h : takeSteps layout target (step :: rest) m = (.ok outcomes, m')) :
    ∃ o m₁, takeStep layout target step (begun step m) = (.ok o, m₁)
      ∧ ((o = .passed ∧ ∃ others, takeSteps layout target rest (succeeded step m₁)
            = (.ok others, m') ∧ outcomes = (step, .passed) :: others)
        ∨ (o ≠ .passed ∧ m' = failed step m₁
          ∧ outcomes = (step, o) :: rest.map fun s => (s, .skipped))) := by
  obtain ⟨_, m₁, reported, onwards⟩ := bind_ok_inv h
  cases reported
  obtain ⟨o, m₂, taken, onwards⟩ := bind_ok_inv onwards
  refine ⟨o, m₂, taken, ?_⟩
  by_cases well : o = .passed
  · rw [if_pos well] at onwards
    obtain ⟨_, m₃, reported, onwards⟩ := bind_ok_inv onwards
    cases reported
    obtain ⟨others, m₄, followed, last⟩ := bind_ok_inv onwards
    cases last
    exact .inl ⟨well, others, followed, by rw [well]⟩
  · rw [if_neg well] at onwards
    obtain ⟨_, m₃, reported, last⟩ := bind_ok_inv onwards
    cases reported
    cases last
    exact .inr ⟨well, rfl, rfl⟩

/-! ## Where a self test can be run -/

/-- The local ranges of a self test. -/
def Layout.locals (layout : Layout) : List UInt64 := [layout.first, layout.second, layout.third]

/-- Where the engine copies to and from in remote memory. -/
def Layout.target (layout : Layout) : UInt64 :=
  UInt64.ofNat (layout.remoteBase.toNat + remoteOffset)

/-- **A place for a self test**: remote memory starts where the window does and
holds both remote ranges, the local ranges lie outside it in buffers that the
processor sees, and no two of them share a byte. There is an engine, and no
transfer was put off. -/
structure Layout.Fits (layout : Layout) (buffers : List Buffer) (m : Machine) : Prop where
  base : layout.remoteBase = m.window.base
  room : remoteOffset + testSize ≤ m.window.size
  outside : ∀ a ∈ layout.locals, a.toNat + testSize ≤ m.window.base.toNat
    ∨ m.window.base.toNat + m.window.size ≤ a.toNat
  held : ∀ a ∈ layout.locals, ∃ b ∈ buffers, b.base.toNat ≤ a.toNat
    ∧ a.toNat + testSize ≤ b.base.toNat + b.size
  apart : layout.locals.Pairwise fun a b => a.toNat + testSize ≤ b.toNat
    ∨ b.toNat + testSize ≤ a.toNat
  sees : m.Sees buffers
  engine : m.HasEngine
  pending : m.pending = []

namespace Layout

variable {layout : Layout}

theorem first_mem : layout.first ∈ layout.locals := List.mem_cons_self

theorem second_mem : layout.second ∈ layout.locals := List.mem_cons_of_mem _ List.mem_cons_self

theorem third_mem : layout.third ∈ layout.locals :=
  List.mem_cons_of_mem _ (List.mem_cons_of_mem _ List.mem_cons_self)

/-- What holds of each of the three local ranges. -/
theorem locals_forall {P : UInt64 → Prop} (first : P layout.first) (second : P layout.second)
    (third : P layout.third) : ∀ a ∈ layout.locals, P a :=
  List.forall_mem_cons.mpr ⟨first, List.forall_mem_cons.mpr
    ⟨second, List.forall_mem_singleton.mpr third⟩⟩

namespace Fits

variable {buffers : List Buffer} {m m' : Machine} {a : UInt64}

/-- The place stays what it is. -/
theorem leaves (fits : layout.Fits buffers m) {fs : List Flush} {ts : List Transfer}
    {g : Nat → UInt8} (left : m.Leaves fs ts g m') : layout.Fits buffers m' where
  base := fits.base.trans left.window.1.symm
  room := by rw [left.window.2]; exact fits.room
  outside := by rw [left.window.1, left.window.2]; exact fits.outside
  held := fits.held
  apart := fits.apart
  sees := fits.sees.congr left.setting
  engine := left.hasEngine fits.engine
  pending := left.pending.trans fits.pending

/-- The remote range that the processor fills is served. -/
theorem remote (fits : layout.Fits buffers m) :
    m.window.Serves buffers layout.remoteBase.toNat testSize := by
  have room := fits.room
  rw [fits.base]
  exact .remote (Nat.le_refl _) (by omega)

/-- The remote range that the engine copies to is served. -/
theorem distant (fits : layout.Fits buffers m)
    (h : a.toNat = layout.remoteBase.toNat + remoteOffset) :
    m.window.Serves buffers a.toNat testSize := by
  have room := fits.room
  rw [h, fits.base]
  exact .remote (Nat.le_add_right _ _) (by omega)

/-- The local ranges are served. -/
theorem nearby (fits : layout.Fits buffers m) (h : a ∈ layout.locals) :
    m.window.Serves buffers a.toNat testSize := .nearby (fits.outside a h) (fits.held a h)

end Fits

end Layout

/-! ## What passed steps have done -/

section Passed

variable {layout : Layout} {buffers : List Buffer} {target : UInt64} {m m' : Machine}

/-- **A copy that is verified** has brought the pattern to its destination, or the
pattern was there before. -/
theorem copyAndVerify_leaves {source destination : UInt64} {base : UInt32}
    (fits : layout.Fits buffers m) (now : ∀ b, m.behaviorAt 0 = some b → b.isSynchronous = true)
    (from_ : m.window.Serves buffers source.toNat testSize)
    (to_ : m.window.Serves buffers destination.toNat testSize)
    (h : copyAndVerify source destination base m = (.ok .passed, m')) :
    m.Leaves [⟨source, testSize⟩, ⟨destination, testSize⟩] [transferOf source destination]
        (carried (m.copies 0) source destination m.bus) m'
      ∧ Holds (carried (m.copies 0) source destination m.bus) destination.toNat base := by
  obtain ⟨outcome, m₁, copied, rest⟩ := bind_ok_inv h
  cases outcome with
  | passed =>
    have left := copyStep_leaves fits.engine fits.pending now from_ to_ copied
    obtain ⟨judged, verified⟩ := verify_leaves (fits.leaves left).sees (left.serves to_) rest
    rw [left.bus] at judged verified
    exact ⟨left.trans verified, judged_eq_passed.mp judged.symm⟩
  | mismatch | transfer | skipped => cases rest

/-- **What a step that is passed has done.** -/
theorem takeStep_leaves {step : Step} (fits : layout.Fits buffers m)
    (at_ : target.toNat = layout.remoteBase.toNat + remoteOffset)
    (now : ∀ n < (step.transfers layout target).length, ∀ b, m.behaviorAt n = some b →
      b.isSynchronous = true)
    (h : takeStep layout target step m = (.ok .passed, m')) :
    m.Leaves (step.flushes layout target) (step.transfers layout target)
        (step.contents layout target (m.copies 0) m.bus) m'
      ∧ step.Accepts layout target (step.contents layout target (m.copies 0) m.bus) := by
  cases step with
  | writeRemote =>
    obtain ⟨_, m₁, written, rest⟩ := bind_ok_inv h
    obtain ⟨_, m₂, flushed, last⟩ := bind_ok_inv rest
    cases last
    have left := fill_leaves fits.sees fits.remote written
    have flush := Act.flush_leaves flushed
    rw [left.bus] at flush
    exact ⟨left.trans flush, trivial⟩
  | readRemote =>
    obtain ⟨judged, left⟩ := verify_leaves fits.sees fits.remote h
    exact ⟨left, judged_eq_passed.mp judged.symm⟩
  | prepareLocal =>
    obtain ⟨_, m₁, first, rest⟩ := bind_ok_inv h
    obtain ⟨_, m₂, second, rest⟩ := bind_ok_inv rest
    obtain ⟨_, m₃, third, rest⟩ := bind_ok_inv rest
    obtain ⟨_, m₄, flushed₁, rest⟩ := bind_ok_inv rest
    obtain ⟨_, m₅, flushed₂, rest⟩ := bind_ok_inv rest
    obtain ⟨_, m₆, flushed₃, last⟩ := bind_ok_inv rest
    cases last
    have left₁ := fill_leaves fits.sees (fits.nearby Layout.first_mem) first
    have fits := fits.leaves left₁
    have left₂ := fill_leaves fits.sees (fits.nearby Layout.second_mem) second
    have fits := fits.leaves left₂
    have left₃ := fill_leaves fits.sees (fits.nearby Layout.third_mem) third
    have flush₁ := Act.flush_leaves flushed₁
    have flush₂ := Act.flush_leaves flushed₂
    have flush₃ := Act.flush_leaves flushed₃
    rw [left₁.bus] at left₂
    rw [left₂.bus] at left₃
    rw [flush₂.bus, flush₁.bus, left₃.bus] at flush₃
    have fill := (left₁.trans left₂).trans left₃
    have flush := (flush₁.trans flush₂).trans flush₃
    exact ⟨fill.trans flush, trivial⟩
  | localToLocal =>
    exact copyAndVerify_leaves fits (now 0 Nat.zero_lt_one) (fits.nearby Layout.first_mem)
      (fits.nearby Layout.third_mem) h
  | localToRemote =>
    obtain ⟨_, m₁, cleared, rest⟩ := bind_ok_inv h
    obtain ⟨_, m₂, flushed, rest⟩ := bind_ok_inv rest
    have left := fill_leaves fits.sees (fits.nearby Layout.third_mem) cleared
    have flush := Act.flush_leaves flushed
    rw [left.bus] at flush
    have before := left.trans flush
    have fits := fits.leaves before
    have copy := copyStep_leaves fits.engine fits.pending
      (fun b hb => now 0 Nat.zero_lt_one b ((before.behavior 0).symm.trans hb))
      (fits.nearby Layout.second_mem) (fits.distant at_) rest
    rw [before.copies 0, before.bus] at copy
    exact ⟨before.trans copy, trivial⟩
  | remoteToLocal =>
    exact copyAndVerify_leaves fits (now 0 Nat.zero_lt_one) (fits.distant at_)
      (fits.nearby Layout.third_mem) h
  | finalCheck =>
    obtain ⟨judged, left⟩ := verify_leaves fits.sees (fits.distant at_) h
    exact ⟨left, judged_eq_passed.mp judged.symm⟩

/-- What the engine copies from a machine on that a step was taken on. -/
theorem copies_later {step : Step} {g : Nat → UInt8} {fs : List Flush}
    (left : m.Leaves fs (step.transfers layout target) g m') :
    m'.copies = later layout target step m.copies := funext left.copies

/-- **What steps that are passed have done**, one after another. -/
theorem takeSteps_leaves {steps : List Step} {outcomes : List (Step × StepOutcome)}
    (fits : layout.Fits buffers m) (at_ : target.toNat = layout.remoteBase.toNat + remoteOffset)
    (now : ∀ n < (steps.flatMap (·.transfers layout target)).length, ∀ b,
      m.behaviorAt n = some b → b.isSynchronous = true)
    (h : takeSteps layout target steps m = (.ok outcomes, m'))
    (passed : ∀ o ∈ outcomes, o.2 = .passed) :
    m.Leaves (steps.flatMap (·.flushes layout target)) (steps.flatMap (·.transfers layout target))
        (contentsAfter layout target m.copies steps m.bus) m'
      ∧ AllAccept layout target m.copies steps m.bus := by
  induction steps generalizing m outcomes with
  | nil =>
    cases h
    exact ⟨.refl _, trivial⟩
  | cons step rest ih =>
    -- the transfers of the first step come before those of the others
    have all : ((step :: rest).flatMap (·.transfers layout target)).length
        = (step.transfers layout target).length
          + (rest.flatMap (·.transfers layout target)).length := by
      rw [List.flatMap_cons, List.length_append]
    obtain ⟨outcome, m₁, taken, ⟨rfl, others, followed, rfl⟩ | ⟨failing, -, rfl⟩⟩ :=
      takeSteps_cons_inv h
    · obtain ⟨left, accepts⟩ := takeStep_leaves (fits.leaves (.report (.refl m) _ _)) at_
        (fun n hn => now n (by omega)) taken
      have through := left.of_report.report .info
        ("[SUCCESS] step " ++ toString step.number ++ " passed")
      obtain ⟨left', accepts'⟩ := ih (fits.leaves through)
        (fun n hn b hb => now _ (by omega) b ((through.behavior n).symm.trans hb)) followed
        (fun o ho => passed o (List.mem_cons_of_mem _ ho))
      rw [copies_later through, through.bus] at left' accepts'
      exact ⟨through.trans left', accepts, accepts'⟩
    · exact absurd (passed _ List.mem_cons_self) failing

/-- **What a self test that is passed has done.** -/
theorem run_leaves {report : Report} (fits : layout.Fits buffers m)
    (now : ∀ n < 3, ∀ b, m.behaviorAt n = some b → b.isSynchronous = true)
    (h : run layout m = (.ok report, m')) (passed : report.passed = true) :
    layout.target.toNat = layout.remoteBase.toNat + remoteOffset
      ∧ m.Leaves (Step.all.flatMap (·.flushes layout layout.target))
        (Step.all.flatMap (·.transfers layout layout.target))
        (contentsAfter layout layout.target m.copies Step.all m.bus) m'
      ∧ AllAccept layout layout.target m.copies Step.all m.bus := by
  obtain ⟨target, m₁, addressed, rest⟩ := bind_ok_inv h
  obtain ⟨at_, rfl⟩ := Act.word_inv addressed
  obtain rfl : layout.target = target := by
    unfold Layout.target
    rw [← at_, UInt64.ofNat_toNat]
  obtain ⟨outcomes, m₂, taken, last⟩ := bind_ok_inv rest
  cases last
  refine ⟨at_, takeSteps_leaves fits at_ now taken fun o ho => ?_⟩
  exact of_decide_eq_true (List.all_eq_true.mp passed o ho)

end Passed

/-! ## Steps that are passed -/

/-- **A self test stays clear of the top of the address space**: its ranges end
below the topmost cache line. -/
structure Layout.Clear (layout : Layout) : Prop where
  remote : layout.remoteBase.toNat + remoteOffset + testSize + Geometry.lineSize
    ≤ Geometry.wordLimit
  nearby : ∀ a ∈ layout.locals, a.toNat + testSize + Geometry.lineSize ≤ Geometry.wordLimit

namespace Layout.Clear

variable {layout : Layout}

/-- The remote range that the engine copies to has an address. -/
theorem target_lt (clear : layout.Clear) :
    layout.remoteBase.toNat + remoteOffset < Geometry.wordLimit := by
  have remote := clear.remote
  have : 0 < Geometry.lineSize := by decide
  omega

/-- The remote range that the engine copies to lies a page behind the start of remote memory. -/
theorem target (clear : layout.Clear) :
    layout.target.toNat = layout.remoteBase.toNat + remoteOffset :=
  UInt64.toNat_ofNat_of_lt' clear.target_lt

end Layout.Clear

section Passing

variable {layout : Layout} {buffers : List Buffer} {target : UInt64} {m : Machine}

/-- A range that ends below the topmost line ends below the top. -/
theorem below_of_clear {a : Nat} (h : a + testSize + Geometry.lineSize ≤ Geometry.wordLimit) :
    a + testSize < Geometry.wordLimit := by
  have : 0 < Geometry.lineSize := by decide
  omega

/-- A range that holds the pattern passes. -/
theorem verify_passed {address : UInt64} {base : UInt32} (fits : layout.Fits buffers m)
    (served : m.window.Serves buffers address.toNat testSize)
    (clear : address.toNat + testSize + Geometry.lineSize ≤ Geometry.wordLimit)
    (holds : Holds m.bus address.toNat base) : ∃ m', verify address base m = (.ok .passed, m') := by
  obtain ⟨outcome, m', run⟩ := verify_ok base fits.sees served (below_of_clear clear)
  obtain ⟨rfl, -⟩ := verify_leaves fits.sees served run
  rw [judged_eq_passed.mpr holds] at run
  exact ⟨m', run⟩

/-- **A copy that is verified is passed** where it passes for a success and the
pattern is found. -/
theorem copyAndVerify_ok {source destination : UInt64} {base : UInt32}
    (fits : layout.Fits buffers m) (attentive : m.Attentive)
    (convinces : m.Convinces 0 (transferOf source destination))
    (from_ : m.window.Serves buffers source.toNat testSize)
    (to_ : m.window.Serves buffers destination.toNat testSize)
    (clear : source.toNat + testSize + Geometry.lineSize ≤ Geometry.wordLimit)
    (clear' : destination.toNat + testSize + Geometry.lineSize ≤ Geometry.wordLimit)
    (holds : Holds (carried (m.copies 0) source destination m.bus) destination.toNat base) :
    ∃ m', copyAndVerify source destination base m = (.ok .passed, m') := by
  obtain ⟨m₁, copied⟩ := copyStep_ok attentive fits.pending convinces clear clear'
  have left := copyStep_leaves fits.engine fits.pending convinces.isSynchronous from_ to_ copied
  rw [← left.bus] at holds
  obtain ⟨m', verified⟩ := verify_passed (fits.leaves left) (left.serves to_) clear' holds
  exact ⟨m', (bind_ok copied).trans verified⟩

/-- A fill and a flush of the same range come to their end. -/
theorem fill_fits {address : UInt64} (word : Nat → UInt32) (fits : layout.Fits buffers m)
    (served : m.window.Serves buffers address.toNat testSize)
    (clear : address.toNat + testSize + Geometry.lineSize ≤ Geometry.wordLimit) :
    ∃ m', fill address word m = (.ok (), m') ∧ m.Leaves [] [] (filled address word m.bus) m' := by
  obtain ⟨m', run⟩ := fill_ok word fits.sees served (below_of_clear clear)
  exact ⟨m', run, fill_leaves fits.sees served run⟩

/-- **A step is passed** where it finds what it wants and its transfer passes for a
success. -/
theorem takeStep_ok {step : Step} (fits : layout.Fits buffers m) (clear : layout.Clear)
    (attentive : m.Attentive) (at_ : target.toNat = layout.remoteBase.toNat + remoteOffset)
    (convinces : ∀ t ∈ step.transfers layout target, m.Convinces 0 t)
    (accepts : step.Accepts layout target (step.contents layout target (m.copies 0) m.bus)) :
    ∃ m', takeStep layout target step m = (.ok .passed, m') := by
  have distant := clear.remote
  rw [← at_] at distant
  have remote : layout.remoteBase.toNat + testSize + Geometry.lineSize ≤ Geometry.wordLimit := by
    omega
  have flush {a : UInt64} (h : a.toNat + testSize + Geometry.lineSize ≤ Geometry.wordLimit)
      (m : Machine) : Act.flush a testSize m = (.ok (), m.flushed a testSize) :=
    Act.flush_apply (CacheLine.overruns_eq_false h) m
  cases step with
  | writeRemote =>
    obtain ⟨m₁, run, -⟩ := fill_fits (patternWord remotePattern) fits fits.remote remote
    exact ⟨_, (bind_ok run).trans (bind_ok (flush remote m₁))⟩
  | readRemote => exact verify_passed fits fits.remote remote accepts
  | prepareLocal =>
    obtain ⟨m₁, first, left⟩ := fill_fits (patternWord firstPattern) fits
      (fits.nearby Layout.first_mem) (clear.nearby _ Layout.first_mem)
    have fits := fits.leaves left
    obtain ⟨m₂, second, left⟩ := fill_fits (patternWord secondPattern) fits
      (fits.nearby Layout.second_mem) (clear.nearby _ Layout.second_mem)
    have fits := fits.leaves left
    obtain ⟨m₃, third, -⟩ := fill_fits (fun _ => 0) fits
      (fits.nearby Layout.third_mem) (clear.nearby _ Layout.third_mem)
    exact ⟨_, (bind_ok first).trans ((bind_ok second).trans ((bind_ok third).trans
      ((bind_ok (flush (clear.nearby _ Layout.first_mem) m₃)).trans
        ((bind_ok (flush (clear.nearby _ Layout.second_mem) _)).trans
          (bind_ok (flush (clear.nearby _ Layout.third_mem) _))))))⟩
  | localToLocal =>
    exact copyAndVerify_ok fits attentive (convinces _ List.mem_cons_self)
      (fits.nearby Layout.first_mem) (fits.nearby Layout.third_mem)
      (clear.nearby _ Layout.first_mem) (clear.nearby _ Layout.third_mem) accepts
  | localToRemote =>
    obtain ⟨m₁, cleared, left⟩ := fill_fits (fun _ => 0) fits (fits.nearby Layout.third_mem)
      (clear.nearby _ Layout.third_mem)
    have flushed := flush (clear.nearby _ Layout.third_mem) m₁
    have before := left.trans (Act.flush_leaves flushed)
    obtain ⟨m', copied⟩ := copyStep_ok (attentive.congr before.setting)
      (before.pending.trans fits.pending)
      ((before.convinces 0 _).mpr (convinces _ List.mem_cons_self))
      (clear.nearby _ Layout.second_mem) distant
    exact ⟨m', (bind_ok cleared).trans ((bind_ok flushed).trans copied)⟩
  | remoteToLocal =>
    exact copyAndVerify_ok fits attentive (convinces _ List.mem_cons_self)
      (fits.distant at_) (fits.nearby Layout.third_mem) distant
      (clear.nearby _ Layout.third_mem) accepts
  | finalCheck => exact verify_passed fits (fits.distant at_) distant accepts

/-- **Steps are passed one after another** where each of them finds what it wants
and every transfer passes for a success. -/
theorem takeSteps_ok {steps : List Step} (fits : layout.Fits buffers m) (clear : layout.Clear)
    (attentive : m.Attentive) (at_ : target.toNat = layout.remoteBase.toNat + remoteOffset)
    (convinces : ∀ n t, (steps.flatMap (·.transfers layout target))[n]? = some t →
      m.Convinces n t)
    (accepts : AllAccept layout target m.copies steps m.bus) :
    ∃ m', takeSteps layout target steps m
      = (.ok (steps.map fun step => (step, .passed)), m') := by
  induction steps generalizing m with
  | nil => exact ⟨m, rfl⟩
  | cons step rest ih =>
    -- the transfer of this step comes first, and those of the others follow it
    have own (n : Nat) (t : Transfer) (h : (step.transfers layout target)[n]? = some t) :
        m.Convinces n t := by
      obtain ⟨bound, -⟩ := List.getElem?_eq_some_iff.mp h
      refine convinces n t ?_
      rw [List.flatMap_cons, List.getElem?_append_left bound]
      exact h
    have others (n : Nat) (t : Transfer)
        (h : (rest.flatMap (·.transfers layout target))[n]? = some t) :
        m.Convinces (n + (step.transfers layout target).length) t := by
      refine convinces _ t ?_
      rw [List.flatMap_cons, List.getElem?_append_right (Nat.le_add_left _ n),
        Nat.add_sub_cancel]
      exact h
    obtain ⟨accepts, onwards⟩ := accepts
    have told := (Machine.Leaves.refl m).report .info
      ("STEP " ++ toString step.number ++ ": " ++ step.title)
    obtain ⟨m₁, taken⟩ := takeStep_ok (fits.leaves told) clear (attentive.congr told.setting) at_
      (fun t ht => (told.convinces 0 t).mpr (own 0 t (Step.transfers_head ht))) accepts
    obtain ⟨left, -⟩ := takeStep_leaves (fits.leaves told) at_ (fun n hn =>
      (own n _ (List.getElem?_eq_getElem hn)).isSynchronous) taken
    have through := left.of_report.report .info
      ("[SUCCESS] step " ++ toString step.number ++ " passed")
    obtain ⟨m', followed⟩ := ih (fits.leaves through) (attentive.congr through.setting)
      (fun n t h => (through.convinces n t).mpr (others n t h))
      (by
        rw [copies_later through, through.bus]
        exact onwards)
    refine ⟨m', (bind_ok rfl).trans ((bind_ok taken).trans ?_)⟩
    rw [if_pos rfl]
    exact (bind_ok rfl).trans (bind_ok followed)

/-- The report of a self test of which all steps were passed. -/
def Report.allPassed : Report := ⟨Step.all.map fun step => (step, .passed)⟩

/-- **A self test is passed** where every step finds what it wants and every
transfer passes for a success. -/
theorem run_ok (fits : layout.Fits buffers m) (clear : layout.Clear) (attentive : m.Attentive)
    (convinces : ∀ n t, (Step.all.flatMap (·.transfers layout layout.target))[n]? = some t →
      m.Convinces n t)
    (accepts : AllAccept layout layout.target m.copies Step.all m.bus) :
    ∃ m', run layout m = (.ok Report.allPassed, m') := by
  obtain ⟨m', taken⟩ := takeSteps_ok fits clear attentive clear.target convinces accepts
  exact ⟨m', (bind_ok (Act.word_ok clear.target_lt m)).trans (bind_ok taken)⟩

end Passing

end RemoteDisk.SelfTest
