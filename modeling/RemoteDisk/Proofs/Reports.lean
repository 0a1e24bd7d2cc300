import RemoteDisk.Command.Run
import RemoteDisk.Proofs.Steps

/-!
# What a report tells

A comparison counts the words that are wrong and writes down the first of them.
Where a word goes is decided by the count so far, which outgrows the room there
is; what is written down is always the start of the list of all wrong words
(`Mismatches.push_ofList`). The words themselves are what the processor's
accesses return, which is not always what memory holds: bits may be flipped in
some of them (`Machine.reading`).

Steps are taken as long as they are passed (`Passes`), and a step that fails is
the last thing a self test does. What its outcome has to say is told by the
transfer it started and by the words it looked at (`Told`). Nothing is assumed of
the engine, of memory or of the layout: that the self test comes to its end is all
`run_truthful` needs.
-/

namespace RemoteDisk

open Op

/-! ## What an access returns -/

namespace Machine

/-- **The word an access of the processor returns**: what lies at the address,
or zero where nothing does, with the bits flipped that this access flips. -/
def reading (m : Machine) (access : Nat) (address : UInt64) : UInt32 :=
  (match Processor.locate m.processor.view m.window address with
    | .ok (some target) => Bytes.toWord (m.fetch target 4)
    | .ok none | .error _ => 0) ^^^ Processor.flips m.processor.disturbances access

/-- **The words of a range as the processor reads them next**, one access for
each word. -/
def wordAt (m : Machine) (a : UInt64) (i : Nat) : UInt32 :=
  m.reading (m.processor.accesses + (1 + i)) (UInt64.ofNat (a.toNat + 4 * i))

/-- A disturbance reaches the engine alone. -/
theorem disturb_eq (access : Nat) (m : Machine) :
    ∃ controller, m.disturb access = { m with controller } := by
  unfold disturb
  generalize m.processor.disturbances = ds
  induction ds generalizing m with
  | nil => exact ⟨m.controller, rfl⟩
  | cons d ds ih =>
    rw [List.foldl_cons]
    rcases d.behavior with _ | behavior
    · exact ih m
    · dsimp only
      split
      · obtain ⟨controller, others⟩ := ih (m.mapEngine fun e => { e with behavior })
        rcases m with ⟨_ | _⟩ <;> exact ⟨controller, others⟩
      · exact ih m

end Machine

namespace Act

variable {m m' : Machine} {address : UInt64}

/-- **The next access** finds where its word lies, and leaves memory and how it
is seen as they were. -/
theorem nextAccess_found {result : UInt32 × Option Target}
    (h : nextAccess address m = (.ok result, m')) :
    result.1 = Processor.flips m.processor.disturbances (m.processor.accesses + 1)
      ∧ Processor.locate m.processor.view m.window address = .ok result.2
      ∧ ∃ controller, m' = { m.accessed with controller } := by
  obtain ⟨controller, disturbed⟩ := m.disturb_eq (m.processor.accesses + 1)
  unfold nextAccess at h
  rw [bind_ok (modify_apply _ m)] at h
  dsimp only at h
  rw [disturbed, bind_ok (get_apply _)] at h
  dsimp only at h
  rcases found : Processor.locate m.processor.view m.window address with e | target
  · rw [found] at h
    cases h
  · rw [found] at h
    cases h
    exact ⟨rfl, rfl, controller, rfl⟩

/-- **A word that is read**, and what is read after it. -/
theorem loadWord_returns {value : UInt32} (h : loadWord address m = (.ok value, m')) :
    value = m.reading (m.processor.accesses + 1) address
      ∧ m'.processor.accesses = m.processor.accesses + 1
      ∧ m'.reading = m.reading := by
  obtain ⟨⟨flips, target⟩, m₁, next, rest⟩ := bind_ok_inv h
  obtain ⟨rfl, found, controller, rfl⟩ := nextAccess_found next
  unfold Machine.reading
  rw [found]
  cases target with
  | none =>
    cases rest
    exact ⟨UInt32.zero_xor.symm, rfl, rfl⟩
  | some target =>
    cases rest
    cases target <;> exact ⟨rfl, rfl, rfl⟩

end Act

namespace SelfTest

/-! ## Wrong words -/

namespace Mismatches

/-- What is told of a list of wrong words. -/
def ofList (wrong : List Mismatch) : Mismatches := ⟨wrong.length, wrong.take maxReported⟩

/-- **One more wrong word** is counted, and told where it is one of the first. -/
theorem push_ofList (wrong : List Mismatch) (x : Mismatch) :
    (ofList wrong).push x = ofList (wrong ++ [x]) := by
  have told : (if wrong.length < maxReported then wrong.take maxReported ++ [x]
      else wrong.take maxReported) = (wrong ++ [x]).take maxReported := by
    split
    · next room =>
      rw [List.take_of_length_le (Nat.le_of_lt room), List.take_of_length_le]
      rw [List.length_append]
      exact room
    · next full => rw [List.take_append_of_le_length (Nat.le_of_not_lt full)]
  unfold ofList push
  dsimp only
  rw [told, List.length_append, List.length_singleton]

/-- No more words are told than are counted. -/
theorem reported_ofList (wrong : List Mismatch) :
    (ofList wrong).reported = wrong.take (min (ofList wrong).count maxReported) := by
  show wrong.take maxReported = wrong.take (min wrong.length maxReported)
  rw [Nat.min_comm, ← List.take_eq_take_min]

end Mismatches

/-- **The wrong ones among some words**, where `word` tells what they are. -/
def wrongWords (word : Nat → UInt32) (base : UInt32) (ns : List Nat) : List Mismatch :=
  (ns.filter fun i => word i ≠ patternWord base i).map fun i => ⟨i, patternWord base i, word i⟩

/-- **A comparison tells the wrong words** after those it was given. -/
theorem compareWords_told {a : UInt64} {base : UInt32} {k n : Nat} {word : Nat → UInt32}
    {wrong : List Mismatch} {found : Mismatches} {m m' : Machine}
    (reads : ∀ i, m.reading (m.processor.accesses + (1 + i))
      (UInt64.ofNat (a.toNat + 4 * (k + i))) = word (k + i))
    (h : compareWords a base (List.range' k n) (.ofList wrong) m = (.ok found, m')) :
    found = .ofList (wrong ++ wrongWords word base (List.range' k n)) := by
  induction n generalizing k m wrong with
  | zero =>
    cases h
    exact congrArg Mismatches.ofList (List.append_nil _).symm
  | succ n ih =>
    rw [List.range'_succ] at h ⊢
    obtain ⟨address, m₁, addressed, rest⟩ := bind_ok_inv h
    obtain ⟨at_, rfl⟩ := Act.word_inv addressed
    obtain rfl : address = UInt64.ofNat (a.toNat + 4 * k) := by rw [← at_, UInt64.ofNat_toNat]
    obtain ⟨actual, m₂, loaded, rest⟩ := bind_ok_inv rest
    obtain ⟨rfl, count, same⟩ := Act.loadWord_returns loaded
    have others (i : Nat) : m₂.reading (m₂.processor.accesses + (1 + i))
        (UInt64.ofNat (a.toNat + 4 * (k + 1 + i))) = word (k + 1 + i) := by
      rw [same, count, Nat.add_assoc, Nat.add_assoc k]
      exact reads (1 + i)
    rw [show m.reading (m.processor.accesses + 1) (UInt64.ofNat (a.toNat + 4 * k)) = word k from
      reads 0] at rest
    dsimp only at rest
    unfold wrongWords
    by_cases right : word k = patternWord base k
    · rw [if_pos right] at rest
      rw [List.filter_cons_of_neg (by simpa using right)]
      exact ih others rest
    · rw [if_neg right, Mismatches.push_ofList] at rest
      rw [List.filter_cons_of_pos (by simpa using right), List.map_cons, List.append_cons]
      exact ih others rest

/-- **A comparison tells the truth** about the words of a range. -/
structure Judged (m : Machine) (a : UInt64) (base : UInt32) (o : StepOutcome) : Prop where
  /-- It is passed or some words are wrong. -/
  verdict : o = .passed ∨ ∃ ms, o = .mismatch ms
  /-- It is passed exactly where every word is that of the pattern. -/
  passed : o = .passed ↔ ∀ i < testWords, m.wordAt a i = patternWord base i
  /-- An outcome of wrong words counts the words that are not those of the pattern, of
  which there is one at least, and tells the first of them in order, as they should be
  and as they are. -/
  mismatch : ∀ ms, o = .mismatch ms →
    ms.count = (List.range testWords).countP (fun i => m.wordAt a i ≠ patternWord base i)
      ∧ 1 ≤ ms.count
      ∧ ms.reported = (wrongWords (m.wordAt a) base (List.range testWords)).take
        (min ms.count maxReported)

theorem length_wrongWords (word : Nat → UInt32) (base : UInt32) (ns : List Nat) :
    (wrongWords word base ns).length = ns.countP fun i => word i ≠ patternWord base i := by
  unfold wrongWords
  rw [List.length_map, List.countP_eq_length_filter]

/-- **Every comparison that comes to its end** tells the truth. -/
theorem verify_judged {a : UInt64} {base : UInt32} {o : StepOutcome} {m m' : Machine}
    (h : verify a base m = (.ok o, m')) : Judged m a base o := by
  obtain ⟨ms, m₁, compared, rest⟩ := bind_ok_inv h
  obtain rfl : ms = .ofList (wrongWords (m.wordAt a) base (List.range testWords)) := by
    rw [List.range_eq_range'] at compared ⊢
    rw [← List.nil_append (wrongWords _ _ _)]
    refine compareWords_told (fun i => ?_) compared
    rw [Nat.zero_add]
    rfl
  obtain ⟨verdict, -⟩ := Prod.mk.inj rest
  obtain rfl := Except.ok.inj verdict
  have count : (Mismatches.ofList (wrongWords (m.wordAt a) base (List.range testWords))).count
      = (List.range testWords).countP (fun i => m.wordAt a i ≠ patternWord base i) :=
    length_wrongWords _ _ _
  have clear : (Mismatches.ofList (wrongWords (m.wordAt a) base (List.range testWords))).count = 0
      ↔ ∀ i < testWords, m.wordAt a i = patternWord base i := by
    rw [count, List.countP_eq_zero]
    simp only [List.mem_range, decide_eq_true_eq, Decidable.not_not]
  split
  · next none => exact ⟨.inl rfl, ⟨fun _ => clear.mp none, fun _ => rfl⟩, nofun⟩
  · next wrong =>
    refine ⟨.inr ⟨_, rfl⟩, ⟨nofun, fun right => absurd (clear.mpr right) wrong⟩, ?_⟩
    rintro _ ⟨⟩
    exact ⟨count, Nat.one_le_iff_ne_zero.mpr wrong, Mismatches.reported_ofList _⟩

/-! ## Outcomes of steps -/

section Steps

variable (layout : Layout) (target : UInt64)

/-- What comes before a copy: it is noted, and its source is flushed. -/
def announce (source destination : UInt64) : Act Unit := do
  Act.report .info ("[DMA] " ++ Hex.wide source.toNat ++ " -> " ++ Hex.wide destination.toNat
    ++ " (" ++ toString testSize ++ " bytes)")
  Act.flush source testSize

namespace Step

/-- **What a step does at first**, before the engine is started or anything is
looked at. -/
def before : Step → Act Unit
  | readRemote | finalCheck => pure ()
  | writeRemote => do
    fill layout.remoteBase (patternWord remotePattern)
    Act.flush layout.remoteBase testSize
  | prepareLocal => do
    fill layout.first (patternWord firstPattern)
    fill layout.second (patternWord secondPattern)
    fill layout.third (fun _ => 0)
    Act.flush layout.first testSize
    Act.flush layout.second testSize
    Act.flush layout.third testSize
  | localToLocal => announce layout.first layout.third
  | localToRemote => do
    fill layout.third (fun _ => 0)
    Act.flush layout.third testSize
    announce layout.second target
  | remoteToLocal => announce target layout.third

/-- **The range that a step looks at**, and the pattern it should hold. -/
def checked? : Step → Option (UInt64 × UInt32)
  | writeRemote | prepareLocal | localToRemote => none
  | readRemote => some (layout.remoteBase, remotePattern)
  | localToLocal => some (layout.third, firstPattern)
  | remoteToLocal => some (layout.third, secondPattern)
  | finalCheck => some (target, secondPattern)

end Step

/-- **What the work of a step came to**, up to the point where it looks at
anything. A step that starts no transfer has nothing that can fail. For the
others it is the transfer that decides: it came back well, and its destination was
flushed, or it came back with an error. -/
inductive Works (step : Step) (m : Machine) : Except TransferError Unit → Machine → Prop
  | alone {m₁ : Machine} (none : step.transfers layout target = [])
    (began : step.before layout target m = (.ok (), m₁)) : Works step m (.ok ()) m₁
  | copied {t : Transfer} {m₁ m₂ m₃ : Machine} (one : step.transfers layout target = [t])
    (began : step.before layout target m = (.ok (), m₁))
    (ended : Act.transfer t.source t.destination t.length Geometry.timeoutMs m₁
      = (.ok (.ok ()), m₂))
    (flushed : Act.flush t.destination testSize m₂ = (.ok (), m₃)) : Works step m (.ok ()) m₃
  | failed {t : Transfer} {e : TransferError} {m₁ m₂ : Machine}
    (one : step.transfers layout target = [t])
    (began : step.before layout target m = (.ok (), m₁))
    (ended : Act.transfer t.source t.destination t.length Geometry.timeoutMs m₁
      = (.ok (.error e), m₂)) : Works step m (.error e) m₂

/-- **An outcome that tells what happened** in a step: its transfer came back with
an error, which is the one it names, or its work was done, and there was nothing
to look at or what the processor found there decides. -/
inductive Told (step : Step) (m : Machine) : StepOutcome → Prop
  | transfer {e : TransferError} {m₁ : Machine}
    (worked : Works layout target step m (.error e) m₁) : Told step m (.transfer e)
  | unchecked {m₁ : Machine} (worked : Works layout target step m (.ok ()) m₁)
    (nothing : step.checked? layout target = none) : Told step m .passed
  | checked {a : UInt64} {base : UInt32} {o : StepOutcome} {m₁ : Machine}
    (worked : Works layout target step m (.ok ()) m₁)
    (range : step.checked? layout target = some (a, base)) (judged : Judged m₁ a base o) :
    Told step m o

end Steps

/-- **An outcome that ends a self test.** -/
def StepOutcome.Failed (o : StepOutcome) : Prop :=
  (∃ ms, o = .mismatch ms) ∨ ∃ e, o = .transfer e

section Steps

variable {layout : Layout} {target : UInt64} {step : Step} {o : StepOutcome} {m m' : Machine}

/-- An outcome that tells what happened is passed or ends the self test. -/
theorem Told.verdict (told : Told layout target step m o) : o = .passed ∨ o.Failed := by
  cases told with
  | transfer => exact .inr (.inr ⟨_, rfl⟩)
  | unchecked => exact .inl rfl
  | checked _ _ judged => exact judged.verdict.imp_right .inl

/-- Wrong words are told where the work of the step was done. -/
theorem Told.of_mismatch {ms : Mismatches} (told : Told layout target step m (.mismatch ms)) :
    ∃ a base m₁, Works layout target step m (.ok ()) m₁
      ∧ step.checked? layout target = some (a, base) ∧ Judged m₁ a base (.mismatch ms) := by
  cases told with
  | checked worked range judged => exact ⟨_, _, _, worked, range, judged⟩

/-- **A copy is the work of a step** that starts its transfer, where the step has
come to it. It is passed, or it names the error its transfer came back with. -/
theorem copyStep_works {source destination : UInt64} {m₀ : Machine}
    (one : step.transfers layout target = [transferOf source destination])
    (began : ∀ m₁, announce source destination m = (.ok (), m₁) →
      step.before layout target m₀ = (.ok (), m₁))
    (h : copyStep source destination m = (.ok o, m')) :
    (o = .passed ∧ Works layout target step m₀ (.ok ()) m')
      ∨ ∃ e m₁, o = .transfer e ∧ Works layout target step m₀ (.error e) m₁ := by
  obtain ⟨_, m₁, noted, rest⟩ := bind_ok_inv h
  obtain ⟨_, m₂, flushed, rest⟩ := bind_ok_inv rest
  obtain ⟨result, m₃, ended, rest⟩ := bind_ok_inv rest
  have began := began m₂ ((bind_ok noted).trans flushed)
  rcases result with e | _
  · obtain ⟨_, m₄, -, last⟩ := bind_ok_inv rest
    cases last
    exact .inr ⟨e, m₃, rfl, .failed one began ended⟩
  · obtain ⟨_, m₄, flushed', last⟩ := bind_ok_inv rest
    cases last
    exact .inl ⟨rfl, .copied one began ended flushed'⟩

/-- A copy and a look at what arrived, taken apart. -/
theorem copyAndVerify_told {source destination : UInt64} {base : UInt32}
    (one : step.transfers layout target = [transferOf source destination])
    (began : step.before layout target = announce source destination)
    (range : step.checked? layout target = some (destination, base))
    (h : copyAndVerify source destination base m = (.ok o, m')) : Told layout target step m o := by
  obtain ⟨copied, m₁, run, rest⟩ := bind_ok_inv h
  rcases copyStep_works one (fun _ noted => began ▸ noted) run with
    ⟨rfl, worked⟩ | ⟨e, m₂, rfl, worked⟩
  · exact .checked worked range (verify_judged rest)
  · cases rest
    exact .transfer worked

/-- **Every step tells what happened**, whatever the engine does and wherever the
ranges lie. -/
theorem takeStep_told (h : takeStep layout target step m = (.ok o, m')) :
    Told layout target step m o := by
  cases step with
  | writeRemote =>
    obtain ⟨_, m₁, filled, rest⟩ := bind_ok_inv h
    obtain ⟨_, m₂, flushed, last⟩ := bind_ok_inv rest
    cases last
    exact .unchecked (.alone rfl ((bind_ok filled).trans flushed)) rfl
  | readRemote => exact .checked (.alone rfl rfl) rfl (verify_judged h)
  | prepareLocal =>
    obtain ⟨_, m₁, first, rest⟩ := bind_ok_inv h
    obtain ⟨_, m₂, second, rest⟩ := bind_ok_inv rest
    obtain ⟨_, m₃, third, rest⟩ := bind_ok_inv rest
    obtain ⟨_, m₄, first', rest⟩ := bind_ok_inv rest
    obtain ⟨_, m₅, second', rest⟩ := bind_ok_inv rest
    obtain ⟨_, m₆, third', last⟩ := bind_ok_inv rest
    cases last
    have began : Step.prepareLocal.before layout target m = (.ok (), m') :=
      (bind_ok first).trans ((bind_ok second).trans ((bind_ok third).trans
        ((bind_ok first').trans ((bind_ok second').trans third'))))
    exact .unchecked (.alone rfl began) rfl
  | localToLocal => exact copyAndVerify_told rfl rfl rfl h
  | localToRemote =>
    obtain ⟨_, m₁, cleared, rest⟩ := bind_ok_inv h
    obtain ⟨_, m₂, flushed, copied⟩ := bind_ok_inv rest
    have began (m₃ : Machine) (noted : announce layout.second target m₂ = (.ok (), m₃)) :
        Step.localToRemote.before layout target m = (.ok (), m₃) :=
      (bind_ok cleared).trans ((bind_ok flushed).trans noted)
    rcases copyStep_works rfl began copied with ⟨rfl, worked⟩ | ⟨e, m₃, rfl, worked⟩
    · exact .unchecked worked rfl
    · exact .transfer worked
  | remoteToLocal => exact copyAndVerify_told rfl rfl rfl h
  | finalCheck => exact .checked (.alone rfl rfl) rfl (verify_judged h)

end Steps

/-! ## Steps in order -/

/-- **Steps that are passed** one after the other, from a machine to a machine. -/
inductive Passes (layout : Layout) (target : UInt64) : List Step → Machine → Machine → Prop
  | nil (m : Machine) : Passes layout target [] m m
  | cons {step : Step} {rest : List Step} {m m₁ m' : Machine}
    (taken : takeStep layout target step (begun step m) = (.ok .passed, m₁))
    (others : Passes layout target rest (succeeded step m₁) m') :
    Passes layout target (step :: rest) m m'

section Runs

variable {layout : Layout} {target : UInt64} {steps : List Step} {m m' : Machine}
  {outcomes : List (Step × StepOutcome)}

/-- **How steps end**: all of them are passed, or some are and the next one
fails. It is the last that is taken then, and the rest is skipped. -/
theorem takeSteps_ends (h : takeSteps layout target steps m = (.ok outcomes, m')) :
    (Passes layout target steps m m' ∧ outcomes = steps.map fun s => (s, .passed))
      ∨ ∃ before step after o m₁ m₂, steps = before ++ step :: after
        ∧ Passes layout target before m m₁
        ∧ takeStep layout target step (begun step m₁) = (.ok o, m₂) ∧ o.Failed
        ∧ m' = failed step m₂
        ∧ outcomes = (before.map fun s => (s, .passed)) ++ (step, o)
          :: after.map fun s => (s, .skipped) := by
  induction steps generalizing m outcomes with
  | nil =>
    cases h
    exact .inl ⟨.nil _, rfl⟩
  | cons step steps ih =>
    obtain ⟨o, m₁, taken, ⟨rfl, others, followed, rfl⟩ | ⟨failing, rfl, rfl⟩⟩ :=
      takeSteps_cons_inv h
    · rcases ih followed with ⟨passes, rfl⟩ | ⟨before, next, after, o, m₂, m₃, rfl, passes, rest⟩
      · exact .inl ⟨.cons taken passes, rfl⟩
      · obtain ⟨taken', failing, last, rfl⟩ := rest
        exact .inr ⟨step :: before, next, after, o, m₂, m₃, rfl, .cons taken passes, taken',
          failing, last, rfl⟩
    · exact .inr ⟨[], step, steps, o, _, m₁, rfl, .nil _, taken,
        (takeStep_told taken).verdict.resolve_left failing, rfl, rfl⟩

/-- **Where an outcome comes from**: the steps before it were passed, and the step
itself was taken on what they left. -/
theorem takeSteps_taken {step : Step} {o : StepOutcome}
    (h : takeSteps layout target steps m = (.ok outcomes, m')) (mem : (step, o) ∈ outcomes)
    (taken : o ≠ .skipped) :
    ∃ before after m₁ m₂, steps = before ++ step :: after ∧ Passes layout target before m m₁
      ∧ takeStep layout target step (begun step m₁) = (.ok o, m₂) := by
  induction steps generalizing m outcomes with
  | nil =>
    cases h
    cases mem
  | cons first steps ih =>
    obtain ⟨o', m₁, here, ⟨rfl, others, followed, rfl⟩ | ⟨-, rfl, rfl⟩⟩ := takeSteps_cons_inv h
    · rcases List.mem_cons.mp mem with same | later
      · cases same
        exact ⟨[], steps, _, m₁, rfl, .nil _, here⟩
      · obtain ⟨before, after, m₂, m₃, rfl, passes, run⟩ := ih followed later
        exact ⟨first :: before, after, m₂, m₃, rfl, .cons here passes, run⟩
    · rcases List.mem_cons.mp mem with same | later
      · cases same
        exact ⟨[], steps, _, m₁, rfl, .nil _, here⟩
      · obtain ⟨s, -, same⟩ := List.mem_map.mp later
        cases same
        exact absurd rfl taken

/-! ## Reports -/

namespace Report

/-- A report of passed steps is passed. -/
theorem of_passed (steps : List Step) :
    (⟨steps.map fun s => (s, .passed)⟩ : Report).passed = true
      ∧ (⟨steps.map fun s => (s, .passed)⟩ : Report).firstFailure? = none := by
  constructor
  · refine List.all_eq_true.mpr fun o ho => ?_
    obtain ⟨s, -, rfl⟩ := List.mem_map.mp ho
    exact decide_eq_true rfl
  · refine List.find?_eq_none.mpr fun o ho => ?_
    obtain ⟨s, -, rfl⟩ := List.mem_map.mp ho
    exact fun failed => of_decide_eq_true failed rfl

/-- A report in which passed steps are followed by another one is not, and finds
that one. -/
theorem of_failed (before : List Step) {step : Step} {o : StepOutcome} (failing : o ≠ .passed)
    (rest : List (Step × StepOutcome)) :
    (⟨(before.map fun s => (s, .passed)) ++ (step, o) :: rest⟩ : Report).passed = false
      ∧ (⟨(before.map fun s => (s, .passed)) ++ (step, o) :: rest⟩ : Report).firstFailure?
        = some (step, o) := by
  constructor
  · refine List.all_eq_false.mpr ⟨(step, o), List.mem_append_right _ List.mem_cons_self, ?_⟩
    exact fun passed => failing (of_decide_eq_true passed)
  · have nowhere := (of_passed before).2
    unfold firstFailure? at nowhere ⊢
    rw [List.find?_append, nowhere, Option.none_or, List.find?_cons_of_pos]
    exact decide_eq_true failing

end Report

/-- **The report of a self test tells the truth**, whatever the engine does,
whatever memory holds and wherever the ranges lie. All steps are passed, or a
report is passed steps, one that failed, which is the one it names, and skipped
ones; the machine is left as the failed step left it then, with one more entry in
the journal. The outcome of every step that was taken, on what the passed ones
before it left, tells what happened in it (`Told`): an error is the one that the
step's transfer came back with, and where there is none the transfer came back
well; where the processor then looked at a range, the step is passed exactly where
all words of the range are those of its pattern, and else it is told how many are
not and which ones come first. -/
theorem run_truthful {layout : Layout} {report : Report} {m m' : Machine}
    (h : run layout m = (.ok report, m')) :
    layout.target.toNat = layout.remoteBase.toNat + remoteOffset
      ∧ ((report.outcomes = Step.all.map (fun s => (s, .passed)) ∧ report.passed = true
            ∧ report.firstFailure? = none)
        ∨ ∃ before step after o m₁ m₂, Step.all = before ++ step :: after
            ∧ report.outcomes = before.map (fun s => (s, .passed)) ++ (step, o)
              :: after.map (fun s => (s, .skipped))
            ∧ o.Failed ∧ report.passed = false ∧ report.firstFailure? = some (step, o)
            ∧ Passes layout layout.target before m m₁
            ∧ takeStep layout layout.target step (begun step m₁) = (.ok o, m₂)
            ∧ m' = failed step m₂)
      ∧ ∀ step o, (step, o) ∈ report.outcomes → o ≠ .skipped →
          ∃ before after m₁, Step.all = before ++ step :: after
            ∧ Passes layout layout.target before m m₁
            ∧ Told layout layout.target step (begun step m₁) o := by
  obtain ⟨target, m₁, addressed, rest⟩ := bind_ok_inv h
  obtain ⟨at_, rfl⟩ := Act.word_inv addressed
  obtain rfl : layout.target = target := by
    unfold Layout.target
    rw [← at_, UInt64.ofNat_toNat]
  obtain ⟨outcomes, m₂, taken, last⟩ := bind_ok_inv rest
  cases last
  refine ⟨at_, ?_, fun step o mem ran => ?_⟩
  · rcases takeSteps_ends taken with
      ⟨-, rfl⟩ | ⟨before, step, after, o, m₃, m₄, all, passes, here, failing, left, rfl⟩
    · exact .inl ⟨rfl, Report.of_passed Step.all⟩
    · have other : o ≠ .passed := by
        rintro rfl
        rcases failing with ⟨_, same⟩ | ⟨_, same⟩ <;> cases same
      obtain ⟨passed, first⟩ := Report.of_failed before other (after.map fun s => (s, .skipped))
      exact .inr ⟨before, step, after, o, m₃, m₄, all, rfl, failing, passed, first, passes, here,
        left⟩
  · obtain ⟨before, after, m₃, m₄, all, passes, here⟩ := takeSteps_taken taken mem ran
    exact ⟨before, after, m₃, all, passes, takeStep_told here⟩

/-- Accesses from one on in which the bits that are flipped make a pattern out of
words that are zero. -/
def flattering (first : Nat) (base : UInt32) (count : Nat) : List Disturbance :=
  (List.range count).map fun i =>
    { first := first + i, last := first + i, flip := patternWord base i }

/-- A machine without memory, where everything reads as zero, and with an engine
that shows its done bits without copying anything. The first two comparisons
happen to find their patterns, and the third one the first word of it. -/
def memoryless : Machine :=
  { Command.freshMachine with
    controller := .engine { doneBits := Status.diskDone, behavior := .fault 0 }
    channel := { mode := .polling 10 }
    processor :=
      { view := .buffers []
        disturbances := flattering 65 remotePattern 64 ++ flattering 321 firstPattern 64
          ++ flattering 449 secondPattern 1 } }

/-- On a machine without memory the transfers of all steps come back well. The sixth
step finds all words wrong but the first, and tells ten of them. -/
theorem run_truthful_memoryless :
    let layout : Layout := ⟨0x200000000, 0x80000000, 0x80001000, 0x80002000⟩
    let wrong : StepOutcome := .mismatch
      ⟨63, (List.range' 1 10).map fun i => ⟨i, patternWord secondPattern i, 0⟩⟩
    ∃ report m', run layout memoryless = (.ok report, m')
      ∧ report.firstFailure? = some (.remoteToLocal, wrong)
      ∧ ∃ m₁ m₂, Works layout 0x200001000 .remoteToLocal m₁ (.ok ()) m₂
        ∧ Judged m₂ layout.third secondPattern wrong := by
  intro layout wrong
  have found : (run layout memoryless).1.toOption.bind Report.firstFailure?
      = some (.remoteToLocal, wrong) := by
    decide +kernel
  rcases ran : run layout memoryless with ⟨_ | report, m'⟩
  · rw [ran] at found
    cases found
  · rw [ran] at found
    obtain ⟨-, -, taken⟩ := run_truthful ran
    obtain ⟨_, _, m₁, -, -, told⟩ := taken _ _ (List.mem_of_find?_eq_some found) nofun
    obtain ⟨_, _, m₂, worked, range, judged⟩ := Told.of_mismatch told
    cases range
    exact ⟨report, m', rfl, found, _, m₂, worked, judged⟩

end Runs

end SelfTest

end RemoteDisk
