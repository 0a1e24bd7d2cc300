import RemoteDisk.Bounce

/-!
# The processor's access to memory

The processor reads and writes words of four bytes. Seen through buffers, a
word lies in the remote window if all of it does, else in the first buffer
that holds all of it, else nowhere: it then reads as zero, and writing it
does nothing. An address so far above the start of the window or of a buffer
that the word's end has no number is a fault.

Accesses are numbered, and a disturbance flips bits in some of them.
-/

namespace RemoteDisk

namespace Processor

/-- The offset of a word in a range, if all of it lies there. -/
def offsetIn (base : UInt64) (size : Nat) (address : UInt64) : Except Fault (Option Nat) :=
  if base ≤ address then
    let offset := address.toNat - base.toNat
    if Geometry.wordLimit ≤ offset + 4 then .error .overflow
    else .ok (if offset + 4 ≤ size then some offset else none)
  else .ok none

/-- The first buffer that holds a word. -/
def findBuffer (address : UInt64) : List Buffer → Except Fault (Option Target)
  | [] => .ok none
  | b :: rest =>
    match offsetIn b.base b.size address with
    | .error e => .error e
    | .ok (some _) => .ok (some (.nearby address.toNat))
    | .ok none => findBuffer address rest

/-- **Where a word lies**, if it lies anywhere. -/
def locate (view : View) (window : Window) (address : UInt64) :
    Except Fault (Option Target) :=
  match view with
  | .mapped => .ok (some (.nearby address.toNat))
  | .buffers locals =>
    match offsetIn window.base window.size address with
    | .error e => .error e
    | .ok (some offset) => .ok (some (.remote offset))
    | .ok none => findBuffer address locals

/-- The bits flipped in an access. -/
def flips (disturbances : List Disturbance) (access : Nat) : UInt32 :=
  disturbances.foldl
    (fun bits d => if d.first ≤ access ∧ access ≤ d.last then bits ^^^ d.flip else bits) 0

end Processor

namespace Machine

/-- The engine's behaviour changed by the disturbances of an access. -/
def disturb (access : Nat) (m : Machine) : Machine :=
  m.processor.disturbances.foldl
    (fun m d =>
      match d.behavior with
      | some behavior =>
        if d.first ≤ access ∧ access ≤ d.last then
          m.mapEngine (fun e => { e with behavior })
        else m
      | none => m) m

end Machine

namespace Act

/-- The next access of the processor: the bits it flips, and where its word
lies. -/
def nextAccess (address : UInt64) : Act (UInt32 × Option Target) := do
  modify (fun m =>
    let access := m.processor.accesses + 1
    { m.disturb access with processor := { m.processor with accesses := access } })
  let m ← get
  match Processor.locate m.processor.view m.window address with
  | .error e => throw e
  | .ok target =>
    return (Processor.flips m.processor.disturbances m.processor.accesses, target)

/-- **A word read by the processor.** -/
def loadWord (address : UInt64) : Act UInt32 := do
  let (flips, target) ← nextAccess address
  match target with
  | none => return flips
  | some target => return Bytes.toWord ((← get).fetch target 4) ^^^ flips

/-- **A word written by the processor.** -/
def storeWord (address : UInt64) (value : UInt32) : Act Unit := do
  let (flips, target) ← nextAccess address
  match target with
  | none => pure ()
  | some target => modify (Machine.store target (Bytes.ofWord (value ^^^ flips)))

end Act

end RemoteDisk
