import RemoteDisk.Proofs.Replies
import RemoteDisk.Proofs.Steady

/-!
# How a machine was set up

Where the window lies, which bits are looked for, what kind of clock there is
and who listens to the interrupt wire: this is the outline of a machine. No call
of a disk changes it, but those that are made to change who listens. That holds
of requests too, whatever becomes of them, so two machines that were set up
alike have the same outline after any two histories.
-/

namespace RemoteDisk

open Op

/-- What answers at the registers, as it was set up. -/
def Controller.outline : Controller → Controller
  | .recorder _ => .recorder {}
  | .engine e => .engine { doneBits := e.doneBits }

namespace Machine

/-- **The machine as it was set up**, without anything that was done with it. -/
def outline (m : Machine) : Machine :=
  { m.bare with
    controller := m.controller.outline
    flushes := #[]
    counters := {} }

variable {m m' : Machine}

/-- The outline can be told from the bare machine. -/
@[simp] theorem outline_bare (m : Machine) : m.bare.outline = m.outline := by
  rcases m with ⟨_ | _⟩ <;> rfl

theorem outline_of_bare (h : m'.bare = m.bare) : m'.outline = m.outline := by
  rw [← outline_bare, h, outline_bare]

/-- A start does not show in the outline. -/
theorem outline_noted (t : Transfer) (m : Machine) :
    (m.mapEngine (Engine.noted t)).outline = m.outline := by
  rcases m with ⟨_ | ⟨_, _, _, _ | _⟩⟩ <;> rfl

theorem steady_outline : Steady outline where
  bare := outline_of_bare
  noted := outline_noted

/-- The window of a machine can be told from the outline, but for its bytes. -/
theorem window_of_outline (h : m'.outline = m.outline) :
    m'.window.base = m.window.base ∧ m'.window.size = m.window.size :=
  ⟨(congrArg (fun b : Machine => b.window.base) h :),
    (congrArg (fun b : Machine => b.window.size) h :)⟩

/-- Engines with the same outline show the same bits at the end of a
transfer. -/
theorem doneBits_of_outline {e e' : Engine} (h : m'.outline = m.outline)
    (engine : m.controller = .engine e) (engine' : m'.controller = .engine e') :
    e'.doneBits = e.doneBits := by
  have same : m'.controller.outline = m.controller.outline :=
    (congrArg Machine.controller h :)
  rw [engine, engine'] at same
  have same : Controller.engine { doneBits := e'.doneBits } = .engine { doneBits := e.doneBits } :=
    same
  exact (congrArg Engine.doneBits (Controller.engine.inj same) :)

end Machine

/-! ## Requests -/

/-- **An operation leaves the outline** of the machine. -/
abbrev LeavesOutline {α : Type} (a : Act α) : Prop := Keeps Machine.outline (fun _ => True) a

namespace Act

theorem flush_outline (address : UInt64) (len : Nat) : LeavesOutline (flush address len) :=
  keeps_bind (keeps_modify fun _ => rfl) fun _ => keeps_ite (keeps_throw trivial) (keeps_pure ())

theorem report_outline (level : Level) (text : String) : LeavesOutline (report level text) :=
  keeps_modify fun _ => rfl

theorem count_outline (f : Counters → Counters) : LeavesOutline (count f) :=
  keeps_modify fun _ => rfl

theorem word_outline (n : Nat) : LeavesOutline (word n) :=
  keeps_ite (keeps_pure _) (keeps_throw trivial)

theorem wait_outline (ms : UInt64) : LeavesOutline (wait ms) :=
  keeps_of_bare Machine.steady_outline (keeps_wait ms)

end Act

namespace Descriptor

variable (d : Descriptor)

theorem begin_outline : LeavesOutline d.begin :=
  keeps_bind (Act.flush_outline _ _) fun _ => Act.keeps_launch Machine.steady_outline _ _ _

theorem finish_outline (ms : UInt64) : LeavesOutline (d.finish ms) := by
  refine keeps_bind (Act.wait_outline ms) fun outcome => ?_
  cases outcome with
  | ok =>
    refine keeps_bind (keeps_bind (Act.flush_outline _ _) fun _ => ?_) fun _ => keeps_pure _
    cases d.direction <;> exact Act.count_outline _
  | error cause =>
    refine keeps_bind (fun m => ?_) fun _ => keeps_pure _
    obtain ⟨journal, failed⟩ := d.fail_apply ms cause m
    rw [failed]
    exact ⟨rfl, fun _ _ => trivial⟩

end Descriptor

/-- The outline of the machine that serves a request. -/
def Service.outline (s : Service) : Machine := s.machine.outline

/-- **Serving leaves the outline** of the machine. -/
abbrev Serve.LeavesOutline {α : Type} (x : Serve α) : Prop :=
  Keeps Service.outline (fun _ => True) x

/-- **An attempt leaves the outline** of the machine. -/
abbrev Attempt.LeavesOutline {α : Type} (x : Attempt α) : Prop :=
  Keeps (σ := Service) Service.outline (fun _ => True) x

namespace Serve

theorem ofAct_outline {α : Type} {a : Act α} (h : RemoteDisk.LeavesOutline a) :
    LeavesOutline (ofAct a) :=
  fun s => ⟨(h s.machine).1, fun _ _ => trivial⟩

theorem enter_outline (phase : Phase) : LeavesOutline (enter phase) := keeps_modify fun _ => rfl

end Serve

namespace Attempt

variable {α β : Type}

theorem bind_outline {x : Attempt α} {f : α → Attempt β} (hx : LeavesOutline x)
    (hf : ∀ v, LeavesOutline (f v)) : LeavesOutline (x >>= f) := by
  have onwards (result : Except TransferError α) :
      Keeps (σ := Service) Service.outline (fun _ => True) (ExceptT.bindCont f result) := by
    cases result with
    | ok v => exact hf v
    | error cause => exact keeps_pure _
  exact keeps_bind (σ := Service) hx onwards

theorem ofServe_outline {x : Serve α} (h : Serve.LeavesOutline x) : LeavesOutline (ofServe x) :=
  keeps_bind h fun _ => keeps_pure _

theorem ofAct_outline {a : Act α} (h : RemoteDisk.LeavesOutline a) : LeavesOutline (ofAct a) :=
  ofServe_outline (Serve.ofAct_outline h)

theorem ofExcept_outline (e : Except Fault α) : LeavesOutline (ofExcept e) :=
  ofServe_outline fun _ => ⟨rfl, fun _ _ => trivial⟩

end Attempt

namespace Route

variable (route : Route)

theorem move_outline (d : Descriptor) : Attempt.LeavesOutline (route.move d) := by
  refine keeps_bind (Serve.enter_outline _) fun _ => ?_
  refine keeps_bind (Serve.ofAct_outline d.begin_outline) fun _ => ?_
  refine keeps_bind (Serve.enter_outline _) fun _ => ?_
  exact Serve.ofAct_outline (d.finish_outline _)

theorem serveChunk_outline (segment : Segment) (start : UInt64) (chunk : Chunk) :
    Attempt.LeavesOutline (route.serveChunk segment start chunk) := by
  have described (direction : Direction) :
      Attempt.LeavesOutline (Attempt.ofAct (route.descriptor direction start chunk)) :=
    Attempt.ofAct_outline (keeps_bind (Act.word_outline _) fun _ => keeps_pure _)
  cases segment with
  | source data =>
    refine Attempt.bind_outline (Attempt.ofServe_outline (Serve.enter_outline _)) fun _ => ?_
    refine Attempt.bind_outline (Attempt.ofExcept_outline _) fun _ => ?_
    refine Attempt.bind_outline (Attempt.ofAct_outline ?_) fun _ => ?_
    · exact keeps_ite (keeps_modify fun _ => rfl) (keeps_throw trivial)
    · exact Attempt.bind_outline (described .write) fun d => route.move_outline d
  | sink buffer size =>
    refine Attempt.bind_outline (described .read) fun d => ?_
    refine Attempt.bind_outline (route.move_outline d) fun _ => ?_
    refine Attempt.bind_outline (Attempt.ofExcept_outline _) fun _ => ?_
    refine Attempt.bind_outline (Attempt.ofAct_outline ?_) fun _ => ?_
    · exact keeps_ite (keeps_bind keeps_get fun _ => keeps_pure _) (keeps_throw trivial)
    · exact Attempt.ofServe_outline (keeps_modify fun _ => rfl)

theorem serveChunks_outline (segment : Segment) (start : UInt64) (chunks : List Chunk) :
    Attempt.LeavesOutline (route.serveChunks segment start chunks) := by
  induction chunks with
  | nil => exact keeps_pure _
  | cons chunk rest ih =>
    exact Attempt.bind_outline (route.serveChunk_outline segment start chunk) fun _ => ih

theorem serveSegments_outline (cursor : Nat) (segments : List Segment) :
    Attempt.LeavesOutline (route.serveSegments cursor segments) := by
  have word (n : Nat) : Attempt.LeavesOutline (Attempt.ofAct (Act.word n)) :=
    Attempt.ofAct_outline (Act.word_outline n)
  induction segments generalizing cursor with
  | nil => exact keeps_pure _
  | cons segment rest ih =>
    refine Attempt.bind_outline ?_ fun _ => Attempt.bind_outline (word _) fun next => ih _
    exact Attempt.bind_outline (word _) fun start => route.serveChunks_outline segment start _

theorem serve_outline (r : Request) : Serve.LeavesOutline (route.serve r) := by
  refine keeps_bind (Serve.ofAct_outline (Act.report_outline _ _)) fun _ => ?_
  refine keeps_bind (route.serveSegments_outline _ _) fun result => ?_
  cases result <;> exact keeps_bind (Serve.enter_outline _) fun _ => keeps_pure _

end Route

namespace Device

variable {d : Device} {m : Machine}

/-- **A request leaves the outline of the machine**, however it ends. -/
theorem submit_outline (r : Request) : Serve.LeavesOutline (d.submit r) := by
  have refused (level : Level) (text : String) (e : BlockError) :
      Serve.LeavesOutline (refuse level text e) :=
    keeps_bind (Serve.ofAct_outline (Act.report_outline _ _)) fun _ =>
      keeps_bind (Serve.enter_outline _) fun _ => keeps_pure _
  refine keeps_ite (refused _ _ _) ?_
  refine keeps_bind (Serve.ofAct_outline (Act.word_outline _)) fun _ => ?_
  refine keeps_ite (refused _ _ _) ?_
  refine keeps_bind (Serve.enter_outline _) fun _ => ?_
  exact keeps_bind (d.route.serve_outline r) fun _ => keeps_pure _

/-- **Every call leaves the outline of the machine**, but for those that change who listens to the
wire. -/
theorem Call.run_outline {c : Call} (fixed : c.isRewiring = false) :
    (c.run d m).2.outline = m.outline := by
  rcases makes : c.request? d with _ | r
  · by_cases resets : c.resets = true
    · obtain ⟨journal, run⟩ := Call.run_resets (d := d) resets m
      rw [run]
      rfl
    by_cases delivers : c.isDelivery = true
    · cases c with
      | interrupt line => exact Machine.outline_of_bare (m.bare_deliver _ line)
      | check => exact Machine.outline_of_bare m.bare_handleInterrupt
      | raise => exact Machine.outline_of_bare m.bare_raise
      | _ => cases delivers
    · rw [Bool.not_eq_true] at resets delivers
      rw [Call.run_idle makes resets delivers fixed]
  · rw [(Call.run_of_request makes).2.1]
    exact (submit_outline r { machine := m }).1

/-- **A history leaves the outline of the machine.** -/
theorem after_outline {calls : List Call} (fixed : ∀ c ∈ calls, c.isRewiring = false) :
    (d.after calls m).outline = m.outline := by
  induction calls generalizing m with
  | nil => rfl
  | cons c rest ih =>
    refine (ih (m := (c.run d m).2) fun c' hc => fixed c' (List.mem_cons_of_mem _ hc)).trans ?_
    exact Call.run_outline (fixed c List.mem_cons_self)

end Device

end RemoteDisk
