import RemoteDisk.Proofs.Course

/-!
# Two runs side by side

Two operations go side by side when, from related states, they come to the
same result and leave related states again (`Abreast`). What goes side by
side in its parts does so as a whole, so that a statement about two runs of a
request is reduced to one about its waits.

Three relations take part. States are related by one of them before and by
another after the operations; a fault may fall anywhere in between and
leaves states that are related by a third. Some faults end the comparison:
where the first run ends in one of them, nothing is said about the second.
-/

namespace RemoteDisk

variable {σ α β : Type}

/-- **How two runs end side by side.** -/
inductive Agree (lost : Fault → Prop) (rest post : σ → σ → Prop) :
    Except Fault α × σ → Except Fault α × σ → Prop
  /-- Both end well and with the same value. -/
  | ended (v : α) {s s' : σ} (h : post s s') : Agree lost rest post (.ok v, s) (.ok v, s')
  /-- Both end in the same fault. -/
  | faulted (e : Fault) {s s' : σ} (h : rest s s') :
      Agree lost rest post (.error e, s) (.error e, s')
  /-- The first ends in a fault with which the comparison ends too. -/
  | lost {e : Fault} (h : lost e) (s : σ) (r : Except Fault α × σ) :
      Agree lost rest post (.error e, s) r

/-- **Two operations go side by side** from states related by `pre` to states
related by `post`. -/
def Abreast (lost : Fault → Prop) (rest pre : σ → σ → Prop) (a a' : Op σ α)
    (post : σ → σ → Prop) : Prop :=
  ∀ s s', pre s s' → Agree lost rest post (a s) (a' s')

/-- Runs that agree leave related states in any case, unless the first is
lost. -/
theorem Agree.states {lost : Fault → Prop} {rest : σ → σ → Prop} {r r' : Except Fault α × σ}
    (h : Agree lost rest rest r r') :
    (∃ e, r.1 = .error e ∧ lost e) ∨ r.1 = r'.1 ∧ rest r.2 r'.2 := by
  cases h with
  | ended v h => exact .inr ⟨rfl, h⟩
  | faulted e h => exact .inr ⟨rfl, h⟩
  | lost h s r => exact .inl ⟨_, rfl, h⟩

namespace Op

variable {lost : Fault → Prop} {rest pre mid post : σ → σ → Prop}

theorem abreast_pure (v : α) (h : ∀ s s', pre s s' → post s s') :
    Abreast lost rest pre (pure v) (pure v) post :=
  fun s s' related => .ended v (h s s' related)

theorem abreast_throw (e : Fault) (h : ∀ s s', pre s s' → rest s s') :
    Abreast lost rest pre (throw e : Op σ α) (throw e) post :=
  fun s s' related => .faulted e (h s s' related)

theorem abreast_modify {f f' : σ → σ} (h : ∀ s s', pre s s' → post (f s) (f' s')) :
    Abreast lost rest pre (modify f) (modify f') post :=
  fun s s' related => .ended () (h s s' related)

theorem abreast_modifyGet {f f' : σ → α × σ}
    (h : ∀ s s', pre s s' → (f s).1 = (f' s').1 ∧ post (f s).2 (f' s').2) :
    Abreast lost rest pre (modifyGet f) (modifyGet f') post := by
  intro s s' related
  obtain ⟨same, left⟩ := h s s' related
  rw [modifyGet_apply, modifyGet_apply, same]
  exact .ended _ left

/-- **What goes side by side in its parts goes side by side.** -/
theorem abreast_bind {a a' : Op σ α} {f f' : α → Op σ β} (ha : Abreast lost rest pre a a' mid)
    (hf : ∀ v, Abreast lost rest mid (f v) (f' v) post) :
    Abreast lost rest pre (a >>= f) (a' >>= f') post := by
  intro s s' related
  have first := ha s s' related
  rw [bind_apply, bind_apply]
  revert first
  generalize a s = r
  generalize a' s' = r'
  intro first
  cases first with
  | ended v h => exact hf v _ _ h
  | faulted e h => exact .faulted e h
  | lost h s r => exact .lost h s _

/-- Operations that look at the state go side by side as what they do with
it. -/
theorem abreast_get {f f' : σ → Op σ β}
    (h : ∀ s s', pre s s' → Agree lost rest post (f s s) (f' s' s')) :
    Abreast lost rest pre (get >>= f) (get >>= f') post :=
  fun s s' related => h s s' related

theorem abreast_ite {c : Prop} [Decidable c] {a a' b b' : Op σ α}
    (ha : Abreast lost rest pre a a' post) (hb : Abreast lost rest pre b b' post) :
    Abreast lost rest pre (if c then a else b) (if c then a' else b') post := by
  split
  · exact ha
  · exact hb

end Op

/-! ## Requests being served -/

/-- **Two requests stand at the same point**, on related machines. -/
structure Service.Beside (R : Machine → Machine → Prop) (s s' : Service) : Prop where
  machine : R s.machine s'.machine
  phase : s.phase = s'.phase
  delivered : s.delivered = s'.delivered

namespace Serve

variable {lost : Fault → Prop} {rest pre post : Machine → Machine → Prop}

/-- Operations on the machine alone go side by side while a request is
served. -/
theorem abreast_ofAct {a a' : Act α} (h : Abreast lost rest pre a a' post) :
    Abreast lost (Service.Beside rest) (Service.Beside pre) (ofAct a) (ofAct a')
      (Service.Beside post) := by
  rintro s s' ⟨machine, phase, delivered⟩
  have run := h _ _ machine
  rw [ofAct_apply, ofAct_apply, phase, delivered]
  revert run
  generalize a s.machine = r
  generalize a' s'.machine = r'
  intro run
  cases run with
  | ended v h => exact .ended v ⟨h, rfl, rfl⟩
  | faulted e h => exact .faulted e ⟨h, rfl, rfl⟩
  | lost h m r => exact .lost h _ _

theorem abreast_enter (phase : Phase) :
    Abreast lost (Service.Beside rest) (Service.Beside pre) (enter phase) (enter phase)
      (Service.Beside pre) :=
  Op.abreast_modify fun _ _ h => ⟨h.machine, rfl, h.delivered⟩

theorem abreast_deliver (d : Delivery) :
    Abreast lost (Service.Beside rest) (Service.Beside pre) (deliver d) (deliver d)
      (Service.Beside pre) :=
  Op.abreast_modify fun _ _ h => ⟨h.machine, h.phase, congrArg (· ++ [d]) h.delivered⟩

end Serve

namespace Attempt

variable {lost : Fault → Prop} {rest : Service → Service → Prop}

/-- **Two attempts go side by side**, from related states to related
states. -/
def Together (lost : Fault → Prop) (rest : Service → Service → Prop) (a a' : Attempt α) : Prop :=
  ∀ s s', rest s s' → Agree lost rest rest (a s) (a' s')

/-- Where the first part fails as a transfer does, so do both attempts. -/
theorem together_bind {a a' : Attempt α} {f f' : α → Attempt β} (ha : Together lost rest a a')
    (hf : ∀ v, Together lost rest (f v) (f' v)) : Together lost rest (a >>= f) (a' >>= f') := by
  have onwards (result : Except TransferError α) : Abreast (σ := Service) lost rest rest
      (ExceptT.bindCont f result) (ExceptT.bindCont f' result) rest := by
    cases result with
    | ok v => exact hf v
    | error cause => exact Op.abreast_pure (Except.error cause) fun _ _ h => h
  exact Op.abreast_bind (σ := Service) ha onwards

theorem together_pure (v : α) : Together lost rest (pure v) (pure v) :=
  Op.abreast_pure (Except.ok v) fun _ _ h => h

/-- What cannot fail as a transfer does goes side by side as an attempt. -/
theorem together_ofServe {a a' : Serve α} (h : Abreast lost rest rest a a' rest) :
    Together lost rest (ofServe a) (ofServe a') :=
  Op.abreast_bind h fun v => Op.abreast_pure (Except.ok v) fun _ _ h => h

theorem together_ofExcept (e : Except Fault α) :
    Together lost rest (ofExcept e) (ofExcept e) := by
  refine together_ofServe fun s s' h => ?_
  cases e with
  | ok v => exact .ended v h
  | error e => exact .faulted e h

end Attempt

end RemoteDisk
