import RemoteDisk.Request.Service

/-!
# Running operations

An operation on a machine, or on a request being served, is a function from
a state to an outcome and the state it leaves. The equations of this module
say what that function is for the ways in which operations are built, so
that no proof has to look inside the monads they live in.

One property of an operation is carried through its parts: which view of
the state it leaves as it was, and which faults it can end in (`Keeps`). It
holds of a sequence where it holds of its members.
-/

namespace RemoteDisk

variable {σ α β γ : Type}

/-- An operation on some state that may end in a fault. -/
abbrev Op (σ α : Type) : Type := ExceptT Fault (StateM σ) α

/-- **An operation keeps a view** of the state, however it ends, and ends in
no faults but these. -/
def Keeps (view : σ → γ) (faults : Fault → Prop) (a : Op σ α) : Prop :=
  ∀ s, view (a s).2 = view s ∧ ∀ e, (a s).1 = .error e → faults e

namespace Op

/-- An operation that is known to end in an outcome leaves some state. -/
theorem apply_eq {a : Op σ α} {s : σ} {r : Except Fault α} (h : (a s).1 = r) :
    a s = (r, (a s).2) := Prod.ext h rfl

/-! ## One step after another -/

/-- **A sequence runs its second part on what the first part left**, unless
that ended in a fault. -/
theorem bind_apply (a : Op σ α) (f : α → Op σ β) (s : σ) :
    (a >>= f) s = match a s with
      | (.ok v, s') => f v s'
      | (.error e, s') => (.error e, s') := by
  show (StateT.bind (m := Id) a (ExceptT.bindCont f)) s = _
  unfold StateT.bind
  rcases a s with ⟨v | e, s'⟩ <;> rfl

/-- A sequence after a first part that ended well. -/
theorem bind_ok {a : Op σ α} {f : α → Op σ β} {s s' : σ} {v : α} (h : a s = (.ok v, s')) :
    (a >>= f) s = f v s' := by
  rw [bind_apply, h]

/-- A sequence after a first part that ended in a fault. -/
theorem bind_error {a : Op σ α} {f : α → Op σ β} {s s' : σ} {e : Fault}
    (h : a s = (.error e, s')) : (a >>= f) s = (.error e, s') := by
  rw [bind_apply, h]

/-- A sequence that ended well, taken apart: both parts ended well. -/
theorem bind_ok_inv {a : Op σ α} {f : α → Op σ β} {s s' : σ} {v : β}
    (h : (a >>= f) s = (.ok v, s')) : ∃ u t, a s = (.ok u, t) ∧ f u t = (.ok v, s') := by
  rw [bind_apply] at h
  rcases run : a s with ⟨e | u, t⟩
  · rw [run] at h
    cases h
  · rw [run] at h
    exact ⟨u, t, rfl, h⟩

@[simp] theorem get_apply (s : σ) : (get : Op σ σ) s = (.ok s, s) := rfl

@[simp] theorem modify_apply (f : σ → σ) (s : σ) : (modify f : Op σ Unit) s = (.ok (), f s) := rfl

@[simp] theorem modifyGet_apply (f : σ → α × σ) (s : σ) :
    (modifyGet f : Op σ α) s = (.ok (f s).1, (f s).2) := rfl

theorem ite_apply (c : Prop) [Decidable c] (a b : Op σ α) (s : σ) :
    (if c then a else b) s = if c then a s else b s := by
  split <;> rfl

/-! ## What an operation leaves as it was -/

variable {view : σ → γ} {faults : Fault → Prop}

theorem keeps_pure (v : α) : Keeps view faults (pure v : Op σ α) :=
  fun _ => ⟨rfl, fun _ h => nomatch h⟩

theorem keeps_throw {e : Fault} (h : faults e) : Keeps view faults (throw e : Op σ α) := by
  intro s
  refine ⟨rfl, fun e' h' => ?_⟩
  cases h'
  exact h

theorem keeps_get : Keeps view faults (get : Op σ σ) := fun _ => ⟨rfl, fun _ h => nomatch h⟩

theorem keeps_modify {f : σ → σ} (h : ∀ s, view (f s) = view s) :
    Keeps view faults (modify f : Op σ Unit) := fun s => ⟨h s, fun _ h => nomatch h⟩

theorem keeps_modifyGet {f : σ → α × σ} (h : ∀ s, view (f s).2 = view s) :
    Keeps view faults (modifyGet f : Op σ α) := fun s => ⟨h s, fun _ h => nomatch h⟩

theorem keeps_bind {a : Op σ α} {f : α → Op σ β} (ha : Keeps view faults a)
    (hf : ∀ v, Keeps view faults (f v)) : Keeps view faults (a >>= f) := by
  intro s
  obtain ⟨first, ends⟩ := ha s
  rw [bind_apply]
  rcases h : a s with ⟨e | v, s'⟩
  · rw [h] at first ends
    refine ⟨first, fun e' h' => ?_⟩
    cases h'
    exact ends e rfl
  · rw [h] at first
    obtain ⟨second, ends⟩ := hf v s'
    exact ⟨second.trans first, ends⟩

theorem keeps_ite {c : Prop} [Decidable c] {a b : Op σ α} (ha : Keeps view faults a)
    (hb : Keeps view faults b) : Keeps view faults (if c then a else b) := by
  split
  · exact ha
  · exact hb

end Op

end RemoteDisk
