import Mathlib
import LowRankTuner.Training.Trainer
/-!
# What a successful file step returns

A `DiskM` computation runs against a disk and either fails or returns a value together
with the changed disk.  `DiskM.Ensures x P` says that whenever `x` returns, from whatever
disk it starts on, its value satisfies `P`: a postcondition that says nothing about runs
that fail.  The rules below are the usual ones of such a logic (for `pure`, `bind`, a
lifted `Except` and a fold), so that a loop of file steps is reasoned about one step at a
time, and `bind_congr` lets a postcondition of the first half of a computation justify
rewriting its second half.
-/

namespace LowRankTuner.DiskM

variable {α β σ : Type}

/-- Every run of `x` that returns, from any disk, returns a value satisfying `P`. -/
def Ensures (x : DiskM α) (P : α → Prop) : Prop :=
  ∀ d a d', x.run.run d = (.ok a, d') → P a

/-- A bound computation runs its second half on the disk the first half leaves, unless the
first half fails. -/
theorem run_bind (x : DiskM α) (f : α → DiskM β) (d : Disk) :
    (x >>= f).run.run d = match x.run.run d with
      | (.ok a, d') => (f a).run.run d'
      | (.error e, d') => (.error e, d') := by
  simp only [ExceptT.run_bind, StateT.run_bind]
  rcases x.run.run d with ⟨r, d'⟩
  cases r <;> rfl

theorem run_pure (a : α) (d : Disk) : (pure a : DiskM α).run.run d = (.ok a, d) := rfl

theorem run_get (d : Disk) : (get : DiskM Disk).run.run d = (.ok d, d) := rfl

theorem run_modify (f : Disk → Disk) (d : Disk) :
    (modify f : DiskM Unit).run.run d = (.ok (), f d) := rfl

/-- A change to the files either leaves the changed disk or fails and leaves the disk as it
was. -/
theorem run_change (f : Disk → Except String Disk) (err : String → Failure) (d : Disk) :
    (DiskM.change f err).run.run d = match f d with
      | .ok d' => (.ok (), d')
      | .error e => (.error (err e), d) := by
  unfold DiskM.change
  rw [run_bind, run_get]
  dsimp only
  cases f d <;> rfl

/-- A bound computation that returns ran both halves, each returning. -/
theorem run_bind_ok {x : DiskM α} {f : α → DiskM β} {d d' : Disk} {b : β}
    (h : (x >>= f).run.run d = (.ok b, d')) :
    ∃ a d₁, x.run.run d = (.ok a, d₁) ∧ (f a).run.run d₁ = (.ok b, d') := by
  rw [run_bind] at h
  revert h
  rcases x.run.run d with ⟨r, d₁⟩
  cases r with
  | error e => intro h; cases h
  | ok a => exact fun h => ⟨a, d₁, rfl, h⟩

/-- A change followed by more steps that returns made its change. -/
theorem run_change_bind_ok {f : Disk → Except String Disk} {err : String → Failure}
    {k : Unit → DiskM β} {d d' : Disk} {b : β} (h : (DiskM.change f err >>= k).run.run d = (.ok b, d')) :
    ∃ d₁, f d = .ok d₁ ∧ (k ()).run.run d₁ = (.ok b, d') := by
  obtain ⟨⟨⟩, d₁, hc, hk⟩ := run_bind_ok h
  rw [run_change] at hc
  revert hc
  cases f d with
  | error e => intro hc; cases hc
  | ok d₂ => intro hc; cases hc; exact ⟨d₁, rfl, hk⟩

/-- A first half that returns hands its value and disk to the second. -/
theorem run_bind_of_ok {x : DiskM α} {f : α → DiskM β} {d d₁ : Disk} {a : α}
    (h : x.run.run d = (.ok a, d₁)) : (x >>= f).run.run d = (f a).run.run d₁ := by
  rw [run_bind, h]

/-- A change that succeeds hands its disk to the steps after it. -/
theorem run_change_bind_of_ok {f : Disk → Except String Disk} {err : String → Failure}
    {k : Unit → DiskM β} {d d₁ : Disk} (h : f d = .ok d₁) :
    (DiskM.change f err >>= k).run.run d = (k ()).run.run d₁ := by
  rw [run_bind, run_change, h]

theorem Ensures.mono {x : DiskM α} {P Q : α → Prop} (hx : x.Ensures P)
    (h : ∀ a, P a → Q a) : x.Ensures Q :=
  fun d a d' hr => h a (hx d a d' hr)

theorem ensures_pure {a : α} {P : α → Prop} (h : P a) : (pure a : DiskM α).Ensures P := by
  intro d b d' hr
  rw [run_pure] at hr
  cases hr
  exact h

theorem ensures_bind {x : DiskM α} {f : α → DiskM β} {Q : α → Prop} {P : β → Prop}
    (hx : x.Ensures Q) (hf : ∀ a, Q a → (f a).Ensures P) : (x >>= f).Ensures P := by
  intro d b d' hr
  rw [run_bind] at hr
  rcases h : x.run.run d with ⟨r, d₁⟩
  rw [h] at hr
  cases r with
  | error e => cases hr
  | ok a => exact hf a (hx d a d₁ h) d₁ b d' hr

/-- When the second half ensures `P` whatever it is given, so does the whole. -/
theorem ensures_bind_any {x : DiskM α} {f : α → DiskM β} {P : β → Prop}
    (hf : ∀ a, (f a).Ensures P) : (x >>= f).Ensures P :=
  ensures_bind (Q := fun _ => True) (fun _ _ _ _ => trivial) fun a _ => hf a

theorem ensures_throw {e : Failure} {P : α → Prop} : (throw e : DiskM α).Ensures P := by
  intro d a d' hr
  cases hr

theorem ensures_liftExcept {r : Except Failure α} {P : α → Prop}
    (h : ∀ a, r = .ok a → P a) : (liftExcept r).Ensures P := by
  cases r with
  | error e => exact ensures_throw
  | ok a => exact ensures_pure (h a rfl)

/-- A loop whose every step moves an invariant indexed by the number of steps taken from
`k` to `k + 1` ends with the invariant at the length of the list. -/
theorem ensures_foldlM {f : σ → α → DiskM σ} (l : List α) (I : Nat → σ → Prop) {s : σ}
    (hf : ∀ k s a, a ∈ l → I k s → (f s a).Ensures (I (k + 1))) (h0 : I 0 s) :
    (l.foldlM f s).Ensures (I l.length) := by
  induction l generalizing s I with
  | nil => exact ensures_pure h0
  | cons a l ih =>
    rw [List.foldlM_cons]
    refine ensures_bind (hf 0 s a (List.mem_cons_self ..) h0) fun s' h1 => ?_
    have hrest := ih (fun k => I (k + 1)) (s := s')
      (fun k s b hb hk => hf (k + 1) s b (List.mem_cons_of_mem a hb) hk) h1
    simpa only [List.length_cons] using hrest

/-- The second half of a computation may be replaced by one that agrees with it on every
value the first half can return. -/
theorem bind_congr {x : DiskM α} {f g : α → DiskM β} {P : α → Prop}
    (hx : x.Ensures P) (h : ∀ a, P a → f a = g a) : x >>= f = x >>= g := by
  apply ExceptT.ext
  apply StateT.ext
  intro d
  rw [run_bind, run_bind]
  rcases hr : x.run.run d with ⟨r, d₁⟩
  cases r with
  | error e => rfl
  | ok a => simp only [h a (hx d a d₁ hr)]

end LowRankTuner.DiskM
