import Mathlib.Tactic.Common

/-!
# Programs that are refused without a trace

A program over a state may be refused at any of its steps, and the state stays as far as it came.
`Atomic` says that it came nowhere: a refused program leaves the state it started from.

A sequence is atomic for one of two reasons.  Either its first part only reads the state, and the
second is atomic, or its first part is atomic, and the second cannot be refused after it.
-/

namespace RecordFilter

variable {ε σ α β : Type}

/-- Where a program is refused, the state is the one it started from. -/
def Atomic (x : EStateM ε σ α) : Prop :=
  ∀ s error after, x.run s = .error error after → after = s

/-- A program never changes the state, whether it is answered or refused. -/
structure ReadOnly (x : EStateM ε σ α) : Prop where
  atomic : Atomic x
  answered : ∀ s a after, x.run s = .ok a after → after = s

/-- A program is answered in a state. -/
def IsAnswered (x : EStateM ε σ α) (s : σ) : Prop :=
  ∃ a after, x.run s = .ok a after

/-! ### Single steps -/

/-- A refusal at once, whatever kind of answer was asked for. -/
lemma run_throw_eq_error (e : ε) (s : σ) :
    (throw e : EStateM ε σ α).run s = .error e s := rfl

/-- An answer at once leaves the state. -/
lemma readOnly_pure (a : α) : ReadOnly (pure a : EStateM ε σ α) where
  atomic := fun s error after h => by cases h
  answered := fun s b after h => (EStateM.Result.ok.inj h).2.symm

/-- A refusal at once leaves the state. -/
lemma readOnly_throw (e : ε) : ReadOnly (throw e : EStateM ε σ α) where
  atomic := fun s error after h => (EStateM.Result.error.inj h).2.symm
  answered := fun s b after h => by cases h

/-- Looking at the state leaves it. -/
lemma readOnly_get : ReadOnly (get : EStateM ε σ σ) where
  atomic := fun s error after h => by cases h
  answered := fun s b after h => (EStateM.Result.ok.inj h).2.symm

/-- Setting the state is never refused. -/
lemma atomic_set (s : σ) : Atomic (set s : EStateM ε σ PUnit) :=
  fun before error after h => by cases h

/-- Changing the state is never refused. -/
lemma atomic_modify (f : σ → σ) : Atomic (modify f : EStateM ε σ PUnit) :=
  fun before error after h => by cases h

/-- An answer at once is an answer. -/
lemma isAnswered_pure (a : α) (s : σ) : IsAnswered (pure a : EStateM ε σ α) s :=
  ⟨a, s, rfl⟩

/-! ### Sequences -/

/-- What only reads may be followed by what is atomic. -/
lemma ReadOnly.bind_atomic {x : EStateM ε σ α} {f : α → EStateM ε σ β} (hx : ReadOnly x)
    (hf : ∀ a, Atomic (f a)) : Atomic (x >>= f) := by
  intro s error after h
  rw [EStateM.run_bind] at h
  cases hrun : x.run s with
  | ok a between =>
    obtain rfl := hx.answered s a between hrun
    simp only [hrun] at h
    exact hf a between error after h
  | error e between =>
    simp only [hrun, EStateM.Result.error.injEq] at h
    exact h.2 ▸ hx.atomic s e between hrun

/-- What only reads goes on as what follows it. -/
lemma ReadOnly.bind {x : EStateM ε σ α} {f : α → EStateM ε σ β} (hx : ReadOnly x)
    (hf : ∀ a, ReadOnly (f a)) : ReadOnly (x >>= f) where
  atomic := hx.bind_atomic fun a => (hf a).atomic
  answered := by
    intro s b after h
    rw [EStateM.run_bind] at h
    cases hrun : x.run s with
    | ok a between =>
      obtain rfl := hx.answered s a between hrun
      simp only [hrun] at h
      exact (hf a).answered between b after h
    | error e between => simp [hrun] at h

/-- What is atomic may be followed by what cannot be refused after it. -/
lemma Atomic.bind_isAnswered {x : EStateM ε σ α} {f : α → EStateM ε σ β} (hx : Atomic x)
    (hf : ∀ s a after, x.run s = .ok a after → IsAnswered (f a) after) : Atomic (x >>= f) := by
  intro s error after h
  rw [EStateM.run_bind] at h
  cases hrun : x.run s with
  | ok a between =>
    obtain ⟨b, final, hanswer⟩ := hf s a between hrun
    simp [hrun, hanswer] at h
  | error e between =>
    simp only [hrun, EStateM.Result.error.injEq] at h
    exact h.2 ▸ hx s e between hrun

/-- Dropping the answer keeps a program atomic. -/
lemma Atomic.discard {x : EStateM ε σ α} (hx : Atomic x) :
    Atomic (Functor.discard x : EStateM ε σ PUnit) := by
  intro s error after h
  change EStateM.map _ x s = _ at h
  rw [EStateM.map] at h
  cases hrun : x s with
  | ok a between => simp [hrun] at h
  | error e between =>
    simp only [hrun, EStateM.Result.error.injEq] at h
    exact h.2 ▸ hx s e between hrun

end RecordFilter
