import RecordFilter.Proofs.Atomic

/-!
# Programs that are answered

When a program over a state is answered, and with what: a sequence is answered if its first part is,
and its second part in the state that the first has left (`run_bind_eq_ok_iff`).
-/

namespace RecordFilter

variable {ε σ α β : Type}

/-- A sequence is answered if its first part is, and its second part in the state that is left. -/
lemma run_bind_eq_ok_iff {x : EStateM ε σ α} {f : α → EStateM ε σ β} {s final : σ} {b : β} :
    (x >>= f).run s = .ok b final ↔
      ∃ a between, x.run s = .ok a between ∧ (f a).run between = .ok b final := by
  rw [EStateM.run_bind]
  cases hrun : x.run s with
  | ok a between => simp
  | error e between => simp

/-- Dropping the answer changes nothing else. -/
lemma run_discard_eq_ok_iff {x : EStateM ε σ α} {s final : σ} :
    (Functor.discard x : EStateM ε σ PUnit).run s = .ok () final ↔
      ∃ a, x.run s = .ok a final := by
  change EStateM.map _ x s = _ ↔ ∃ a, x s = _
  rw [EStateM.map]
  cases hrun : x s with
  | ok a after => simp
  | error e after => simp

/-- An answer at once leaves the state. -/
lemma run_pure_eq_ok_iff {a b : α} {s final : σ} :
    (pure a : EStateM ε σ α).run s = .ok b final ↔ a = b ∧ s = final := by
  rw [EStateM.run_pure, EStateM.Result.ok.injEq]

/-- Looking at the state answers with it. -/
lemma run_get_eq_ok_iff {s a final : σ} :
    (get : EStateM ε σ σ).run s = .ok a final ↔ s = a ∧ s = final := by
  rw [EStateM.run_get, EStateM.Result.ok.injEq]

/-- Changing the state leaves what it is changed to. -/
lemma run_modify_eq_ok_iff {f : σ → σ} {s final : σ} {u : PUnit} :
    (modify f : EStateM ε σ PUnit).run s = .ok u final ↔ f s = final := by
  change EStateM.Result.ok u (f s) = _ ↔ _
  rw [EStateM.Result.ok.injEq]
  exact and_iff_right rfl

end RecordFilter
