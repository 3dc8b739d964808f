import ZMessaging.StepSystem
import Mathlib.Logic.Relation

/-!
# Runs seen through a relation

A lifecycle is a relation on some observation of a component's state (the
phase of an upload, the status of a job).  That the component follows it is
a statement about runs: if every step moves the observation by at most one
step of the relation, every run moves it along the relation's
reflexive-transitive closure (`run_reflTransGen`, and
`run_reflTransGen_of_forall` for the runs whose events pass a test).  A value whose only
successor is itself is then never left (`reflTransGen_eq_of_absorbing`).
-/

namespace StepSystem

variable {σ α : Type*}

/-- **Trace rule.**  If every step from a state satisfying `P` keeps `P` and
moves the observation `f` by at most one `r`-step, then along every run from
such a state `f` moves by `r`'s reflexive-transitive closure. -/
theorem run_reflTransGen {β : Type*} {step : σ → α → σ} (P : σ → Prop) (f : σ → β)
    {r : β → β → Prop}
    (hstep : ∀ s a, P s → P (step s a) ∧ Relation.ReflGen r (f s) (f (step s a))) :
    ∀ (as : List α) {s : σ}, P s → Relation.ReflTransGen r (f s) (f (run step s as))
  | [], _, _ => Relation.ReflTransGen.refl
  | a :: as, s, hs =>
      have hfirst := hstep s a hs
      hfirst.2.to_reflTransGen.trans (run_reflTransGen P f hstep as hfirst.1)

/-- **Trace rule for tested events.**  As `run_reflTransGen`, for the runs whose
every event passes the test `G`. -/
theorem run_reflTransGen_of_forall {β : Type*} {step : σ → α → σ} (P : σ → Prop)
    (f : σ → β) {r : β → β → Prop} {G : α → Prop}
    (hstep : ∀ s a, G a → P s → P (step s a) ∧ Relation.ReflGen r (f s) (f (step s a))) :
    ∀ (as : List α) {s : σ}, (∀ a ∈ as, G a) → P s →
      Relation.ReflTransGen r (f s) (f (run step s as))
  | [], _, _, _ => Relation.ReflTransGen.refl
  | a :: as, s, hG, hs =>
      have hfirst := hstep s a (hG a List.mem_cons_self) hs
      hfirst.2.to_reflTransGen.trans
        (run_reflTransGen_of_forall P f hstep as
          (fun a' ha' => hG a' (List.mem_cons_of_mem a ha')) hfirst.1)

/-- A value whose only successor is itself is never left. -/
theorem reflTransGen_eq_of_absorbing {β : Type*} {r : β → β → Prop} {a b : β}
    (ha : ∀ c, r a c → c = a) (h : Relation.ReflTransGen r a b) : b = a := by
  induction h with
  | refl => rfl
  | tail _ hlast ih =>
    subst ih
    exact ha _ hlast

end StepSystem
