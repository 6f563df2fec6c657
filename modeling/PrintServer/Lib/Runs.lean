import Mathlib.Data.List.Basic
/-!
# Runs of a partial step function

A component is a state type `σ`, an input type `α` (who moves, and what the environment
answers) and `step : σ → α → Option σ`; `none` means the move is not possible there. A run is
a list of inputs. Conditions on a run are conditions on each step, read in the state *before*
it (`Meets`); `run_inv` is the induction every safety result goes through.
-/
namespace Lib

section Runs
variable {σ α : Type*} (step : σ → α → Option σ)

/-- Follow a list of inputs; `none` as soon as one of them is not possible. -/
def run : σ → List α → Option σ
  | s, [] => some s
  | s, a :: as => match step s a with
    | some s' => run s' as
    | none => none

/-- Every step of the run meets `C` in the state it is taken from. -/
def Meets (C : σ → α → Prop) : σ → List α → Prop
  | _, [] => True
  | s, a :: as => C s a ∧ ∀ s', step s a = some s' → Meets C s' as

/-- Conditions of concrete runs can be evaluated. -/
instance decidableMeets (C : σ → α → Prop) [∀ s a, Decidable (C s a)] : ∀ s as, Decidable (Meets step C s as)
  | _, [] => isTrue trivial
  | s, a :: as => match h : step s a with
    | none => decidable_of_iff (C s a) ⟨fun hc => ⟨hc, fun s' h' => (by cases h.symm.trans h')⟩, And.left⟩
    | some m =>
      have : Decidable (Meets step C m as) := decidableMeets C m as
      decidable_of_iff (C s a ∧ Meets step C m as)
        ⟨fun hc => ⟨hc.1, fun s' h' => Option.some.inj (h.symm.trans h') ▸ hc.2⟩, fun hc => ⟨hc.1, hc.2 m h⟩⟩

variable {step}

theorem run_cons {s : σ} {a : α} {as : List α} {s' : σ} (h : run step s (a :: as) = some s') :
    ∃ m, step s a = some m ∧ run step m as = some s' := by
  simp only [run] at h
  split at h
  · rename_i m hm; exact ⟨m, hm, h⟩
  · cases h

theorem run_of_step {s m : σ} {a : α} {as : List α} (h : step s a = some m) : run step s (a :: as) = run step m as := by
  simp only [run, h]

theorem run_append {s m : σ} : ∀ {as bs : List α}, run step s as = some m → run step s (as ++ bs) = run step m bs := by
  intro as
  induction as generalizing s with
  | nil =>
    intro bs h
    cases h
    rfl
  | cons a as ih =>
    intro bs h
    obtain ⟨t, ht, hr⟩ := run_cons h
    exact (run_of_step ht).trans (ih hr)

/-- The condition on a run, when its first step is known. -/
theorem meets_cons {C : σ → α → Prop} {s m : σ} {a : α} {as : List α} (h : step s a = some m) :
    Meets step C s (a :: as) ↔ C s a ∧ Meets step C m as :=
  and_congr_right fun _ => ⟨fun hm => hm m h, fun hm _ h' => Option.some.inj (h.symm.trans h') ▸ hm⟩

theorem meets_forall {C : α → Prop} {as : List α} (h : ∀ a ∈ as, C a) : ∀ s, Meets step (fun _ => C) s as := by
  induction as with
  | nil => exact fun _ => trivial
  | cons a as ih =>
    exact fun s => ⟨h a List.mem_cons_self, fun s' _ => ih (fun b hb => h b (List.mem_cons_of_mem a hb)) s'⟩

/-- **Step to run.** What every allowed step preserves holds at the end of every allowed run. -/
theorem run_inv {I : σ → Prop} {C : σ → α → Prop}
    (hstep : ∀ s a s', I s → C s a → step s a = some s' → I s') :
    ∀ {as : List α} {s s' : σ}, I s → Meets step C s as → run step s as = some s' → I s'
  | [], s, s', hi, _, hr => by cases hr; exact hi
  | a :: as, s, s', hi, hc, hr => by
    obtain ⟨m, hm, hr⟩ := run_cons hr
    exact run_inv hstep (hstep s a m hi hc.1 hm) (hc.2 m hm) hr

/-- The unconditional case. -/
theorem run_inv' {I : σ → Prop} (hstep : ∀ s a s', I s → step s a = some s' → I s')
    {as : List α} {s s' : σ} (hi : I s) (hr : run step s as = some s') : I s' := by
  induction as generalizing s with
  | nil => cases hr; exact hi
  | cons a as ih =>
    obtain ⟨m, hm, hr⟩ := run_cons hr
    exact ih (hstep s a m hi hm) hr

end Runs

section Lockstep
variable {σ σ' α ω : Type*} {R : σ → σ' → Prop} {P : α → Prop} {C : σ → α → Prop}

/-- **Two runs side by side.** A relation shows the same on both sides, a step that meets `C` keeps
it, and a step that does not shows: then the same is seen after every step exactly if all steps
meet `C`. -/
theorem lockstep_iff (f : σ → α → σ) (f' : σ' → α → σ') (obs : σ → ω) (obs' : σ' → ω)
    (hobs : ∀ s s', R s s' → obs s = obs' s')
    (hkeep : ∀ s s' a, R s s' → P a → C s a → R (f s a) (f' s' a))
    (hbreak : ∀ s s' a, R s s' → P a → ¬ C s a → obs (f s a) ≠ obs' (f' s' a)) :
    ∀ (as : List α) (s : σ) (s' : σ'), R s s' → (∀ a ∈ as, P a) →
      ((∀ pre, pre <+: as → obs (pre.foldl f s) = obs' (pre.foldl f' s')) ↔ Meets (fun s a => some (f s a)) C s as)
  | [], s, s', hr, _ => by
    refine ⟨fun _ => trivial, fun _ pre hpre => ?_⟩
    obtain rfl := List.prefix_nil.1 hpre
    exact hobs s s' hr
  | a :: as, s, s', hr, hp => by
    have hpa : P a := hp a List.mem_cons_self
    have ih := fun hr' => lockstep_iff f f' obs obs' hobs hkeep hbreak as (f s a) (f' s' a) hr'
      fun b hb => hp b (List.mem_cons_of_mem a hb)
    constructor
    · intro hsame
      have hc : C s a := by
        by_contra hc
        exact hbreak s s' a hr hpa hc (hsame [a] ⟨as, rfl⟩)
      refine ⟨hc, fun m hm => ?_⟩
      cases hm
      exact (ih (hkeep s s' a hr hpa hc)).1 fun pre hpre => hsame (a :: pre) (List.cons_prefix_cons.2 ⟨rfl, hpre⟩)
    · rintro ⟨hc, hrest⟩ pre hpre
      cases pre with
      | nil => exact hobs s s' hr
      | cons b pre =>
        obtain ⟨rfl, htail⟩ := List.cons_prefix_cons.1 hpre
        exact (ih (hkeep s s' b hr hpa hc)).2 (hrest _ rfl) pre htail

end Lockstep
end Lib
