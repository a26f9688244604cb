import Mathlib.Data.Nat.Notation

/-! # While loops

A pass of a loop goes on with a state or leaves with a result. The number of
passes is limited by fuel; a loop whose passes make a variant smaller returns
with any fuel above it.
-/

namespace Iteration

universe u v

variable {m : Type u → Type v} [Monad m] {σ α : Type u}

/-- Passes of `body` until one leaves the loop; `failure` if there is no fuel
for another. -/
def loop (body : σ → m (σ ⊕ α)) : ℕ → σ → OptionT m α
  | 0, _ => failure
  | fuel + 1, s => do
      match ← body s with
      | .inl next => loop body fuel next
      | .inr result => return result

/-- What a pass from `s` does: it goes on from a smaller state of the
invariant, or leaves with a result. A result for the next state is one for `s`. -/
inductive Pass (body : σ → m (σ ⊕ α)) (inv : σ → Prop) (variant : σ → ℕ) (post : σ → α → Prop)
    (s : σ) : Prop
  | next (s' : σ) (hbody : body s = pure (.inl s')) (hinv : inv s')
      (hless : variant s' < variant s) (hpost : ∀ result, post s' result → post s result)
  | leave (result : α) (hbody : body s = pure (.inr result)) (hpost : post s result)

variable [LawfulMonad m] {body : σ → m (σ ⊕ α)} {s : σ} {fuel : ℕ}

theorem loop_next {s' : σ} (hbody : body s = pure (.inl s')) :
    loop body (fuel + 1) s = loop body fuel s' := by
  rw [loop, hbody, liftM_pure, pure_bind]

theorem loop_leave {result : α} (hbody : body s = pure (.inr result)) :
    loop body (fuel + 1) s = pure result := by
  rw [loop, hbody, liftM_pure, pure_bind]

theorem loop_returns {inv : σ → Prop} {variant : σ → ℕ} {post : σ → α → Prop}
    (hpass : ∀ s, inv s → Pass body inv variant post s) (hs : inv s) (hfuel : variant s < fuel) :
    ∃ result, loop body fuel s = pure result ∧ post s result := by
  induction fuel generalizing s with
  | zero => exact absurd hfuel (Nat.not_lt_zero _)
  | succ fuel ih =>
      cases hpass s hs with
      | next s' hbody hinv hless hpost =>
          have hleft : variant s' < fuel := Nat.lt_of_lt_of_le hless (Nat.le_of_lt_succ hfuel)
          obtain ⟨result, hloop, hresult⟩ := ih hinv hleft
          exact ⟨result, (loop_next hbody).trans hloop, hpost result hresult⟩
      | leave result hbody hpost => exact ⟨result, loop_leave hbody, hpost⟩

end Iteration
