import Mathlib.Logic.Relation
import TektonLogs.Go.Behaviour

/-!
# Interleavings of goroutines

The concurrent parts of the reader are step systems: a state, the parties that act on it, and
a function giving a party's next action, `none` when it is blocked or finished. `Pod.Wait`
with the informer's listener (`Pods/Wait.lean`), `readPodLogs`'s three goroutines
(`Log/PodLogs.lean`), and those goroutines fed by live discovery (`Log/LiveLogs.lean`) are
each one such function. What they share is stated here once, over any of them:

* `Step` and `Reaches` — one action of any party, and every state some interleaving leads
  to;
* `runSchedule` — the state a given order of parties leads to, which reaches it;
* `runSchedule_length_add_rank` — a rank that every action lowers, from the states of an
  invariant every action keeps, bounds the length of every schedule;
* `wgDone`, `wgDoneOn` — `sync.WaitGroup.Done()` on the counter, which panics when it would
  go below zero, and on a state that holds the counter.
-/

set_option autoImplicit false

namespace TektonLogs
namespace Go

section Schedule

variable {σ π : Type} (step : σ → π → Option σ)

/-- One action of any party. -/
def Step (s s' : σ) : Prop := ∃ p, step s p = some s'

/-- Every state some interleaving leads to. -/
def Reaches (s₀ : σ) : σ → Prop := Relation.ReflTransGen (Step step) s₀

/-- The state after the parties act in the order `ps`, if each of them can. -/
def runSchedule (s : σ) : List π → Option σ
  | [] => some s
  | p :: ps => (step s p).bind fun s' => runSchedule s' ps

variable {step}

@[simp] theorem runSchedule_nil (s : σ) : runSchedule step s [] = some s := rfl

@[simp] theorem runSchedule_cons (s : σ) (p : π) (ps : List π) :
    runSchedule step s (p :: ps) = (step s p).bind fun s' => runSchedule step s' ps := rfl

/-- A schedule that runs to its end is an interleaving. -/
theorem runSchedule_reaches {s s' : σ} (ps : List π) (h : runSchedule step s ps = some s') :
    Reaches step s s' := by
  induction ps generalizing s with
  | nil => cases h; exact .refl
  | cons p ps ih =>
    obtain ⟨s₁, h₁, h₂⟩ := Option.bind_eq_some.mp h
    exact Relation.ReflTransGen.head ⟨p, h₁⟩ (ih h₂)

/-- A schedule that runs to its end pays for each of its actions out of a rank that every
action lowers, from the states of an invariant that every action keeps. -/
theorem runSchedule_length_add_rank {Inv : σ → Prop} (rank : σ → Nat)
    (hinv : ∀ {s s' : σ} {p : π}, Inv s → step s p = some s' → Inv s')
    (hrank : ∀ {s s' : σ} {p : π}, Inv s → step s p = some s' → rank s' < rank s)
    {s s' : σ} (ps : List π) (hi : Inv s) (h : runSchedule step s ps = some s') :
    ps.length + rank s' ≤ rank s := by
  induction ps generalizing s with
  | nil => cases h; simp
  | cons p ps ih =>
    obtain ⟨s₁, h₁, h₂⟩ := Option.bind_eq_some.mp h
    have := hrank hi h₁
    have := ih (hinv hi h₁) h₂
    simp only [List.length_cons]
    omega

end Schedule

/-- `wg.Done()` on the counter `wg`: one lower, or the panic of a negative counter. -/
def wgDone (wg : Nat) : Except Panic Nat :=
  if wg = 0 then .error .negativeWaitGroupCounter else .ok (wg - 1)

theorem wgDone_of_ne_zero {wg : Nat} (h : wg ≠ 0) : wgDone wg = .ok (wg - 1) := by
  simp [wgDone, h]

section WgDone

variable {σ : Type} {wg : Nat} {panic : Panic → σ} {count : Nat → σ}

/-- `wg.Done()` on a state whose counter is `wg`: `count` of the lowered counter, or `panic`
of a negative counter's panic. -/
def wgDoneOn (wg : Nat) (panic : Panic → σ) (count : Nat → σ) : σ :=
  match wgDone wg with
  | .error p => panic p
  | .ok wg' => count wg'

theorem wgDoneOn_of_ne_zero (h : wg ≠ 0) : wgDoneOn wg panic count = count (wg - 1) := by
  rw [wgDoneOn, wgDone_of_ne_zero h]

/-- What holds of both ways `wg.Done()` can go holds of it. -/
theorem wgDoneOn_cases (P : σ → Prop) (hp : P (panic .negativeWaitGroupCounter))
    (hc : wg ≠ 0 → P (count (wg - 1))) : P (wgDoneOn wg panic count) := by
  by_cases h : wg = 0
  · simpa [wgDoneOn, wgDone, h] using hp
  · exact wgDoneOn_of_ne_zero h ▸ hc h

/-- A map of states commutes with `wg.Done()`. -/
theorem wgDoneOn_comp {τ : Type} (f : σ → τ) :
    f (wgDoneOn wg panic count) = wgDoneOn wg (fun p => f (panic p)) fun w => f (count w) := by
  unfold wgDoneOn; split <;> rfl

end WgDone

end Go
end TektonLogs
