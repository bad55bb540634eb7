import Mathlib.Data.List.Forall2

/-!
# Results of Calls That May Fail

A call that is made of others succeeds only if each of them does, and the result
of one is what the next one starts from. `ok_of_bind` takes such a call apart, and
`Yields.bind` follows what is known of the results through it.

Two calls agree if they fail alike or succeed with results that are related.
`Agree.bind` puts calls together that agree step by step, so that two runs of one
program are compared by going through it once.

## Main definitions

* `Yields`: What is known of the result of a call, if it has one.
* `Agree`: Two calls fail alike, or have related results.

## Theorems

* `ok_of_bind`: What the parts of a call that succeeds have given.
* `Yields.ok`, `Yields.error`: A call that is known to succeed or to fail.
* `Yields.bind`, `Yields.mapM`: A call yields what its parts do.
* `Agree.same`, `Agree.imp`, `Agree.ite`: A call and itself, a weaker relation, and a choice.
* `Agree.bind`, `Agree.mapM`: Calls agree if their parts do.
-/

namespace Conduit

variable {ε α β γ δ : Type}

/-- If two steps succeed one after the other, each of them does. -/
theorem ok_of_bind {x : Except ε α} {f : α → Except ε β} {b : β} (h : x >>= f = .ok b) :
    ∃ a, x = .ok a ∧ f a = .ok b := by
  cases x with
  | error e => exact nomatch h
  | ok a => exact ⟨a, rfl, h⟩

/-- What a call gives, if it succeeds, has a property. -/
def Yields (P : α → Prop) (x : Except ε α) : Prop := ∀ a, x = .ok a → P a

namespace Yields

variable {P : α → Prop} {Q : β → Prop}

theorem ok {a : α} (h : P a) : Yields P (.ok a : Except ε α) := by
  rintro _ ⟨⟩
  exact h

theorem error {cause : ε} : Yields P (.error cause : Except ε α) := fun _ h => nomatch h

theorem bind {x : Except ε α} {f : α → Except ε β} (h : Yields P x)
    (hf : ∀ a, P a → Yields Q (f a)) : Yields Q (x >>= f) := by
  intro b hb
  rcases ok_of_bind hb with ⟨a, ha, hrest⟩
  exact hf a (h a ha) b hrest

theorem mapM {ι : Type} {f : ι → Except ε α} {xs : List ι} (h : ∀ x ∈ xs, Yields P (f x)) :
    Yields (fun ys : List α => ∀ y ∈ ys, P y) (xs.mapM f) := by
  induction xs with
  | nil => exact ok fun y hy => absurd hy List.not_mem_nil
  | cons x xs ih =>
      rw [List.mapM_cons]
      refine (h x List.mem_cons_self).bind fun a ha => ?_
      refine (ih fun y hy => h y (List.mem_cons_of_mem x hy)).bind fun as has => ok fun y hy => ?_
      rcases List.mem_cons.mp hy with rfl | hy
      · exact ha
      · exact has y hy

end Yields

/-- Two calls fail alike, or both succeed and their results are related. -/
inductive Agree (R : α → β → Prop) : Except ε α → Except ε β → Prop
  | ok {a : α} {b : β} : R a b → Agree R (.ok a) (.ok b)
  | error (cause : ε) : Agree R (.error cause) (.error cause)

namespace Agree

variable {R : α → β → Prop} {S : γ → δ → Prop}

/-- A call agrees with itself. -/
theorem same (x : Except ε α) : Agree Eq x x := by
  cases x with
  | ok a => exact ok rfl
  | error cause => exact error cause

theorem imp {R' : α → β → Prop} {x : Except ε α} {y : Except ε β} (h : Agree R x y)
    (hR : ∀ a b, R a b → R' a b) : Agree R' x y := by
  cases h with
  | ok hab => exact ok (hR _ _ hab)
  | error cause => exact error cause

theorem ite {p : Prop} [Decidable p] {x x' : Except ε α} {y y' : Except ε β} (h : Agree R x y)
    (h' : Agree R x' y') : Agree R (if p then x else x') (if p then y else y') := by
  by_cases hp : p
  · rw [if_pos hp, if_pos hp]
    exact h
  · rw [if_neg hp, if_neg hp]
    exact h'

theorem bind {x : Except ε α} {y : Except ε β} {f : α → Except ε γ} {g : β → Except ε δ}
    (h : Agree R x y) (hf : ∀ a b, R a b → Agree S (f a) (g b)) : Agree S (x >>= f) (y >>= g) := by
  cases h with
  | ok hab => exact hf _ _ hab
  | error cause => exact Agree.error cause

theorem mapM {ι : Type} {f : ι → Except ε α} {g : ι → Except ε β} {xs : List ι}
    (h : ∀ x ∈ xs, Agree R (f x) (g x)) : Agree (List.Forall₂ R) (xs.mapM f) (xs.mapM g) := by
  induction xs with
  | nil => exact Agree.ok List.Forall₂.nil
  | cons x xs ih =>
      rw [List.mapM_cons, List.mapM_cons]
      refine (h x List.mem_cons_self).bind fun a b hab => ?_
      refine (ih fun y hy => h y (List.mem_cons_of_mem x hy)).bind fun as bs hrest => ?_
      exact Agree.ok (List.Forall₂.cons hab hrest)

end Agree

end Conduit
