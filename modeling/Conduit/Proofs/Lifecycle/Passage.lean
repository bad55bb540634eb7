import Conduit.Proofs.Lifecycle.Record

/-!
# Passages

A context passes twice: into its pipeline, and out of it. Either time a hook has to agree
first, and another hook is called afterwards. Hooks are stories within the story, so what
follows need not follow at once. A handler may be taken out again while its neighbour is
told that it has gone, and then the hook that should hear of its arrival is called last.

`Told` is what can be said of every story in spite of that. It says nothing of how deep
anything is nested, and therefore holds of two stories one after the other if it holds of
each. What is not so made of smaller parts is a passage itself, and there `Told.close` puts
its frame around whatever happens within.

## Main definitions

* `Passage`: Joining and leaving.
* `Passage.Framed`: What comes before a passage and after it.
* `Told`: Every passage is framed.

## Theorems

* `Framed.append`, `Framed.single`, `Framed.cons`, `Framed.close`: A passage and its frame.
* `change_inj`, `after_inj`, `called_ne_change`, `aside_before`, `aside_answered`: What is
  not mistaken for a passage.
* `Told.nil`, `Told.single`, `Told.cons`, `Told.append`: Stories can be joined.
* `Told.asking`: What hooks of others tell.
* `Told.close`: A passage with what happens before and after it.
* `Told.passed`: One context passes.
* `Told.exchanged`: Two contexts pass at once.
-/

namespace Conduit

/-- A way to pass. -/
inductive Passage where
  | joining
  | leaving
  deriving DecidableEq, Repr

namespace Passage

/-- What a passage is. -/
def change : Passage → Juncture
  | joining => .linked
  | leaving => .unlinked

/-- The hook that has to agree before. -/
def before : Passage → Hook
  | joining => .beforeAdd
  | leaving => .beforeRemove

/-- The hook that hears of it after. -/
def after : Passage → Hook
  | joining => .afterAdd
  | leaving => .afterRemove

/-- A passage comes after a hook has agreed and before another hook is called, which is called
    as often as there is a passage. -/
structure Framed (x : Passage) (es : List Juncture) : Prop where
  comes : ∀ a b, es = a ++ x.change :: b →
    .answered x.before true ∈ a ∧ .called x.after ∈ b
  count : es.count (.called x.after) = es.count x.change

end Passage

/-- Every passage is framed. -/
def Told (es : List Juncture) : Prop := ∀ x : Passage, x.Framed es

/-- Something that is no part of a passage, whatever it has to do with one. -/
def Juncture.Aside (e : Juncture) : Prop := ∀ x : Passage, e ≠ x.change ∧ e ≠ .called x.after

variable {c d old new : ContextId} {x : Passage} {e : Juncture}
  {es es' prior meanwhile rest : List Juncture}

namespace Passage

theorem Framed.append (h : x.Framed es) (h' : x.Framed es') : x.Framed (es ++ es') where
  comes := by
    -- The passage is in one of the two, and that one has all that frames it.
    intro a b hcut
    rcases Roster.append_split hcut with ⟨b', hes, rfl⟩ | ⟨a', hes', rfl⟩
    · obtain ⟨hbefore, hafter⟩ := h.comes a b' hes
      exact ⟨hbefore, List.mem_append_left es' hafter⟩
    · obtain ⟨hbefore, hafter⟩ := h'.comes a' b hes'
      exact ⟨List.mem_append_right es hbefore, hafter⟩
  count := by rw [List.count_append, List.count_append, h.count, h'.count]

theorem Framed.single (hchange : e ≠ x.change) (hafter : e ≠ .called x.after) :
    x.Framed [e] where
  comes := by
    intro a b hcut
    have hmem : x.change ∈ [e] := hcut ▸ List.mem_append_right a List.mem_cons_self
    exact absurd (List.mem_singleton.mp hmem).symm hchange
  count := by
    rw [List.count_singleton, List.count_singleton, beq_false_of_ne hchange,
      beq_false_of_ne hafter]

theorem Framed.cons (hchange : e ≠ x.change) (hafter : e ≠ .called x.after)
    (h : x.Framed es) : x.Framed (e :: es) := (single hchange hafter).append h

theorem change_inj : ∀ {x y : Passage}, y.change = x.change → y = x
  | joining, joining, _ => rfl
  | leaving, leaving, _ => rfl

theorem after_inj : ∀ {x y : Passage}, y.after = x.after → y = x
  | joining, joining, _ => rfl
  | leaving, leaving, _ => rfl

theorem called_ne_change (x : Passage) (hook : Hook) : Juncture.called hook ≠ x.change := by
  cases x <;> nofun

/-- A passage that happens after all that it needs, and before all that it leads to. -/
theorem Framed.close (hprior : x.Framed prior) (hagreed : .answered x.before true ∈ prior)
    (hmeanwhile : x.Framed meanwhile) (hrest : x.Framed rest) :
    x.Framed (prior ++ x.change :: (meanwhile ++ .called x.after :: rest)) where
  comes := by
    intro a b hcut
    rcases Roster.append_split hcut with ⟨b', hes, rfl⟩ | ⟨a', hes', rfl⟩
    · obtain ⟨hbefore, hafter⟩ := hprior.comes a b' hes
      exact ⟨hbefore, List.mem_append_left _ hafter⟩
    · -- The agreement is there, so all that can be missing is the other hook.
      refine ⟨List.mem_append_left a' hagreed, ?_⟩
      cases a' with
      | nil =>
          obtain ⟨-, rfl⟩ := List.cons.inj hes'
          exact List.mem_append_right _ List.mem_cons_self
      | cons e a' =>
          -- Another passage of the kind has its hook within itself, and is not the one closed here.
          rcases Roster.append_split (List.cons.inj hes').2 with ⟨b', hes, rfl⟩ | ⟨a', hes, -⟩
          · exact List.mem_append_left _ (hmeanwhile.comes a' b' hes).2
          · cases a' with
            | nil => exact absurd (List.cons.inj hes).1 (called_ne_change x _)
            | cons e a' => exact (hrest.comes a' b (List.cons.inj hes).2).2
  count := by
    -- One more passage, and one more call of the hook that follows it.
    have hne := called_ne_change x x.after
    rw [List.count_append, List.count_cons_of_ne hne.symm, List.count_append,
      List.count_cons_self, List.count_append, List.count_cons_self, List.count_append,
      List.count_cons_of_ne hne, hprior.count, hmeanwhile.count, hrest.count]
    omega

end Passage

/-- What comes before a passage is none. -/
theorem aside_before (x : Passage) : (Juncture.called x.before).Aside := by
  intro y
  cases x <;> cases y <;> exact ⟨nofun, nofun⟩

/-- What a hook says is no passage. -/
theorem aside_answered (hook : Hook) (agreed : Bool) : (Juncture.answered hook agreed).Aside := by
  intro x
  cases x <;> exact ⟨nofun, nofun⟩

namespace Told

theorem nil : Told [] := fun x => ⟨fun a b h => absurd h.symm (by simp), rfl⟩

/-- Stories can be joined. -/
theorem append (h : Told es) (h' : Told es') : Told (es ++ es') := fun x => (h x).append (h' x)

theorem single (he : e.Aside) : Told [e] := fun x => .single (he x).1 (he x).2

theorem cons (he : e.Aside) (h : Told es) : Told (e :: es) := (single he).append h

/-- What another hook of anybody has to do with a context, before a passage. -/
theorem asking (h : Told es) (x : Passage) (agreed : Bool) :
    Told (hooked c d x.before es agreed) := by
  by_cases hc : c = d
  · rw [hc, hooked_self]
    exact cons (aside_before x) (h.append (single (aside_answered _ _)))
  · rwa [hooked_ne hc]

/-- A passage, with what happens before and after it. -/
theorem close (hprior : Told prior) (hagreed : .answered x.before true ∈ prior)
    (hmeanwhile : Told meanwhile) (hrest : Told rest) :
    Told (prior ++ x.change :: (meanwhile ++ .called x.after :: rest)) := by
  intro y
  by_cases hy : y = x
  · subst hy
    exact (hprior y).close hagreed (hmeanwhile y) (hrest y)
  · -- To the other passage, this one is nothing.
    have hchange : x.change ≠ y.change := fun h => hy (Passage.change_inj h.symm)
    have hcalled : x.change ≠ .called y.after := (Passage.called_ne_change x _).symm
    have hafter : Juncture.called x.after ≠ .called y.after :=
      fun h => hy (Passage.after_inj (Juncture.called.inj h).symm)
    exact (hprior y).append (.cons hchange hcalled
      ((hmeanwhile y).append (.cons (Passage.called_ne_change y _) hafter (hrest y))))

/-- One context passes. -/
theorem passed (x : Passage) (h : Told es) (h' : Told es') (agreed : Bool) :
    Told (hooked c d x.before es true ++ (here c d x.change ++ hooked c d x.after es' agreed)) := by
  by_cases hc : c = d
  · subst hc
    have hprior : Told (hooked c c x.before es true) := h.asking x true
    have hagreed : .answered x.before true ∈ hooked c c x.before es true := by simp [hooked_self]
    have hrest : Told (es' ++ [.answered x.after agreed]) := h'.append (single (aside_answered _ _))
    rw [here_self, hooked_self c x.after]
    exact close hprior hagreed nil hrest
  · -- Somebody else passes, so only what the hooks tell is left.
    rw [hooked_ne hc, hooked_ne hc, here_ne hc]
    exact h.append h'

/-- Two contexts pass at once. The one that leaves is told first. -/
theorem exchanged {es₁ es₂ es₃ es₄ : List Juncture} (hne : old ≠ new) (h₁ : Told es₁)
    (h₂ : Told es₂) (h₃ : Told es₃) (h₄ : Told es₄) (agreed agreed' : Bool) :
    Told ((hooked old d .beforeRemove es₁ true ++ hooked new d .beforeAdd es₂ true) ++
      ((here old d .unlinked ++ here new d .linked) ++
        (hooked old d .afterRemove es₃ agreed ++ hooked new d .afterAdd es₄ agreed'))) := by
  have hremoving : Told (hooked old d .beforeRemove es₁ true) := h₁.asking .leaving true
  have hadding : Told (hooked new d .beforeAdd es₂ true) := h₂.asking .joining true
  have hprior := hremoving.append hadding
  by_cases hold : old = d
  · subst hold
    have hagreed : .answered .beforeRemove true ∈
        hooked old old .beforeRemove es₁ true ++ hooked new old .beforeAdd es₂ true := by
      simp [hooked_self]
    have hrest : Told ((es₃ ++ [.answered .afterRemove agreed]) ++ es₄) :=
      (h₃.append (single (aside_answered _ _))).append h₄
    rw [here_self, here_ne hne.symm, hooked_self old .afterRemove, hooked_ne hne.symm .afterAdd]
    exact close (x := .leaving) hprior hagreed nil hrest
  · by_cases hnew : new = d
    · subst hnew
      have hagreed : .answered .beforeAdd true ∈
          hooked old new .beforeRemove es₁ true ++ hooked new new .beforeAdd es₂ true := by
        simp [hooked_self]
      have hrest : Told (es₄ ++ [.answered .afterAdd agreed']) :=
        h₄.append (single (aside_answered _ _))
      rw [here_self, here_ne hold, hooked_self new .afterAdd, hooked_ne hold .afterRemove]
      -- What the other one does about its removal happens before this one is told.
      exact close (x := .joining) hprior hagreed h₃ hrest
    · rw [here_ne hold, here_ne hnew, hooked_ne hold .afterRemove, hooked_ne hnew .afterAdd]
      exact hprior.append (h₃.append h₄)

end Told

end Conduit
