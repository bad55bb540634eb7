import Conduit.Proofs.Lifecycle.Passage

/-!
# Who Passes in a Single Change

Between two hooks a call changes a chain once at most. Whatever the change is, what it does
to contexts comes to the same: somebody may leave, who is marked, and somebody may enter.
`Shift` says so of two worlds, and one lemma for all kinds of changes says that every change
is a shift. What a story has of a shift then follows without another look at chains.

A mark tells that a context has left, and a context that is linked or marked has entered. As
a context is not marked before it leaves, the two together tell how often it has passed, and
that is at most once each way.

## Main definitions

* `Edit.leaving`, `Edit.entering`: Who passes in a change.
* `World.Shift`: All that becomes of contexts.
* `World.hasPassed`, `World.Tally`: The passages of a story, counted.

## Theorems

* `slot_le`: A place in a roster.
* `mem_ids_insertIdx`, `mem_ids_filter`, `mem_ids_map`: Who is in a roster that is rearranged.
* `mem_ids_edit`, `mem_of_leaving`: Who is in a roster after a change.
* `chain_edited`, `pipeline_edited`, `removed_edited`: A world after a change.
* `Sound.edited`: A change is a shift.
* `Shift.of_outline`, `Sound.newContext`: Nobody passes.
* `shows_iff`, `elim_here`: What can be seen of a context.
* `Shift.left`, `Shift.entered`, `Shift.stayed`, `Shift.seenAgain`: What is seen of a shift.
* `Tally.trans`, `Tally.hooked`, `Shift.tally`: A shift is counted as it is seen.
-/

namespace Conduit

open Roster

/-! ### Changes -/

namespace Edit

/-- Who leaves. -/
def leaving : Edit → Option ContextId
  | insert _ _ => none
  | unlink c => some c
  | replace old _ => some old

/-- Who enters. -/
def entering (e : Edit) : Option ContextId := e.brings?.map Member.id

end Edit

namespace Roster

variable {l : Roster} {e : Edit} {d : ContextId}

theorem slot_le {position : Position} {i : Nat} (h : slot l position = .ok i) :
    i ≤ l.length := by
  -- Both places beside a base are found by the index of the base.
  have hfound : ∀ {base : String} {j : Nat}, l.findIdx? (·.name == base) = some j →
      j < l.length := fun hj => (List.findIdx?_eq_some_iff_getElem.mp hj).1
  cases position with
  | first =>
      cases h
      exact Nat.zero_le _
  | last =>
      cases h
      exact Nat.le_refl _
  | before base =>
      rw [slot] at h
      cases hj : l.findIdx? (·.name == base) with
      | none =>
          rw [hj] at h
          cases h
      | some j =>
          rw [hj] at h
          cases h
          exact Nat.le_of_lt (hfound hj)
  | after base =>
      rw [slot] at h
      cases hj : l.findIdx? (·.name == base) with
      | none =>
          rw [hj] at h
          cases h
      | some j =>
          rw [hj] at h
          cases h
          exact hfound hj

theorem mem_ids_insertIdx {i : Nat} (hi : i ≤ l.length) (m : Member) :
    d ∈ ids (l.insertIdx i m) ↔ d ∈ ids l ∨ d = m.id := by
  simp only [mem_ids, List.mem_insertIdx hi]
  constructor
  · rintro ⟨x, rfl | hx, rfl⟩
    · exact .inr rfl
    · exact .inl ⟨x, hx, rfl⟩
  · rintro (⟨x, hx, rfl⟩ | rfl)
    · exact ⟨x, .inr hx, rfl⟩
    · exact ⟨m, .inl rfl, rfl⟩

theorem mem_ids_filter {c : ContextId} :
    d ∈ ids (l.filter fun m => m.id ≠ c) ↔ d ∈ ids l ∧ d ≠ c := by
  simp only [mem_ids, List.mem_filter, decide_eq_true_eq]
  constructor
  · rintro ⟨x, ⟨hx, hne⟩, rfl⟩
    exact ⟨⟨x, hx, rfl⟩, hne⟩
  · rintro ⟨⟨x, hx, rfl⟩, hne⟩
    exact ⟨x, ⟨hx, hne⟩, rfl⟩

theorem mem_ids_map {old : ContextId} (hold : old ∈ ids l) (m : Member) :
    d ∈ ids (l.map fun x => if x.id = old then m else x) ↔ d ∈ ids l ∧ d ≠ old ∨ d = m.id := by
  -- The old member is there, so the new one is, wherever that is.
  rcases mem_ids.mp hold with ⟨o, ho, rfl⟩
  simp only [mem_ids, List.mem_map]
  constructor
  · rintro ⟨_, ⟨x, hx, rfl⟩, rfl⟩
    by_cases hxo : x.id = o.id
    · exact .inr (by rw [if_pos hxo])
    · exact .inl (by rw [if_neg hxo]; exact ⟨⟨x, hx, rfl⟩, hxo⟩)
  · rintro (⟨⟨x, hx, rfl⟩, hxo⟩ | rfl)
    · exact ⟨x, ⟨x, hx, if_neg hxo⟩, rfl⟩
    · exact ⟨m, ⟨o, ho, if_pos rfl⟩, rfl⟩

/-- Who is in a roster after a change: whoever was and has not left, and whoever has entered. -/
theorem mem_ids_edit (hdone : (l.edit e).2 = .done) :
    d ∈ ids (l.edit e).1 ↔ d ∈ ids l ∧ d ∉ e.leaving ∨ d ∈ e.entering := by
  cases e with
  | insert m position =>
      rw [Roster.edit] at hdone ⊢
      by_cases hname : m.name ∈ names l
      · rw [if_pos hname] at hdone
        cases hdone
      · rw [if_neg hname] at hdone ⊢
        cases hslot : slot l position with
        | error cause =>
            rw [hslot] at hdone
            cases hdone
        | ok i =>
            rw [mem_ids_insertIdx (slot_le hslot)]
            simp [Edit.leaving, Edit.entering, Edit.brings?, eq_comm]
  | unlink c =>
      -- Whoever is unlinked is filtered out.
      rw [Roster.edit] at hdone ⊢
      by_cases hc : c ∈ ids l
      · rw [if_pos hc, mem_ids_filter]
        simp [Edit.leaving, Edit.entering, Edit.brings?, eq_comm]
      · rw [if_neg hc] at hdone
        cases hdone
  | replace old m =>
      -- The old member is exchanged where it stands, so all others stay.
      rw [Roster.edit] at hdone ⊢
      by_cases hold : old ∉ ids l
      · rw [if_pos hold] at hdone
        cases hdone
      · rw [if_neg hold] at hdone ⊢
        by_cases hname : m.name ∈ names (l.filter fun x => x.id ≠ old)
        · rw [if_pos hname] at hdone
          cases hdone
        · rw [if_neg hname, mem_ids_map (not_not.mp hold)]
          simp [Edit.leaving, Edit.entering, Edit.brings?, eq_comm]

/-- Whoever leaves was there. -/
theorem mem_of_leaving (hdone : (l.edit e).2 = .done) (hd : d ∈ e.leaving) : d ∈ ids l := by
  cases e with
  | insert m position => cases hd
  | unlink c =>
      cases hd
      by_contra hc
      rw [Roster.edit, if_neg hc] at hdone
      cases hdone
  | replace old m =>
      cases hd
      by_contra hold
      rw [Roster.edit, if_pos hold] at hdone
      cases hdone

end Roster

/-! ### Shifts -/

namespace World

variable {σ : Type} {w w' w₀ w₁ w₂ : World σ} {p : PipelineId} {c d : ContextId}
  {leaving entering : Option ContextId} {e : Edit}

/-- Somebody may have left, who is marked, and somebody may have entered, and nothing else has
    become of contexts. -/
structure Shift (leaving entering : Option ContextId) (w w' : World σ) : Prop where
  linked : ∀ d, w'.IsLinked d ↔ w.IsLinked d ∧ d ∉ leaving ∨ d ∈ entering
  removed : ∀ d, (w'.context d).removed = true ↔ (w.context d).removed = true ∨ d ∈ leaving
  leaves : ∀ c ∈ leaving, w.IsLinked c ∧ (w.context c).removed = false
  enters : ∀ c ∈ entering, ¬ w.IsLinked c ∧ (w.context c).removed = false

/-- The world after a change of a chain, with whoever has left marked. -/
def edited (w : World σ) (p : PipelineId) (e : Edit) : World σ :=
  match e.leaving with
  | none => w.setChain p ((w.chain p).edit e).1
  | some c => (w.setChain p ((w.chain p).edit e).1).markRemoved c

theorem chain_edited (w : World σ) (p : PipelineId) (e : Edit) :
    (w.edited p e).chain = (w.setChain p ((w.chain p).edit e).1).chain := by
  unfold edited
  split <;> rfl

theorem pipeline_edited (w : World σ) (p : PipelineId) (e : Edit) (d : ContextId) :
    ((w.edited p e).context d).pipeline = (w.context d).pipeline := by
  unfold edited
  split
  · rfl
  · exact context_updateContext (g := Context.pipeline) (by intro x; rfl) _ _ d

theorem removed_edited (hknown : ∀ c ∈ e.leaving, c < w.contexts.length) (d : ContextId) :
    ((w.edited p e).context d).removed = true ↔
      (w.context d).removed = true ∨ d ∈ e.leaving := by
  unfold edited
  cases hleaving : e.leaving with
  | none => simp [setChain, updatePipeline, context]
  | some c =>
      by_cases hd : c = d
      · subst hd
        have hmarked := context_updateContext_self (w := w.setChain p ((w.chain p).edit e).1)
          (hknown c hleaving) ({ · with removed := true })
        simp [markRemoved, hmarked]
      · have hother := context_updateContext_ne (w := w.setChain p ((w.chain p).edit e).1)
          hd ({ · with removed := true })
        simp only [markRemoved, hother, Option.mem_some_iff, hd, or_false]
        rfl

/-- A change is a shift. -/
theorem Sound.edited (hw : w.Sound) (hp : p < w.pipelines.length)
    (hdone : ((w.chain p).edit e).2 = .done)
    (hloose : ∀ c ∈ e.entering, w.Loose p (w.roster p) c) :
    Shift e.leaving e.entering w (w.edited p e) := by
  -- Whoever enters is loose, so rosters and chains agree about the change.
  have hfresh : e.Fresh (w.roster p) := by
    cases e with
    | insert m position => exact (hloose m.id rfl).absent
    | unlink c => trivial
    | replace old m => exact fun hmem => absurd hmem (hloose m.id rfl).absent
  -- The roster replies as the chain does, so it has changed as well.
  have hagrees := Chain.edit_agrees (hw p).holds hfresh
  have hroster : ((w.roster p).edit e).2 = .done := hagrees.2.symm.trans hdone
  have hleaving : ∀ c ∈ e.leaving, w.IsLinked c := by
    intro c hc
    have hmem := mem_of_leaving hroster hc
    rcases mem_ids.mp hmem with ⟨m, hm, rfl⟩
    exact hw.isLinked hm
  have hentering : ∀ c ∈ e.entering, ¬ w.IsLinked c := by
    intro c hc
    rw [isLinked_iff, (hloose c hc).pipeline]
    exact (hloose c hc).absent
  refine ⟨fun d => ?_, removed_edited fun c hc => (hw.linked (hleaving c hc)).1,
    fun c hc => ⟨hleaving c hc, (hw.linked (hleaving c hc)).2⟩,
    fun c hc => ⟨hentering c hc, (hloose c hc).unmarked⟩⟩
  rw [IsLinked, pipeline_edited, chain_edited, isLinked_iff]
  by_cases hd : (w.context d).pipeline = p
  · rw [hd, chain_setChain hp, hagrees.1.linked.lists.iterated, mem_ids_edit hroster]
  · -- Whoever passes belongs to the pipeline.
    have hleft : d ∉ e.leaving := by
      intro hd'
      rcases mem_ids.mp (mem_of_leaving hroster hd') with ⟨m, hm, rfl⟩
      exact hd ((hw p).pipeline m hm)
    have hentered : d ∉ e.entering := fun hd' => hd (hloose d hd').pipeline
    rw [chain_setChain_ne hd, ids_roster]
    simp [hleft, hentered]

/-- What leaves the structure alone is no shift. -/
theorem Shift.of_outline (h : w'.outline = w.outline) :
    Shift none none w w' where
  linked := by
    intro d
    rw [IsLinked, context_of_outline h (f := Context.pipeline) (fun _ => rfl),
      chain_of_outline h, ← IsLinked]
    simp
  removed := by
    intro d
    rw [context_of_outline h (f := Context.removed) (fun _ => rfl)]
    simp
  leaves := nofun
  enters := nofun

/-- A context that is made has not passed. -/
theorem Sound.newContext (hw : w.Sound) (p : PipelineId) (name : String)
    (handler : Handler) : Shift none none w (w.newContext p name handler).2 where
  linked := by
    intro d
    by_cases hd : d < w.contexts.length
    · rw [IsLinked, context_newContext hd, IsLinked]
      simp [World.newContext, chain, pipeline]
    · -- The new context is linked nowhere, and neither is one that is not made yet.
      have hbefore : ¬ w.IsLinked d := fun hlinked => hd (hw.linked hlinked).1
      have hafter : ¬ (w.newContext p name handler).2.IsLinked d := by
        intro hlinked
        -- It was not known when the rosters were made.
        have hmem : d ∈ ids (w.roster ((w.newContext p name handler).2.context d).pipeline) := by
          rw [ids_roster]
          exact hlinked
        rcases mem_ids.mp hmem with ⟨m, hm, rfl⟩
        exact hd ((hw _).known m hm)
      simp [hbefore, hafter]
  removed := by
    intro d
    by_cases hd : d < w.contexts.length
    · rw [context_newContext hd]
      simp
    · have hbefore : (w.context d).removed = false := by
        rw [context, List.getElem?_eq_none (Nat.le_of_not_lt hd)]
        rfl
      have hafter : ((w.newContext p name handler).2.context d).removed = false := by
        rw [context, World.newContext, List.getElem?_append_right (Nat.le_of_not_lt hd)]
        cases d - w.contexts.length <;> rfl
      rw [hbefore, hafter]
      simp
  leaves := nofun
  enters := nofun

/-! ### What is seen of a shift -/

theorem shows_iff : w.shows d = true ↔ w.IsLinked d := decide_eq_true_iff

/-- What somebody who may pass has to do with a context. -/
theorem elim_here (o : Option ContextId) (d : ContextId) (e : Juncture) :
    o.elim [] (here · d e) = if d ∈ o then [e] else [] := by
  cases o with
  | none => rfl
  | some c => simp [here, eq_comm]

namespace Shift

variable (h : Shift leaving entering w w') (d : ContextId)
include h

theorem left (hd : d ∈ leaving) : d ∉ entering ∧ w.shows d = true ∧ w'.shows d = false ∧
    (w.context d).removed = false ∧ (w'.context d).removed = true := by
  obtain ⟨hlinked, hunmarked⟩ := h.leaves d hd
  have hother : d ∉ entering := fun he => (h.enters d he).1 hlinked
  have hgone : ¬ w'.IsLinked d := by
    rw [h.linked]
    exact fun hlinked' => hlinked'.elim (fun h => h.2 hd) hother
  exact ⟨hother, shows_iff.mpr hlinked, Bool.eq_false_iff.mpr (mt shows_iff.mp hgone), hunmarked,
    (h.removed d).mpr (.inr hd)⟩

theorem entered (hd : d ∈ entering) : d ∉ leaving ∧ w.shows d = false ∧ w'.shows d = true ∧
    (w.context d).removed = false ∧ (w'.context d).removed = false := by
  obtain ⟨hunlinked, hunmarked⟩ := h.enters d hd
  have hother : d ∉ leaving := fun hl => hunlinked (h.leaves d hl).1
  have hmark : ¬ (w'.context d).removed = true := by
    rw [h.removed, hunmarked]
    exact fun hremoved => hremoved.elim nofun hother
  exact ⟨hother, Bool.eq_false_iff.mpr (mt shows_iff.mp hunlinked),
    shows_iff.mpr ((h.linked d).mpr (.inr hd)), hunmarked, Bool.eq_false_iff.mpr hmark⟩

theorem stayed (hleft : d ∉ leaving) (hentered : d ∉ entering) :
    w'.shows d = w.shows d ∧ (w'.context d).removed = (w.context d).removed := by
  refine ⟨Bool.eq_iff_iff.mpr ?_, Bool.eq_iff_iff.mpr ?_⟩
  · rw [shows_iff, shows_iff, h.linked]
    simp [hleft, hentered]
  · rw [h.removed]
    simp [hleft]

/-- What is seen of a shift. -/
theorem seenAgain : seenAgain (w.shows d) (w'.shows d) =
    leaving.elim [] (here · d .unlinked) ++ entering.elim [] (here · d .linked) := by
  -- Nobody leaves and enters in one shift, so there is one thing to see at most.
  rw [elim_here, elim_here]
  by_cases hleft : d ∈ leaving
  · obtain ⟨hother, hbefore, hafter, -⟩ := h.left d hleft
    rw [hbefore, hafter, if_pos hleft, if_neg hother]
    rfl
  · by_cases hentered : d ∈ entering
    · obtain ⟨-, hbefore, hafter, -⟩ := h.entered d hentered
      rw [hbefore, hafter, if_neg hleft, if_pos hentered]
      rfl
    · rw [(h.stayed d hleft hentered).1, seenAgain_self, if_neg hleft, if_neg hentered]
      rfl

end Shift

/-! ### Counting passages -/

/-- Whether a context has passed. -/
def hasPassed (w : World σ) (d : ContextId) : Passage → Bool
  | .joining => w.shows d || (w.context d).removed
  | .leaving => (w.context d).removed

/-- A story has as many passages as there have been. -/
def Tally (d : ContextId) (w w' : World σ) (es : List Juncture) : Prop :=
  ∀ x : Passage, es.count x.change + (w.hasPassed d x).toNat = (w'.hasPassed d x).toNat

theorem Tally.trans {es es' : List Juncture} (h : Tally d w₀ w₁ es) (h' : Tally d w₁ w₂ es') :
    Tally d w₀ w₂ (es ++ es') := by
  intro x
  rw [List.count_append, ← h' x, ← h x]
  omega

/-- Hooks are no passages. -/
theorem Tally.hooked {es : List Juncture} (h : Tally d w w' es) (c : ContextId) (hook : Hook)
    (agreed : Bool) : Tally d w w' (hooked c d hook es agreed) := by
  intro x
  rw [← h x]
  by_cases hc : c = d
  · have hcalled := Passage.called_ne_change x hook
    have hanswered := (aside_answered hook agreed x).1
    rw [hc, hooked_self, List.count_cons_of_ne hcalled, List.count_append,
      List.count_singleton, beq_false_of_ne hanswered]
    rfl
  · rw [hooked_ne hc]

/-- A shift is counted as it is seen. -/
theorem Shift.tally (h : Shift leaving entering w w') (d : ContextId) :
    Tally d w w' (Conduit.seenAgain (w.shows d) (w'.shows d)) := by
  intro x
  by_cases hleft : d ∈ leaving
  · -- It had joined before, and still counts as one that has.
    obtain ⟨-, hbefore, hafter, hunmarked, hmarked⟩ := h.left d hleft
    cases x <;> simp [hasPassed, hbefore, hafter, hunmarked, hmarked] <;> rfl
  · by_cases hentered : d ∈ entering
    · obtain ⟨-, hbefore, hafter, hunmarked, hmarked⟩ := h.entered d hentered
      cases x <;> simp [hasPassed, hbefore, hafter, hunmarked, hmarked] <;> rfl
    · obtain ⟨hshows, hremoved⟩ := h.stayed d hleft hentered
      cases x <;> simp [hasPassed, hshows, hremoved]

end World

end Conduit
