import Conduit.Pipeline.Mutation
import Conduit.Proofs.World.Hosting

/-!
# Coming and Going

What linking and unlinking do to a world. A call that changes a chain stores the
new chain in its pipeline, and a context that has been unlinked is marked; nothing
else is touched, and `housing` is that else. It holds everything of a world but
chains, marks and the user's part, so whatever a mutation does by way of chain
edits and hooks leaves it alone, and what a context is can be read off it.

`Hosts.edited` takes what was shown of a chain to its world. A context that is
brought in must be one that could stand there: it belongs to the pipeline, it has
not been unlinked, and the chain is told its own name and events.

## Main definitions

* `World.housing`: A world without chains, marks and the user's part.
* `World.member`: A context, as its chain knows it.
* `World.Loose`: A context that could be linked.
* `World.Settled`: A roster is hosted, and the housing is as it was.

## Theorems

* `housing_setChain`, `housing_markRemoved`: What leaves the housing alone.
* `context_of_housing`, `length_contexts_of_housing`, `length_pipelines_of_housing`,
  `Loose.of_housing`: What can be read off the housing.
* `chain_setChain`, `mem_edit`, `Hosts.edited`: A chain edit turns one hosted roster into
  another.
* `Hosts.setUser`, `Loose.setUser`, `context_updateContext_ne`, `Hosts.of_members`,
  `Hosts.markRemoved`: What does not concern a roster.
* `context_newContext`, `Hosts.newContext`, `context_length_newContext`, `loose_newContext`: A
  context that is made.
* `not_mem_unlink`, `Hosts.unlinked`, `Hosts.offered`, `not_mem_replace`, `Hosts.exchanged`,
  `Hosts.not_mem_exchanged`: The three operations.
-/

namespace Conduit

open Roster

/-- A context without its mark. -/
def Context.unmarked (x : Context) : Context := { x with removed := false }

/-- A pipeline without its chain. -/
def Pipeline.unchained (x : Pipeline) : Pipeline := { x with chain := {} }

/-- The member that a call brings. -/
def Edit.brings? : Edit → Option Member
  | insert m _ => some m
  | unlink _ => none
  | replace _ m => some m

namespace World

variable {σ : Type} {w w' : World σ} {p : PipelineId} {l : Roster} {c : ContextId}

/-- A world without chains, marks and the user's part. -/
def housing (w : World σ) : World Unit :=
  { w with
    pipelines := w.pipelines.map Pipeline.unchained
    contexts := w.contexts.map Context.unmarked
    user := () }

/-- A context, as its chain knows it. -/
def member (w : World σ) (c : ContextId) : Member :=
  ⟨c, (w.context c).name, (w.context c).handler.events⟩

/-- A context that could be linked. -/
structure Loose (w : World σ) (p : PipelineId) (l : Roster) (c : ContextId) : Prop where
  known : c < w.contexts.length
  pipeline : (w.context c).pipeline = p
  unmarked : (w.context c).removed = false
  absent : c ∉ ids l

/-- The world with another value of the user's. -/
def setUser (w : World σ) (user : σ) : World σ := { w with user }

/-! ### What leaves the housing alone -/

theorem housing_setChain (w : World σ) (p : PipelineId) (chain : Chain) :
    (w.setChain p chain).housing = w.housing := by
  have hsame : ∀ x : Pipeline, Pipeline.unchained { x with chain := chain } = x.unchained :=
    fun _ => rfl
  rw [setChain, updatePipeline, housing, map_modify_of_same hsame]
  rfl

theorem housing_markRemoved (w : World σ) (c : ContextId) :
    (w.markRemoved c).housing = w.housing := by
  have hsame : ∀ x : Context, Context.unmarked { x with removed := true } = x.unmarked :=
    fun _ => rfl
  rw [markRemoved, updateContext, housing, map_modify_of_same hsame]
  rfl

/-- What does not look at the mark of a context can be read off the housing. -/
theorem context_of_housing {β : Type} {f : Context → β} (hf : ∀ x, f x.unmarked = f x)
    (h : w'.housing = w.housing) (c : ContextId) : f (w'.context c) = f (w.context c) :=
  getD_congr hf (congrArg World.contexts h) c default

theorem length_contexts_of_housing (h : w'.housing = w.housing) :
    w'.contexts.length = w.contexts.length := by
  have hlen := congrArg (fun w => w.contexts.length) h
  simpa [housing] using hlen

theorem length_pipelines_of_housing (h : w'.housing = w.housing) :
    w'.pipelines.length = w.pipelines.length := by
  have hlen := congrArg (fun w => w.pipelines.length) h
  simpa [housing] using hlen

theorem Loose.of_housing (h : w.Loose p l c) (hhousing : w'.housing = w.housing)
    (hunmarked : (w'.context c).removed = (w.context c).removed) {l' : Roster}
    (habsent : c ∉ ids l') : w'.Loose p l' c where
  known := length_contexts_of_housing hhousing ▸ h.known
  pipeline :=
    (context_of_housing (f := Context.pipeline) (fun _ => rfl) hhousing c).trans h.pipeline
  unmarked := hunmarked.trans h.unmarked
  absent := habsent

/-! ### Chain edits in a world -/

theorem chain_setChain (hp : p < w.pipelines.length) (chain : Chain) :
    (w.setChain p chain).chain p = chain := by
  rw [World.chain, pipeline, setChain, updatePipeline, List.getElem?_modify_eq,
    List.getElem?_eq_getElem hp]
  rfl

/-- A member of an edited roster was there before, or has just come. -/
theorem mem_edit {e : Edit} {m : Member} (h : m ∈ (l.edit e).1) :
    m ∈ l ∨ e.brings? = some m := by
  cases e with
  | insert new position =>
      rw [Roster.edit] at h
      by_cases hname : new.name ∈ names l
      · rw [if_pos hname] at h
        exact Or.inl h
      · rw [if_neg hname] at h
        cases hslot : slot l position with
        | error cause =>
            rw [hslot] at h
            exact Or.inl h
        | ok i =>
            rw [hslot] at h
            have h : m ∈ l.insertIdx i new := h
            -- Past the end nothing is inserted at all.
            by_cases hi : i ≤ l.length
            · rcases (List.mem_insertIdx hi).mp h with rfl | hm
              · exact Or.inr rfl
              · exact Or.inl hm
            · rw [List.insertIdx_of_length_lt (by omega)] at h
              exact Or.inl h
  | unlink id =>
      rw [Roster.edit] at h
      by_cases hid : id ∈ ids l
      · rw [if_pos hid] at h
        exact Or.inl (List.mem_filter.mp h).1
      · rw [if_neg hid] at h
        exact Or.inl h
  | replace old new =>
      rw [Roster.edit] at h
      by_cases hold : old ∉ ids l
      · rw [if_pos hold] at h
        exact Or.inl h
      · rw [if_neg hold] at h
        by_cases hname : new.name ∈ names (l.filter fun x => x.id ≠ old)
        · rw [if_pos hname] at h
          exact Or.inl h
        · rw [if_neg hname] at h
          -- Every member stays as it was, but for the one that is replaced.
          rcases List.mem_map.mp h with ⟨x, hx, hm⟩
          by_cases hxold : x.id = old
          · rw [if_pos hxold] at hm
            exact Or.inr (congrArg some hm)
          · rw [if_neg hxold] at hm
            exact Or.inl (hm ▸ hx)

/-- A chain edit turns one hosted roster into another, if what it brings could be linked. -/
theorem Hosts.edited (h : w.Hosts p l) (hp : p < w.pipelines.length) {e : Edit}
    (hfresh : e.Fresh l)
    (hbrings : ∀ m, e.brings? = some m → w.member m.id = m ∧ w.Loose p l m.id) :
    (w.setChain p ((w.chain p).edit e).1).Hosts p (l.edit e).1 := by
  -- Of those that stay all was known, and of a newcomer all is assumed.
  have hold : ∀ m ∈ (l.edit e).1, m ∈ l ∨ w.member m.id = m ∧ w.Loose p l m.id :=
    fun m hm => (mem_edit hm).imp_right (hbrings m)
  exact {
    holds := by
      rw [chain_setChain hp]
      exact (Chain.edit_agrees h.holds hfresh).1
    known := fun m hm => (hold m hm).elim (h.known m) (fun hm => hm.2.known)
    pipeline := fun m hm => (hold m hm).elim (h.pipeline m) (fun hm => hm.2.pipeline)
    name := fun m hm => (hold m hm).elim (h.name m) (fun hm => congrArg Member.name hm.1)
    events := fun m hm => (hold m hm).elim (h.events m) (fun hm => congrArg Member.events hm.1)
    linked := fun m hm => (hold m hm).elim (h.linked m) (fun hm => hm.2.unmarked) }

/-! ### What does not concern a roster -/

theorem Hosts.setUser (h : w.Hosts p l) (user : σ) : (w.setUser user).Hosts p l :=
  h.congr rfl rfl

theorem Loose.setUser (h : w.Loose p l c) (user : σ) : (w.setUser user).Loose p l c :=
  ⟨h.known, h.pipeline, h.unmarked, h.absent⟩

theorem context_updateContext_ne {d : ContextId} (hne : c ≠ d) (f : Context → Context) :
    (w.updateContext c f).context d = w.context d := by
  change ((w.contexts.modify c f)[d]?).getD default = _
  rw [List.getElem?_modify_ne _ _ hne, context]

/-- A roster is hosted as long as the contexts of its members are what they were. -/
theorem Hosts.of_members (h : w.Hosts p l) (hchain : w'.chain p = w.chain p)
    (hlen : w.contexts.length ≤ w'.contexts.length)
    (hsame : ∀ m ∈ l, w'.context m.id = w.context m.id) : w'.Hosts p l where
  holds := hchain ▸ h.holds
  known := fun m hm => Nat.lt_of_lt_of_le (h.known m hm) hlen
  pipeline := fun m hm => by rw [hsame m hm]; exact h.pipeline m hm
  name := fun m hm => by rw [hsame m hm]; exact h.name m hm
  events := fun m hm => by rw [hsame m hm]; exact h.events m hm
  linked := fun m hm => by rw [hsame m hm]; exact h.linked m hm

theorem Hosts.markRemoved (h : w.Hosts p l) (hc : c ∉ ids l) : (w.markRemoved c).Hosts p l := by
  -- The context that is marked is not that of a member.
  have hsame : ∀ m ∈ l, (w.markRemoved c).context m.id = w.context m.id := by
    intro m hm
    exact context_updateContext_ne (fun he => hc (mem_ids.mpr ⟨m, hm, he.symm⟩)) _
  have hlen := length_contexts_of_housing (housing_markRemoved w c)
  exact h.of_members rfl (Nat.le_of_eq hlen.symm) hsame

theorem context_newContext {d : ContextId} (hd : d < w.contexts.length) (p : PipelineId)
    (name : String) (handler : Handler) :
    (w.newContext p name handler).2.context d = w.context d := by
  rw [context, newContext, List.getElem?_append_left hd, context]

theorem Hosts.newContext (h : w.Hosts p l) (q : PipelineId) (name : String)
    (handler : Handler) : (w.newContext q name handler).2.Hosts p l := by
  -- Members have numbers that were given out before.
  have hsame : ∀ m ∈ l, (w.newContext q name handler).2.context m.id = w.context m.id :=
    fun m hm => context_newContext (h.known m hm) q name handler
  refine h.of_members rfl ?_ hsame
  rw [World.newContext, List.length_append]
  exact Nat.le_add_right _ _

theorem context_length_newContext (w : World σ) (p : PipelineId) (name : String)
    (handler : Handler) :
    (w.newContext p name handler).2.context w.contexts.length =
      { pipeline := p, name, handler } := by
  rw [context, World.newContext, List.getElem?_append_right (Nat.le_refl _), Nat.sub_self]
  rfl

/-- A new context can be linked. -/
theorem loose_newContext (h : w.Hosts p l) (name : String) (handler : Handler) :
    (w.newContext p name handler).2.Loose p l (w.newContext p name handler).1 := by
  have hnew := context_length_newContext w p name handler
  refine ⟨?_, congrArg Context.pipeline hnew, congrArg Context.removed hnew, ?_⟩
  · simp [World.newContext]
  · intro hmem
    rcases mem_ids.mp hmem with ⟨m, hm, hid⟩
    -- Its number is the first that no member can have.
    have hlt := h.known m hm
    rw [hid] at hlt
    exact Nat.lt_irrefl _ hlt

/-! ### The three operations in a world -/

/-- A pipeline hosts a roster, in a world that is otherwise as it was. -/
structure Settled (w : World σ) (p : PipelineId) (l' : Roster) (w' : World σ) : Prop where
  hosts : w'.Hosts p l'
  housing : w'.housing = w.housing

theorem not_mem_unlink (l : Roster) (c : ContextId) : c ∉ ids (l.edit (.unlink c)).1 := by
  rw [Roster.edit]
  by_cases hc : c ∈ ids l
  · rw [if_pos hc]
    intro hmem
    rcases mem_ids.mp hmem with ⟨m, hm, hid⟩
    have hne := (List.mem_filter.mp hm).2
    simp [hid] at hne
  · rw [if_neg hc]
    exact hc

/-- Once a chain has let go of a context, the pipeline hosts the others. -/
theorem Hosts.unlinked (h : w.Hosts p l) (hp : p < w.pipelines.length) (c : ContextId) :
    w.Settled p (l.edit (.unlink c)).1 (w.setChain p ((w.chain p).unlink c).2) where
  hosts := h.edited (e := .unlink c) hp trivial fun _ hm => nomatch hm
  housing := housing_setChain w p _

/-- Once a chain has been offered a context, the pipeline hosts what came of it. -/
theorem Hosts.offered (h : w.Hosts p l) (hp : p < w.pipelines.length) (hc : w.Loose p l c)
    (position : Position) :
    w.Settled p (l.edit (.insert (w.member c) position)).1
      (w.setChain p ((w.chain p).insert c (w.context c).name (w.context c).handler.events
        position).2) where
  hosts := by
    refine h.edited (e := .insert (w.member c) position) hp hc.absent ?_
    intro m hm
    cases hm
    exact ⟨rfl, hc⟩
  housing := housing_setChain w p _

/-- A context that another one has been put in the place of is not linked any more. -/
theorem not_mem_replace {old : ContextId} {m : Member} (hne : m.id ≠ old)
    (hdone : (l.edit (.replace old m)).2 = .done) : old ∉ ids (l.edit (.replace old m)).1 := by
  rw [Roster.edit] at hdone ⊢
  by_cases hold : old ∉ ids l
  · rw [if_pos hold] at hdone
    exact absurd hdone (by simp)
  · rw [if_neg hold] at hdone ⊢
    by_cases hname : m.name ∈ names (l.filter fun x => x.id ≠ old)
    · rw [if_pos hname] at hdone
      exact absurd hdone (by simp)
    · rw [if_neg hname]
      intro hmem
      -- Whoever had that number was the one replaced, and has another one now.
      rcases mem_ids.mp hmem with ⟨y, hy, hid⟩
      rcases List.mem_map.mp hy with ⟨x, -, hx⟩
      by_cases hxold : x.id = old
      · rw [if_pos hxold] at hx
        exact hne (hx ▸ hid)
      · rw [if_neg hxold] at hx
        exact hxold (hx ▸ hid)

/-- Once a chain has been asked to put one context in the place of another, the pipeline
    hosts what came of it. -/
theorem Hosts.exchanged {new : ContextId} (h : w.Hosts p l) (hp : p < w.pipelines.length)
    (hnew : w.Loose p l new) (old : ContextId) :
    w.Settled p (l.edit (.replace old (w.member new))).1
      (w.setChain p ((w.chain p).replace old new (w.context new).name
        (w.context new).handler.events).2) where
  hosts := by
    refine h.edited (e := .replace old (w.member new)) hp (absurd · hnew.absent) ?_
    intro m hm
    cases hm
    exact ⟨rfl, hnew⟩
  housing := housing_setChain w p _

/-- If the chain has done so, the one that was replaced is not linked any more. -/
theorem Hosts.not_mem_exchanged {old new : ContextId} (h : w.Hosts p l) (hnew : w.Loose p l new)
    (hne : old ≠ new)
    (hdone : ((w.chain p).replace old new (w.context new).name
      (w.context new).handler.events).1 = .ok ()) :
    old ∉ ids (l.edit (.replace old (w.member new))).1 := by
  have hreply := (Chain.edit_agrees (e := .replace old (w.member new)) h.holds
    (absurd · hnew.absent)).2
  have hchain : ((w.chain p).edit (.replace old (w.member new))).2 = .done :=
    congrArg Reply.ofOutcome hdone
  exact not_mem_replace hne.symm (hreply.symm.trans hchain)

end World

end Conduit
