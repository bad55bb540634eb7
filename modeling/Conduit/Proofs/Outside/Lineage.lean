import Conduit.Proofs.Chain.History
import Conduit.Proofs.Outside.Heed
import Conduit.Proofs.World.Replacement

/-!
# What Becomes of a Roster

A callback may add, remove and replace handlers, its own among them, and so may
everything that it sets going. When it returns, the roster is another one, and
whoever looks for the next handler looks there. What can be said about it without
knowing the callback is how it descends from the old one: those that are still
linked stand in the order in which they stood, all others are contexts that did
not exist before, and a context has been marked just if it has been unlinked.

The last part is what makes the mark reliable. A context is marked after it has
been unlinked and before its handler hears of it, so nobody outside ever sees one
without the other.

A call that adds a handler makes its context first and links it after a hook has
been called. To that hook the context is an old one, and to the caller it is new.
So descent is counted from a number on: `Descends n` says nothing of contexts from
`n` on, and a call is judged by the contexts that there were when it was made.

## Main definitions

* `World.roster`: The roster of a pipeline.
* `World.Sound`: Every pipeline hosts its roster.
* `World.IsLinked`: A context is linked.
* `World.Descends`: What has become of all rosters.
* `World.Lineage`: A sound world, and what has become of it.

## Theorems

* `ids_roster`, `isLinked_iff`: Who is linked, by rosters.
* `Hosts.roster_eq`: A pipeline hosts one roster only.
* `hosts_absent`, `sound_of`: The worlds in which each pipeline hosts one.
* `Sound.linked`, `Sound.isLinked`: Whoever is linked there.
* `Descends.mem`, `Descends.isLinked`, `Descends.anti`: What descent says of old contexts.
* `Descends.trans`: Descent can be composed.
* `Descends.loose`: A context that nobody has linked stays so.
* `context_of_outline`, `length_contexts_of_outline`, `chain_of_outline`,
  `member_of_outline`, `roster_of_outline`: What the outline tells.
* `Hosts.of_outline`, `Sound.of_outline`, `Descends.of_outline`: An unchanged outline.
* `Descends.spliced`: What a single change does.
* `chain_setChain_ne`, `setChain_absent`, `outline_setChain_self`, `lt_of_mem_roster`: A
  chain that is stored.
* `Descends.unlinked`, `Descends.rehosted`, `Descends.offered`, `Descends.exchanged`,
  `Descends.newContext`: The single changes.
* `Sound.newContext_loose`: A new context could be linked.
-/

namespace Conduit

open Roster

namespace World

variable {σ : Type} {w w' w₀ w₁ w₂ : World σ} {p q : PipelineId} {l a b : Roster}
  {c : ContextId} {n : Nat} {call : Caller σ}

/-- The roster of a pipeline. -/
def roster (w : World σ) (p : PipelineId) : Roster := (w.chain p).toList.map w.member

/-- Every pipeline hosts its roster. -/
def Sound (w : World σ) : Prop := ∀ p, w.Hosts p (w.roster p)

/-- A context is linked. -/
def IsLinked (w : World σ) (c : ContextId) : Prop := c ∈ (w.chain (w.context c).pipeline).toList

/-- What has become of all rosters, as far as contexts below a number go. -/
structure Descends (n : Nat) (w w' : World σ) : Prop where
  sound : w'.Sound
  grown : w.contexts.length ≤ w'.contexts.length
  known : ∀ c < w.contexts.length,
    (w'.context c).pipeline = (w.context c).pipeline ∧ w'.member c = w.member c
  /-- Those that were there are in the old order, and the others are not below `n`. -/
  kept : ∀ p, ((w'.roster p).filter fun m => m.id < n).Sublist (w.roster p)
  /-- What has been unlinked has been marked, and nothing else. -/
  marked : ∀ c < n, (w'.context c).removed = true ↔
    (w.context c).removed = true ∨ w.IsLinked c ∧ ¬ w'.IsLinked c

/-- What has become of a sound world. -/
def Lineage (w w' : World σ) : Prop := w.Sound → Descends w.contexts.length w w'

/-! ### Rosters -/

@[simp] theorem ids_roster (w : World σ) (p : PipelineId) :
    ids (w.roster p) = (w.chain p).toList := by
  rw [ids, roster, List.map_map]
  exact List.map_id _

/-- A pipeline hosts one roster only. -/
theorem Hosts.roster_eq (h : w.Hosts p l) : w.roster p = l := by
  have hmember : ∀ m ∈ l, w.member m.id = m := by
    intro m hm
    rw [member, h.name m hm, h.events m hm]
  rw [roster, h.holds.linked.lists.iterated, ids, List.map_map]
  exact (List.map_congr_left hmember).trans (List.map_id l)

theorem isLinked_iff : w.IsLinked c ↔ c ∈ ids (w.roster (w.context c).pipeline) := by
  rw [ids_roster, IsLinked]

/-- A pipeline that does not exist hosts nobody. -/
theorem hosts_absent (hp : ¬ p < w.pipelines.length) : w.Hosts p [] where
  holds := by
    have hchain : w.chain p = {} := by
      rw [chain, pipeline, List.getElem?_eq_none (Nat.le_of_not_lt hp)]
      rfl
    rw [hchain]
    exact Chain.empty_holds
  known := by simp
  pipeline := by simp
  name := by simp
  events := by simp
  linked := by simp

theorem sound_of (h : ∀ p < w.pipelines.length, ∃ l, w.Hosts p l) : w.Sound := by
  intro p
  by_cases hp : p < w.pipelines.length
  · rcases h p hp with ⟨l, hl⟩
    exact hl.roster_eq ▸ hl
  · exact (hosts_absent hp).roster_eq ▸ hosts_absent hp

/-- A linked context is one of its own pipeline, is known, and is not marked. -/
theorem Sound.linked (h : w.Sound) (hc : w.IsLinked c) :
    c < w.contexts.length ∧ (w.context c).removed = false := by
  rcases mem_ids.mp (isLinked_iff.mp hc) with ⟨m, hm, rfl⟩
  exact ⟨(h _).known m hm, (h _).linked m hm⟩

theorem Sound.isLinked (h : w.Sound) {m : Member} (hm : m ∈ w.roster p) : w.IsLinked m.id := by
  rw [isLinked_iff, (h p).pipeline m hm]
  exact mem_ids.mpr ⟨m, hm, rfl⟩

/-! ### Descent -/

/-- A context below the number that is linked was linked before. -/
theorem Descends.mem (h : Descends n w w') {m : Member} (hm : m ∈ w'.roster p) (hn : m.id < n) :
    m ∈ w.roster p := by
  have hold : m ∈ (w'.roster p).filter fun m => m.id < n :=
    List.mem_filter.mpr ⟨hm, by simpa using hn⟩
  exact (h.kept p).subset hold

theorem Descends.isLinked (h : Descends n w w') (hn : n ≤ w.contexts.length) (hc : c < n)
    (hlinked : w'.IsLinked c) : w.IsLinked c := by
  have hp := (h.known c (Nat.lt_of_lt_of_le hc hn)).1
  rw [isLinked_iff] at hlinked ⊢
  rcases mem_ids.mp hlinked with ⟨m, hm, rfl⟩
  rw [hp] at hm
  exact mem_ids.mpr ⟨m, h.mem hm hc, rfl⟩

/-- What is said of fewer contexts is said by what is said of more. -/
theorem Descends.anti {m : Nat} (h : Descends n w w') (hmn : m ≤ n) : Descends m w w' where
  sound := h.sound
  grown := h.grown
  known := h.known
  kept := by
    intro p
    -- Those below the smaller number are among those below the larger one.
    have hsub := List.monotone_filter_right (w'.roster p)
      (p := fun x => decide (x.id < m)) (q := fun x => decide (x.id < n)) fun x hx => by
        simp only [decide_eq_true_eq] at hx ⊢
        exact Nat.lt_of_lt_of_le hx hmn
    exact hsub.trans (h.kept p)
  marked := fun c hc => h.marked c (Nat.lt_of_lt_of_le hc hmn)

theorem Descends.trans (hn : n ≤ w₀.contexts.length) (h : Descends n w₀ w₁)
    (h' : Descends n w₁ w₂) : Descends n w₀ w₂ where
  sound := h'.sound
  grown := Nat.le_trans h.grown h'.grown
  known := by
    intro c hc
    obtain ⟨hp, hm⟩ := h.known c hc
    obtain ⟨hp', hm'⟩ := h'.known c (Nat.lt_of_lt_of_le hc h.grown)
    exact ⟨hp'.trans hp, hm'.trans hm⟩
  kept := by
    intro p
    have hkept := ((h'.kept p).filter fun m => decide (m.id < n)).trans (h.kept p)
    simpa only [List.filter_filter, Bool.and_self] using hkept
  marked := by
    intro c hc
    rw [h'.marked c hc, h.marked c hc]
    -- A context that has gone does not come back.
    have hfirst : w₁.IsLinked c → w₀.IsLinked c := h.isLinked hn hc
    have hsecond : w₂.IsLinked c → w₁.IsLinked c := h'.isLinked (Nat.le_trans hn h.grown) hc
    tauto

/-- A context that could be linked still can, if nobody else has linked it. -/
theorem Descends.loose (h : Descends n w w') (hn : n ≤ w.contexts.length) (hc : c < n)
    (hloose : w.Loose p (w.roster p) c) : w'.Loose p (w'.roster p) c := by
  have hp := (h.known c hloose.known).1.trans hloose.pipeline
  have hunlinked : ¬ w.IsLinked c := by
    rw [isLinked_iff, hloose.pipeline]
    exact hloose.absent
  refine ⟨Nat.lt_of_lt_of_le hloose.known h.grown, hp, ?_, ?_⟩
  · rw [Bool.eq_false_iff]
    intro hmark
    rcases (h.marked c hc).mp hmark with hold | ⟨hlinked, -⟩
    · rw [hloose.unmarked] at hold
      cases hold
    · exact hunlinked hlinked
  · intro hmem
    rw [← hp, ← isLinked_iff] at hmem
    exact hunlinked (h.isLinked hn hc hmem)

/-! ### An unchanged outline -/

section Outline

variable (hsame : w'.outline = w.outline)
include hsame

theorem context_of_outline {β : Type} {f : Context → β} (hf : ∀ x, f x.outline = f x)
    (c : ContextId) : f (w'.context c) = f (w.context c) :=
  getD_congr hf (congrArg Prod.snd hsame) c default

theorem length_contexts_of_outline : w'.contexts.length = w.contexts.length := by
  have hlen := congrArg (fun x => x.2.length) hsame
  simpa [outline] using hlen

theorem chain_of_outline (p : PipelineId) : w'.chain p = w.chain p :=
  congrFun (congrArg Prod.fst hsame) p

theorem member_of_outline (c : ContextId) : w'.member c = w.member c := by
  rw [member, member, context_of_outline hsame (f := Context.name) (fun _ => rfl),
    context_of_outline hsame (f := fun x => x.handler.events) (fun _ => rfl)]

theorem roster_of_outline (p : PipelineId) : w'.roster p = w.roster p := by
  rw [roster, chain_of_outline hsame]
  exact List.map_congr_left fun c _ => member_of_outline hsame c

theorem Hosts.of_outline (h : w.Hosts p l) : w'.Hosts p l where
  holds := by
    rw [chain_of_outline hsame]
    exact h.holds
  known := by
    rw [length_contexts_of_outline hsame]
    exact h.known
  pipeline := fun m hm =>
    (context_of_outline hsame (f := Context.pipeline) (fun _ => rfl) m.id).trans (h.pipeline m hm)
  name := fun m hm =>
    (context_of_outline hsame (f := Context.name) (fun _ => rfl) m.id).trans (h.name m hm)
  events := fun m hm =>
    (context_of_outline hsame (f := fun x => x.handler.events) (fun _ => rfl) m.id).trans
      (h.events m hm)
  linked := fun m hm =>
    (context_of_outline hsame (f := Context.removed) (fun _ => rfl) m.id).trans (h.linked m hm)

theorem Sound.of_outline (h : w.Sound) : w'.Sound := by
  intro p
  rw [roster_of_outline hsame]
  exact (h p).of_outline hsame

theorem Descends.of_outline (h : w.Sound) : Descends n w w' where
  sound := h.of_outline hsame
  grown := Nat.le_of_eq (length_contexts_of_outline hsame).symm
  known := fun c _ =>
    ⟨context_of_outline hsame (f := Context.pipeline) (fun _ => rfl) c, member_of_outline hsame c⟩
  kept := by
    intro p
    rw [roster_of_outline hsame]
    exact List.filter_sublist
  marked := by
    intro c _
    have hlinked : w'.IsLinked c ↔ w.IsLinked c := by
      rw [isLinked_iff, isLinked_iff, roster_of_outline hsame,
        context_of_outline hsame (f := Context.pipeline) (fun _ => rfl)]
    rw [context_of_outline hsame (f := Context.removed) (fun _ => rfl), hlinked]
    tauto

end Outline

/-! ### A single change -/

/-- Some members of a roster make way for others, and are marked. -/
theorem Descends.spliced {x y : Roster} (hsound : w.Sound) (hold : w.Hosts p (a ++ (x ++ b)))
    (hnew : w'.Hosts p (a ++ (y ++ b))) (hfresh : ∀ m ∈ y, n ≤ m.id)
    (hothers : ∀ q, q ≠ p → w'.chain q = w.chain q)
    (hlen : w'.contexts.length = w.contexts.length)
    (hmarked : ∀ c ∈ ids x, w'.context c = { w.context c with removed := true })
    (hsame : ∀ c, c ∉ ids x → w'.context c = w.context c) : Descends n w w' := by
  -- Those that are marked belong to the pipeline that was changed.
  have hapart : ∀ c, (w.context c).pipeline ≠ p → c ∉ ids x := by
    intro c hc hmem
    rcases mem_ids.mp hmem with ⟨m, hm, rfl⟩
    exact hc (hold.pipeline m (by simp [hm]))
  have hknown : ∀ c, (w'.context c).pipeline = (w.context c).pipeline ∧
      w'.member c = w.member c := by
    intro c
    by_cases hc : c ∈ ids x
    · rw [member, hmarked c hc]
      exact ⟨rfl, rfl⟩
    · rw [member, hsame c hc]
      exact ⟨rfl, rfl⟩
  -- The other rosters are read from other chains, and from contexts that are not marked.
  have hroster : ∀ q, q ≠ p → w'.roster q = w.roster q := by
    intro q hq
    rw [roster, hothers q hq]
    exact List.map_congr_left fun c _ => (hknown c).2
  refine ⟨?_, Nat.le_of_eq hlen.symm, fun c _ => hknown c, ?_, ?_⟩
  · intro q
    by_cases hq : q = p
    · subst hq
      rwa [hnew.roster_eq]
    · rw [hroster q hq]
      refine (hsound q).of_members (hothers q hq) (Nat.le_of_eq hlen.symm) fun m hm => ?_
      exact hsame m.id (hapart m.id (by rw [(hsound q).pipeline m hm]; exact hq))
  · intro q
    by_cases hq : q = p
    · subst hq
      rw [hnew.roster_eq, hold.roster_eq]
      have hy : y.filter (fun m => decide (m.id < n)) = [] := by
        rw [List.filter_eq_nil_iff]
        intro m hm
        simpa using hfresh m hm
      rw [List.filter_append, List.filter_append, hy, List.nil_append]
      exact List.filter_sublist.append
        (List.filter_sublist.trans (List.sublist_append_right x b))
    · rw [hroster q hq]
      exact List.filter_sublist
  · intro c hc
    by_cases hp : (w.context c).pipeline = p
    · rw [isLinked_iff, isLinked_iff, (hknown c).1, hp, hold.roster_eq, hnew.roster_eq]
      have hnd := hold.holds.linked.ids_nodup
      by_cases hx : c ∈ ids x
      · -- It stood where it does not stand any more.
        rw [hmarked c hx]
        simp only [ids_append, List.nodup_append, List.mem_append] at hnd ⊢
        have ha : c ∉ ids a := fun hmem => hnd.2.2 c hmem c (Or.inl hx) rfl
        have hb : c ∉ ids b := fun hmem => hnd.2.1.2.2 c hx c hmem rfl
        have hy : c ∉ ids y := by
          intro hmem
          rcases mem_ids.mp hmem with ⟨m, hm, rfl⟩
          exact absurd (hfresh m hm) (Nat.not_le.mpr hc)
        simp [hx, ha, hb, hy]
      · rw [hsame c hx]
        simp only [ids_append, List.mem_append]
        tauto
    · rw [hsame c (hapart c hp), isLinked_iff, isLinked_iff, (hknown c).1,
        hroster _ hp]
      tauto

theorem chain_setChain_ne (hq : q ≠ p) (chain : Chain) :
    (w.setChain p chain).chain q = w.chain q := by
  rw [World.chain, pipeline, setChain, updatePipeline, List.getElem?_modify_ne _ _ (Ne.symm hq)]
  rfl

/-- A pipeline that does not exist cannot be changed, and hosts nobody. -/
theorem setChain_absent (hp : ¬ p < w.pipelines.length) (chain : Chain) :
    w.setChain p chain = w := by
  have hmodify : ∀ f : Pipeline → Pipeline, w.pipelines.modify p f = w.pipelines := by
    intro f
    exact List.modify_eq_self (Nat.le_of_not_lt hp)
  rw [setChain, updatePipeline, hmodify]

/-- What a chain is, it stays when it is stored again. -/
theorem outline_setChain_self (w : World σ) (p : PipelineId) :
    (w.setChain p (w.chain p)).outline = w.outline := by
  refine congrArg (·, w.contexts.map Context.outline) (funext fun q => ?_)
  by_cases hp : p < w.pipelines.length
  · by_cases hq : q = p
    · rw [hq, chain_setChain hp]
    · exact chain_setChain_ne hq _
  · rw [setChain_absent hp]

theorem lt_of_mem_roster (hc : c ∈ ids (w.roster p)) : p < w.pipelines.length := by
  by_contra hp
  rw [(hosts_absent hp).roster_eq] at hc
  cases hc

/-- The chain lets go of a context, which is then marked. -/
theorem Descends.unlinked (hsound : w.Sound) (hc : c ∈ ids (w.roster p)) (n : Nat) :
    Descends n w ((w.setChain p ((w.chain p).unlink c).2).markRemoved c) := by
  have hp := lt_of_mem_roster hc
  rcases mem_ids.mp hc with ⟨m, hm, rfl⟩
  rcases List.append_of_mem hm with ⟨a, b, hl⟩
  -- The context stands somewhere in the roster, and nothing comes to stand in its place.
  have hold : w.Hosts p (a ++ ([m] ++ b)) := hl ▸ hsound p
  have hnd : (ids (a ++ m :: b)).Nodup := hold.holds.linked.ids_nodup
  have hrest := ((hsound p).unlinked hp m.id).hosts
  rw [hl, edit_unlink_middle hnd] at hrest
  have hnew := hrest.markRemoved (ids_nodup_middle.mp hnd).1
  refine Descends.spliced (y := []) hsound hold hnew (by simp)
    (fun q hq => chain_setChain_ne hq _) (List.length_modify _ _ _) ?_ ?_
  · intro c hc
    rw [ids_cons, ids_nil, List.mem_singleton] at hc
    subst hc
    exact context_updateContext_self ((hsound p).known m hm) _
  · intro c hc
    rw [ids_cons, ids_nil, List.mem_singleton] at hc
    exact context_updateContext_ne (Ne.symm hc) _

/-- Nothing has become of a roster. -/
theorem Descends.rehosted (hsound : w.Sound) (hnew : w'.Hosts p (w.roster p))
    (hothers : ∀ q, q ≠ p → w'.chain q = w.chain q) (hsame : w'.contexts = w.contexts) :
    Descends n w w' := by
  have hctx : ∀ c, w'.context c = w.context c := fun c => by rw [context, hsame, context]
  -- Nobody makes way for nobody, at the end of the roster.
  have hold : w.Hosts p (w.roster p ++ ([] ++ [])) := by
    rw [List.append_nil, List.append_nil]
    exact hsound p
  have hkept : w'.Hosts p (w.roster p ++ ([] ++ [])) := by
    rw [List.append_nil, List.append_nil]
    exact hnew
  exact Descends.spliced hsound hold hkept (by simp) hothers (congrArg List.length hsame)
    (by simp) fun c _ => hctx c

/-- The chain has been offered a context that is new. -/
theorem Descends.offered (hsound : w.Sound) (hc : w.Loose p (w.roster p) c) (hn : n ≤ c)
    (position : Position) :
    Descends n w (w.setChain p ((w.chain p).insert c (w.context c).name
      (w.context c).handler.events position).2) := by
  by_cases hp : p < w.pipelines.length
  · have hnew := ((hsound p).offered hp hc position).hosts
    have hothers : ∀ q, q ≠ p → (w.setChain p ((w.chain p).insert c (w.context c).name
        (w.context c).handler.events position).2).chain q = w.chain q :=
      fun q hq => chain_setChain_ne hq _
    rw [Roster.edit] at hnew
    by_cases hname : (w.member c).name ∈ names (w.roster p)
    · rw [if_pos hname] at hnew
      -- The chain refuses a name that is taken, and a place that is not there.
      exact Descends.rehosted hsound hnew hothers rfl
    · rw [if_neg hname] at hnew
      cases hslot : slot (w.roster p) position with
      | error cause =>
          rw [hslot] at hnew
          exact Descends.rehosted hsound hnew hothers rfl
      | ok i =>
          rw [hslot] at hnew
          dsimp only at hnew
          by_cases hi : i ≤ (w.roster p).length
          · -- The slot cuts the roster in two.
            have hcut := List.take_append_drop i (w.roster p)
            have hlen : ((w.roster p).take i).length = i := by simp [hi]
            have hinsert := insertIdx_append ((w.roster p).take i) ((w.roster p).drop i)
              (w.member c)
            rw [hlen, hcut] at hinsert
            rw [hinsert] at hnew
            have hold : w.Hosts p ((w.roster p).take i ++ ([] ++ (w.roster p).drop i)) := by
              rw [List.nil_append, hcut]
              exact hsound p
            exact Descends.spliced (y := [w.member c]) hsound hold hnew (by simpa [member] using hn)
              hothers rfl (by simp) fun _ _ => rfl
          · rw [List.insertIdx_of_length_lt (Nat.lt_of_not_le hi)] at hnew
            exact Descends.rehosted hsound hnew hothers rfl
  · rw [setChain_absent hp]
    exact Descends.of_outline rfl hsound

/-- The chain has put a new context in the place of another, which is then marked. -/
theorem Descends.exchanged {old new : ContextId} (hsound : w.Sound)
    (hloose : w.Loose p (w.roster p) new) (hn : n ≤ new)
    (hdone : ((w.chain p).replace old new (w.context new).name
      (w.context new).handler.events).1 = .ok ()) :
    Descends n w ((w.setChain p ((w.chain p).replace old new (w.context new).name
      (w.context new).handler.events).2).markRemoved old) := by
  have hreply : ((w.roster p).edit (.replace old (w.member new))).2 = .done := by
    have hagrees := (Chain.edit_agrees (e := .replace old (w.member new)) (hsound p).holds
      (absurd · hloose.absent)).2
    exact hagrees.symm.trans (congrArg Reply.ofOutcome hdone)
  -- So the old one was linked, and nobody else had the name.
  have hold : old ∈ ids (w.roster p) := by
    by_contra hold
    rw [Roster.edit, if_pos hold] at hreply
    cases hreply
  have hname : (w.member new).name ∉ names ((w.roster p).filter fun x => x.id ≠ old) := by
    intro hname
    rw [Roster.edit, if_neg (not_not.mpr hold), if_pos hname] at hreply
    cases hreply
  have hp := lt_of_mem_roster hold
  rcases mem_ids.mp hold with ⟨m, hm, rfl⟩
  rcases List.append_of_mem hm with ⟨a, b, hl⟩
  have hhosts : w.Hosts p (a ++ ([m] ++ b)) := hl ▸ hsound p
  -- The old one stands once in its roster, so the roster is cut where it stands.
  have hnd : (ids (a ++ m :: b)).Nodup := hhosts.holds.linked.ids_nodup
  have hne : m.id ≠ new := fun he => hloose.absent (he ▸ hold)
  have hgone := (hsound p).not_mem_exchanged hloose hne hdone
  have hnew := ((hsound p).exchanged hp hloose m.id).hosts.markRemoved hgone
  rw [hl, filter_split hnd] at hname
  rw [hl, edit_replace_middle hnd hname] at hnew
  refine Descends.spliced (y := [w.member new]) hsound hhosts hnew (by simpa [member] using hn)
    (fun q hq => chain_setChain_ne hq _) (List.length_modify _ _ _) ?_ ?_
  · intro c hc
    rw [ids_cons, ids_nil, List.mem_singleton] at hc
    subst hc
    exact context_updateContext_self ((hsound p).known m hm) _
  · intro c hc
    rw [ids_cons, ids_nil, List.mem_singleton] at hc
    exact context_updateContext_ne (Ne.symm hc) _

/-- A new context is a context more. -/
theorem Descends.newContext (hsound : w.Sound) (p : PipelineId) (name : String)
    (handler : Handler) :
    Descends w.contexts.length w (w.newContext p name handler).2 := by
  -- Contexts that are known are found where they were, as the new one is put behind them.
  have hctx : ∀ c < w.contexts.length,
      (w.newContext p name handler).2.context c = w.context c :=
    fun c hc => context_newContext hc p name handler
  have hroster : ∀ q, (w.newContext p name handler).2.roster q = w.roster q := by
    intro q
    refine List.map_congr_left fun c hc => ?_
    have hknown : c < w.contexts.length := by
      have hc : c ∈ ids (w.roster q) := by
        rw [ids_roster]
        exact hc
      rcases mem_ids.mp hc with ⟨m, hm, rfl⟩
      exact (hsound q).known m hm
    rw [member, hctx c hknown, member]
  refine ⟨?_, ?_, ?_, ?_, ?_⟩
  · intro q
    rw [hroster]
    exact (hsound q).newContext p name handler
  · simp [World.newContext]
  · intro c hc
    rw [member, hctx c hc]
    exact ⟨rfl, rfl⟩
  · intro q
    rw [hroster]
    exact List.filter_sublist
  · intro c hc
    rw [isLinked_iff, isLinked_iff, hctx c hc, hroster]
    tauto

/-- It could be linked. -/
theorem Sound.newContext_loose (hsound : w.Sound) (p : PipelineId) (name : String)
    (handler : Handler) :
    (w.newContext p name handler).2.Loose p ((w.newContext p name handler).2.roster p)
      (w.newContext p name handler).1 := by
  rw [((hsound p).newContext p name handler).roster_eq]
  exact loose_newContext (hsound p) name handler

end World

end Conduit
