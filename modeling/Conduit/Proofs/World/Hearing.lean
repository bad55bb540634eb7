import Conduit.Proofs.World.Assembly

/-!
# What Hooks Are Heard

A handler is asked before it comes or goes and told afterwards, and each time it may object.
What a call does is settled by those answers, but which hooks are asked at all is settled by
the answers before. A hearing is the list of both: which hooks were asked, in their order, and
what each of them answered. It is the record of a call as it went, with the world in which each
hook was asked, and nothing else may have been called in between.

A hook may see to business of its own, in the world too. What it has to leave alone is the
pipeline that is being changed: its chain, and the contexts that belong to it (`Spares`).

A handler that objects to having been added is taken out again, which it may object to in turn
and in two ways. If it objects beforehand it stays. If it objects afterwards it is gone; the
call, which only looks at whether the removal has failed, reports the same of both.

## Main definitions

* `World.Spares`: Hooks that leave a pipeline alone.
* `World.Hears`: Which hooks were asked, and what they answered.
* `Leaving`, `Joining`: Hearings of one that is taken out, and of one that is put in.

## Theorems

* `Leaving.stays_iff`, `Leaving.failed_iff`, `Leaving.gone`: What the hearing of a removal
  tells.
* `Joining.ok_iff`, `Joining.stays_iff`, `Joining.failed`, `Joining.undone_of_objection`,
  `Joining.objects_once`: What the hearing of an addition tells.
* `edit_unlink_middle`, `edit_insert_slot`: Both edits, where the roster is cut in two.
* `Aloof.spares`, `Hosts.owns`, `Loose.owns`, `Owns.of_housing`, `handlerType_of_housing`:
  What belongs to a pipeline.
* `Spares.hosts`, `Spares.known`, `Spares.context`, `Spares.owns`, `Spares.loose`,
  `Spares.handlerType`, `Hears.handlerType`: What a hook leaves alone.
* `unlink_middle`, `checkInsert_eq`, `checkInsert_slot`, `insert_slot`: A chain lets go of a
  member, and takes one.
* `removeContext_leaves`: How a member is taken out.
* `undoAdd_reply`, `undoAdd_leaves`, `addContext_joins`: How one is put in.
-/

namespace Conduit

open Roster

/-- How a handler is taken out: which hooks are asked and what they answer, what is replied,
    and whether the handler stays. -/
inductive Leaving (t : String) : List (Hook × Outcome) → Outcome → Bool → Prop
  | stays (cause : Error) :
    Leaving t [(.beforeRemove, .error cause)] (.error (.lifecycle (.notRemoved t) cause)) true
  | goes : Leaving t [(.beforeRemove, .ok ()), (.afterRemove, .ok ())] (.ok ()) false
  | goesObjecting (cause : Error) :
    Leaving t [(.beforeRemove, .ok ()), (.afterRemove, .error cause)]
      (.error (.lifecycle (.late t .afterRemove) cause)) false

/-- How a handler is put in. One that objects to having been added is taken out again, and what
    is reported of that depends only on whether it was a success. -/
inductive Joining (t : String) : List (Hook × Outcome) → Outcome → Bool → Prop
  | declines (cause : Error) :
    Joining t [(.beforeAdd, .error cause)] (.error (.lifecycle (.notAdded t) cause)) false
  | joins : Joining t [(.beforeAdd, .ok ()), (.afterAdd, .ok ())] (.ok ()) true
  | undone {hearing reply stays} (cause : Error) : Leaving t hearing reply stays →
    Joining t ((.beforeAdd, .ok ()) :: (.afterAdd, .error cause) :: hearing)
      (.error (.lifecycle (if reply.isOk then .addUndone t else .addStuck t) cause)) stays

/-- A hook was asked, and has objected. -/
def Objected (hearing : List (Hook × Outcome)) (hook : Hook) : Prop :=
  ∃ cause, (hook, Except.error cause) ∈ hearing

/-! ### What hearings tell -/

section Hearings

variable {t : String} {hearing : List (Hook × Outcome)} {reply : Outcome} {stays : Bool}

/-- A handler stays just when it objects to going. -/
theorem Leaving.stays_iff (h : Leaving t hearing reply stays) :
    stays = true ↔ Objected hearing .beforeRemove := by
  cases h <;> simp [Objected]

/-- Whether taking a handler out is a success is up to both hooks. -/
theorem Leaving.failed_iff (h : Leaving t hearing reply stays) :
    reply.isOk = false ↔ Objected hearing .beforeRemove ∨ Objected hearing .afterRemove := by
  cases h <;> simp [Objected, Except.isOk, Except.toBool]

/-- A handler that has gone without an objection beforehand replies whether there was one
    afterwards. -/
theorem Leaving.gone (h : Leaving t hearing reply stays)
    (hfree : ¬ Objected hearing .beforeRemove) :
    (.beforeRemove, .ok ()) ∈ hearing ∧ (reply = .ok () ↔ ¬ Objected hearing .afterRemove) := by
  cases h with
  | stays cause => exact absurd ⟨cause, List.mem_singleton_self _⟩ hfree
  | goes => simp [Objected]
  | goesObjecting cause => simp [Objected]

/-- Adding a handler is a success just when it objects neither before nor after. -/
theorem Joining.ok_iff (h : Joining t hearing reply stays) :
    reply = .ok () ↔ (.beforeAdd, .ok ()) ∈ hearing ∧ (.afterAdd, .ok ()) ∈ hearing := by
  cases h with
  | declines cause => simp
  | joins => simp
  | undone cause hleaving => cases hleaving <;> simp

/-- A handler that has been added is there. One that has not been is there only if it has
    objected to being taken out again. -/
theorem Joining.stays_iff (h : Joining t hearing reply stays) :
    stays = true ↔ reply = .ok () ∨ Objected hearing .beforeRemove := by
  cases h with
  | declines cause => simp [Objected]
  | joins => simp
  | undone cause hleaving =>
      rw [hleaving.stays_iff]
      simp [Objected]

/-- What is replied otherwise is the objection to being added, or to having been. -/
theorem Joining.failed (h : Joining t hearing reply stays) (hfailed : reply ≠ .ok ()) :
    ∃ fault cause, reply = .error (.lifecycle fault cause) ∧
      ((.beforeAdd, .error cause) ∈ hearing ∨ (.afterAdd, .error cause) ∈ hearing) := by
  cases h with
  | declines cause => exact ⟨_, cause, rfl, Or.inl (List.mem_singleton_self _)⟩
  | joins => exact absurd rfl hfailed
  | undone cause hleaving =>
      exact ⟨_, cause, rfl, Or.inr (List.mem_cons_of_mem _ List.mem_cons_self)⟩

/-- What is replied to a handler that has objected to having been added tells whether it has
    objected again. -/
theorem Joining.undone_of_objection (h : Joining t hearing reply stays) {cause : Error}
    (hobjected : (.afterAdd, .error cause) ∈ hearing) :
    (stays = true ↔ Objected hearing .beforeRemove) ∧
      ∃ fault, reply = .error (.lifecycle fault cause) ∧
        (fault = .addUndone t ∧
            ¬ (Objected hearing .beforeRemove ∨ Objected hearing .afterRemove) ∨
          fault = .addStuck t ∧
            (Objected hearing .beforeRemove ∨ Objected hearing .afterRemove)) := by
  have hstays := h.stays_iff
  cases h with
  | declines cause => simp at hobjected
  | joins => simp at hobjected
  | @undone hearing reply stays other hleaving =>
      have hcause : cause = other := by
        cases hleaving <;> simpa using hobjected
      -- What is heard of the removal is what is heard of the whole, but for the first two hooks.
      have hagain : ∀ hook, hook ≠ .beforeAdd → hook ≠ .afterAdd →
          (Objected ((.beforeAdd, .ok ()) :: (.afterAdd, .error other) :: hearing) hook ↔
            Objected hearing hook) := by
        intro hook hbefore hafter
        simp [Objected, hbefore, hafter]
      have hfailed := hleaving.failed_iff
      rw [hagain .beforeRemove (by decide) (by decide)] at hstays ⊢
      rw [hagain .afterRemove (by decide) (by decide), hcause]
      refine ⟨hstays.trans (or_iff_right nofun), _, rfl, ?_⟩
      cases hreply : reply.isOk with
      | true =>
          rw [hreply] at hfailed
          exact Or.inl ⟨rfl, fun hany => nomatch hfailed.mpr hany⟩
      | false => exact Or.inr ⟨rfl, hfailed.mp hreply⟩

/-- A handler that objects to having gone has not objected to going. -/
theorem Joining.objects_once (h : Joining t hearing reply stays)
    (hafter : Objected hearing .afterRemove) : ¬ Objected hearing .beforeRemove := by
  cases h with
  | declines cause => simp [Objected]
  | joins => simp [Objected]
  | undone cause hleaving =>
      cases hleaving with
      | stays cause => simp [Objected] at hafter
      | goes => simp [Objected]
      | goesObjecting cause => simp [Objected]

end Hearings

namespace Roster

variable {a b : Roster} {m : Member}

theorem edit_unlink_middle (h : (ids (a ++ m :: b)).Nodup) :
    (a ++ m :: b).edit (.unlink m.id) = (a ++ b, .done) := by
  rw [Roster.edit, if_pos (by simp), filter_split h]

theorem edit_insert_slot {position : Position} (hslot : slot (a ++ b) position = .ok a.length)
    (hname : m.name ∉ names (a ++ b)) :
    (a ++ b).edit (.insert m position) = (a ++ m :: b, .done) := by
  rw [Roster.edit, if_neg hname, hslot]
  simp only [insertIdx_append]

end Roster

namespace World

variable {σ : Type} {w w' : World σ} {p : PipelineId} {l a b : Roster} {m : Member}
  {c : ContextId} {call : Caller σ}

/-- Hooks leave a pipeline alone: its chain stays as it is, and so do its contexts. -/
def Spares (call : Caller σ) (p : PipelineId) : Prop :=
  ∀ (c : ContextId) (hook : Hook) (w : World σ),
    (call (.handler c (.hook hook)) w).2.chain p = w.chain p ∧
      w.pipelines.length ≤ (call (.handler c (.hook hook)) w).2.pipelines.length ∧
      w.contexts.length ≤ (call (.handler c (.hook hook)) w).2.contexts.length ∧
      ∀ d, d < w.contexts.length → (w.context d).pipeline = p →
        (call (.handler c (.hook hook)) w).2.context d = w.context d

/-- Some hooks of a context are asked, one after the other. Before each of them chains and
    marks may change, and after the last one something may be noted. -/
inductive Hears (call : Caller σ) (c : ContextId) :
    World σ → List (Hook × Outcome) → World σ → Prop
  | done (w : World σ) : Hears call c w [] w
  | ask {w w₁ w₂ w' : World σ} {hook : Hook} {answer : Outcome} {hearing} :
    w₁.housing = w.housing → w₁.user = w.user →
    call (.handler c (.hook hook)) w₁ = (answer, w₂) → Hears call c w₂ hearing w' →
    Hears call c w ((hook, answer) :: hearing) w'
  | noting [Journal σ] {w w' : World σ} {hearing} (n : Notice) : Hears call c w hearing w' →
    Hears call c w hearing (w'.notice n)

/-- Hooks that leave the world alone leave each pipeline alone. -/
theorem Aloof.spares (ha : Aloof call) (p : PipelineId) : Spares call p := by
  intro c hook w
  rcases ha c hook w with ⟨outcome, user, hcall⟩
  rw [hcall]
  exact ⟨rfl, Nat.le_refl _, Nat.le_refl _, fun _ _ _ => rfl⟩

/-- A context belongs to a pipeline, linked or not. -/
structure Owns (w : World σ) (p : PipelineId) (c : ContextId) : Prop where
  known : c < w.contexts.length
  pipeline : (w.context c).pipeline = p

theorem Hosts.owns (h : w.Hosts p l) (hm : m ∈ l) : w.Owns p m.id :=
  ⟨h.known m hm, h.pipeline m hm⟩

theorem Loose.owns (hc : w.Loose p l c) : w.Owns p c := ⟨hc.known, hc.pipeline⟩

theorem Owns.of_housing (h : w.Owns p c) (hhousing : w'.housing = w.housing) : w'.Owns p c := by
  refine ⟨?_, ?_⟩
  · rw [length_contexts_of_housing hhousing]
    exact h.known
  · rw [context_of_housing (f := Context.pipeline) (fun _ => rfl) hhousing]
    exact h.pipeline

theorem handlerType_of_housing (hhousing : w'.housing = w.housing) (c : ContextId) :
    w'.handlerType c = w.handlerType c :=
  context_of_housing (f := fun x => x.handler.typeName) (fun _ => rfl) hhousing c

namespace Spares

variable {hook : Hook} {answer : Outcome}

theorem hosts (hs : Spares call p) (h : w.Hosts p l)
    (hcall : call (.handler c (.hook hook)) w = (answer, w')) : w'.Hosts p l := by
  rcases hs c hook w with ⟨hchain, -, hlen, hcontexts⟩
  rw [hcall] at hchain hlen hcontexts
  exact h.of_members hchain hlen fun m hm => hcontexts m.id (h.known m hm) (h.pipeline m hm)

theorem known (hs : Spares call p) (hp : p < w.pipelines.length)
    (hcall : call (.handler c (.hook hook)) w = (answer, w')) : p < w'.pipelines.length := by
  have hlen := (hs c hook w).2.1
  rw [hcall] at hlen
  exact Nat.lt_of_lt_of_le hp hlen

theorem context (hs : Spares call p) {d : ContextId} (hd : w.Owns p d)
    (hcall : call (.handler c (.hook hook)) w = (answer, w')) : w'.context d = w.context d := by
  have hcontexts := (hs c hook w).2.2.2
  rw [hcall] at hcontexts
  exact hcontexts d hd.known hd.pipeline

theorem owns (hs : Spares call p) {d : ContextId} (hd : w.Owns p d)
    (hcall : call (.handler c (.hook hook)) w = (answer, w')) : w'.Owns p d := by
  have hlen := (hs c hook w).2.2.1
  rw [hcall] at hlen
  refine ⟨Nat.lt_of_lt_of_le hd.known hlen, ?_⟩
  rw [hs.context hd hcall]
  exact hd.pipeline

theorem loose (hs : Spares call p) {d : ContextId} (hd : w.Loose p l d)
    (hcall : call (.handler c (.hook hook)) w = (answer, w')) : w'.Loose p l d := by
  have howns := hs.owns hd.owns hcall
  refine ⟨howns.known, howns.pipeline, ?_, hd.absent⟩
  rw [hs.context hd.owns hcall]
  exact hd.unmarked

theorem handlerType (hs : Spares call p) {d : ContextId} (hd : w.Owns p d)
    (hcall : call (.handler c (.hook hook)) w = (answer, w')) :
    w'.handlerType d = w.handlerType d := by
  rw [World.handlerType, hs.context hd hcall, World.handlerType]

end Spares

theorem Hears.handlerType {hearing : List (Hook × Outcome)} (hs : Spares call p)
    (h : Hears call c w hearing w') {d : ContextId} (hd : w.Owns p d) :
    w'.handlerType d = w.handlerType d := by
  induction h with
  | done w => rfl
  | ask hhousing _ hcall _ ih =>
      have hd' := hd.of_housing hhousing
      exact (ih (hs.owns hd' hcall)).trans
        ((hs.handlerType hd' hcall).trans (handlerType_of_housing hhousing d))
  | noting n _ ih => exact ih hd

/-! ### Taking out -/

/-- A chain lets go of a member, which is marked. -/
theorem unlink_middle (h : w.Hosts p (a ++ m :: b)) (hp : p < w.pipelines.length) :
    ∃ chain, (w.chain p).unlink m.id = (true, chain) ∧
      w.Settled p (a ++ b) ((w.setChain p chain).markRemoved m.id) := by
  have hgone : m.id ∉ ids (a ++ b) := (ids_nodup_middle.mp h.holds.linked.ids_nodup).1
  have hunlinked := h.unlinked hp m.id
  rw [edit_unlink_middle h.holds.linked.ids_nodup] at hunlinked
  rcases Chain.unlink_holds h.holds with ⟨chain, hunlink, -⟩
  rw [hunlink] at hunlinked
  exact ⟨chain, hunlink, hunlinked.hosts.markRemoved hgone,
    (housing_markRemoved _ m.id).trans hunlinked.housing⟩

/-- A member that is to be taken out is asked first, and told when it has gone. -/
theorem removeContext_leaves (hs : Spares call p) (hp : p < w.pipelines.length)
    (h : w.Hosts p (a ++ m :: b)) :
    ∃ hearing stays,
      Leaving (w.handlerType m.id) hearing (w.removeContext call p m.id).1 stays ∧
      Hears call m.id w hearing (w.removeContext call p m.id).2 ∧
      (w.removeContext call p m.id).2.Hosts p (if stays then a ++ m :: b else a ++ b) := by
  have howns := h.owns (m := m) (by simp)
  cases hbefore : call (.handler m.id (.hook .beforeRemove)) w with
  | mk before w₁ =>
      have h₁ := hs.hosts h hbefore
      -- A reply names the type of the handler, which no hook changes.
      have htype₁ := hs.handlerType howns hbefore
      cases before with
      | error cause =>
          refine ⟨[(.beforeRemove, .error cause)], true, ?_⟩
          simp only [removeContext, callHook, hbefore, htype₁]
          exact ⟨.stays cause, .ask rfl rfl hbefore (.done w₁), h₁⟩
      | ok done =>
          rcases unlink_middle h₁ (hs.known hp hbefore) with ⟨chain, hunlink, hgone⟩
          have howns₁ := (hs.owns howns hbefore).of_housing hgone.housing
          have htype := (handlerType_of_housing hgone.housing m.id).trans htype₁
          -- The last hook is asked when the context is unlinked and marked.
          cases hafter : call (.handler m.id (.hook .afterRemove))
              ((w₁.setChain p chain).markRemoved m.id) with
          | mk after w₂ =>
              have h₂ := hs.hosts hgone.hosts hafter
              have htype₂ := (hs.handlerType howns₁ hafter).trans htype
              refine ⟨[(.beforeRemove, .ok ()), (.afterRemove, after)], false, ?_⟩
              have hheard : Hears call m.id w [(.beforeRemove, .ok ()), (.afterRemove, after)] w₂ :=
                .ask rfl rfl hbefore (.ask hgone.housing rfl hafter (.done w₂))
              cases after with
              | error cause =>
                  simp only [removeContext, callHook, hbefore, hunlink, hafter, htype₂]
                  exact ⟨.goesObjecting cause, hheard, h₂⟩
              | ok _ =>
                  simp only [removeContext, callHook, hbefore, hunlink, hafter]
                  exact ⟨.goes, hheard, h₂⟩

/-! ### Putting in -/

theorem checkInsert_eq (h : w.Hosts p l) (name : String) (position : Position) :
    (w.chain p).checkInsert name position =
      if name ∈ names l then .error (.argument (.duplicateName name))
      else (slot l position).map fun _ => () := by
  -- A place in the chain is one in the roster, and the chain has the names of the roster.
  have hsides := Chain.neighbours_eq h.holds.linked position
  rw [Chain.checkInsert]
  by_cases htaken : name ∈ names l
  · rw [if_pos htaken, (h.holds.linked.contains_names name).mpr htaken]
    rfl
  · have hfree : (w.chain p).names.contains name = false :=
      Bool.eq_false_iff.mpr fun ht => htaken ((h.holds.linked.contains_names name).mp ht)
    rw [if_neg htaken, hfree]
    cases hslot : slot l position with
    | error cause =>
        rw [hslot] at hsides
        simp only [hsides]
        rfl
    | ok i =>
        rw [hslot] at hsides
        rcases hsides with ⟨_, _, -, -, hsides⟩
        simp only [hsides]
        rfl

theorem checkInsert_slot (h : w.Hosts p (a ++ b)) {name : String} (hname : name ∉ names (a ++ b))
    {position : Position} (hslot : slot (a ++ b) position = .ok a.length) :
    (w.chain p).checkInsert name position = .ok () := by
  rw [checkInsert_eq h, if_neg hname, hslot]
  rfl

/-- A chain takes a context under a name that is free. -/
theorem insert_slot (h : w.Hosts p (a ++ b)) (hp : p < w.pipelines.length)
    (hc : w.Loose p (a ++ b) c) (hname : (w.context c).name ∉ names (a ++ b))
    {position : Position} (hslot : slot (a ++ b) position = .ok a.length) :
    ∃ chain, (w.chain p).insert c (w.context c).name (w.context c).handler.events position =
        (.ok (), chain) ∧ w.Settled p (a ++ w.member c :: b) (w.setChain p chain) := by
  have hoffered := h.offered hp hc position
  -- The roster has a free name and a place, so the chain does not refuse.
  have hagrees := Chain.edit_agrees (e := .insert (w.member c) position) h.holds hc.absent
  rw [edit_insert_slot hslot hname] at hoffered hagrees
  have hreply := hagrees.2
  simp only [Chain.edit, member] at hreply
  cases hinsert : (w.chain p).insert c (w.context c).name (w.context c).handler.events
    position with
  | mk inserted chain =>
      rw [hinsert] at hoffered hreply
      cases inserted with
      | error cause => cases hreply
      | ok _ => exact ⟨chain, rfl, hoffered⟩

variable [Journal σ]

/-- Undoing an addition is a removal, and what came of that is reported as well. -/
theorem undoAdd_reply (w : World σ) (call : Caller σ) (p : PipelineId) (c : ContextId)
    (cause : Error) :
    (w.undoAdd call p c cause).1 = .error (.lifecycle
        (if (w.removeContext call p c).1.isOk then
          .addUndone ((w.removeContext call p c).2.handlerType c)
        else .addStuck ((w.removeContext call p c).2.handlerType c)) cause) ∧
      ((w.undoAdd call p c cause).2 = (w.removeContext call p c).2 ∨
        ∃ n, (w.undoAdd call p c cause).2 = (w.removeContext call p c).2.notice n) := by
  cases hremove : w.removeContext call p c with
  | mk outcome w₁ =>
      rw [undoAdd, hremove]
      cases outcome with
      | ok _ => exact ⟨rfl, Or.inl rfl⟩
      | error second => exact ⟨rfl, Or.inr ⟨_, rfl⟩⟩

/-- A member that has objected to having been added is taken out as any other. -/
theorem undoAdd_leaves (hs : Spares call p) (hp : p < w.pipelines.length)
    (h : w.Hosts p (a ++ m :: b)) (cause : Error) :
    ∃ hearing reply stays, Leaving (w.handlerType m.id) hearing reply stays ∧
      (w.undoAdd call p m.id cause).1 = .error (.lifecycle
        (if reply.isOk then .addUndone (w.handlerType m.id)
        else .addStuck (w.handlerType m.id)) cause) ∧
      Hears call m.id w hearing (w.undoAdd call p m.id cause).2 ∧
      (w.undoAdd call p m.id cause).2.Hosts p (if stays then a ++ m :: b else a ++ b) := by
  rcases removeContext_leaves hs hp h with ⟨hearing, stays, hleaving, hheard, hhosts⟩
  rcases undoAdd_reply w call p m.id cause with ⟨hreply, hworld⟩
  rw [hheard.handlerType hs (h.owns (by simp))] at hreply
  refine ⟨hearing, _, stays, hleaving, hreply, ?_⟩
  rcases hworld with hworld | ⟨n, hworld⟩
  · rw [hworld]
    exact ⟨hheard, hhosts⟩
  · rw [hworld]
    exact ⟨.noting n hheard, hhosts.setUser _⟩

/-- A context that is to join is asked first, and told when it has joined. If it objects to
    that it is taken out again. -/
theorem addContext_joins (hs : Spares call p) (hp : p < w.pipelines.length)
    (h : w.Hosts p (a ++ b)) (hc : w.Loose p (a ++ b) c)
    (hname : (w.context c).name ∉ names (a ++ b)) {position : Position}
    (hslot : slot (a ++ b) position = .ok a.length) :
    ∃ hearing stays,
      Joining (w.handlerType c) hearing (w.addContext call p position c).1 stays ∧
      Hears call c w hearing (w.addContext call p position c).2 ∧
      (w.addContext call p position c).2.Hosts p
        (if stays then a ++ w.member c :: b else a ++ b) := by
  have hcheck := checkInsert_slot h hname hslot
  cases hbefore : call (.handler c (.hook .beforeAdd)) w with
  | mk before w₁ =>
      have h₁ := hs.hosts h hbefore
      have hp₁ := hs.known hp hbefore
      have htype₁ := hs.handlerType hc.owns hbefore
      cases before with
      | error cause =>
          refine ⟨[(.beforeAdd, .error cause)], false, ?_⟩
          simp only [addContext, hcheck, callHook, hbefore, htype₁]
          exact ⟨.declines cause, .ask rfl rfl hbefore (.done w₁), h₁⟩
      | ok done =>
          -- The hook may have seen to business of its own, but the newcomer is as it was.
          have hcontext := hs.context hc.owns hbefore
          have hmember : w₁.member c = w.member c := by rw [member, hcontext, member]
          have hname₁ : (w₁.context c).name ∉ names (a ++ b) := hcontext ▸ hname
          rcases insert_slot h₁ hp₁ (hs.loose hc hbefore) hname₁ hslot with
            ⟨chain, hinsert, hjoined⟩
          have hp₂ : p < (w₁.setChain p chain).pipelines.length := by
            rwa [length_pipelines_of_housing hjoined.housing]
          have howns := (hs.owns hc.owns hbefore).of_housing hjoined.housing
          cases hafter : call (.handler c (.hook .afterAdd)) (w₁.setChain p chain) with
          | mk after w₂ =>
              have h₂ := hs.hosts hjoined.hosts hafter
              rw [hmember] at h₂
              cases after with
              | ok done' =>
                  refine ⟨[(.beforeAdd, .ok ()), (.afterAdd, .ok ())], true, ?_⟩
                  simp only [addContext, hcheck, callHook, hbefore, hinsert, hafter]
                  refine ⟨.joins, ?_, h₂⟩
                  exact .ask rfl rfl hbefore (.ask hjoined.housing rfl hafter (.done w₂))
              | error cause =>
                  -- It stands among the others by now, and leaves as any of them would.
                  rcases undoAdd_leaves hs (hs.known hp₂ hafter) h₂ cause with
                    ⟨hearing, reply, stays, hleaving, hreply, hheard, hhosts⟩
                  have htype : w₂.handlerType (w.member c).id = w.handlerType c :=
                    (hs.handlerType howns hafter).trans
                      ((handlerType_of_housing hjoined.housing c).trans htype₁)
                  rw [htype] at hleaving hreply
                  have hundone : w.addContext call p position c = w₂.undoAdd call p c cause := by
                    simp only [addContext, hcheck, callHook, hbefore, hinsert, hafter]
                  rw [hundone]
                  refine ⟨(.beforeAdd, .ok ()) :: (.afterAdd, .error cause) :: hearing, stays, ?_,
                    .ask rfl rfl hbefore (.ask hjoined.housing rfl hafter hheard), hhosts⟩
                  exact hreply ▸ Joining.undone cause hleaving

end World

end Conduit
