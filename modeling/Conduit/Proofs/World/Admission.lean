import Conduit.Proofs.Outside.Course
import Conduit.Proofs.World.Replacement

/-!
# Coming In, Going Out

What adding and removing a handler come to, by what its hooks answer. Whatever can be checked
beforehand is, and a handler that cannot be added is refused before any hook is asked. From
then on the roster ends in one of two ways, with the handler or without it, and what a call
replies says which hook has objected.

Adding has two phases and may be undone. A handler that has objected to having been added is
out again, unless it objects to that before it goes; if it only objects afterwards, it has gone
all the same. The reply carries the first objection either way. It also tells whether the
removal has failed, which is not whether the handler is still there: `add_report` says when the
two come apart, and `add_misreported` is a case.

## Main definitions

* `Roster.entry`: Where a newcomer comes to stand, if it can be added.
* `Move.takes?`: The member that a call is to take out.
* `World.Admitted`, `World.Dismissed`: What comes of adding and of removing.

## Theorems

* `EventSet.asks_iff`, `slot_error`, `entry_cases`, `entry_error`, `entry_ok`: Who can be
  added.
* `checkAdd_eq`, `entry_split`, `add_refused`: What is checked beforehand.
* `add_joins`, `add_admitted`: What comes of adding.
* `removeFound_outcome`, `attempt_takes`, `attempt_dismissed`: What comes of removing.
* `attempt_settles`: What comes of every call that adds or removes a handler.
* `attempt_settles_sampleReluctance`: Hooks that object.
* `LifecycleFault.message_undone_ne`, `Error.truthful_iff`: When a report is true.
* `add_report`: What is reported of a handler that has objected to having been added.
* `add_report_sampleFarewell`, `add_misreported`: A handler that is reported to be there, and
  has gone.
-/

namespace Conduit

open Roster

/-- A set with neither inbound nor outbound kinds is empty. -/
theorem EventSet.asks_iff (set : EventSet) :
    (set.isInbound || set.isOutbound) = true ↔ set ≠ .empty := by
  have hbits : set.bits = (set.inter .inbound).bits ||| (set.inter .outbound).bits := by
    rw [inter, inter, ← BitVec.and_or_distrib_left]
    exact (BitVec.and_allOnes).symm
  simp only [isInbound, isOutbound, intersects, Bool.or_eq_true, decide_eq_true_eq]
  constructor
  · rintro h rfl
    -- Neither mask has a bit in common with the empty set.
    exact h.elim (fun h => h (by decide)) (fun h => h (by decide))
  · intro hne
    by_contra hnone
    rw [not_or, not_not, not_not] at hnone
    rw [hnone.1, hnone.2] at hbits
    exact hne (congrArg EventSet.mk hbits)

namespace Roster

/-- Where a newcomer comes to stand among the members, if it can be added. -/
def entry (l : Roster) (position : Position) (name : String) (handler : Handler) :
    Except Error Nat :=
  if name = "" then .error (.argument .emptyName)
  else if name ∈ names l then .error (.argument (.duplicateName name))
  else
    match slot l position with
    | .error cause => .error cause
    | .ok i =>
      if handler.events = .empty then .error (.argument (.noEvents handler.typeName)) else .ok i

theorem slot_error {l : Roster} {position : Position} {cause : Error}
    (h : slot l position = .error cause) : ∃ fault, cause = .noSuchElement fault := by
  cases position with
  | first => exact nomatch h
  | last => exact nomatch h
  | before base | after base =>
      rw [slot] at h
      split at h
      · cases h
      · cases h
        exact ⟨_, rfl⟩

/-- A name or a handler will not do, or a base is missing, or the newcomer has a name that nobody
    has and comes to stand at the position. -/
theorem entry_cases (l : Roster) (position : Position) (name : String) (handler : Handler) :
    (∃ fault, l.entry position name handler = .error (.argument fault)) ∨
      (∃ fault, l.entry position name handler = .error (.noSuchElement fault)) ∨
      ∃ i, l.entry position name handler = .ok i ∧ name ∉ names l ∧ slot l position = .ok i := by
  rw [entry]
  by_cases hempty : name = ""
  · exact Or.inl ⟨_, if_pos hempty⟩
  · rw [if_neg hempty]
    by_cases htaken : name ∈ names l
    · exact Or.inl ⟨_, if_pos htaken⟩
    · rw [if_neg htaken]
      cases hslot : slot l position with
      | error cause =>
          rcases slot_error hslot with ⟨fault, rfl⟩
          exact Or.inr (Or.inl ⟨fault, rfl⟩)
      | ok i =>
          by_cases hnone : handler.events = .empty
          · exact Or.inl ⟨_, if_pos hnone⟩
          · exact Or.inr (Or.inr ⟨i, if_neg hnone, htaken, rfl⟩)

theorem entry_error {l : Roster} {position : Position} {name : String} {handler : Handler}
    {cause : Error} (h : l.entry position name handler = .error cause) :
    (∃ fault, cause = .argument fault) ∨ ∃ fault, cause = .noSuchElement fault := by
  rcases l.entry_cases position name handler with
    ⟨fault, hentry⟩ | ⟨fault, hentry⟩ | ⟨i, hentry, -⟩
  · exact Or.inl ⟨fault, Except.error.inj (h.symm.trans hentry)⟩
  · exact Or.inr ⟨fault, Except.error.inj (h.symm.trans hentry)⟩
  · exact nomatch h.symm.trans hentry

theorem entry_ok {l : Roster} {position : Position} {name : String} {handler : Handler} {i : Nat}
    (h : l.entry position name handler = .ok i) : name ∉ names l ∧ slot l position = .ok i := by
  rcases l.entry_cases position name handler with
    ⟨fault, hentry⟩ | ⟨fault, hentry⟩ | ⟨j, hentry, hplace⟩
  · exact nomatch h.symm.trans hentry
  · exact nomatch h.symm.trans hentry
  · cases Except.ok.inj (h.symm.trans hentry)
    exact hplace

end Roster

namespace World

variable {σ : Type} {w w' : World σ} {p : PipelineId} {l : Roster} {m : Member}
  {call : Caller σ} {hearing : List (Hook × Outcome)} {reply : Outcome} {position : Position}
  {name : String} {handler : Handler}

/-! ### Adding -/

/-- Whether a handler can be added is told by the roster. -/
theorem checkAdd_eq (h : w.Hosts p l) (position : Position) (name : String) (handler : Handler) :
    w.checkAdd p position name handler = (l.entry position name handler).map fun _ => () := by
  rw [checkAdd, checkInsert_eq h, entry, checkName]
  by_cases hempty : name = ""
  · rw [if_pos hempty, if_pos (String.isEmpty_iff.mpr hempty)]
    rfl
  · rw [if_neg hempty, if_neg fun he => hempty (String.isEmpty_iff.mp he)]
    by_cases htaken : name ∈ names l
    · rw [if_pos htaken, if_pos htaken]
      rfl
    · rw [if_neg htaken, if_neg htaken]
      cases slot l position with
      | error cause => rfl
      | ok i =>
          -- The check looks at both sides, and the roster for any event at all.
          have hasks := EventSet.asks_iff handler.events
          by_cases hnone : handler.events = .empty
          · simp only [if_pos hnone]
            change checkEvents handler = _
            rw [checkEvents, if_neg (mt hasks.mp (not_not.mpr hnone))]
            rfl
          · simp only [if_neg hnone]
            change checkEvents handler = _
            rw [checkEvents, if_pos (hasks.mpr hnone)]
            rfl

/-- Who can be added comes to stand between two parts of the roster. -/
theorem entry_split (h : w.Hosts p l) {i : Nat} (hentry : l.entry position name handler = .ok i) :
    ∃ a b, l = a ++ b ∧ a.length = i := by
  have hsides := Chain.neighbours_eq h.holds.linked position
  rw [(entry_ok hentry).2] at hsides
  rcases hsides with ⟨a, b, hl, hlen, -⟩
  exact ⟨a, b, hl, hlen⟩

variable [Journal σ]

/-- What comes of adding a handler that can be added. -/
structure Admitted (w : World σ) (call : Caller σ) (p : PipelineId) (l : Roster) (i : Nat)
    (m : Member) (hearing : List (Hook × Outcome)) (reply : Outcome) (w' : World σ) : Prop where
  /-- These hooks were asked, and no others. -/
  heard : Hears call m.id w hearing w'
  ok_iff : reply = .ok () ↔ (.beforeAdd, .ok ()) ∈ hearing ∧ (.afterAdd, .ok ()) ∈ hearing
  joined : reply = .ok () → w'.Hosts p (l.insertIdx i m)
  failed : reply ≠ .ok () → ∃ fault cause, reply = .error (.lifecycle fault cause) ∧
    ((.beforeAdd, .error cause) ∈ hearing ∨ (.afterAdd, .error cause) ∈ hearing)
  undone : reply ≠ .ok () → ¬ Objected hearing .beforeRemove → w'.Hosts p l
  stuck : reply ≠ .ok () → Objected hearing .beforeRemove → w'.Hosts p (l.insertIdx i m)

/-- What comes of removing a member. -/
structure Dismissed (w : World σ) (call : Caller σ) (p : PipelineId) (l : Roster) (m : Member)
    (hearing : List (Hook × Outcome)) (reply : Outcome) (w' : World σ) : Prop where
  heard : Hears call m.id w hearing w'
  kept : Objected hearing .beforeRemove → reply.isOk = false ∧ w'.Hosts p l
  gone : ¬ Objected hearing .beforeRemove → (.beforeRemove, .ok ()) ∈ hearing ∧
    w'.Hosts p (l.filter fun x => x.id ≠ m.id) ∧
    (reply = .ok () ↔ ¬ Objected hearing .afterRemove)

/-- A handler that cannot be added is refused before anybody is asked. -/
theorem add_refused (h : w.Hosts p l) {cause : Error}
    (hentry : l.entry position name handler = .error cause) (call : Caller σ) :
    w.add call p position name handler = (.error cause, w) := by
  have hcheck := checkAdd_eq h position name handler
  rw [hentry] at hcheck
  simp only [add, hcheck, Except.map]

/-- A handler that can be added joins the others at its place, or leaves them as they were. -/
theorem add_joins (hs : Spares call p) (hp : p < w.pipelines.length) (h : w.Hosts p l) {i : Nat}
    (hentry : l.entry position name handler = .ok i) :
    ∃ hearing stays,
      Joining handler.typeName hearing (w.add call p position name handler).1 stays ∧
      Hears call w.contexts.length (w.newContext p name handler).2 hearing
        (w.add call p position name handler).2 ∧
      (w.add call p position name handler).2.Hosts p
        (if stays then l.insertIdx i ⟨w.contexts.length, name, handler.events⟩ else l) := by
  rcases entry_ok hentry with ⟨hname, hslot⟩
  rcases entry_split h hentry with ⟨a, b, rfl, rfl⟩
  have hcheck := checkAdd_eq h position name handler
  rw [hentry] at hcheck
  have hadd : w.add call p position name handler =
      (w.newContext p name handler).2.addContext call p position w.contexts.length := by
    simp only [add, hcheck, Except.map]
    rfl
  -- The newcomer is the context that has just been made, with the name and the handler given.
  have hcontext := context_length_newContext w p name handler
  have hfree : ((w.newContext p name handler).2.context w.contexts.length).name ∉
      names (a ++ b) := by
    rw [hcontext]
    exact hname
  have hmember : (w.newContext p name handler).2.member w.contexts.length =
      ⟨w.contexts.length, name, handler.events⟩ := by rw [member, hcontext]
  have htype : (w.newContext p name handler).2.handlerType w.contexts.length =
      handler.typeName := by rw [handlerType, hcontext]
  have hp' : p < (w.newContext p name handler).2.pipelines.length := hp
  have hjoins := addContext_joins hs hp' (h.newContext p name handler)
    (loose_newContext h name handler) hfree hslot
  rwa [hadd, insertIdx_append, ← hmember, ← htype]

theorem add_admitted (hs : Spares call p) (hp : p < w.pipelines.length) (h : w.Hosts p l)
    {i : Nat} (hentry : l.entry position name handler = .ok i) :
    ∃ hearing, (w.newContext p name handler).2.Admitted call p l i
      ⟨w.contexts.length, name, handler.events⟩ hearing
      (w.add call p position name handler).1 (w.add call p position name handler).2 := by
  rcases add_joins hs hp h hentry with ⟨hearing, stays, hjoining, hheard, hhosts⟩
  refine ⟨hearing, hheard, hjoining.ok_iff, ?_, hjoining.failed, ?_, ?_⟩
  · intro hok
    rwa [if_pos (hjoining.stays_iff.mpr (Or.inl hok))] at hhosts
  · intro hfailed hfree
    rwa [if_neg (mt hjoining.stays_iff.mp (not_or.mpr ⟨hfailed, hfree⟩))] at hhosts
  · intro _ hobjected
    rwa [if_pos (hjoining.stays_iff.mpr (Or.inr hobjected))] at hhosts

/-! ### Removing -/

end World

/-- The member that a call is to take out. -/
def Move.takes? (l : Roster) : Move → Option Member
  | remove name => l.find? (·.name == name)
  | removeFirst => l.head?
  | removeLast => l.getLast?
  | removeHandler c => l.find? (·.id == c)
  | add .. | replace .. => none

namespace World

variable {σ : Type} [Journal σ] {w : World σ} {p : PipelineId} {l : Roster} {m : Member}
  {call : Caller σ}

omit [Journal σ] in
theorem removeFound_outcome (w : World σ) (call : Caller σ) (p : PipelineId) (c : ContextId)
    (absence : AbsenceFault) :
    (w.removeFound call p (some c) absence).map (·.map fun _ => ()) id =
      w.removeContext call p c := by
  rw [removeFound]
  rcases w.removeContext call p c with ⟨outcome, w₁⟩
  cases outcome <;> rfl

/-- All removals come to taking out the member that is meant. -/
theorem attempt_takes (h : w.Hosts p l) {move : Move} (htakes : move.takes? l = some m)
    (call : Caller σ) : m ∈ l ∧ w.attempt call p move = w.removeContext call p m.id := by
  have hlinked := h.holds.linked
  cases move with
  | remove name =>
      have hmem := List.mem_of_find?_eq_some htakes
      have hname := List.find?_some htakes
      rw [beq_iff_eq] at hname
      refine ⟨hmem, ?_⟩
      rw [attempt, remove, Chain.find?, ← hname, hlinked.find?_names hmem, removeFound_outcome]
  | removeFirst =>
      refine ⟨List.mem_of_head? htakes, ?_⟩
      -- The ends of the chain are the ends of the roster.
      have hhead : (w.chain p).head = some m.id := by
        rw [hlinked.head, ids, List.head?_map]
        exact congrArg _ htakes
      rw [attempt, removeFirst, hhead, removeFound_outcome]
  | removeLast =>
      refine ⟨List.mem_of_getLast? htakes, ?_⟩
      have htail : (w.chain p).tail = some m.id := by
        rw [hlinked.tail, ids, List.getLast?_map]
        exact congrArg _ htakes
      rw [attempt, removeLast, htail, removeFound_outcome]
  | removeHandler c =>
      refine ⟨List.mem_of_find?_eq_some htakes, ?_⟩
      have hfound : (w.chain p).toList.find? (· == c) = some m.id := by
        rw [hlinked.lists.iterated, ids, List.find?_map]
        exact congrArg _ htakes
      rw [attempt, removeHandler, hfound, removeFound_outcome]
  | add position name handler => cases htakes
  | replace oldName newName handler => cases htakes

theorem attempt_dismissed (hs : Spares call p) (hp : p < w.pipelines.length) (h : w.Hosts p l)
    {move : Move} (htakes : move.takes? l = some m) :
    ∃ hearing, w.Dismissed call p l m hearing (w.attempt call p move).1
      (w.attempt call p move).2 := by
  rcases attempt_takes h htakes call with ⟨hmem, hattempt⟩
  rcases List.append_of_mem hmem with ⟨a, b, rfl⟩
  rcases removeContext_leaves hs hp h with ⟨hearing, stays, hleaving, hheard, hhosts⟩
  rw [hattempt]
  refine ⟨hearing, hheard, ?_, ?_⟩
  · intro hobjected
    rw [if_pos (hleaving.stays_iff.mpr hobjected)] at hhosts
    exact ⟨hleaving.failed_iff.mpr (Or.inl hobjected), hhosts⟩
  · intro hfree
    rw [if_neg (mt hleaving.stays_iff.mp hfree)] at hhosts
    rw [filter_split h.holds.linked.ids_nodup]
    exact ⟨(hleaving.gone hfree).1, hhosts, (hleaving.gone hfree).2⟩

/-! ### Every call -/

/-- What comes of a call that adds or removes a handler, whatever the hooks answer that it
    asks. -/
theorem attempt_settles (hs : Spares call p) (hp : p < w.pipelines.length) (h : w.Hosts p l) :
    (∀ position name handler,
      match l.entry position name handler with
      | .error cause =>
        ((∃ fault, cause = .argument fault) ∨ ∃ fault, cause = .noSuchElement fault) ∧
          ∀ call', w.attempt call' p (.add position name handler) = (.error cause, w)
      | .ok i => ∃ hearing, (w.newContext p name handler).2.Admitted call p l i
          ⟨w.contexts.length, name, handler.events⟩ hearing
          (w.attempt call p (.add position name handler)).1
          (w.attempt call p (.add position name handler)).2) ∧
    ∀ move m, move.takes? l = some m → ∃ hearing, w.Dismissed call p l m hearing
      (w.attempt call p move).1 (w.attempt call p move).2 := by
  constructor
  · intro position name handler
    cases hentry : l.entry position name handler with
    | error cause => exact ⟨entry_error hentry, add_refused h hentry⟩
    | ok i => exact add_admitted hs hp h hentry
  · exact fun move m htakes => attempt_dismissed hs hp h htakes

/-- The second handler objects to going, and a newcomer to having been added. -/
def sampleReluctance : Cast
  | _, 1, .hook .beforeRemove => .fail .closed
  | _, 3, .hook .afterAdd => .fail .closed
  | _, _, _ => .proceed

theorem attempt_settles_sampleReluctance :
    Spares (respond sampleReluctance.play 1) 0 ∧ 0 < sampleStage.pipelines.length ∧
      sampleStage.Hosts 0 (Edit.run Roster.edit [] sampleEdits).1 ∧
      sampleStage.attempt (respond sampleReluctance.play 1) 0 (.add .last "a" sampleNewcomer) =
        (.error (.argument (.duplicateName "a")), sampleStage) ∧
      (∃ hearing, (sampleStage.newContext 0 "d" sampleNewcomer).2.Admitted
        (respond sampleReluctance.play 1) 0 (Edit.run Roster.edit [] sampleEdits).1 3
        ⟨3, "d", sampleNewcomer.events⟩ hearing
        (.error (.lifecycle (.addUndone "Sample") .closed))
        (sampleStage.attempt (respond sampleReluctance.play 1) 0
          (.add .last "d" sampleNewcomer)).2) ∧
      ∃ hearing, sampleStage.Dismissed (respond sampleReluctance.play 1) 0
        (Edit.run Roster.edit [] sampleEdits).1
        ⟨1, "b", .ofList [.channelActive, .exceptionCaught]⟩ hearing
        (.error (.lifecycle (.notRemoved "Sample") .closed))
        (sampleStage.attempt (respond sampleReluctance.play 1) 0 (.remove "b")).2 := by
  have hspares := (aloof_respond sampleReluctance 1).spares 0
  have h := attempt_settles hspares (by decide) sampleStage_staged.hosts
  exact ⟨hspares, by decide, sampleStage_staged.hosts, (h.1 .last "a" sampleNewcomer).2 _,
    h.1 .last "d" sampleNewcomer, h.2 (.remove "b") _ rfl⟩

/-! ### What is reported -/

end World

/-- A report tells whether a handler that has objected to having been added is still there, and
    what it says is true. -/
structure Error.Truthful (e : Error) (t : String) (linked : Prop) : Prop where
  gone : e.message = (LifecycleFault.addUndone t).message ↔ ¬ linked
  stuck : e.message = (LifecycleFault.addStuck t).message ↔ linked

/-- A handler that is gone is not reported in the same words as one that is still there. -/
theorem LifecycleFault.message_undone_ne (t : String) :
    (addUndone t).message ≠ (addStuck t).message :=
  fun h => absurd ((String.append_right_inj t).mp h) (by decide)

/-- The report is true unless the handler has objected to having gone. -/
theorem Error.truthful_iff {t : String} {fault : LifecycleFault} {cause : Error}
    {linked before after : Prop} (hlinked : linked ↔ before) (honce : after → ¬ before)
    (hfault : fault = .addUndone t ∧ ¬ (before ∨ after) ∨ fault = .addStuck t ∧ (before ∨ after)) :
    (Error.lifecycle fault cause).Truthful t linked ↔ ¬ after := by
  have hne := LifecycleFault.message_undone_ne t
  rcases hfault with ⟨rfl, hnone⟩ | ⟨rfl, hbefore | hafter⟩
  · -- It has gone without an objection.
    rw [not_or] at hnone
    have hgone : ¬ linked := mt hlinked.mp hnone.1
    exact ⟨fun _ => hnone.2, fun _ => ⟨⟨fun _ => hgone, fun _ => rfl⟩,
      ⟨fun hmessage => absurd hmessage hne, fun hthere => absurd hthere hgone⟩⟩⟩
  · -- It has objected to going, and stays.
    have hthere : linked := hlinked.mpr hbefore
    refine ⟨fun _ hafter => honce hafter hbefore, fun _ => ⟨?_, ⟨fun _ => hthere, fun _ => rfl⟩⟩⟩
    exact ⟨fun hmessage => absurd hmessage.symm hne, fun hgone => absurd hthere hgone⟩
  · -- It has gone, but an objection is an objection.
    refine ⟨fun htrue => ?_, fun hnot => absurd hafter hnot⟩
    exact absurd (hlinked.mp (htrue.stuck.mp rfl)) (honce hafter)

namespace World

variable {σ : Type} [Journal σ] {w : World σ} {p : PipelineId} {l : Roster}
  {call : Caller σ} {position : Position} {name : String} {handler : Handler}

/-- A handler that has objected to having been added is still there just when it has objected to
    being taken out. The report is about whether it has objected at all, so it is true but for
    a handler that has objected to having been taken out. -/
theorem add_report (hs : Spares call p) (hp : p < w.pipelines.length) (h : w.Hosts p l) {i : Nat}
    (hentry : l.entry position name handler = .ok i) :
    ∃ hearing, Hears call w.contexts.length (w.newContext p name handler).2 hearing
        (w.add call p position name handler).2 ∧
      ∀ cause, (.afterAdd, .error cause) ∈ hearing →
        ∃ fault, (w.add call p position name handler).1 = .error (.lifecycle fault cause) ∧
          (w.contexts.length ∈ ((w.add call p position name handler).2.chain p).toList ↔
            Objected hearing .beforeRemove) ∧
          ((Error.lifecycle fault cause).Truthful handler.typeName
              (w.contexts.length ∈ ((w.add call p position name handler).2.chain p).toList) ↔
            ¬ Objected hearing .afterRemove) := by
  rcases add_joins hs hp h hentry with ⟨hearing, stays, hjoining, hheard, hhosts⟩
  refine ⟨hearing, hheard, ?_⟩
  intro cause hobjected
  rcases hjoining.undone_of_objection hobjected with ⟨hstays, fault, hreply, hfault⟩
  have hlinked : w.contexts.length ∈
      ((w.add call p position name handler).2.chain p).toList ↔
        Objected hearing .beforeRemove := by
    rw [hhosts.holds.linked.lists.iterated, ← hstays]
    cases stays with
    | true =>
        rcases entry_split h hentry with ⟨a, b, rfl, rfl⟩
        rw [if_pos rfl, insertIdx_append]
        exact iff_of_true (by simp) rfl
    | false => exact iff_of_false (loose_newContext h name handler).absent Bool.false_ne_true
  exact ⟨fault, hreply, hlinked, Error.truthful_iff hlinked hjoining.objects_once hfault⟩

/-- A handler that objects to having been added, agrees to go, and objects to having gone. -/
def sampleFarewell : Cast
  | _, 3, .hook .afterAdd => .fail .closed
  | _, 3, .hook .afterRemove => .fail .closed
  | _, _, _ => .proceed

theorem add_report_sampleFarewell :
    ∃ hearing, Hears (respond sampleFarewell.play 1) 3
        (sampleStage.newContext 0 "d" sampleNewcomer).2 hearing
        (sampleStage.add (respond sampleFarewell.play 1) 0 .last "d" sampleNewcomer).2 ∧
      ∀ cause, (.afterAdd, .error cause) ∈ hearing →
        ∃ fault, (sampleStage.add (respond sampleFarewell.play 1) 0 .last "d" sampleNewcomer).1 =
            .error (.lifecycle fault cause) ∧
          (3 ∈ ((sampleStage.add (respond sampleFarewell.play 1) 0 .last "d"
              sampleNewcomer).2.chain 0).toList ↔ Objected hearing .beforeRemove) ∧
          ((Error.lifecycle fault cause).Truthful "Sample"
              (3 ∈ ((sampleStage.add (respond sampleFarewell.play 1) 0 .last "d"
                sampleNewcomer).2.chain 0).toList) ↔ ¬ Objected hearing .afterRemove) :=
  add_report ((aloof_respond sampleFarewell 1).spares 0) (by decide) sampleStage_staged.hosts
    (i := 3) rfl

/-- A handler that is gone is reported to be there. -/
theorem add_misreported :
    let call := respond sampleFarewell.play 1
    let (outcome, w) := sampleStage.add call 0 .last "d" sampleNewcomer
    Spares call 0 ∧ outcome = .error (.lifecycle (.addStuck "Sample") .closed) ∧
      (Error.lifecycle (.addStuck "Sample") .closed).message =
        "Sample.after_add() has thrown an exception; also failed to remove." ∧
      (w.chain 0).toList = [0, 1, 2] :=
  ⟨(aloof_respond sampleFarewell 1).spares 0, rfl, rfl, rfl⟩

end World

end Conduit
