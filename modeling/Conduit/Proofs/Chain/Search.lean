import Conduit.Proofs.Chain.History

/-!
# Searching a Chain

Looking for the target of an event along shortcuts gives what a scan of the whole
roster would give. A shortcut passes over the members that do not count for a
direction, and none of them handles a kind of that direction, so whatever is
passed over would have been passed over anyway.

The scan is stated over what lies ahead of a cursor. A lane does not know where a
cursor is, but wherever that is, what lies ahead is the rest of the roster from
some member on, and `begin_eq` says that the search begins at the first member of
that rest that counts. `walk_eq` is then an induction over the rest. It holds for
a lane in either direction, so each search is one use of it.

## Main definitions

* `Roster.ahead`: What stands at a cursor and past it.
* `Roster.scan`: The first member ahead that handles a kind.
* `Roster.targets`: All members ahead that handle it.

## Theorems

* `dropWhile_split`, `dropWhile_absent`: What is passed over on the way to a member.
* `scan_eq`: A scan finds the first target.
* `ahead_suffix`: What lies ahead is the rest of the roster from some member on.
* `targets_cons`: Past the first target lie the others.
* `Linked.informed`, `Lane.find?`: What a link knows of its member.
* `begin_eq`, `begin_absent`: Where a search begins.
* `walk_eq`, `walk_none`: What a walk along a lane finds.
* `search_lane`: A search along a lane is a scan of what lies ahead.
* `Holds.findInbound_eq`, `Holds.findOutbound_eq`: The searches of a chain in both directions.
* `search_eq_scan`: A chain with any history is searched as its roster is scanned.
* `search_eq_scan_sampleTurn`: A chain with contexts of both directions.
-/

namespace Conduit

open Roster

namespace Roster

/-- The members at a cursor and past it, in the order of travel. -/
def ahead (l : Roster) : Cursor → Roster
  | .start => l
  | .after id => (l.dropWhile fun m => m.id ≠ id).tail
  | .at id => l.dropWhile fun m => m.id ≠ id

/-- The first member, from a cursor on, that handles a kind. -/
def scan (l : Roster) (cursor : Cursor) (kind : EventKind) : Option ContextId :=
  first (·.handles kind) (l.ahead cursor)

theorem dropWhile_split {a b : Roster} {m : Member} (h : m.id ∉ ids a) :
    (a ++ m :: b).dropWhile (fun x => x.id ≠ m.id) = m :: b := by
  have hskip : ∀ x ∈ a, decide (x.id ≠ m.id) = true := by
    intro x hx
    have hne : x.id ≠ m.id := fun he => h (mem_ids.mpr ⟨x, hx, he⟩)
    simpa using hne
  rw [List.dropWhile_append_of_pos hskip, List.dropWhile_cons_of_neg (by simp)]

theorem dropWhile_absent {l : Roster} {id : ContextId} (h : id ∉ ids l) :
    l.dropWhile (fun x => x.id ≠ id) = [] := by
  have hskip : ∀ x ∈ l, decide (x.id ≠ id) = true := by
    intro x hx
    have hne : x.id ≠ id := fun he => h (mem_ids.mpr ⟨x, hx, he⟩)
    simpa using hne
  rw [← List.append_nil l, List.dropWhile_append_of_pos hskip]
  rfl

/-- All members, from a cursor on, that handle a kind. -/
def targets (l : Roster) (cursor : Cursor) (kind : EventKind) : Roster :=
  (l.ahead cursor).filter (·.events.handles kind)

theorem scan_eq (l : Roster) (cursor : Cursor) (kind : EventKind) :
    l.scan cursor kind = (l.targets cursor kind).head?.map (·.id) := by
  rw [scan, first, targets, List.head?_filter]

/-- What lies ahead of a cursor is the rest of the roster from some member on. -/
theorem ahead_suffix (l : Roster) (cursor : Cursor) : l.ahead cursor <:+ l := by
  cases cursor with
  | start => exact List.suffix_refl l
  | after id => exact (List.tail_suffix _).trans (List.dropWhile_suffix _)
  | «at» id => exact List.dropWhile_suffix _

/-- Past the first target lie the others. -/
theorem targets_cons {l ms : Roster} {cursor : Cursor} {kind : EventKind} {m : Member}
    (hnd : (ids l).Nodup) (h : l.targets cursor kind = m :: ms) :
    m ∈ l ∧ m.events.handles kind = true ∧ l.targets (.after m.id) kind = ms ∧
      (l.ahead (.after m.id)).length < (l.ahead cursor).length ∧
      (l.ahead (.at m.id)).length ≤ (l.ahead cursor).length := by
  -- What is passed before the first target is not among the targets.
  rcases List.filter_eq_cons_iff.mp h with ⟨a, b, hahead, -, hm, hb⟩
  rcases ahead_suffix l cursor with ⟨p, hp⟩
  have hl : l = (p ++ a) ++ m :: b := by rw [← hp, hahead, List.append_assoc]
  have hid : m.id ∉ ids (p ++ a) := not_mem_before (hl ▸ hnd)
  have hat : l.ahead (.at m.id) = m :: b := by
    rw [hl, ahead, dropWhile_split hid]
  have hafter : l.ahead (.after m.id) = b := by
    rw [hl, ahead, dropWhile_split hid, List.tail_cons]
  have hlen : (l.ahead cursor).length = a.length + (b.length + 1) := by
    rw [hahead, List.length_append, List.length_cons]
  refine ⟨by simp [hl], hm, by rw [targets, hafter]; exact hb, ?_, ?_⟩
  · rw [hafter, hlen]
    omega
  · rw [hat, hlen, List.length_cons]
    omega

end Roster

namespace Chain

variable {c : Chain} {counts : EventSet → Bool} {shortcut : Link → Option ContextId}
  {start : Option ContextId} {l : Roster}

/-- The links of a roster hold the events of its members. -/
def Informed (c : Chain) (l : Roster) : Prop :=
  ∀ m ∈ l, ∃ k, c.links.find? m.id = some k ∧ k.events = m.events

theorem Linked.informed (h : c.Linked l) : c.Informed l := by
  intro m hm
  rcases List.append_of_mem hm with ⟨a, b, hl⟩
  rcases h.find?_links hl with ⟨k, hk, hbare⟩
  exact ⟨k, hk, congrArg Link.events hbare⟩

theorem Lane.find? (h : Lane c.links counts shortcut start l) (hin : c.Informed l) {a b : Roster}
    {m : Member} (hl : l = a ++ m :: b) :
    ∃ k, c.links.find? m.id = some k ∧ k.events = m.events ∧ shortcut k = first counts b := by
  rcases hin m (by simp [hl]) with ⟨k, hk, hevents⟩
  have hshort := h.shortcut_eq a m b hl
  rw [hk, Option.map_some, Option.some.injEq] at hshort
  exact ⟨k, hk, hevents, hshort⟩

/-- A search begins at the first member ahead of its cursor that counts. -/
theorem begin_eq (h : Lane c.links counts shortcut start l) (hin : c.Informed l)
    (hnd : (ids l).Nodup) (habsent : ∀ id, id ∉ ids l → c.links.find? id = none)
    (cursor : Cursor) :
    c.begin cursor start (fun k => counts k.events) shortcut = first counts (l.ahead cursor) := by
  cases cursor with
  | start => exact h.start_eq
  | after id =>
      -- The shortcut of the context at the cursor leads past it.
      rw [begin, ahead]
      by_cases hid : id ∈ ids l
      · rcases mem_ids.mp hid with ⟨m, hm, rfl⟩
        rcases List.append_of_mem hm with ⟨a, b, rfl⟩
        have ha := not_mem_before hnd
        rcases h.find? hin rfl with ⟨k, hk, -, hshort⟩
        rw [dropWhile_split ha, hk, Option.bind_some, hshort, List.tail_cons]
      · rw [dropWhile_absent hid, habsent id hid, Option.bind_none, List.tail_nil, first_nil]
  | «at» id =>
      -- Here the context at the cursor may itself be the one.
      rw [begin, ahead]
      by_cases hid : id ∈ ids l
      · rcases mem_ids.mp hid with ⟨m, hm, rfl⟩
        rcases List.append_of_mem hm with ⟨a, b, rfl⟩
        have ha := not_mem_before hnd
        rcases h.find? hin rfl with ⟨k, hk, hevents, hshort⟩
        rw [dropWhile_split ha, first_cons, shortcutVia, Option.bind_eq_bind, Option.bind_some, hk,
          Option.bind_eq_bind, Option.bind_some, hevents, hshort]
      · rw [dropWhile_absent hid, shortcutVia, Option.bind_eq_bind, Option.bind_some,
          habsent id hid]
        rfl

/-- Along a lane, a walk finds the first member further on that handles a kind, if all that
    handle the kind count. -/
theorem walk_eq {kind : EventKind} (h : Lane c.links counts shortcut start l)
    (hin : c.Informed l)
    (hcounts : ∀ s : EventSet, s.handles kind = true → counts s = true) :
    ∀ (b : Roster) (steps : Nat), b <:+ l → b.length ≤ steps →
      c.walk shortcut kind steps (first counts b) = first (·.handles kind) b := by
  intro b
  induction b with
  | nil =>
      intro steps _ _
      cases steps with
      | zero => rfl
      | succ n => rfl
  | cons m b ih =>
      intro steps hsuffix hsteps
      have hb : b <:+ l := (List.suffix_cons m b).trans hsuffix
      rw [List.length_cons] at hsteps
      rw [first_cons, first_cons]
      -- The walk stands at `m` if `m` counts, and otherwise beyond it already.
      by_cases hm : counts m.events = true
      · rw [if_pos hm]
        rcases hsuffix with ⟨a, hl⟩
        rcases h.find? hin hl.symm with ⟨k, hk, hevents, hshort⟩
        cases steps with
        | zero => omega
        | succ n => simp only [walk, hk, hevents, hshort, ih n hb (by omega)]
      · -- A member that does not count does not handle the kind either.
        have hskip : ¬ m.events.handles kind = true := fun hh => hm (hcounts _ hh)
        rw [if_neg hm, if_neg hskip]
        exact ih steps hb (by omega)

/-- A search along a lane is a scan of what lies ahead of its cursor. -/
theorem search_lane {kind : EventKind} (h : Lane c.links counts shortcut start l)
    (hin : c.Informed l) (hnd : (ids l).Nodup)
    (habsent : ∀ id, id ∉ ids l → c.links.find? id = none) (hlen : l.length ≤ c.length)
    (hcounts : ∀ s : EventSet, s.handles kind = true → counts s = true) (cursor : Cursor) :
    c.walk shortcut kind c.length (c.begin cursor start (fun k => counts k.events) shortcut) =
      l.scan cursor kind := by
  have hahead : (l.ahead cursor).length ≤ c.length :=
    Nat.le_trans (ahead_suffix l cursor).length_le hlen
  rw [begin_eq h hin hnd habsent]
  exact walk_eq h hin hcounts _ _ (ahead_suffix l cursor) hahead

theorem Holds.findInbound_eq (h : c.Holds l) {kind : EventKind} (hkind : kind.isInbound = true)
    (cursor : Cursor) : c.findInbound cursor kind = l.scan cursor kind :=
  search_lane h.inbound h.linked.informed h.linked.ids_nodup
    (fun _ hid => h.linked.find?_eq_none hid) (Nat.le_of_eq h.linked.length_eq.symm)
    (fun _ hh => EventSet.isInbound_of_handles hkind hh) cursor

theorem Holds.findOutbound_eq (h : c.Holds l) {kind : EventKind}
    (hkind : kind.isInbound = false) (cursor : Cursor) :
    c.findOutbound cursor kind = Roster.scan l.reverse cursor kind := by
  have hin : c.Informed l.reverse := fun m hm => h.linked.informed m (List.mem_reverse.mp hm)
  have habsent : ∀ id, id ∉ ids l.reverse → c.links.find? id = none := by
    intro id hid
    rw [ids_reverse, List.mem_reverse] at hid
    exact h.linked.find?_eq_none hid
  have hlen : l.reverse.length ≤ c.length := by
    rw [List.length_reverse]
    exact Nat.le_of_eq h.linked.length_eq.symm
  exact search_lane h.outbound hin (ids_nodup_reverse.mpr h.linked.ids_nodup) habsent hlen
    (fun _ hh => EventSet.isOutbound_of_handles hkind hh) cursor

/-- A context that is not linked leads nowhere. -/
theorem begin_absent {id : ContextId} (hid : c.links.find? id = none) {cursor : Cursor}
    (hcursor : cursor = .after id ∨ cursor = .at id) (count : Link → Bool) :
    c.begin cursor start count shortcut = none := by
  rcases hcursor with rfl | rfl
  · rw [begin, hid, Option.bind_none]
  · rw [begin, shortcutVia, Option.bind_eq_bind, Option.bind_some, hid]
    rfl

theorem walk_none (c : Chain) (onwards : Link → Option ContextId) (kind : EventKind)
    (steps : Nat) : c.walk onwards kind steps none = none := by
  cases steps with
  | zero => rfl
  | succ n => rfl

/-! ### After any history -/

/-- After any history, every shortcut of a chain leads where it should, and looking for the
    target of an event finds what a scan of the roster finds: from the head on for a kind
    that is inbound, from the tail on for any other, and nothing for a cursor at a context
    that is not linked. -/
theorem search_eq_scan (es : List Edit) (hes : Edit.FreshRun [] es) (cursor : Cursor)
    (kind : EventKind) :
    let c := (Edit.run Chain.edit {} es).1
    let l := (Edit.run Roster.edit [] es).1
    c.Lists l ∧ c.InboundLane l ∧ c.OutboundLane l ∧
    (kind.isInbound = true → c.findInbound cursor kind = l.scan cursor kind) ∧
    (kind.isInbound = false → c.findOutbound cursor kind = Roster.scan l.reverse cursor kind) ∧
    (∀ id, id ∉ ids l → cursor = .after id ∨ cursor = .at id →
      c.findInbound cursor kind = none ∧ c.findOutbound cursor kind = none) := by
  intro c l
  have h : c.Holds l := (run_agrees es {} [] empty_holds hes).1
  refine ⟨h.linked.lists, h.inbound, h.outbound, fun hkind => h.findInbound_eq hkind cursor,
    fun hkind => h.findOutbound_eq hkind cursor, ?_⟩
  intro id hid hcursor
  have habsent := h.linked.find?_eq_none hid
  constructor
  · rw [findInbound, begin_absent habsent hcursor, walk_none]
  · rw [findOutbound, begin_absent habsent hcursor, walk_none]

/-- Three contexts, the one in the middle first inbound and then, in its own place,
    outbound. -/
def sampleTurn : List Edit :=
  [.insert ⟨0, "a", .ofList [.channelActive, .flush]⟩ .first,
    .insert ⟨1, "b", .ofList [.channelActive]⟩ .last,
    .insert ⟨2, "c", .ofList [.messageUpdated, .close]⟩ .last,
    .replace 1 ⟨3, "b", .ofList [.close]⟩]

theorem search_eq_scan_sampleTurn :
    Edit.FreshRun [] sampleTurn ∧
    (Edit.run Chain.edit {} sampleTurn).1.findInbound (.after 0) .messageUpdated = some 2 ∧
    (Edit.run Chain.edit {} sampleTurn).1.findOutbound (.after 2) .close = some 3 ∧
    (Edit.run Chain.edit {} sampleTurn).1.findOutbound (.at 1) .close = none := by
  have hfresh : Edit.FreshRun [] sampleTurn := by decide
  have hin := (search_eq_scan sampleTurn hfresh (.after 0) .messageUpdated).2.2.2.1 rfl
  have hout := (search_eq_scan sampleTurn hfresh (.after 2) .close).2.2.2.2.1 rfl
  have hgone := (search_eq_scan sampleTurn hfresh (.at 1) .close).2.2.2.2.2 1 (by decide)
    (Or.inr rfl)
  refine ⟨hfresh, hin.trans ?_, hout.trans ?_, hgone.2⟩
  · decide
  · decide

end Chain

end Conduit
