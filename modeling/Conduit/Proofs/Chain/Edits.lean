import Conduit.Proofs.Chain.Place

/-!
# The Three Operations

Each way to change a chain changes its roster in the way that `Roster.edit` says,
and refuses just what `Roster.edit` refuses. What is left to say for each of the
three is which gap it works on, and which lanes it builds anew: those of the
context that comes and of the one that goes. `refresh_holds` asks of any other
lane that it is right already.

A position is turned into two neighbours by the chain and into an index by the
roster. `neighbours_eq` brings both to a cut.

## Main definitions

* `Chain.cut`: A chain without the link of a member, the gap still open.

## Theorems

* `cut_inbound`, `cut_outbound`: The lanes without a member that is not in them.
* `empty_holds`: A chain without links.
* `insert_holds`, `unlink_holds`, `replace_holds`: The three operations.
* `split_of_findIdx`: The member that a name refers to, and what stands on either side.
* `idOf_eq`, `idOf_eq_error`: What a name leads to.
* `neighbours_eq`: The neighbours at a position.
* `insert_eq`, `replace_taken`: What is refused first.
* `edit_agrees`: A call does to a chain what it does to its roster.
* `edit_refused`: A call that fails changes nothing.
-/

namespace Conduit

open Roster

namespace Chain

variable {c : Chain} {a b l : Roster} {m : Member}

theorem insert_holds (h : c.Holds (a ++ b)) (hid : m.id ∉ ids (a ++ b))
    (hname : m.name ∉ Roster.names (a ++ b)) :
    ((c.place m.id m.name m.events (ids a).getLast? (ids b).head?).refresh m.events).Holds
      (a ++ m :: b) :=
  refresh_holds (place_linked h.linked.gap hid hname)
    (fun hm => place_inbound h.linked.gap hid hname hm h.inbound)
    (fun hm => place_outbound h.linked.gap hid hname hm h.outbound)

/-- The chain without the link of a member, the gap still open. -/
def cut (c : Chain) (m : Member) : Chain :=
  { c with links := c.links.erase m.id, names := c.names.erase m.name }

theorem cut_inbound (h : c.Holds (a ++ m :: b)) (hm : m.events.isInbound = false) :
    (c.cut m).InboundLane (a ++ b) :=
  Lane.erase h.inbound hm (ids_nodup_middle.mp h.linked.ids_nodup).1

theorem cut_outbound (h : c.Holds (a ++ m :: b)) (hm : m.events.isOutbound = false) :
    (c.cut m).OutboundLane (a ++ b) := by
  have hlane := h.outbound
  rw [OutboundLane, List.reverse_append, List.reverse_cons, List.append_assoc,
    List.singleton_append] at hlane
  -- The reverse has the same members.
  have hid : m.id ∉ ids (b.reverse ++ a.reverse) := by
    have := (ids_nodup_middle.mp h.linked.ids_nodup).1
    rw [← List.reverse_append, ids_reverse, List.mem_reverse]
    exact this
  rw [OutboundLane, List.reverse_append]
  exact Lane.erase hlane hm hid

theorem empty_holds : ({} : Chain).Holds [] where
  linked :=
    { ids_nodup := List.nodup_nil
      names_nodup := List.nodup_nil
      keys := List.Perm.refl _
      named := List.Perm.refl _
      head := rfl
      tail := rfl
      seat := fun p m s hl => absurd hl (by simp) }
  inbound := ⟨rfl, fun p m s hl => absurd hl (by simp)⟩
  outbound := ⟨rfl, fun p m s hl => absurd hl (by simp)⟩

theorem unlink_holds (h : c.Holds (a ++ m :: b)) :
    ∃ c', c.unlink m.id = (true, c') ∧ c'.Holds (a ++ b) := by
  rcases h.linked.find?_links rfl with ⟨k, hk, hbare⟩
  have hkname : k.name = m.name := congrArg Link.name hbare
  have hkevents : k.events = m.events := congrArg Link.events hbare
  have hkprev : k.prev = (ids a).getLast? := congrArg Link.prev hbare
  have hknext : k.next = (ids b).head? := congrArg Link.next hbare
  have hunlink : c.unlink m.id = (true,
      if ((c.cut m).close k).isEmpty then {} else ((c.cut m).close k).refresh m.events) := by
    rw [unlink, hk]
    simp only [hkname, hkevents]
    rfl
  -- Unlinking closes the gap that is left, and that is to bridge it.
  have hlinked : ((c.cut m).close k).Linked (a ++ b) := by
    have hbridge := h.linked.gap_erase.bridge
    rw [List.nil_append, List.append_nil] at hbridge
    rw [Chain.close, hkprev, hknext]
    exact hbridge
  -- Closing the gap leaves both lanes starting where they did.
  have hheads : ((c.cut m).close k).inboundHead = c.inboundHead ∧
      ((c.cut m).close k).outboundHead = c.outboundHead := by
    rw [Chain.close]
    cases k.prev <;> cases k.next <;> exact ⟨rfl, rfl⟩
  refine ⟨_, hunlink, ?_⟩
  -- A chain from which the last link is gone is set back to the empty one.
  by_cases hempty : ((c.cut m).close k).isEmpty = true
  · have hnil : a ++ b = [] := by
      have hlen := hlinked.length_eq
      rw [Chain.length, List.isEmpty_iff.mp hempty] at hlen
      exact List.length_eq_zero_iff.mp hlen.symm
    rw [if_pos hempty, hnil]
    exact empty_holds
  · -- Closing the gap has moved pointers, but no shortcut.
    rw [if_neg hempty]
    refine refresh_holds hlinked (fun hm => ?_) (fun hm => ?_)
    · rw [InboundLane, hheads.1]
      refine (cut_inbound h hm).congr fun id => ?_
      rw [Chain.close, find?_bridge, Option.map_map]
      rfl
    · rw [OutboundLane, hheads.2]
      refine (cut_outbound h hm).congr fun id => ?_
      rw [Chain.close, find?_bridge, Option.map_map]
      rfl

theorem replace_holds {x : Member} (h : c.Holds (a ++ x :: b)) (hid : m.id ∉ ids (a ++ b))
    (hname : m.name ∉ Roster.names (a ++ b)) :
    ∃ c', c.replace x.id m.id m.name m.events = (.ok (), c') ∧ c'.Holds (a ++ m :: b) := by
  rcases h.linked.find?_links rfl with ⟨k, hk, hbare⟩
  have hkname : k.name = x.name := congrArg Link.name hbare
  have hkevents : k.events = x.events := congrArg Link.events hbare
  have hkprev : k.prev = (ids a).getLast? := congrArg Link.prev hbare
  have hknext : k.next = (ids b).head? := congrArg Link.next hbare
  -- A name that another context has would be one of `a` or `b`.
  have hfree : ¬ (x.name ≠ m.name ∧ c.names.contains m.name = true) := by
    rintro ⟨hne, htaken⟩
    have hmem := (h.linked.contains_names m.name).mp htaken
    rw [Roster.names_append, Roster.names_cons, List.mem_append, List.mem_cons] at hmem
    rw [Roster.names_append, List.mem_append, not_or] at hname
    rcases hmem with ha | heq | hb
    · exact hname.1 ha
    · exact hne heq.symm
    · exact hname.2 hb
  have hreplace : c.replace x.id m.id m.name m.events =
      (.ok (), ((c.cut x).place m.id m.name m.events (ids a).getLast? (ids b).head?).refresh
        (x.events.union m.events)) := by
    rw [replace, hk]
    simp only [hkname, hkevents, hkprev, hknext]
    rw [if_neg hfree]
    rfl
  have hgap : Gap (c.cut x) a [] b := h.linked.gap_erase
  -- What the two together do not touch, neither of them touches.
  have hboth : ∀ s : EventSet, (x.events.union m.events).intersects s = false →
      x.events.intersects s = false ∧ m.events.intersects s = false := by
    intro s hs
    rw [EventSet.intersects_union, Bool.or_eq_false_iff] at hs
    exact hs
  refine ⟨_, hreplace, refresh_holds (place_linked hgap hid hname) (fun ht => ?_) (fun ht => ?_)⟩
  · rcases hboth _ ht with ⟨hx, hm⟩
    exact place_inbound hgap hid hname hm (cut_inbound h hx)
  · rcases hboth _ ht with ⟨hx, hm⟩
    exact place_outbound hgap hid hname hm (cut_outbound h hx)

/-! ### Where a position lies -/

/-- The member that a name refers to, and what stands on either side of it. -/
theorem split_of_findIdx {base : String} {i : Nat}
    (h : l.findIdx? (·.name == base) = some i) :
    ∃ a x b, l = a ++ x :: b ∧ a.length = i ∧ x.name = base := by
  rcases List.findIdx?_eq_some_iff_getElem.mp h with ⟨hi, hname, -⟩
  refine ⟨l.take i, l[i], l.drop (i + 1), ?_, ?_, by simpa using hname⟩
  · rw [← List.drop_eq_getElem_cons hi, List.take_append_drop]
  · rw [List.length_take, Nat.min_eq_left (Nat.le_of_lt hi)]

theorem idOf_eq (h : c.Linked l) (hm : m ∈ l) : c.idOf m.name = .ok m.id := by
  rw [idOf, h.find?_names hm]

theorem idOf_eq_error (h : c.Linked l) {base : String}
    (hbase : l.findIdx? (·.name == base) = none) :
    c.idOf base = .error (.noSuchElement (.named base)) := by
  have habsent : base ∉ c.names.keys := by
    rw [(keys_of_named h.named).mem_iff]
    intro hmem
    rcases mem_names.mp hmem with ⟨x, hx, rfl⟩
    have := List.findIdx?_eq_none_iff.mp hbase x hx
    simp at this
  rw [idOf, Dict.find?_eq_none_iff.mpr habsent]

/-- The contexts between which a position lies are the last before it and the first after
    it, and looking for them fails just when the position does not exist. -/
theorem neighbours_eq (h : c.Linked l) (position : Position) :
    match slot l position with
    | .ok i => ∃ a b, l = a ++ b ∧ a.length = i ∧
        c.neighbours position = .ok ((ids a).getLast?, (ids b).head?)
    | .error cause => c.neighbours position = .error cause := by
  cases position with
  | first => exact ⟨[], l, rfl, rfl, by rw [neighbours, h.head]; rfl⟩
  | last => exact ⟨l, [], by simp, rfl, by rw [neighbours, h.tail]; rfl⟩
  | before base =>
      rw [slot]
      cases hbase : l.findIdx? (·.name == base) with
      | none =>
          change c.neighbours (.before base) = .error _
          rw [neighbours, idOf_eq_error h hbase]
          rfl
      | some i =>
          -- The gap lies before the member of that name.
          rcases split_of_findIdx hbase with ⟨a, x, b, rfl, hlen, rfl⟩
          rcases h.find?_links rfl with ⟨k, hk, hbare⟩
          have hprev : k.prev = (ids a).getLast? := congrArg Link.prev hbare
          refine ⟨a, x :: b, rfl, hlen, ?_⟩
          rw [neighbours, idOf_eq h (by simp)]
          change Except.ok ((c.links.find? x.id).bind (·.prev), some x.id) = _
          rw [hk, Option.bind_some, hprev]
          rfl
  | after base =>
      rw [slot]
      cases hbase : l.findIdx? (·.name == base) with
      | none =>
          change c.neighbours (.after base) = .error _
          rw [neighbours, idOf_eq_error h hbase]
          rfl
      | some i =>
          -- The gap lies after it, so it ends the part before.
          rcases split_of_findIdx hbase with ⟨a, x, b, rfl, hlen, rfl⟩
          rcases h.find?_links rfl with ⟨k, hk, hbare⟩
          have hnext : k.next = (ids b).head? := congrArg Link.next hbare
          refine ⟨a ++ [x], b, by simp, by simp [hlen], ?_⟩
          rw [neighbours, idOf_eq h (by simp)]
          change Except.ok (some x.id, (c.links.find? x.id).bind (·.next)) = _
          rw [hk, Option.bind_some, hnext, ids_append, List.getLast?_append]
          rfl

/-! ### One call after the other -/

theorem insert_eq (c : Chain) (m : Member) (position : Position) :
    c.insert m.id m.name m.events position =
      if c.names.contains m.name then (.error (.argument (.duplicateName m.name)), c)
      else
        match c.neighbours position with
        | .error cause => (.error cause, c)
        | .ok (prev, next) =>
          (.ok (), (c.place m.id m.name m.events prev next).refresh m.events) := by
  rw [insert, checkInsert]
  by_cases hname : c.names.contains m.name = true
  · rw [if_pos hname, if_pos hname]
    rfl
  · rw [if_neg hname, if_neg hname]
    cases c.neighbours position with
    | error cause => rfl
    | ok sides => rfl

/-- A context cannot be put in the place of another under a name that a third one has. -/
theorem replace_taken {x : Member} (h : c.Linked (a ++ x :: b))
    (hname : m.name ∈ Roster.names (a ++ b)) :
    c.replace x.id m.id m.name m.events = (.error (.argument (.duplicateName m.name)), c) := by
  rcases h.find?_links rfl with ⟨k, hk, hbare⟩
  have hkname : k.name = x.name := congrArg Link.name hbare
  have hne : x.name ≠ m.name := fun he =>
    (names_nodup_middle.mp h.names_nodup).1 (he ▸ hname)
  have hmem : m.name ∈ Roster.names (a ++ x :: b) := by
    rw [Roster.names_append, Roster.names_cons, List.mem_append, List.mem_cons]
    rw [Roster.names_append, List.mem_append] at hname
    exact hname.imp_right Or.inr
  rw [replace, hk]
  simp only [hkname]
  rw [if_pos ⟨hne, (h.contains_names m.name).mpr hmem⟩]

/-- A call does to a chain what it does to its roster, with the same reply. -/
theorem edit_agrees (h : c.Holds l) {e : Edit} (hfresh : e.Fresh l) :
    (c.edit e).1.Holds (l.edit e).1 ∧ (c.edit e).2 = (l.edit e).2 := by
  cases e with
  | insert m position =>
      rw [Chain.edit, Roster.edit, insert_eq]
      -- A name that is taken is refused before a position is looked for.
      by_cases hname : m.name ∈ Roster.names l
      · rw [if_pos ((h.linked.contains_names m.name).mpr hname), if_pos hname]
        exact ⟨h, rfl⟩
      · rw [if_neg (fun ht => hname ((h.linked.contains_names m.name).mp ht)), if_neg hname]
        have hsides := neighbours_eq h.linked position
        cases hslot : slot l position with
        | error cause =>
            rw [hslot] at hsides
            simp only [hsides]
            exact ⟨h, rfl⟩
        | ok i =>
            rw [hslot] at hsides
            rcases hsides with ⟨a, b, rfl, rfl, hsides⟩
            simp only [hsides, insertIdx_append]
            exact ⟨insert_holds h hfresh hname, rfl⟩
  | unlink id =>
      rw [Chain.edit, Roster.edit]
      by_cases hid : id ∈ ids l
      · rcases mem_ids.mp hid with ⟨m, hm, rfl⟩
        -- Cut at the member, unlinking joins the two parts.
        rcases List.append_of_mem hm with ⟨a, b, rfl⟩
        rcases unlink_holds h with ⟨c', hc', hholds⟩
        rw [hc', if_pos hid, filter_split h.linked.ids_nodup]
        exact ⟨hholds, rfl⟩
      · rw [unlink, h.linked.find?_eq_none hid, if_neg hid]
        exact ⟨h, rfl⟩
  | replace old m =>
      rw [Chain.edit, Roster.edit]
      by_cases hold : old ∈ ids l
      · rw [if_neg (by simpa using hold)]
        rcases mem_ids.mp hold with ⟨x, hx, rfl⟩
        rcases List.append_of_mem hx with ⟨a, b, rfl⟩
        rw [filter_split h.linked.ids_nodup]
        by_cases hname : m.name ∈ Roster.names (a ++ b)
        · rw [if_pos hname, replace_taken h.linked hname]
          exact ⟨h, rfl⟩
        · rw [if_neg hname]
          -- The new context is not linked, or it is the one that makes room.
          have hid : m.id ∉ ids (a ++ b) := by
            intro hm
            have hmem : m.id ∈ ids (a ++ x :: b) := by
              rw [ids_append, ids_cons, List.mem_append, List.mem_cons]
              rw [ids_append, List.mem_append] at hm
              exact hm.imp_right Or.inr
            have hsame : m.id = x.id := hfresh hmem
            exact (ids_nodup_middle.mp h.linked.ids_nodup).1 (hsame ▸ hm)
          rcases replace_holds h hid hname with ⟨c', hc', hholds⟩
          rw [hc', map_split h.linked.ids_nodup]
          exact ⟨hholds, rfl⟩
      · rw [if_pos hold, replace, h.linked.find?_eq_none hold]
        exact ⟨h, rfl⟩

/-- A call that fails changes nothing. -/
theorem edit_refused (c : Chain) (e : Edit) (h : (c.edit e).2 ≠ .done) : (c.edit e).1 = c := by
  cases e with
  | insert m position =>
      rw [Chain.edit, insert_eq] at h ⊢
      by_cases hname : c.names.contains m.name = true
      · rw [if_pos hname]
      · rw [if_neg hname] at h ⊢
        cases hsides : c.neighbours position with
        | error cause => rfl
        | ok sides =>
            rw [hsides] at h
            exact absurd rfl h
  | unlink id =>
      rw [Chain.edit, unlink] at h ⊢
      cases hk : c.links.find? id with
      -- Nobody has the number, and a chain that finds nobody is left as it is.
      | none => rfl
      | some k =>
          rw [hk] at h
          exact absurd rfl h
  | replace old m =>
      rw [Chain.edit, replace] at h ⊢
      cases hk : c.links.find? old with
      | none => rfl
      | some k =>
          simp only [hk] at h ⊢
          by_cases htaken : k.name ≠ m.name ∧ c.names.contains m.name = true
          · rw [if_pos htaken]
          · rw [if_neg htaken] at h
            exact absurd rfl h

end Chain

end Conduit
