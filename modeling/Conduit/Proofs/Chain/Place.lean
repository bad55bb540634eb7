import Conduit.Proofs.Chain.Shortcut

/-!
# A Context in Its Place

The three operations on a chain come down to one. Linking a context places it in
an empty gap; replacing one takes a link out, which leaves a gap, and places the
other; unlinking takes a link out and closes the gap. So what placing does to the
links and to the lanes is most of what there is to say about any of them.

A direction that the placed context has nothing to do with need not be built
anew. That is sound because all links, names and ends are settled before the new
link takes its shortcut from its neighbour, and because the neighbour has a right
one: nobody of that direction has come or gone.

## Main definitions

* `Chain.laid`: A chain with a new link, before that has its shortcuts.

## Theorems

* `place_eq`: Placing is laying a link and then giving it its shortcuts.
* `laid_linked`: A link that is laid is linked where it was put.
* `find?_laid`, `find?_place`: The shortcuts of the others are left alone.
* `find?_place_self`: The shortcuts that a placed link gets.
* `place_linked`: A placed context is linked where it was put.
* `place_inbound`, `place_outbound`: The lanes that it is not in are still right.
-/

namespace Conduit

open Roster

namespace Chain

variable {c : Chain} {a b : Roster} {m : Member}

/-- The chain with a new link between two parts, before the link has its shortcuts. -/
def laid (c : Chain) (m : Member) (prev next : Option ContextId) : Chain :=
  { c with
    names := c.names.insert m.name m.id
    links := c.links.insert m.id (m.between prev next) }.splice m.id prev next

theorem place_eq (c : Chain) (m : Member) (prev next : Option ContextId) :
    c.place m.id m.name m.events prev next =
      (c.laid m prev next).linkShortcuts m.id prev next := rfl

theorem laid_linked (h : Gap c a [] b) (hid : m.id ∉ ids (a ++ b))
    (hname : m.name ∉ Roster.names (a ++ b)) :
    (c.laid m (ids a).getLast? (ids b).head?).Linked (a ++ m :: b) := by
  -- Splicing bridges a gap that holds the new link and nothing else.
  have hbridge := (h.fill hid hname).bridge
  have hnext : (ids ([m] ++ b)).head? = some m.id := by simp
  have hprev : (ids (a ++ [m])).getLast? = some m.id := by simp
  rw [hnext, hprev] at hbridge
  exact hbridge

/-- Laying a link leaves the shortcuts of the others alone. -/
theorem find?_laid {β : Type} {f : Link → β}
    (hf : ∀ k next prev, f { k with next := next, prev := prev } = f k) {id : ContextId}
    (hne : m.id ≠ id) (prev next : Option ContextId) :
    ((c.laid m prev next).links.find? id).map f = (c.links.find? id).map f := by
  rw [laid, splice, find?_bridge, Dict.find?_insert, if_neg hne, Option.map_map]
  congr 1
  funext k
  exact hf k _ _

theorem place_linked (h : Gap c a [] b) (hid : m.id ∉ ids (a ++ b))
    (hname : m.name ∉ Roster.names (a ++ b)) :
    (c.place m.id m.name m.events (ids a).getLast? (ids b).head?).Linked (a ++ m :: b) := by
  rw [place_eq]
  -- After the splice only shortcuts are stored.
  refine linked_of_bare (laid_linked h hid hname) (Dict.keys_modify _ _ _) ?_
  intro id
  rw [Dict.find?_modify]
  by_cases he : m.id = id
  · rw [if_pos he, Option.map_map]
    rfl
  · rw [if_neg he]

/-- Placing a link leaves the shortcuts of the others alone. -/
theorem find?_place {β : Type} {f : Link → β}
    (hf : ∀ k next prev, f { k with next := next, prev := prev } = f k) {id : ContextId}
    (hne : m.id ≠ id) (prev next : Option ContextId) :
    ((c.place m.id m.name m.events prev next).links.find? id).map f =
      (c.links.find? id).map f := by
  rw [place_eq, linkShortcuts, updateLink, Dict.find?_modify, if_neg hne]
  exact find?_laid hf hne prev next

/-- The shortcuts that a placed link gets are those that its neighbours know. -/
theorem find?_place_self (h : Gap c a [] b) (hid : m.id ∉ ids (a ++ b))
    (hname : m.name ∉ Roster.names (a ++ b)) :
    ∃ k, (c.place m.id m.name m.events (ids a).getLast? (ids b).head?).links.find? m.id = some k ∧
      k.nextInbound = (c.laid m (ids a).getLast? (ids b).head?).shortcutVia (ids b).head?
        (·.events.isInbound) (·.nextInbound) ∧
      k.nextOutbound = (c.laid m (ids a).getLast? (ids b).head?).shortcutVia (ids a).getLast?
        (·.events.isOutbound) (·.nextOutbound) := by
  rcases (laid_linked h hid hname).find?_links rfl with ⟨k, hk, -⟩
  refine ⟨{ k with nextInbound := _, nextOutbound := _ }, ?_, rfl, rfl⟩
  rw [place_eq, linkShortcuts, updateLink, Dict.find?_modify, if_pos rfl, hk, Option.map_some]
  rfl

/-- A placed context that is not inbound leaves the inbound lane right. -/
theorem place_inbound (h : Gap c a [] b) (hid : m.id ∉ ids (a ++ b))
    (hname : m.name ∉ Roster.names (a ++ b)) (hm : m.events.isInbound = false)
    (hlane : Lane c.links EventSet.isInbound Link.nextInbound c.inboundHead (a ++ b)) :
    (c.place m.id m.name m.events (ids a).getLast? (ids b).head?).InboundLane (a ++ m :: b) := by
  have hne : ∀ x ∈ a ++ b, m.id ≠ x.id := fun x hx he => hid (mem_ids.mpr ⟨x, hx, he.symm⟩)
  have hhead : (c.place m.id m.name m.events (ids a).getLast? (ids b).head?).inboundHead =
      c.inboundHead := by
    cases (ids a).getLast? <;> cases (ids b).head? <;> rfl
  rw [InboundLane, hhead]
  refine hlane.lay hm ?_ fun x hx => find?_place (fun _ _ _ => rfl) (hne x hx) _ _
  rcases find?_place_self h hid hname with ⟨k, hk, hin, -⟩
  rw [hk, Option.map_some, hin]
  congr 1
  refine shortcutVia_eq fun y t hb => ?_
  -- The neighbour is the first of `b`, and the lane was right for it.
  have hlinked := laid_linked h hid hname
  rcases hlinked.find?_links (a := a ++ [m]) (b := t) (m := y) (by simp [hb]) with
    ⟨k', hk', hbare⟩
  have hshort := hlane.shortcut_eq a y t (by rw [hb])
  rw [← find?_laid (fun _ _ _ => rfl) (hne y (by simp [hb])) (ids a).getLast? (ids b).head?, hk',
    Option.map_some, Option.some.injEq] at hshort
  exact ⟨k', hk', congrArg Link.events hbare, hshort⟩

/-- A placed context that is not outbound leaves the outbound lane right. -/
theorem place_outbound (h : Gap c a [] b) (hid : m.id ∉ ids (a ++ b))
    (hname : m.name ∉ Roster.names (a ++ b)) (hm : m.events.isOutbound = false)
    (hlane : Lane c.links EventSet.isOutbound Link.nextOutbound c.outboundHead
      (a ++ b).reverse) :
    (c.place m.id m.name m.events (ids a).getLast? (ids b).head?).OutboundLane (a ++ m :: b) := by
  have hne : ∀ x ∈ a ++ b, m.id ≠ x.id := fun x hx he => hid (mem_ids.mpr ⟨x, hx, he.symm⟩)
  have hhead : (c.place m.id m.name m.events (ids a).getLast? (ids b).head?).outboundHead =
      c.outboundHead := by
    cases (ids a).getLast? <;> cases (ids b).head? <;> rfl
  -- In the order of travel the new member comes after `b`.
  have hrev : (a ++ m :: b).reverse = b.reverse ++ m :: a.reverse := by simp
  rw [List.reverse_append] at hlane
  rw [OutboundLane, hhead, hrev]
  refine hlane.lay hm ?_ fun x hx => find?_place (fun _ _ _ => rfl) (hne x ?_) _ _
  · rcases find?_place_self h hid hname with ⟨k, hk, -, hout⟩
    have hprev : (ids a).getLast? = (ids a.reverse).head? := by
      rw [ids_reverse, List.head?_reverse]
    rw [hk, Option.map_some, hout]
    congr 1
    rw [hprev]
    refine shortcutVia_eq fun y t ha => ?_
    -- The neighbour is the last of `a`, and the lane was right for it.
    have ha' : a = t.reverse ++ [y] := by
      have := congrArg List.reverse ha
      simpa using this
    have hlinked := laid_linked h hid hname
    rcases hlinked.find?_links (a := t.reverse) (b := m :: b) (m := y) (by simp [ha']) with
      ⟨k', hk', hbare⟩
    have hshort := hlane.shortcut_eq b.reverse y t (by rw [ha])
    rw [← find?_laid (fun _ _ _ => rfl) (hne y (by simp [ha'])) (ids a).getLast? (ids b).head?,
      hk', Option.map_some, Option.some.injEq] at hshort
    rw [← hprev]
    exact ⟨k', hk', congrArg Link.events hbare, hshort⟩
  · rw [List.mem_append, List.mem_reverse, List.mem_reverse] at hx
    exact List.mem_append.mpr hx.symm

end Chain

end Conduit
