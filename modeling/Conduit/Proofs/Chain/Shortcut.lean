import Conduit.Proofs.Chain.Linked

/-!
# Shortcuts

When the shortcuts of a chain lead where they should. Both directions are treated
as one. An event travels along the roster or along its reverse; some members
count for its direction and some do not; and the shortcut of a link leads to the
first member that counts among those further on. `Lane` says this of a roster in
the order of travel, so the inbound lane of a chain is about its roster and the
outbound lane about the reverse.

A lane is kept up in two ways. Where a member that counts has come or gone, the
whole lane is built anew: `sweep` walks the roster backwards and carries along
the member it met last. Where only members that do not count have come or gone,
nothing is built, and the lane is right for a different reason: such a member is
no target, so no shortcut led to it and none should. Only its own shortcut has to
be found, and its neighbour has it.

## Main definitions

* `Chain.Lane`: The shortcuts of one direction lead where they should.
* `Chain.Holds`: A chain is linked as a roster and both of its lanes are right.

## Theorems

* `first_nil`, `first_cons`, `first_append`, `first_skip`: The first member that counts.
* `sweep_frame`, `keys_sweep`: A sweep stores shortcuts and nothing else.
* `sweep_spec`: What a sweep finds and what it stores.
* `linked_of_bare`: Shortcuts make no difference to how a chain is linked.
* `Lane.congr`: A lane is about shortcuts only.
* `lane_of_sweep`: The lane that a sweep against its direction leaves.
* `Linked.leadsThrough_prev`, `Linked.leadsThrough_next`: Where links lead in both directions.
* `find?_rebuildInbound`, `find?_rebuildOutbound`, `rebuildInbound_linked`,
  `rebuildOutbound_linked`, `rebuildInbound_lane`, `rebuildOutbound_lane`: What building one
  lane anew does, and what it leaves alone.
* `Lane.erase`, `Lane.lay`: Members that do not count come and go unnoticed.
* `shortcutVia_eq`: A neighbour knows the way.
* `refresh_holds`: Building the lanes that were touched makes both right.
-/

namespace Conduit

open Roster

namespace Roster

variable {counts : EventSet → Bool}

@[simp] theorem first_nil : first counts [] = none := rfl

theorem first_cons (m : Member) (l : Roster) :
    first counts (m :: l) = if counts m.events then some m.id else first counts l := by
  rw [first, List.find?_cons]
  cases h : counts m.events with
  | true => rfl
  | false => rfl

theorem first_append (a b : Roster) :
    first counts (a ++ b) = (first counts a).or (first counts b) := by
  induction a with
  | nil => rfl
  | cons m a ih =>
      rw [List.cons_append, first_cons, first_cons, ih]
      by_cases hm : counts m.events = true
      · rw [if_pos hm, if_pos hm, Option.some_or]
      · rw [if_neg hm, if_neg hm]

/-- A member that does not count makes no difference to those before it. -/
theorem first_skip {m : Member} (hm : counts m.events = false) (a b : Roster) :
    first counts (a ++ m :: b) = first counts (a ++ b) := by
  rw [first_append, first_append, first_cons, if_neg (by simp [hm])]

end Roster

namespace Chain

/-- The shortcuts of one direction lead where they should: each to the first member that
    counts among those further on in `l`, which is the roster in the order of travel, and
    `start` to the first of all. -/
structure Lane (links : Dict ContextId Link) (counts : EventSet → Bool)
    (shortcut : Link → Option ContextId) (start : Option ContextId) (l : Roster) : Prop where
  start_eq : start = first counts l
  shortcut_eq : ∀ a m b, l = a ++ m :: b →
    (links.find? m.id).map shortcut = some (first counts b)

/-- The inbound shortcuts of a chain lead where they should. -/
def InboundLane (c : Chain) (l : Roster) : Prop :=
  Lane c.links EventSet.isInbound Link.nextInbound c.inboundHead l

/-- The outbound shortcuts of a chain lead where they should. -/
def OutboundLane (c : Chain) (l : Roster) : Prop :=
  Lane c.links EventSet.isOutbound Link.nextOutbound c.outboundHead l.reverse

/-- A chain is linked as a roster, and its shortcuts lead where they should. -/
structure Holds (c : Chain) (l : Roster) : Prop where
  linked : c.Linked l
  inbound : c.InboundLane l
  outbound : c.OutboundLane l

/-! ### Sweeping -/

section Sweep

variable {back : Link → Option ContextId} {store : Option ContextId → Link → Link}

/-- A sweep only stores shortcuts, so whatever does not look at them sees no difference. -/
theorem sweep_frame {β : Type} {counts : Link → Bool} {f : Link → β}
    (hf : ∀ s k, f (store s k) = f k) (other : ContextId) :
    ∀ (steps : Nat) (links : Dict ContextId Link) (id found : Option ContextId),
      ((sweep back counts store steps links id found).1.find? other).map f =
        (links.find? other).map f := by
  intro steps
  induction steps with
  | zero => intro links id found; rfl
  | succ n ih =>
      intro links id found
      cases id with
      | none => rfl
      | some i =>
          rw [sweep]
          cases hk : links.find? i with
          | none => rfl
          | some k =>
              simp only []
              rw [ih, Dict.find?_modify]
              -- A step stores into one link, and the rest of the sweep is the induction's.
              by_cases hi : i = other
              · rw [if_pos hi, Option.map_map]
                congr 1
                exact funext fun k => hf found k
              · rw [if_neg hi]

theorem keys_sweep {counts : Link → Bool} :
    ∀ (steps : Nat) (links : Dict ContextId Link) (id found : Option ContextId),
      (sweep back counts store steps links id found).1.keys = links.keys := by
  intro steps
  induction steps with
  | zero => intro links id found; rfl
  | succ n ih =>
      intro links id found
      cases id with
      | none => rfl
      | some i =>
          rw [sweep]
          cases hk : links.find? i with
          | none => rfl
          | some k => simp only [ih, Dict.keys_modify]

/-- The links lead through a roster, which is the order of a sweep. -/
def LeadsThrough (links : Dict ContextId Link) (back : Link → Option ContextId) (r : Roster) :
    Prop :=
  ∀ p m s, r = p ++ m :: s → ∃ k, links.find? m.id = some k ∧ k.events = m.events ∧
    back k = (ids s).head?

variable (store) in
/-- A sweep stores in the link of each member the nearest one that counts among those that
    it passed before, and ends with the nearest one of all. -/
theorem sweep_spec {counts : EventSet → Bool} (r : Roster) :
    ∀ (steps : Nat) (links : Dict ContextId Link) (found : Option ContextId),
      (ids r).Nodup → r.length ≤ steps → LeadsThrough links back r →
      let swept := sweep back (fun k => counts k.events) store steps links (ids r).head? found
      swept.2 = (first counts r.reverse).or found ∧
      (∀ id, id ∉ ids r → swept.1.find? id = links.find? id) ∧
      ∀ p m s, r = p ++ m :: s → swept.1.find? m.id =
        (links.find? m.id).map (store ((first counts p.reverse).or found)) := by
  induction r with
  | nil =>
      intro steps links found _ _ _ swept
      have hstop : swept = (links, found) := by
        cases steps with
        | zero => rfl
        | succ n => rfl
      rw [hstop]
      refine ⟨rfl, fun _ _ => rfl, ?_⟩
      intro p m s h
      simp at h
  | cons x r ih =>
      intro steps links found hnd hsteps hlead
      cases steps with
      | zero => simp at hsteps
      | succ n =>
          rcases hlead [] x r rfl with ⟨k, hk, hev, hback⟩
          rcases List.nodup_cons.mp hnd with ⟨hx, hnd'⟩
          -- The links further on are untouched by what is stored for `x`.
          have hlead' : LeadsThrough (links.modify x.id (store found)) back r := by
            intro p m s h
            rcases hlead (x :: p) m s (by rw [h]; rfl) with ⟨k', hk', hrest⟩
            have hne : x.id ≠ m.id := fun he => hx (by simp [h, he])
            exact ⟨k', by rw [Dict.find?_modify, if_neg hne, hk'], hrest⟩
          have hlen : r.length ≤ n := by simpa using hsteps
          rcases ih n (links.modify x.id (store found))
            (if counts x.events then some x.id else found) hnd' hlen hlead' with
            ⟨hfound, hother, hstored⟩
          have hstep : sweep back (fun k => counts k.events) store (n + 1) links
              (ids (x :: r)).head? found =
              sweep back (fun k => counts k.events) store n (links.modify x.id (store found))
                (ids r).head? (if counts x.events then some x.id else found) := by
            simp only [ids_cons, List.head?_cons, sweep, hk, hev, hback]
          -- What is carried on past `x` is `x` itself, if it counts.
          have hor : ∀ o : Option ContextId,
              o.or (if counts x.events then some x.id else found) =
                (o.or (first counts [x])).or found := by
            intro o
            rw [first_cons, first_nil, Option.or_assoc]
            by_cases hc : counts x.events = true
            · rw [if_pos hc, if_pos hc, Option.some_or]
            · rw [if_neg hc, if_neg hc, Option.none_or]
          rw [hstep]
          refine ⟨?_, ?_, ?_⟩
          · rw [hfound, hor, List.reverse_cons, first_append]
          · intro id hid
            rw [ids_cons, List.mem_cons, not_or] at hid
            rw [hother id hid.2, Dict.find?_modify, if_neg (fun he => hid.1 he.symm)]
          · intro p m s h
            -- Either the cut is at `x`, which is not met again, or further on.
            cases p with
            | nil =>
                rw [List.nil_append, List.cons.injEq] at h
                rcases h with ⟨rfl, rfl⟩
                rw [hother x.id hx, Dict.find?_modify, if_pos rfl]
                rfl
            | cons y p =>
                rw [List.cons_append, List.cons.injEq] at h
                rcases h with ⟨rfl, rfl⟩
                have hne : x.id ≠ m.id := fun he => hx (by simp [he])
                rw [hstored p m s rfl, Dict.find?_modify, if_neg hne, hor, List.reverse_cons,
                  first_append]

end Sweep

/-! ### Building a lane anew -/

theorem linked_of_bare {c : Chain} {l : Roster} (h : c.Linked l) {links : Dict ContextId Link}
    {inboundHead outboundHead : Option ContextId} (hkeys : links.keys = c.links.keys)
    (hbare : ∀ id, (links.find? id).map Link.bare = (c.links.find? id).map Link.bare) :
    Linked { c with links, inboundHead, outboundHead } l where
  ids_nodup := h.ids_nodup
  names_nodup := h.names_nodup
  keys := hkeys ▸ h.keys
  named := h.named
  head := h.head
  tail := h.tail
  seat := fun a m b hl => (hbare m.id).trans (h.seat a m b hl)

/-- A lane is about shortcuts only. -/
theorem Lane.congr {links links' : Dict ContextId Link} {counts : EventSet → Bool}
    {shortcut : Link → Option ContextId} {start : Option ContextId} {l : Roster}
    (h : Lane links counts shortcut start l)
    (hsame : ∀ id, (links'.find? id).map shortcut = (links.find? id).map shortcut) :
    Lane links' counts shortcut start l :=
  ⟨h.start_eq, fun a m b hl => (hsame m.id).trans (h.shortcut_eq a m b hl)⟩

/-- The lane that a sweep against its direction leaves. -/
theorem lane_of_sweep {links : Dict ContextId Link} {counts : EventSet → Bool}
    {shortcut back : Link → Option ContextId} {store : Option ContextId → Link → Link}
    (hstore : ∀ s k, shortcut (store s k) = s) {l : Roster} {steps : Nat}
    (hnd : (ids l.reverse).Nodup) (hsteps : l.reverse.length ≤ steps)
    (hlead : LeadsThrough links back l.reverse) :
    let swept := sweep back (fun k => counts k.events) store steps links (ids l.reverse).head? none
    Lane swept.1 counts shortcut swept.2 l := by
  intro swept
  rcases sweep_spec store l.reverse steps links none hnd hsteps hlead with
    ⟨hfound, -, hstored⟩
  refine ⟨?_, ?_⟩
  · rw [hfound, List.reverse_reverse, Option.or_none]
  · -- What the sweep has passed before `m` is what lies beyond `m` for a traveller.
    intro a m b hl
    have hcut : l.reverse = b.reverse ++ m :: a.reverse := by simp [hl]
    rcases hlead _ m _ hcut with ⟨k, hk, -⟩
    rw [hstored _ m _ hcut, hk, Option.map_some, Option.map_some, hstore, List.reverse_reverse,
      Option.or_none]

/-- From the tail, previous links lead through the reverse of a roster. -/
theorem Linked.leadsThrough_prev {c : Chain} {l : Roster} (h : c.Linked l) :
    LeadsThrough c.links Link.prev l.reverse := by
  intro p m s hcut
  -- A cut of the reverse is a cut of the roster, read the other way.
  have hl : l = s.reverse ++ m :: p.reverse := by
    have := congrArg List.reverse hcut
    simpa using this
  rcases h.find?_links hl with ⟨k, hk, hbare⟩
  refine ⟨k, hk, congrArg Link.events hbare, ?_⟩
  have hprev : k.prev = (ids s.reverse).getLast? := congrArg Link.prev hbare
  rw [hprev, ids_reverse, List.getLast?_reverse]

/-- From the head, next links lead through a roster. -/
theorem Linked.leadsThrough_next {c : Chain} {l : Roster} (h : c.Linked l) :
    LeadsThrough c.links Link.next l := by
  intro p m s hl
  rcases h.find?_links hl with ⟨k, hk, hbare⟩
  exact ⟨k, hk, congrArg Link.events hbare, congrArg Link.next hbare⟩

theorem find?_rebuildInbound {β : Type} {f : Link → β}
    (hf : ∀ s k, f { k with nextInbound := s } = f k) (c : Chain) (id : ContextId) :
    (c.rebuildInbound.links.find? id).map f = (c.links.find? id).map f :=
  sweep_frame hf id _ _ _ _

theorem find?_rebuildOutbound {β : Type} {f : Link → β}
    (hf : ∀ s k, f { k with nextOutbound := s } = f k) (c : Chain) (id : ContextId) :
    (c.rebuildOutbound.links.find? id).map f = (c.links.find? id).map f :=
  sweep_frame hf id _ _ _ _

theorem rebuildInbound_linked {c : Chain} {l : Roster} (h : c.Linked l) :
    c.rebuildInbound.Linked l :=
  linked_of_bare h (keys_sweep _ _ _ _) (find?_rebuildInbound (fun _ _ => rfl) c)

theorem rebuildOutbound_linked {c : Chain} {l : Roster} (h : c.Linked l) :
    c.rebuildOutbound.Linked l :=
  linked_of_bare h (keys_sweep _ _ _ _) (find?_rebuildOutbound (fun _ _ => rfl) c)

theorem rebuildInbound_lane {c : Chain} {l : Roster} (h : c.Linked l) :
    c.rebuildInbound.InboundLane l := by
  have hsteps : l.reverse.length ≤ c.length :=
    Nat.le_of_eq (List.length_reverse.trans h.length_eq.symm)
  have htail : c.tail = (ids l.reverse).head? := by
    rw [h.tail, ids_reverse, List.head?_reverse]
  rw [InboundLane, rebuildInbound, htail]
  exact lane_of_sweep (fun _ _ => rfl) (ids_nodup_reverse.mpr h.ids_nodup) hsteps
    h.leadsThrough_prev

theorem rebuildOutbound_lane {c : Chain} {l : Roster} (h : c.Linked l) :
    c.rebuildOutbound.OutboundLane l := by
  -- Outbound travel is in reverse, so the sweep against it follows the roster.
  have hrev : l.reverse.reverse = l := List.reverse_reverse l
  have hsteps : l.reverse.reverse.length ≤ c.length := by
    rw [hrev]
    exact Nat.le_of_eq h.length_eq.symm
  have hhead : c.head = (ids l.reverse.reverse).head? := by
    rw [h.head, hrev]
  have hlead : LeadsThrough c.links Link.next l.reverse.reverse := by
    rw [hrev]
    exact h.leadsThrough_next
  rw [OutboundLane, rebuildOutbound, hhead]
  exact lane_of_sweep (fun _ _ => rfl) (hrev.symm ▸ h.ids_nodup) hsteps hlead

/-! ### Members that do not count -/

section Bystanders

variable {links links' : Dict ContextId Link} {counts : EventSet → Bool}
  {shortcut : Link → Option ContextId} {start : Option ContextId} {a b : Roster} {m : Member}

/-- Without a member that does not count, a lane is what it was. -/
theorem Lane.erase (h : Lane links counts shortcut start (a ++ m :: b))
    (hm : counts m.events = false) (hid : m.id ∉ ids (a ++ b)) :
    Lane (links.erase m.id) counts shortcut start (a ++ b) := by
  have hkeep : ∀ x ∈ a ++ b, (links.erase m.id).find? x.id = links.find? x.id := by
    intro x hx
    rw [Dict.find?_erase, if_neg]
    exact fun he => hid (mem_ids.mpr ⟨x, hx, he.symm⟩)
  refine ⟨h.start_eq.trans (first_skip hm a b), ?_⟩
  intro p x s hsplit
  rw [hkeep x (by simp [hsplit])]
  -- Only those on the near side had the erased member ahead of them.
  rcases append_split hsplit with ⟨a₂, rfl, rfl⟩ | ⟨b₁, rfl, rfl⟩
  · rw [h.shortcut_eq p x (a₂ ++ m :: b) (by simp), first_skip hm]
  · exact h.shortcut_eq (a ++ m :: b₁) x s (by simp)

/-- With a member that does not count, a lane is right if the shortcut of that member
    is. -/
theorem Lane.lay (h : Lane links counts shortcut start (a ++ b))
    (hm : counts m.events = false)
    (hself : (links'.find? m.id).map shortcut = some (first counts b))
    (hother : ∀ x ∈ a ++ b, (links'.find? x.id).map shortcut = (links.find? x.id).map shortcut) :
    Lane links' counts shortcut start (a ++ m :: b) := by
  refine ⟨h.start_eq.trans (first_skip hm a b).symm, ?_⟩
  intro p x s hsplit
  -- Only those on the near side have the new member ahead of them.
  rcases append_split hsplit with ⟨a₂, rfl, rfl⟩ | ⟨b₁, hb, rfl⟩
  · rw [hother x (by simp), h.shortcut_eq p x (a₂ ++ b) (by simp), first_skip hm]
  · cases b₁ with
    | nil =>
        rw [List.nil_append, List.cons.injEq] at hb
        rcases hb with ⟨rfl, rfl⟩
        exact hself
    | cons y b₁ =>
        rw [List.cons_append, List.cons.injEq] at hb
        rcases hb with ⟨rfl, rfl⟩
        rw [hother x (by simp)]
        exact h.shortcut_eq (a ++ b₁) x s (by simp)

/-- A neighbour knows the way: the shortcut to it or past it is the first member that
    counts from there on. -/
theorem shortcutVia_eq {c : Chain}
    (h : ∀ y t, b = y :: t → ∃ k, c.links.find? y.id = some k ∧ k.events = y.events ∧
      shortcut k = first counts t) :
    c.shortcutVia (ids b).head? (fun k => counts k.events) shortcut = first counts b := by
  cases b with
  | nil => rfl
  | cons y t =>
      rcases h y t rfl with ⟨k, hk, hev, hshort⟩
      rw [first_cons]
      simp only [shortcutVia, ids_cons, List.head?_cons, Option.bind_eq_bind, Option.bind_some,
        hk, hev, hshort]

end Bystanders

/-- Building the lanes of the directions that were touched makes both lanes right, if the
    others are. -/
theorem refresh_holds {c : Chain} {l : Roster} {touched : EventSet} (h : c.Linked l)
    (hin : touched.isInbound = false → c.InboundLane l)
    (hout : touched.isOutbound = false → c.OutboundLane l) : (c.refresh touched).Holds l := by
  -- Each direction is right before the other is built, and building leaves the other alone.
  have hinbound : ∀ d : Chain, (d = if touched.isInbound then c.rebuildInbound else c) →
      d.Linked l ∧ d.InboundLane l ∧ (touched.isOutbound = false → d.OutboundLane l) := by
    intro d hd
    by_cases ht : touched.isInbound = true
    · rw [if_pos ht] at hd
      rw [hd]
      refine ⟨rebuildInbound_linked h, rebuildInbound_lane h, fun ho => ?_⟩
      exact (hout ho).congr (find?_rebuildInbound (fun _ _ => rfl) c)
    · rw [if_neg ht] at hd
      rw [hd]
      exact ⟨h, hin (by simpa using ht), hout⟩
  rw [refresh]
  rcases hinbound _ rfl with ⟨hlinked, hlane, hother⟩
  by_cases ht : touched.isOutbound = true
  · rw [if_pos ht]
    refine ⟨rebuildOutbound_linked hlinked, ?_, rebuildOutbound_lane hlinked⟩
    exact hlane.congr (find?_rebuildOutbound (fun _ _ => rfl) _)
  · rw [if_neg ht]
    exact ⟨hlinked, hlane, hother (by simpa using ht)⟩

end Chain

end Conduit
