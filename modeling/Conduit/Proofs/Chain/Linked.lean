import Conduit.Proofs.Chain.Roster

/-!
# Links in Order

When a chain is linked as a roster says. `Linked` names everything but the
shortcuts: which contexts have links, what the links hold of them, where the
links lead in both directions, where the chain begins and ends, and which names
lead where.

The statement about a link speaks of a cut of the roster, `a ++ m :: b`, rather
than of an index. Both neighbours of `m` can be read off a cut, the last of `a`
and the first of `b`, and an operation that changes the roster in one place turns
a cut of the new roster into a cut of the old one.

Linking and unlinking both pass through states in which the two sides of a gap
still point wherever they pointed before. `Gap` is `Linked` with exactly these
pointers left open, and `Gap.bridge` says that setting them is all that is
missing. Unlinking bridges an empty gap, and linking one that holds the new link.

## Main definitions

* `Link.bare`: A link without its shortcuts.
* `Member.between`: The bare link of a member between two neighbours.
* `Chain.seat`: The bare link of a context.
* `Chain.Linked`: A chain is linked as a roster.
* `Chain.Gap`: The same, but for the pointers across a gap.

## Theorems

* `names_bridge`, `keys_bridge`, `head_bridge`, `tail_bridge`, `find?_bridge`,
  `seat_bridge`: What bridging a gap does to each part of a chain.
* `keys_of_named`: The keys among the names of a chain.
* `Gap.near_bridge`, `Gap.far_bridge`, `Gap.within_bridge`: The links on either side of a gap
  and in it.
* `Gap.bridge`: A bridged gap is linked.
* `Gap.fill`: A gap with a new link laid into it.
* `Linked.gap`, `Linked.gap_erase`: Where gaps come from.
* `Linked.find?_names`, `Linked.contains_names`, `Linked.mem_of_idOf`: What names lead to.
* `Linked.find?_links`, `Linked.find?_eq_none`: The link of a member, and of no other.
* `Linked.length_eq`: As many links as members.
-/

namespace Conduit

open Roster

/-- A link without its shortcuts. -/
def Link.bare (k : Link) : Link := { k with nextInbound := none, nextOutbound := none }

/-- The bare link of a member between two neighbours. -/
def Member.between (m : Member) (prev next : Option ContextId) : Link where
  name := m.name
  events := m.events
  prev := prev
  next := next

namespace Chain

/-- The link of a context without its shortcuts, if it has one. -/
def seat (c : Chain) (id : ContextId) : Option Link := (c.links.find? id).map Link.bare

/-- A chain is linked as a roster. -/
structure Linked (c : Chain) (l : Roster) : Prop where
  ids_nodup : (ids l).Nodup
  names_nodup : (Roster.names l).Nodup
  keys : c.links.keys.Perm (ids l)
  named : c.names.Perm (l.map fun m => (m.name, m.id))
  head : c.head = (ids l).head?
  tail : c.tail = (ids l).getLast?
  seat : ∀ a m b, l = a ++ m :: b →
    c.seat m.id = some (m.between (ids a).getLast? (ids b).head?)

/-- A chain is linked as `a ++ mid ++ b`, except that the last of `a` and the head of the
    chain need not lead into the gap before `mid`, nor the first of `b` and the tail of
    the chain into the one after it. -/
structure Gap (c : Chain) (a mid b : Roster) : Prop where
  ids_nodup : (ids (a ++ (mid ++ b))).Nodup
  names_nodup : (Roster.names (a ++ (mid ++ b))).Nodup
  keys : c.links.keys.Perm (ids (a ++ (mid ++ b)))
  named : c.names.Perm ((a ++ (mid ++ b)).map fun m => (m.name, m.id))
  head : a ≠ [] → c.head = (ids a).head?
  tail : b ≠ [] → c.tail = (ids b).getLast?
  near : ∀ p m s, a = p ++ m :: s → ∃ next,
    c.seat m.id = some (m.between (ids p).getLast? next) ∧ (s ≠ [] → next = (ids s).head?)
  within : ∀ p m s, mid = p ++ m :: s →
    c.seat m.id = some (m.between (ids (a ++ p)).getLast? (ids (s ++ b)).head?)
  far : ∀ p m s, b = p ++ m :: s → ∃ prev,
    c.seat m.id = some (m.between prev (ids s).head?) ∧ (p ≠ [] → prev = (ids p).getLast?)

/-! ### The parts that a bridge changes -/

variable {c : Chain} {prev next onwards back : Option ContextId}

@[simp] theorem names_bridge : (c.bridge prev next onwards back).names = c.names := by
  cases prev <;> cases next <;> rfl

@[simp] theorem keys_bridge : (c.bridge prev next onwards back).links.keys = c.links.keys := by
  cases prev <;> cases next <;> simp [bridge, updateLink]

theorem head_bridge :
    (c.bridge prev next onwards back).head = if prev = none then onwards else c.head := by
  cases prev <;> cases next <;> rfl

theorem tail_bridge :
    (c.bridge prev next onwards back).tail = if next = none then back else c.tail := by
  cases prev <;> cases next <;> rfl

/-- What a bridge makes of a link. -/
def bridged (prev next onwards back : Option ContextId) (id : ContextId) (k : Link) : Link :=
  { k with
    next := if prev = some id then onwards else k.next
    prev := if next = some id then back else k.prev }

theorem find?_bridge (id : ContextId) :
    (c.bridge prev next onwards back).links.find? id =
      (c.links.find? id).map (bridged prev next onwards back id) := by
  cases hk : c.links.find? id with
  | none => cases prev <;> cases next <;> simp [bridge, updateLink, Dict.find?_modify, hk]
  | some k =>
      rcases prev with _ | p <;> rcases next with _ | n
      · simp [bridge, bridged, hk]
      · by_cases hn : n = id
        · simp [bridge, updateLink, bridged, Dict.find?_modify, hk, hn]
        · simp [bridge, updateLink, bridged, Dict.find?_modify, hk, hn]
      · by_cases hp : p = id
        · simp [bridge, updateLink, bridged, Dict.find?_modify, hk, hp]
        · simp [bridge, updateLink, bridged, Dict.find?_modify, hk, hp]
      · by_cases hp : p = id <;> by_cases hn : n = id <;>
          simp [bridge, updateLink, bridged, Dict.find?_modify, hk, hp, hn]

theorem seat_bridge (id : ContextId) :
    (c.bridge prev next onwards back).seat id =
      (c.seat id).map (bridged prev next onwards back id) := by
  rw [seat, seat, find?_bridge, Option.map_map, Option.map_map]
  rfl

/-- The keys among the names of a chain are the names of its members. -/
theorem keys_of_named {names : Dict String ContextId} {l : Roster}
    (h : names.Perm (l.map fun m => (m.name, m.id))) : names.keys.Perm (Roster.names l) := by
  have hkeys := h.map (·.1)
  rw [List.map_map] at hkeys
  exact hkeys

/-! ### Closing a gap -/

namespace Gap

variable {a mid b : Roster}

/-- The last of the near side points across the gap, and no other link of that side
    does. -/
theorem near_bridge (h : Gap c a mid b) {p s : Roster} {m : Member} (ha : a = p ++ m :: s) :
    (c.bridge (ids a).getLast? (ids b).head? onwards back).seat m.id =
      some (m.between (ids p).getLast? (if s = [] then onwards else (ids s).head?)) := by
  rcases h.near p m s ha with ⟨next, hseat, hnext⟩
  have hnd : (ids a ++ ids (mid ++ b)).Nodup := by rw [← ids_append]; exact h.ids_nodup
  have hmem : m.id ∈ ids a := by simp [ha]
  -- `m` stands on the near side, so it is not the first of the far one.
  have hback : (ids b).head? ≠ some m.id := by
    intro he
    have hmem' : m.id ∈ ids (mid ++ b) := by
      rw [ids_append]
      exact List.mem_append_right _ (List.mem_of_head? he)
    exact (List.nodup_append.mp hnd).2.2 _ hmem _ hmem' rfl
  -- Its pointer is moved just when nothing stands between it and the gap.
  have hlast : (ids a).getLast? = some m.id ↔ s = [] := by
    have hnda := (List.nodup_append.mp hnd).1
    rw [ha] at hnda ⊢
    exact getLast?_split hnda
  rw [seat_bridge, hseat, Option.map_some, bridged, if_neg hback]
  by_cases hs : s = []
  · rw [if_pos (hlast.mpr hs), if_pos hs]
    rfl
  · rw [if_neg (fun he => hs (hlast.mp he)), if_neg hs, ← hnext hs]

/-- The first of the far side points back across the gap, and no other link of that side
    does. -/
theorem far_bridge (h : Gap c a mid b) {p s : Roster} {m : Member} (hb : b = p ++ m :: s) :
    (c.bridge (ids a).getLast? (ids b).head? onwards back).seat m.id =
      some (m.between (if p = [] then back else (ids p).getLast?) (ids s).head?) := by
  rcases h.far p m s hb with ⟨prev, hseat, hprev⟩
  have hnd : (ids (a ++ mid) ++ ids b).Nodup := by
    rw [← ids_append, List.append_assoc]; exact h.ids_nodup
  have hmem : m.id ∈ ids b := by simp [hb]
  -- `m` stands on the far side, so it is not the last of the near one.
  have honwards : (ids a).getLast? ≠ some m.id := by
    intro he
    have hmem' : m.id ∈ ids (a ++ mid) := by
      rw [ids_append]
      exact List.mem_append_left _ (List.mem_of_getLast? he)
    exact (List.nodup_append.mp hnd).2.2 _ hmem' _ hmem rfl
  -- Its pointer is moved just when nothing stands between the gap and it.
  have hfirst : (ids b).head? = some m.id ↔ p = [] := by
    have hndb := (List.nodup_append.mp hnd).2.1
    rw [hb] at hndb ⊢
    exact head?_split hndb
  rw [seat_bridge, hseat, Option.map_some, bridged, if_neg honwards]
  by_cases hp : p = []
  · rw [if_pos (hfirst.mpr hp), if_pos hp]
    rfl
  · rw [if_neg (fun he => hp (hfirst.mp he)), if_neg hp, ← hprev hp]

/-- What lies in the gap is not touched. -/
theorem within_bridge (h : Gap c a mid b) {p s : Roster} {m : Member} (hm : mid = p ++ m :: s) :
    (c.bridge (ids a).getLast? (ids b).head? onwards back).seat m.id =
      some (m.between (ids (a ++ p)).getLast? (ids (s ++ b)).head?) := by
  have hmem : m.id ∈ ids mid := by simp [hm]
  have hnd : (ids a ++ (ids mid ++ ids b)).Nodup := by
    rw [← ids_append, ← ids_append]; exact h.ids_nodup
  rcases List.nodup_append.mp hnd with ⟨-, hndmb, hfar⟩
  have honwards : (ids a).getLast? ≠ some m.id := fun he =>
    hfar _ (List.mem_of_getLast? he) _ (List.mem_append_left _ hmem) rfl
  have hback : (ids b).head? ≠ some m.id := fun he =>
    (List.nodup_append.mp hndmb).2.2 _ hmem _ (List.mem_of_head? he) rfl
  rw [seat_bridge, h.within p m s hm, Option.map_some, bridged, if_neg honwards, if_neg hback]

/-- Bridging is all that a gap is missing. -/
theorem bridge (h : Gap c a mid b) :
    (c.bridge (ids a).getLast? (ids b).head? (ids (mid ++ b)).head?
      (ids (a ++ mid)).getLast?).Linked (a ++ (mid ++ b)) where
  ids_nodup := h.ids_nodup
  names_nodup := h.names_nodup
  keys := by rw [keys_bridge]; exact h.keys
  named := by rw [names_bridge]; exact h.named
  head := by
    rw [head_bridge]
    -- The head leads into the gap only if nothing stands before it.
    by_cases ha : a = []
    · simp [ha]
    · rw [if_neg (by simpa using ha), h.head ha, head?_append ha]
  tail := by
    rw [tail_bridge]
    -- The tail leads into it only if nothing stands after it.
    by_cases hb : b = []
    · simp [hb]
    · rw [if_neg (by simpa using hb), h.tail hb, ← List.append_assoc, getLast?_append hb]
  seat := by
    intro p m s hsplit
    -- A cut of the whole lies in one of the three parts.
    rcases append_split hsplit with ⟨a₂, ha, rfl⟩ | ⟨q, hq, rfl⟩
    · rw [h.near_bridge ha]
      by_cases ha₂ : a₂ = []
      · rw [if_pos ha₂, ha₂, List.nil_append]
      · rw [if_neg ha₂, head?_append ha₂]
    · rcases append_split hq with ⟨m₂, hm, rfl⟩ | ⟨b₁, hb, rfl⟩
      · exact h.within_bridge hm
      · rw [h.far_bridge hb]
        by_cases hb₁ : b₁ = []
        · rw [if_pos hb₁, hb₁, List.append_nil]
        · rw [if_neg hb₁, ← List.append_assoc, getLast?_append hb₁]

/-- A gap with a new link laid into it. -/
theorem fill (h : Gap c a [] b) {m : Member} (hid : m.id ∉ ids (a ++ b))
    (hname : m.name ∉ Roster.names (a ++ b)) :
    Gap { c with
      names := c.names.insert m.name m.id
      links := c.links.insert m.id (m.between (ids a).getLast? (ids b).head?) } a [m] b where
  ids_nodup := ids_nodup_middle.mpr ⟨hid, h.ids_nodup⟩
  names_nodup := names_nodup_middle.mpr ⟨hname, h.names_nodup⟩
  keys := by
    -- The key is new, so nothing makes room for it.
    have hkey : m.id ∉ c.links.keys := fun hm => hid (h.keys.mem_iff.mp hm)
    rw [Dict.keys_insert, Dict.erase_of_not_mem hkey]
    refine (h.keys.cons m.id).trans ?_
    simp only [ids_append, ids_cons, List.nil_append, List.singleton_append]
    exact List.perm_middle.symm
  named := by
    have hkey : m.name ∉ c.names.keys := fun hm => hname ((keys_of_named h.named).mem_iff.mp hm)
    change (c.names.insert m.name m.id).Perm _
    rw [Dict.insert, Dict.erase_of_not_mem hkey]
    refine (h.named.cons (m.name, m.id)).trans ?_
    rw [List.nil_append, List.map_append, List.map_append]
    exact List.perm_middle.symm
  head := h.head
  tail := h.tail
  near := by
    intro p x s ha
    -- The links on either side are found where they were.
    have hne : m.id ≠ x.id := fun he => hid (by simp [ha, he])
    rcases h.near p x s ha with ⟨next, hseat, hnext⟩
    refine ⟨next, ?_, hnext⟩
    rw [Chain.seat, Dict.find?_insert, if_neg hne]
    exact hseat
  within := by
    intro p x s hm
    have hpx : p = [] ∧ m = x ∧ s = [] := by
      cases p with
      | nil => simpa using hm
      | cons y p => simp at hm
    rcases hpx with ⟨rfl, rfl, rfl⟩
    rw [Chain.seat, Dict.find?_insert, if_pos rfl, List.append_nil, List.nil_append]
    rfl
  far := by
    intro p x s hb
    have hne : m.id ≠ x.id := fun he => hid (by simp [hb, he])
    rcases h.far p x s hb with ⟨prev, hseat, hprev⟩
    refine ⟨prev, ?_, hprev⟩
    rw [Chain.seat, Dict.find?_insert, if_neg hne]
    exact hseat

end Gap

/-! ### Where gaps come from -/

namespace Linked

variable {a b l : Roster}

/-- Between any two parts of a chain there is a gap with nothing in it. -/
theorem gap (h : c.Linked (a ++ b)) : Gap c a [] b where
  ids_nodup := h.ids_nodup
  names_nodup := h.names_nodup
  keys := h.keys
  named := h.named
  head := by
    intro ha
    rw [h.head, head?_append ha]
  tail := by
    intro hb
    rw [h.tail, getLast?_append hb]
  near := by
    intro p m s ha
    -- Whatever stands next, it is the far side only for the last one.
    exact ⟨(ids (s ++ b)).head?, h.seat p m (s ++ b) (by simp [ha]), head?_append⟩
  within := by
    intro p m s hm
    simp at hm
  far := by
    intro p m s hb
    exact ⟨(ids (a ++ p)).getLast?, h.seat (a ++ p) m s (by simp [hb]), getLast?_append⟩

/-- A link that is taken out leaves a gap. -/
theorem gap_erase {m : Member} (h : c.Linked (a ++ m :: b)) :
    Gap { c with links := c.links.erase m.id, names := c.names.erase m.name } a [] b where
  ids_nodup := (ids_nodup_middle.mp h.ids_nodup).2
  names_nodup := (names_nodup_middle.mp h.names_nodup).2
  keys := by
    -- Up to order `m` comes first, and a filter takes nothing else out.
    have hperm : (ids (a ++ m :: b)).Perm (m.id :: ids (a ++ b)) := by
      rw [ids_append, ids_cons, ids_append]
      exact List.perm_middle
    rw [Dict.keys_erase]
    refine ((h.keys.trans hperm).filter _).trans ?_
    rw [List.filter_cons, if_neg (by simp), List.filter_eq_self.mpr]
    · exact List.Perm.refl _
    · intro k hk
      have hne : k ≠ m.id := fun he => (ids_nodup_middle.mp h.ids_nodup).1 (he ▸ hk)
      simpa using hne
  named := by
    have hperm : ((a ++ m :: b).map fun x => (x.name, x.id)).Perm
        ((m.name, m.id) :: (a ++ b).map fun x => (x.name, x.id)) := by
      rw [List.map_append, List.map_cons, List.map_append]
      exact List.perm_middle
    change (c.names.erase m.name).Perm _
    rw [Dict.erase_eq_filter]
    refine ((h.named.trans hperm).filter _).trans ?_
    rw [List.filter_cons, if_neg (by simp), List.filter_eq_self.mpr]
    · exact List.Perm.refl _
    · intro e he
      rcases List.mem_map.mp he with ⟨x, hx, rfl⟩
      have hne : x.name ≠ m.name := fun heq =>
        (names_nodup_middle.mp h.names_nodup).1 (mem_names.mpr ⟨x, hx, heq⟩)
      simpa using hne
  head := by
    intro ha
    rw [h.head, head?_append ha]
  tail := by
    intro hb
    have hafter : a ++ m :: b = (a ++ [m]) ++ b := by simp
    rw [h.tail, hafter, getLast?_append hb]
  near := by
    intro p x s ha
    -- The link that is gone is that of `m`; the pointers to it are still there.
    have hne : m.id ≠ x.id := fun he =>
      (ids_nodup_middle.mp h.ids_nodup).1 (by simp [ha, he])
    refine ⟨(ids (s ++ m :: b)).head?, ?_, head?_append⟩
    rw [Chain.seat, Dict.find?_erase, if_neg hne]
    exact h.seat p x (s ++ m :: b) (by simp [ha])
  within := by
    intro p x s hm
    simp at hm
  far := by
    intro p x s hb
    have hne : m.id ≠ x.id := fun he =>
      (ids_nodup_middle.mp h.ids_nodup).1 (by simp [hb, he])
    have hafter : a ++ m :: p = (a ++ [m]) ++ p := by simp
    refine ⟨(ids (a ++ m :: p)).getLast?, ?_, fun hp => ?_⟩
    · rw [Chain.seat, Dict.find?_erase, if_neg hne]
      exact h.seat (a ++ m :: p) x s (by simp [hb])
    · rw [hafter, getLast?_append hp]

/-! ### What can be found -/

theorem length_eq (h : c.Linked l) : c.length = l.length := by
  have hkeys := h.keys.length_eq
  simpa [Dict.keys, ids, Chain.length] using hkeys

theorem contains_names (h : c.Linked l) (name : String) :
    c.names.contains name = true ↔ name ∈ Roster.names l := by
  rw [Dict.contains_iff, (keys_of_named h.named).mem_iff]

/-- A name leads to the member that has it. -/
theorem find?_names (h : c.Linked l) {m : Member} (hm : m ∈ l) :
    c.names.find? m.name = some m.id := by
  have hkeys := (keys_of_named h.named).nodup_iff.mpr h.names_nodup
  rw [Dict.find?_eq_some_iff hkeys, h.named.mem_iff]
  exact List.mem_map.mpr ⟨m, hm, rfl⟩

/-- A context that goes by a name is linked. -/
theorem mem_of_idOf (h : c.Linked l) {name : String} {id : ContextId}
    (hid : c.idOf name = .ok id) : id ∈ ids l := by
  have hkeys := (keys_of_named h.named).nodup_iff.mpr h.names_nodup
  rw [idOf] at hid
  cases hfind : c.names.find? name with
  | none => rw [hfind] at hid; exact nomatch hid
  | some found =>
      rw [hfind] at hid
      have hfound : found = id := by simpa using hid
      rw [Dict.find?_eq_some_iff hkeys, h.named.mem_iff] at hfind
      rcases List.mem_map.mp hfind with ⟨m, hm, hpair⟩
      have hm_id : m.id = found := congrArg Prod.snd hpair
      exact mem_ids.mpr ⟨m, hm, hm_id.trans hfound⟩

theorem find?_eq_none (h : c.Linked l) {id : ContextId} (hid : id ∉ ids l) :
    c.links.find? id = none := by
  rw [Dict.find?_eq_none_iff, h.keys.mem_iff]
  exact hid

/-- The link of a member, with whatever shortcuts it has. -/
theorem find?_links (h : c.Linked l) {m : Member} (hl : l = a ++ m :: b) :
    ∃ k, c.links.find? m.id = some k ∧
      k.bare = m.between (ids a).getLast? (ids b).head? := by
  have hseat := h.seat a m b hl
  rw [Chain.seat, Option.map_eq_some_iff] at hseat
  exact hseat

end Linked

end Chain

end Conduit
