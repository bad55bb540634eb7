import Conduit.Pipeline.Chain

/-!
# Rosters

What a chain is meant to be: a list of contexts. A chain spreads that list over
links, names and ends, so nothing in it is the list itself, and nothing that is
said of a chain can be read off a single part of it. A roster is the list, with
of each context only what the chain keeps of it.

The three ways to change a chain are three ordinary operations on a roster:
`insertIdx`, `filter` and `map`. Written that way they say where a context comes
to stand without mentioning a neighbour. `Edit` puts the three into one type, so
that a history of calls is a list, and `Chain.edit` and `Roster.edit` answer each
call, the one by changing links and the other by changing the list.

The caller of `insert` and `replace` brings a context that is not linked yet.
`Edit.Fresh` is that promise. It asks for less than a number never used before: a
context that was unlinked may come back, and a context may be put in its own
place.

## Main definitions

* `Member`: A context, as far as a chain knows it.
* `Roster`: The contexts in order.
* `Edit`, `Reply`: A call that changes a chain, and what comes of it.
* `Roster.edit`, `Chain.edit`: What a call does to either.
* `Edit.run`: One call after the other.
* `Edit.FreshRun`: Every new context of a history is not linked when it comes.

## Theorems

* `ids_nil`, `ids_cons`, `ids_append`, `ids_reverse`, `ids_eq_nil`, `names_nil`,
  `names_cons`, `names_append`: The contexts and names of rosters that are put together.
* `mem_ids`, `mem_names`: Whose they are.
* `head?_append`, `getLast?_append`: Where a roster begins and ends.
* `append_split`: A member of two parts stands in one of them.
* `ids_nodup_middle`, `names_nodup_middle`, `ids_nodup_reverse`, `not_mem_before`: A member
  stands in one place only.
* `getLast?_split`, `head?_split`: The member that is the last one, and the first one.
* `insertIdx_append`: A context is inserted between two parts of a roster.
* `filter_split`, `map_split`: Deleting and substituting one member.
-/

namespace Conduit

/-- A context, as far as a chain knows it. -/
structure Member where
  id : ContextId
  name : String
  events : EventSet
  deriving DecidableEq, Repr, Inhabited

/-- The contexts of a chain, from head to tail. -/
abbrev Roster := List Member

namespace Roster

/-- The numbers of the members. -/
def ids (l : Roster) : List ContextId := l.map (·.id)

/-- The names of the members. -/
def names (l : Roster) : List String := l.map (·.name)

@[simp] theorem ids_nil : ids [] = [] := rfl

@[simp] theorem ids_cons (m : Member) (l : Roster) : ids (m :: l) = m.id :: ids l := rfl

@[simp] theorem ids_append (a b : Roster) : ids (a ++ b) = ids a ++ ids b := List.map_append

@[simp] theorem ids_reverse (l : Roster) : ids l.reverse = (ids l).reverse := List.map_reverse

@[simp] theorem ids_eq_nil {l : Roster} : ids l = [] ↔ l = [] := List.map_eq_nil_iff

@[simp] theorem names_nil : names [] = [] := rfl

@[simp] theorem names_cons (m : Member) (l : Roster) : names (m :: l) = m.name :: names l := rfl

@[simp] theorem names_append (a b : Roster) : names (a ++ b) = names a ++ names b :=
  List.map_append

/-- A roster that goes on begins as it began. -/
theorem head?_append {a b : Roster} (ha : a ≠ []) : (ids (a ++ b)).head? = (ids a).head? := by
  cases a with
  | nil => exact absurd rfl ha
  | cons x a => rfl

/-- A roster that is preceded by another ends as it ended. -/
theorem getLast?_append {a b : Roster} (hb : b ≠ []) :
    (ids (a ++ b)).getLast? = (ids b).getLast? := by
  rcases List.eq_nil_or_concat b with rfl | ⟨b, x, rfl⟩
  · exact absurd rfl hb
  · simp [List.getLast?_append]

theorem mem_ids {l : Roster} {id : ContextId} : id ∈ ids l ↔ ∃ m ∈ l, m.id = id :=
  List.mem_map

theorem mem_names {l : Roster} {name : String} : name ∈ names l ↔ ∃ m ∈ l, m.name = name :=
  List.mem_map

/-- The first member that counts for a direction. -/
def first (counts : EventSet → Bool) (l : Roster) : Option ContextId :=
  (l.find? fun m => counts m.events).map (·.id)

/-- How many members stand before a position; fails if there is no member of the name
    that the position refers to. -/
def slot (l : Roster) : Position → Except Error Nat
  | .first => .ok 0
  | .last => .ok l.length
  | .before base =>
    match l.findIdx? (·.name == base) with
    | some i => .ok i
    | none => .error (.noSuchElement (.named base))
  | .after base =>
    match l.findIdx? (·.name == base) with
    | some i => .ok (i + 1)
    | none => .error (.noSuchElement (.named base))

end Roster

open Roster

/-- One call that changes a chain. -/
inductive Edit where
  | insert (m : Member) (position : Position)
  | unlink (id : ContextId)
  | replace (old : ContextId) (m : Member)
  deriving DecidableEq, Repr, Inhabited

/-- What comes of a call that changes a chain. -/
inductive Reply where
  | done
  /-- There was nothing to unlink. -/
  | absent
  | refused (cause : Error)
  deriving DecidableEq, Repr, Inhabited

/-- What comes of a call that may fail. -/
def Reply.ofOutcome : Except Error Unit → Reply
  | .ok _ => .done
  | .error cause => .refused cause

/-- What a call does to a chain. -/
def Chain.edit (c : Chain) : Edit → Chain × Reply
  | .insert m position =>
    let (outcome, c) := c.insert m.id m.name m.events position
    (c, .ofOutcome outcome)
  | .unlink id =>
    let (linked, c) := c.unlink id
    (c, if linked then .done else .absent)
  | .replace old m =>
    let (outcome, c) := c.replace old m.id m.name m.events
    (c, .ofOutcome outcome)

/-- What a call does to a roster. -/
def Roster.edit (l : Roster) : Edit → Roster × Reply
  | .insert m position =>
    if m.name ∈ names l then (l, .refused (.argument (.duplicateName m.name)))
    else
      match slot l position with
      | .ok i => (l.insertIdx i m, .done)
      | .error cause => (l, .refused cause)
  | .unlink id =>
    if id ∈ ids l then (l.filter fun m => m.id ≠ id, .done) else (l, .absent)
  | .replace old m =>
    if old ∉ ids l then (l, .refused (.noSuchElement (.named m.name)))
    else if m.name ∈ names (l.filter fun x => x.id ≠ old) then
      (l, .refused (.argument (.duplicateName m.name)))
    else (l.map fun x => if x.id = old then m else x, .done)

namespace Edit

/-- One call after the other: where that leads, and what came of each. -/
def run {α : Type} (step : α → Edit → α × Reply) (s : α) : List Edit → α × List Reply
  | [] => (s, [])
  | e :: es =>
    let (s, reply) := step s e
    let (s, replies) := run step s es
    (s, reply :: replies)

/-- The context that a call brings is not linked, or is the very one that it replaces. -/
def Fresh (l : Roster) : Edit → Prop
  | insert m _ => m.id ∉ ids l
  | unlink _ => True
  | replace old m => m.id ∈ ids l → m.id = old

instance (l : Roster) : (e : Edit) → Decidable (e.Fresh l)
  | insert m _ => inferInstanceAs (Decidable (m.id ∉ ids l))
  | unlink _ => inferInstanceAs (Decidable True)
  | replace old m => inferInstanceAs (Decidable (m.id ∈ ids l → m.id = old))

/-- Every call of a history brings a context that is fresh when its turn comes. -/
def FreshRun (l : Roster) : List Edit → Prop
  | [] => True
  | e :: es => e.Fresh l ∧ FreshRun (l.edit e).1 es

instance decidableFreshRun : (l : Roster) → (es : List Edit) → Decidable (FreshRun l es)
  | _, [] => inferInstanceAs (Decidable True)
  | l, e :: es =>
    have := decidableFreshRun (l.edit e).1 es
    inferInstanceAs (Decidable (e.Fresh l ∧ FreshRun (l.edit e).1 es))

end Edit

namespace Roster

/-! ### Cutting a roster at a member -/

/-- A member of a list of which both parts are known stands in one of them. -/
theorem append_split {α : Type} {a b p s : List α} {m : α} (h : a ++ b = p ++ m :: s) :
    (∃ a₂, a = p ++ m :: a₂ ∧ s = a₂ ++ b) ∨ (∃ b₁, b = b₁ ++ m :: s ∧ p = a ++ b₁) := by
  rcases List.append_eq_append_iff.mp h with ⟨t, hp, hb⟩ | ⟨t, ha, hs⟩
  · exact Or.inr ⟨t, hb, hp⟩
  · cases t with
    -- The cut is at the border of the two lists, so the member is the first of the second.
    | nil =>
        refine Or.inr ⟨[], ?_, ?_⟩
        · simpa using hs.symm
        · simpa using ha.symm
    | cons x t =>
        rw [List.cons_append, List.cons.injEq] at hs
        rcases hs with ⟨rfl, rfl⟩
        exact Or.inl ⟨t, ha, rfl⟩

theorem insertIdx_append (a b : Roster) (m : Member) :
    (a ++ b).insertIdx a.length m = a ++ m :: b := by
  induction a with
  | nil => rfl
  | cons x a ih => rw [List.cons_append, List.length_cons, List.insertIdx_succ_cons, ih]; rfl

theorem ids_nodup_middle {a b : Roster} {m : Member} :
    (ids (a ++ m :: b)).Nodup ↔ m.id ∉ ids (a ++ b) ∧ (ids (a ++ b)).Nodup := by
  rw [ids_append, ids_cons, List.perm_middle.nodup_iff, List.nodup_cons, ← ids_append]

/-- A member does not stand among those before it. -/
theorem not_mem_before {a b : Roster} {m : Member} (h : (ids (a ++ m :: b)).Nodup) :
    m.id ∉ ids a := by
  intro hmem
  refine (ids_nodup_middle.mp h).1 ?_
  rw [ids_append]
  exact List.mem_append_left _ hmem

theorem ids_nodup_reverse {l : Roster} : (ids l.reverse).Nodup ↔ (ids l).Nodup := by
  rw [ids_reverse, (List.reverse_perm _).nodup_iff]

theorem names_nodup_middle {a b : Roster} {m : Member} :
    (names (a ++ m :: b)).Nodup ↔ m.name ∉ names (a ++ b) ∧ (names (a ++ b)).Nodup := by
  rw [names_append, names_cons, List.perm_middle.nodup_iff, List.nodup_cons, ← names_append]

/-- A member is the last one just when nothing stands after it. -/
theorem getLast?_split {a b : Roster} {m : Member} (h : (ids (a ++ m :: b)).Nodup) :
    (ids (a ++ m :: b)).getLast? = some m.id ↔ b = [] := by
  constructor
  · intro he
    cases b with
    | nil => rfl
    | cons x b =>
        -- The last member stands in the rest, and so does `m`.
        have hlast : (ids (x :: b)).getLast? = some m.id := by
          simpa [List.getLast?_append, List.getLast?_cons_cons] using he
        have hmem : m.id ∈ ids (a ++ x :: b) := by
          rw [ids_append]
          exact List.mem_append_right _ (List.mem_of_getLast? hlast)
        exact absurd hmem (ids_nodup_middle.mp h).1
  · intro hb
    simp [hb]

/-- A member is the first one just when nothing stands before it. -/
theorem head?_split {a b : Roster} {m : Member} (h : (ids (a ++ m :: b)).Nodup) :
    (ids (a ++ m :: b)).head? = some m.id ↔ a = [] := by
  constructor
  · intro he
    cases a with
    | nil => rfl
    | cons x a =>
        have hx : x.id = m.id := by simpa using he
        -- The first member is another one then, and `m` would be it too.
        have hmem : m.id ∈ ids (x :: a ++ b) := by simp [hx]
        exact absurd hmem (ids_nodup_middle.mp h).1
  · intro ha
    simp [ha]

/-- Deleting the member that stands between two parts leaves the parts. -/
theorem filter_split {a b : Roster} {m : Member} (h : (ids (a ++ m :: b)).Nodup) :
    (a ++ m :: b).filter (fun x => x.id ≠ m.id) = a ++ b := by
  have hkeep : ∀ x ∈ a ++ b, decide (x.id ≠ m.id) = true := by
    intro x hx
    have hne : x.id ≠ m.id := fun he => (ids_nodup_middle.mp h).1 (mem_ids.mpr ⟨x, hx, he⟩)
    simpa using hne
  rw [List.filter_append, List.filter_cons, if_neg (by simp), ← List.filter_append]
  exact List.filter_eq_self.mpr hkeep

/-- Substituting the member that stands between two parts keeps the parts. -/
theorem map_split {a b : Roster} {m : Member} (h : (ids (a ++ m :: b)).Nodup) (n : Member) :
    (a ++ m :: b).map (fun x => if x.id = m.id then n else x) = a ++ n :: b := by
  have hkeep : ∀ l : Roster, (∀ x ∈ l, x ∈ a ++ b) →
      l.map (fun x => if x.id = m.id then n else x) = l := by
    intro l hl
    have hsame : ∀ x ∈ l, (if x.id = m.id then n else x) = id x := by
      intro x hx
      exact if_neg fun he => (ids_nodup_middle.mp h).1 (mem_ids.mpr ⟨x, hl x hx, he⟩)
    rw [List.map_congr_left hsame, List.map_id]
  rw [List.map_append, List.map_cons, if_pos rfl, hkeep a (fun x hx => List.mem_append_left b hx),
    hkeep b (fun x hx => List.mem_append_right a hx)]

end Roster

end Conduit
