import Conduit.Proofs.Chain.Edits

/-!
# Histories of a Chain

A chain that is changed call by call is a roster that is changed call by call.
`Holds` is what makes the induction go through, since a call that builds one lane
anew relies on the other; what a reader of a chain wants to know is less, and
`Lists` says it without cuts and lanes: both ways of following links give the
roster, and links and names hold its members and nothing else.

A history may be any sequence of calls, those that fail included. What is asked
of it is `FreshRun`, which is about the roster alone and can be decided.

## Main definitions

* `Chain.Follows`: A walk along links passes certain contexts and then ends.
* `Chain.Lists`: A chain represents a roster.

## Theorems

* `follows_of_leadsThrough`: A walk along links that lead through a roster.
* `Follows.listFrom_eq`: Listing the contexts of a chain is following its links.
* `Linked.lists`: A linked chain represents its roster.
* `run_agrees`: A history does to a chain what it does to its roster.
* `history_lists`: A chain with any history represents its roster.
* `history_lists_sampleCalls`: A history in which two calls fail.
-/

namespace Conduit

open Roster

namespace Chain

variable {c : Chain} {l : Roster}

/-- From a context on, the links lead past certain contexts and then end. -/
inductive Follows (links : Dict ContextId Link) (onwards : Link → Option ContextId) :
    Option ContextId → List ContextId → Prop where
  | stop : Follows links onwards none []
  | step (id : ContextId) (link : Link) (rest : List ContextId)
      (found : links.find? id = some link) (further : Follows links onwards (onwards link) rest) :
      Follows links onwards (some id) (id :: rest)

/-- A chain represents a roster. -/
structure Lists (c : Chain) (l : Roster) : Prop where
  forwards : Follows c.links Link.next c.head (ids l)
  backwards : Follows c.links Link.prev c.tail (ids l).reverse
  ids_nodup : (ids l).Nodup
  nodes : c.links.keys.Perm (ids l)
  kept : ∀ m ∈ l, ∃ link, c.links.find? m.id = some link ∧ link.name = m.name ∧
    link.events = m.events
  names_nodup : (Roster.names l).Nodup
  named : c.names.Perm (l.map fun m => (m.name, m.id))
  iterated : c.toList = ids l

/-! ### From cuts to walks -/

/-- Links that lead through a roster are followed from its first member to its last. -/
theorem follows_of_leadsThrough {links : Dict ContextId Link}
    {onwards : Link → Option ContextId} :
    ∀ r : Roster, LeadsThrough links onwards r → Follows links onwards (ids r).head? (ids r) := by
  intro r
  induction r with
  | nil => intro _; exact Follows.stop
  | cons m r ih =>
      intro hlead
      rcases hlead [] m r rfl with ⟨link, hlink, -, honwards⟩
      have hrest : LeadsThrough links onwards r := by
        intro p x s hr
        exact hlead (m :: p) x s (by rw [hr]; rfl)
      exact Follows.step m.id link (ids r) hlink (honwards ▸ ih hrest)

/-- Listing the contexts of a chain is following its links, as long as the steps suffice. -/
theorem Follows.listFrom_eq {start : Option ContextId} {r : List ContextId}
    (h : Follows c.links Link.next start r) :
    ∀ steps : Nat, r.length ≤ steps → c.listFrom steps start = r := by
  induction h with
  | stop =>
      intro steps _
      cases steps with
      | zero => rfl
      | succ n => rfl
  | step id link rest found further ih =>
      intro steps hsteps
      -- A step of the walk takes one of those allowed.
      cases steps with
      | zero => simp at hsteps
      | succ n =>
          have hn : rest.length ≤ n := by simpa using hsteps
          simp only [listFrom, found, ih n hn]

theorem Linked.lists (h : c.Linked l) : c.Lists l := by
  have hforwards : Follows c.links Link.next c.head (ids l) := by
    rw [h.head]
    exact follows_of_leadsThrough l h.leadsThrough_next
  have hbackwards : Follows c.links Link.prev c.tail (ids l).reverse := by
    rw [h.tail, ← List.head?_reverse, ← ids_reverse]
    exact follows_of_leadsThrough l.reverse h.leadsThrough_prev
  have hsteps : (ids l).length ≤ c.length :=
    Nat.le_of_eq ((List.length_map _).trans h.length_eq.symm)
  refine ⟨hforwards, hbackwards, h.ids_nodup, h.keys, ?_, h.names_nodup, h.named,
    hforwards.listFrom_eq c.length hsteps⟩
  intro m hm
  rcases List.append_of_mem hm with ⟨a, b, hl⟩
  rcases h.find?_links hl with ⟨link, hlink, hbare⟩
  exact ⟨link, hlink, congrArg Link.name hbare, congrArg Link.events hbare⟩

/-! ### Whole histories -/

/-- A history does to a chain what it does to its roster, and call by call the replies are
    the same. -/
theorem run_agrees :
    ∀ (es : List Edit) (c : Chain) (l : Roster), c.Holds l → Edit.FreshRun l es →
      (Edit.run Chain.edit c es).1.Holds (Edit.run Roster.edit l es).1 ∧
      (Edit.run Chain.edit c es).2 = (Edit.run Roster.edit l es).2 := by
  intro es
  induction es with
  | nil => intro c l h _; exact ⟨h, rfl⟩
  | cons e es ih =>
      intro c l h hfresh
      rcases hfresh with ⟨he, hes⟩
      -- What the next call relies on is what this one leaves behind.
      rcases edit_agrees h he with ⟨hholds, hreply⟩
      rcases ih (c.edit e).1 (l.edit e).1 hholds hes with ⟨hrun, hreplies⟩
      refine ⟨hrun, ?_⟩
      simp only [Edit.run, hreply, hreplies]

/-- After any history a chain represents the roster that the same calls make of the empty
    one, and so it does after one more call. The replies are those of the roster, and a
    call that fails leaves the chain as it was. -/
theorem history_lists (es : List Edit) (hes : Edit.FreshRun [] es) :
    (Edit.run Chain.edit {} es).1.Lists (Edit.run Roster.edit [] es).1 ∧
    (Edit.run Chain.edit {} es).2 = (Edit.run Roster.edit [] es).2 ∧
    ∀ e : Edit,
      (e.Fresh (Edit.run Roster.edit [] es).1 →
        ((Edit.run Chain.edit {} es).1.edit e).1.Lists
          ((Edit.run Roster.edit [] es).1.edit e).1 ∧
        ((Edit.run Chain.edit {} es).1.edit e).2 =
          ((Edit.run Roster.edit [] es).1.edit e).2) ∧
      (((Edit.run Chain.edit {} es).1.edit e).2 ≠ .done →
        ((Edit.run Chain.edit {} es).1.edit e).1 = (Edit.run Chain.edit {} es).1) := by
  rcases run_agrees es {} [] empty_holds hes with ⟨hholds, hreplies⟩
  refine ⟨hholds.linked.lists, hreplies, ?_⟩
  intro e
  refine ⟨?_, edit_refused _ e⟩
  intro he
  rcases edit_agrees hholds he with ⟨hnext, hreply⟩
  exact ⟨hnext.linked.lists, hreply⟩

/-- Seven calls, the third context linked between the first two. The fourth call asks for a
    name that is taken, and the last one for a context that is gone. -/
def sampleCalls : List Edit :=
  [.insert ⟨0, "in", .ofList [.channelActive]⟩ .first,
    .insert ⟨1, "out", .ofList [.flush]⟩ .last,
    .insert ⟨2, "both", .ofList [.channelActive, .flush]⟩ (.before "out"),
    .insert ⟨3, "in", .ofList [.channelActive]⟩ (.after "both"),
    .replace 0 ⟨4, "other", .ofList [.flush]⟩,
    .unlink 2,
    .unlink 2]

theorem history_lists_sampleCalls :
    Edit.FreshRun [] sampleCalls ∧
    (Edit.run Chain.edit {} sampleCalls).1.Lists
      [⟨4, "other", .ofList [.flush]⟩, ⟨1, "out", .ofList [.flush]⟩] ∧
    (Edit.run Chain.edit {} sampleCalls).2 =
      [.done, .done, .done, .refused (.argument (.duplicateName "in")), .done, .done, .absent] ∧
    ((Edit.run Chain.edit {} sampleCalls).1.edit (.insert ⟨3, "in", .ofList [.bind]⟩ .last)).1.Lists
      [⟨4, "other", .ofList [.flush]⟩, ⟨1, "out", .ofList [.flush]⟩, ⟨3, "in", .ofList [.bind]⟩] ∧
    ((Edit.run Chain.edit {} sampleCalls).1.edit (.unlink 2)).1 =
      (Edit.run Chain.edit {} sampleCalls).1 := by
  have hfresh : Edit.FreshRun [] sampleCalls := by decide
  have hroster : Edit.run Roster.edit [] sampleCalls =
      ([⟨4, "other", .ofList [.flush]⟩, ⟨1, "out", .ofList [.flush]⟩],
        [.done, .done, .done, .refused (.argument (.duplicateName "in")), .done, .done,
          .absent]) := by
    decide
  rcases history_lists sampleCalls hfresh with ⟨hlists, hreplies, hnext⟩
  have hmore := (hnext (.insert ⟨3, "in", .ofList [.bind]⟩ .last)).1 (by rw [hroster]; decide)
  have hgone := (hnext (.unlink 2)).2 (by decide)
  rw [hroster] at hlists hreplies hmore
  exact ⟨hfresh, hlists, hreplies, hmore.1, hgone⟩

end Chain

end Conduit
