import Conduit.Dict
import Conduit.Error

/-!
# Chains

The handlers of a pipeline, in order. A chain is a doubly linked list with two
shortcuts through it, so that an event need not stop at a context that could not
handle any event of its direction.

```text
head                                              tail
 [A: in] <-> [B: in+out] <-> [C: out] <-> [D: in]

nextInbound:   A -> B -> D        inboundHead  = A
nextOutbound:  C -> B             outboundHead = C
```

Links are numbers into a dictionary, so unlinking leaves nothing behind that
could still be followed. The shortcuts of a direction are built anew whenever a
context of that direction comes or goes.

Every walk over a chain is given as many steps as the chain has links, which is
as many as it can take.

## Main definitions

* `ContextId`: The number of a context.
* `Position`: Where a context goes in.
* `Cursor`: Where an event starts looking for its target.
* `Chain`: The linked contexts.
* `Chain.toList`: The contexts from head to tail.
* `Chain.insert`, `Chain.unlink`, `Chain.replace`: Changing the chain.
* `Chain.findInbound`, `Chain.findOutbound`: The target of an event.
-/

namespace Conduit

/-- The number of a context. -/
abbrev ContextId := Nat

/-- Where a context goes in. -/
inductive Position where
  | first
  | last
  | before (base : String)
  | after (base : String)
  deriving DecidableEq, Repr, Inhabited

/-- Where an event starts looking for its target. -/
inductive Cursor where
  /-- At the end of the chain where events of its direction come in. -/
  | start
  /-- Past a context, in the direction of travel. -/
  | after (id : ContextId)
  /-- At a context, then onwards. -/
  | at (id : ContextId)
  deriving DecidableEq, Repr, Inhabited

/-- The place of a context in a chain. -/
structure Link where
  name : String
  events : EventSet
  prev : Option ContextId
  next : Option ContextId
  /-- The first context after this one that handles inbound events. -/
  nextInbound : Option ContextId := none
  /-- The first context before this one that handles outbound events. -/
  nextOutbound : Option ContextId := none
  deriving DecidableEq, Repr, Inhabited

/-- The linked contexts of a pipeline. -/
structure Chain where
  links : Dict ContextId Link := []
  names : Dict String ContextId := []
  head : Option ContextId := none
  tail : Option ContextId := none
  inboundHead : Option ContextId := none
  outboundHead : Option ContextId := none
  deriving DecidableEq, Repr, Inhabited

namespace Chain

/-- How many contexts are linked. -/
def length (c : Chain) : Nat := c.links.length

def isEmpty (c : Chain) : Bool := c.links.isEmpty

/-- Some linked context handles inbound events. -/
def hasInbound (c : Chain) : Bool := c.inboundHead.isSome

def containsName (c : Chain) (name : String) : Bool := c.names.contains name

/-- The context with a name. -/
def find? (c : Chain) (name : String) : Option ContextId := c.names.find? name

def isFirst (c : Chain) (id : ContextId) : Bool := c.head == some id

def isLast (c : Chain) (id : ContextId) : Bool := c.tail == some id

/-- The contexts from one on towards the tail, at most `steps` of them. -/
def listFrom (c : Chain) : (steps : Nat) → Option ContextId → List ContextId
  | 0, _ | _, none => []
  | steps + 1, some id =>
    match c.links.find? id with
    | none => []
    | some link => id :: listFrom c steps link.next

/-- The contexts from head to tail. -/
def toList (c : Chain) : List ContextId := c.listFrom c.length c.head

/-! ### Changing the chain -/

/-- The context with a name, or the error that there is none. -/
def idOf (c : Chain) (name : String) : Except Error ContextId :=
  match c.names.find? name with
  | some id => .ok id
  | none => .error (.noSuchElement (.named name))

/-- The contexts between which a position lies. -/
def neighbours (c : Chain) : Position → Except Error (Option ContextId × Option ContextId)
  | .first => .ok (none, c.head)
  | .last => .ok (c.tail, none)
  | .before base => do
    let id ← c.idOf base
    return ((c.links.find? id).bind (·.prev), some id)
  | .after base => do
    let id ← c.idOf base
    return (some id, (c.links.find? id).bind (·.next))

/-- Fails with the error that inserting under `name` at a position would give. -/
def checkInsert (c : Chain) (name : String) (position : Position) : Except Error Unit := do
  if c.names.contains name then throw (.argument (.duplicateName name))
  let _ ← c.neighbours position

/-- Changes the link of a context, if it has one. -/
def updateLink (c : Chain) (id : ContextId) (f : Link → Link) : Chain :=
  { c with links := c.links.modify id f }

/-- Sets what the two sides of a gap point at: the near side, or the head of the chain, at
    `onwards`, and the far side, or the tail of the chain, at `back`. -/
def bridge (c : Chain) (prev next onwards back : Option ContextId) : Chain :=
  let c := match prev with
    | some p => c.updateLink p ({ · with next := onwards })
    | none => { c with head := onwards }
  match next with
  | some n => c.updateLink n ({ · with prev := back })
  | none => { c with tail := back }

/-- Points the two sides of a gap at a context. -/
def splice (c : Chain) (id : ContextId) (prev next : Option ContextId) : Chain :=
  c.bridge prev next (some id) (some id)

/-- The shortcut that leads to or past a neighbour. -/
def shortcutVia (c : Chain) (neighbour : Option ContextId) (counts : Link → Bool)
    (onwards : Link → Option ContextId) : Option ContextId := do
  let id ← neighbour
  let link ← c.links.find? id
  if counts link then some id else onwards link

/-- Sets the shortcuts of a context from those of its neighbours. -/
def linkShortcuts (c : Chain) (id : ContextId) (prev next : Option ContextId) : Chain :=
  let inbound := c.shortcutVia next (·.events.isInbound) (·.nextInbound)
  let outbound := c.shortcutVia prev (·.events.isOutbound) (·.nextOutbound)
  c.updateLink id ({ · with nextInbound := inbound, nextOutbound := outbound })

/-- Stores the shortcuts of one direction, from `id` on against that direction; `found` is the
    nearest context past `id` that counts. Also gives the nearest one past the last link. -/
def sweep (back : Link → Option ContextId) (counts : Link → Bool)
    (store : Option ContextId → Link → Link) :
    (steps : Nat) → Dict ContextId Link → (id found : Option ContextId) →
      Dict ContextId Link × Option ContextId
  | 0, links, _, found | _, links, none, found => (links, found)
  | steps + 1, links, some id, found =>
    match links.find? id with
    | none => (links, found)
    | some link =>
      sweep back counts store steps (links.modify id (store found)) (back link)
        (if counts link then some id else found)

/-- Builds the inbound shortcuts, from the tail on. -/
def rebuildInbound (c : Chain) : Chain :=
  let (links, found) := sweep (·.prev) (·.events.isInbound)
    (fun shortcut link => { link with nextInbound := shortcut }) c.length c.links c.tail none
  { c with links, inboundHead := found }

/-- Builds the outbound shortcuts, from the head on. -/
def rebuildOutbound (c : Chain) : Chain :=
  let (links, found) := sweep (·.next) (·.events.isOutbound)
    (fun shortcut link => { link with nextOutbound := shortcut }) c.length c.links c.head none
  { c with links, outboundHead := found }

/-- Builds the shortcuts of the directions in which a set of events travels. -/
def refresh (c : Chain) (touched : EventSet) : Chain :=
  let c := if touched.isInbound then c.rebuildInbound else c
  if touched.isOutbound then c.rebuildOutbound else c

/-- Puts a new link between two neighbours. -/
def place (c : Chain) (id : ContextId) (name : String) (events : EventSet)
    (prev next : Option ContextId) : Chain :=
  let c := { c with
    names := c.names.insert name id
    links := c.links.insert id { name, events, prev, next } }
  (c.splice id prev next).linkShortcuts id prev next

/-- Links a new context at a position. -/
def insert (c : Chain) (id : ContextId) (name : String) (events : EventSet)
    (position : Position) : Except Error Unit × Chain :=
  match c.checkInsert name position with
  | .error cause => (.error cause, c)
  | .ok _ =>
    match c.neighbours position with
    | .error cause => (.error cause, c)
    | .ok (prev, next) => (.ok (), (c.place id name events prev next).refresh events)

/-- Closes the gap that a link leaves. -/
def close (c : Chain) (link : Link) : Chain :=
  c.bridge link.prev link.next link.next link.prev

/-- Unlinks a context, and says whether it was linked. -/
def unlink (c : Chain) (id : ContextId) : Bool × Chain :=
  match c.links.find? id with
  | none => (false, c)
  | some link =>
    let c := { c with links := c.links.erase id, names := c.names.erase link.name }
    let c := c.close link
    (true, if c.isEmpty then {} else c.refresh link.events)

/-- Puts a new context where `old` was. -/
def replace (c : Chain) (old id : ContextId) (name : String) (events : EventSet) :
    Except Error Unit × Chain :=
  match c.links.find? old with
  | none => (.error (.noSuchElement (.named name)), c)
  | some link =>
    if link.name ≠ name ∧ c.names.contains name then
      (.error (.argument (.duplicateName name)), c)
    else
      let c := { c with links := c.links.erase old, names := c.names.erase link.name }
      (.ok (), (c.place id name events link.prev link.next).refresh (link.events.union events))

/-! ### Finding the target of an event -/

/-- The first context, from one on along a shortcut, that handles a kind. -/
def walk (c : Chain) (onwards : Link → Option ContextId) (kind : EventKind) :
    (steps : Nat) → Option ContextId → Option ContextId
  | 0, _ | _, none => none
  | steps + 1, some id =>
    match c.links.find? id with
    | none => none
    | some link =>
      if link.events.handles kind then some id else walk c onwards kind steps (onwards link)

/-- Where a walk that starts at a cursor begins. Nothing begins at a context that is
    not linked. -/
def begin (c : Chain) (cursor : Cursor) (start : Option ContextId) (counts : Link → Bool)
    (onwards : Link → Option ContextId) : Option ContextId :=
  match cursor with
  | .start => start
  | .after id => (c.links.find? id).bind onwards
  | .at id => c.shortcutVia (some id) counts onwards

/-- The first context from a cursor on, towards the tail, that handles a kind. -/
def findInbound (c : Chain) (cursor : Cursor) (kind : EventKind) : Option ContextId :=
  c.walk (·.nextInbound) kind c.length
    (c.begin cursor c.inboundHead (·.events.isInbound) (·.nextInbound))

/-- The first context from a cursor on, towards the head, that handles a kind. -/
def findOutbound (c : Chain) (cursor : Cursor) (kind : EventKind) : Option ContextId :=
  c.walk (·.nextOutbound) kind c.length
    (c.begin cursor c.outboundHead (·.events.isOutbound) (·.nextOutbound))

end Chain

end Conduit
