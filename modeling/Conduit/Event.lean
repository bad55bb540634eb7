/-!
# Event Kinds and Event Sets

What can travel along a pipeline, and which of it a handler asks to see.

Six kinds travel inbound, from the head of a pipeline to its tail, and report
what happened to the channel. Five travel outbound, from the tail towards the
sink, and ask the channel to do something. The order of the constructors is the
order of the bits in an `EventSet`, so a set is a bit vector of width eleven and
a number with further bits cannot be one.

## Main definitions

* `EventKind`: The eleven kinds.
* `EventKind.all`: Every kind, in bit order.
* `EventKind.isInbound`: The kind reports, rather than requests.
* `EventSet`: A set of kinds.
* `EventSet.handles`: Membership of one kind.

## Theorems

* `EventSet.handles_inbound`: The inbound kinds are those that report.
* `EventSet.intersects_union`: What meets a union meets one of its sets.
* `EventSet.isInbound_of_handles`, `EventSet.isOutbound_of_handles`: A set that handles a
  kind of a direction is of that direction.
-/

namespace Conduit

/-- One kind of event that a pipeline can route. -/
inductive EventKind where
  | channelOpen
  | channelActive
  | channelInactive
  | exceptionCaught
  | userEventTriggered
  | messageUpdated
  | bind
  | connect
  | disconnect
  | close
  | flush
  deriving DecidableEq, Repr, Inhabited

namespace EventKind

/-- Every kind, in bit order. -/
def all : List EventKind :=
  [channelOpen, channelActive, channelInactive, exceptionCaught, userEventTriggered,
    messageUpdated, bind, connect, disconnect, close, flush]

/-- The place of a kind in `all`, which is its bit in an `EventSet`. -/
def index : EventKind → Nat
  | channelOpen => 0
  | channelActive => 1
  | channelInactive => 2
  | exceptionCaught => 3
  | userEventTriggered => 4
  | messageUpdated => 5
  | bind => 6
  | connect => 7
  | disconnect => 8
  | close => 9
  | flush => 10

/-- The written name of a kind. -/
def name : EventKind → String
  | channelOpen => "channel_open"
  | channelActive => "channel_active"
  | channelInactive => "channel_inactive"
  | exceptionCaught => "exception_caught"
  | userEventTriggered => "user_event_triggered"
  | messageUpdated => "message_updated"
  | bind => "bind"
  | connect => "connect"
  | disconnect => "disconnect"
  | close => "close"
  | flush => "flush"

/-- The kind with a written name. -/
def ofName? (text : String) : Option EventKind :=
  all.find? (·.name == text)

/-- The name of a kind in the style of a constructor, for printed structures. -/
def debugName : EventKind → String
  | channelOpen => "ChannelOpen"
  | channelActive => "ChannelActive"
  | channelInactive => "ChannelInactive"
  | exceptionCaught => "ExceptionCaught"
  | userEventTriggered => "UserEventTriggered"
  | messageUpdated => "MessageUpdated"
  | bind => "Bind"
  | connect => "Connect"
  | disconnect => "Disconnect"
  | close => "Close"
  | flush => "Flush"

/-- The kind reports something to the handlers, rather than asking for it. -/
def isInbound (kind : EventKind) : Bool :=
  kind.index < 6

end EventKind

/-- A set of event kinds: bit `i` stands for the kind with index `i`. -/
structure EventSet where
  bits : BitVec 11
  deriving DecidableEq, Repr, Inhabited

namespace EventSet

/-- The set with no kind in it. -/
def empty : EventSet := ⟨0⟩

/-- The set of all kinds. -/
def full : EventSet := ⟨BitVec.allOnes 11⟩

/-- The kinds that report. -/
def inbound : EventSet := ⟨0x3f⟩

/-- The kinds that request. -/
def outbound : EventSet := ⟨0x7c0⟩

/-- The set that holds one kind. -/
def single (kind : EventKind) : EventSet := ⟨BitVec.twoPow 11 kind.index⟩

/-- The set whose bits are those of a number; bits past the eleventh are dropped. -/
def ofNat (n : Nat) : EventSet := ⟨BitVec.ofNat 11 n⟩

/-- The kinds of either set. -/
def union (a b : EventSet) : EventSet := ⟨a.bits ||| b.bits⟩

/-- The kinds of both sets. -/
def inter (a b : EventSet) : EventSet := ⟨a.bits &&& b.bits⟩

/-- The set of the listed kinds. -/
def ofList (kinds : List EventKind) : EventSet :=
  kinds.foldl (fun set kind => set.union (single kind)) empty

/-- The first set holds every kind of the second. -/
def contains (a b : EventSet) : Bool := a.inter b = b

/-- Some kind is in both sets. -/
def intersects (a b : EventSet) : Bool := a.inter b ≠ empty

/-- The kind is in the set. -/
def handles (set : EventSet) (kind : EventKind) : Bool := set.bits.getLsbD kind.index

/-- The kinds in the set, in bit order. -/
def kinds (set : EventSet) : List EventKind := EventKind.all.filter set.handles

/-- A set as a printed list of constants. -/
def debug (set : EventSet) : String :=
  "EventSet(" ++ " | ".intercalate (set.kinds.map fun kind => kind.name.map Char.toUpper) ++ ")"

/-- Some inbound kind is in the set. -/
def isInbound (set : EventSet) : Bool := set.intersects inbound

/-- Some outbound kind is in the set. -/
def isOutbound (set : EventSet) : Bool := set.intersects outbound

theorem handles_inbound (kind : EventKind) : inbound.handles kind = kind.isInbound := by
  cases kind <;> decide

theorem intersects_union (a b c : EventSet) :
    (a.union b).intersects c = (a.intersects c || b.intersects c) := by
  have hbits : (a.bits ||| b.bits) &&& c.bits = (a.bits &&& c.bits) ||| (b.bits &&& c.bits) :=
    BitVec.and_or_distrib_right
  have hzero : (a.bits &&& c.bits) ||| (b.bits &&& c.bits) = 0 ↔
      a.bits &&& c.bits = 0 ∧ b.bits &&& c.bits = 0 := BitVec.or_eq_zero_iff
  simp only [intersects, inter, union, empty, EventSet.mk.injEq, ne_eq, hbits, hzero]
  by_cases ha : a.bits &&& c.bits = 0 <;> by_cases hb : b.bits &&& c.bits = 0 <;> simp [ha, hb]

/-- A set that handles an inbound kind counts as inbound. -/
theorem isInbound_of_handles {set : EventSet} {kind : EventKind} (hk : kind.isInbound = true)
    (h : set.handles kind = true) : set.isInbound = true := by
  simp only [isInbound, intersects, decide_eq_true_eq, ne_eq]
  intro he
  have hbits : (set.inter inbound).bits.getLsbD kind.index = false := by rw [he]; simp [empty]
  have hin : inbound.bits.getLsbD kind.index = true := by revert hk; cases kind <;> decide
  simp only [inter, BitVec.getLsbD_and, hin, Bool.and_true] at hbits
  simp [handles, hbits] at h

/-- A set that handles an outbound kind counts as outbound. -/
theorem isOutbound_of_handles {set : EventSet} {kind : EventKind} (hk : kind.isInbound = false)
    (h : set.handles kind = true) : set.isOutbound = true := by
  simp only [isOutbound, intersects, decide_eq_true_eq, ne_eq]
  intro he
  have hbits : (set.inter outbound).bits.getLsbD kind.index = false := by rw [he]; simp [empty]
  have hin : outbound.bits.getLsbD kind.index = true := by revert hk; cases kind <;> decide
  simp only [inter, BitVec.getLsbD_and, hin, Bool.and_true] at hbits
  simp [handles, hbits] at h

end EventSet

end Conduit
