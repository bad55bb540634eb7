import Conduit.Text.Hex

/-!
# Network Addresses

An address is a host and a port. Hosts are numbered by version 4 or version 6 of
the Internet Protocol. There are several ways to write a host of version 6; they
all name the same host, so an address that was read is kept as what it names, and
has one written form.

A host of version 4 is four decimal numbers with dots between them, none with a
leading zero. A host of version 6 is eight groups of hexadecimal digits with
colons between them. One run of groups that are zero may be left out, which leaves
two colons, and the last two groups may be written as a host of version 4. A zone
may follow. In the written form the longest such run is left out if it has at
least two groups, the first one of several, and only a host that stands for one
of version 4 shows that.

## Main definitions

* `Host`, `Address`: What an address names.
* `Address.ofText?`: Reading an address.
* `Address.text`: Writing it.
-/

namespace Conduit

/-- Who is at an address. -/
inductive Host where
  | v4 (a b c d : UInt8)
  /-- Eight groups, and the number of the zone in which they have a meaning. -/
  | v6 (groups : Vector UInt16 8) (zone : UInt32)
  deriving DecidableEq, Repr

/-- A network address. -/
structure Address where
  host : Host
  port : UInt16
  deriving DecidableEq, Repr

namespace Address

/-- Any port of this machine. -/
def loopback : Address := ⟨.v4 127 0 0 1, 0⟩

instance : Inhabited Address := ⟨loopback⟩

/-! ### Writing -/

/-- Four numbers with dots between them. -/
def dotted (a b c d : UInt8) : String := s!"{a}.{b}.{c}.{d}"

/-- Groups with colons between them. -/
def colonned (groups : List UInt16) : String :=
  ":".intercalate (groups.map fun g => Hex.ofNat g.toNat)

/-- The first of the longest runs of zeros: where it starts, and how long it is. -/
def longestZeros (groups : List UInt16) : Nat × Nat :=
  (List.range groups.length).foldl (fun best start =>
    let length := ((groups.drop start).takeWhile (· == 0)).length
    if best.2 < length then (start, length) else best) (0, 0)

/-- The two bytes of a group. -/
def bytesOfGroup (g : UInt16) : UInt8 × UInt8 := ((g / 256).toUInt8, g.toUInt8)

/-- The written form of eight groups. -/
def groupsText : List UInt16 → String
  | [0, 0, 0, 0, 0, 0xffff, high, low] =>
    let (a, b) := bytesOfGroup high
    let (c, d) := bytesOfGroup low
    "::ffff:" ++ dotted a b c d
  | groups =>
    let (start, length) := longestZeros groups
    if length ≤ 1 then colonned groups
    else colonned (groups.take start) ++ "::" ++ colonned (groups.drop (start + length))

/-- The written form of a host. -/
def hostText : Host → String
  | .v4 a b c d => dotted a b c d
  | .v6 groups zone =>
    let zoned := if zone = 0 then "" else s!"%{zone}"
    s!"[{groupsText groups.toList}{zoned}]"

/-- The written form of an address. -/
def text (a : Address) : String := s!"{hostText a.host}:{a.port}"

/-! ### Reading

A reader takes what it can use from the front of a text, and leaves the rest. -/

/-- Reads one given character. -/
def readChar (c : Char) : List Char → Option (List Char)
  | x :: rest => if x = c then some rest else none
  | [] => none

/-- The value of a digit. -/
def digit? (radix : Nat) (c : Char) : Option Nat :=
  let value :=
    if '0' ≤ c ∧ c ≤ '9' then c.toNat - '0'.toNat
    else if 'a' ≤ c ∧ c ≤ 'f' then c.toNat - 'a'.toNat + 10
    else if 'A' ≤ c ∧ c ≤ 'F' then c.toNat - 'A'.toNat + 10
    else radix
  if value < radix then some value else none

/-- Reads a number below `bound`, with as many digits as there are. -/
def readNumber (radix bound : Nat) (s : List Char) : Option (Nat × List Char) :=
  let digits := s.takeWhile fun c => (digit? radix c).isSome
  let value := digits.foldl (fun n c => n * radix + (digit? radix c).getD 0) 0
  if digits.isEmpty || bound ≤ value then none else some (value, s.drop digits.length)

/-- Reads a byte in decimal, without leading zeros. -/
def readByte (s : List Char) : Option (UInt8 × List Char) := do
  let (value, rest) ← readNumber 10 256 s
  if s.head? = some '0' ∧ rest.length + 1 < s.length then none
  else some (UInt8.ofNat value, rest)

/-- Reads a group, which has at most four digits. -/
def readGroup (s : List Char) : Option (UInt16 × List Char) := do
  let (value, rest) ← readNumber 16 65536 s
  if rest.length + 4 < s.length then none else some (UInt16.ofNat value, rest)

/-- Reads four bytes with dots between them. -/
def readDotted (s : List Char) : Option ((UInt8 × UInt8 × UInt8 × UInt8) × List Char) := do
  let (a, s) ← readByte s
  let (b, s) ← readByte (← readChar '.' s)
  let (c, s) ← readByte (← readChar '.' s)
  let (d, s) ← readByte (← readChar '.' s)
  return ((a, b, c, d), s)

/-- The group that two bytes make. -/
def groupOfBytes (a b : UInt8) : UInt16 := a.toUInt16 * 256 + b.toUInt16

/-- Reads groups with colons between them, at most `room` of them. Bytes with dots
    between them count for two groups, and nothing can follow them. -/
def readGroups (first : Bool) : (room : Nat) → List Char → List UInt16 × Bool × List Char
  | 0, s => ([], false, s)
  | room + 1, s =>
    match if first then some s else readChar ':' s with
    | none => ([], false, s)
    | some t =>
      match if room = 0 then none else readDotted t with
      | some ((a, b, c, d), rest) => ([groupOfBytes a b, groupOfBytes c d], true, rest)
      | none =>
        match readGroup t with
        | none => ([], false, s)
        | some (g, rest) =>
          let (groups, isDotted, rest) := readGroups false room rest
          (g :: groups, isDotted, rest)

/-- Eight groups, with zeros between those in front and those behind. -/
def joinGroups (front back : List UInt16) : Vector UInt16 8 :=
  let zeros := List.replicate (8 - front.length - back.length) 0
  Vector.ofFn fun i => ((front ++ zeros ++ back)[i.val]?).getD 0

/-- Reads eight groups, with those left out that may be. -/
def readAllGroups (s : List Char) : Option (Vector UInt16 8 × List Char) :=
  let (front, isDotted, s) := readGroups true 8 s
  if front.length = 8 then some (joinGroups front [], s)
  else if isDotted then none
  else do
    let s ← readChar ':' s
    let s ← readChar ':' s
    -- At least one group has been left out.
    let (back, _, s) := readGroups true (7 - front.length) s
    return (joinGroups front back, s)

/-- Reads a port, with the colon before it, to the end of the text. -/
def readPort (s : List Char) : Option UInt16 := do
  let (port, rest) ← readNumber 10 65536 (← readChar ':' s)
  if rest.isEmpty then some (UInt16.ofNat port) else none

/-- Reads a zone, if there is one. -/
def readZone (s : List Char) : UInt32 × List Char :=
  match readChar '%' s >>= readNumber 10 UInt32.size with
  | some (zone, rest) => (UInt32.ofNat zone, rest)
  | none => (0, s)

/-- Reads an address with a host of version 4. -/
def readV4 (s : List Char) : Option Address := do
  let ((a, b, c, d), s) ← readDotted s
  return ⟨.v4 a b c d, ← readPort s⟩

/-- Reads an address with a host of version 6. -/
def readV6 (s : List Char) : Option Address := do
  let (groups, s) ← readAllGroups (← readChar '[' s)
  let (zone, s) := readZone s
  return ⟨.v6 groups zone, ← readPort (← readChar ']' s)⟩

/-- The address that a text is one of the ways to write, if it is. -/
def ofText? (s : String) : Option Address :=
  readV4 s.toList <|> readV6 s.toList

end Address

end Conduit
