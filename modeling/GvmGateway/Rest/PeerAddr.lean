import GvmGateway.Library.Text

/-!
# Client peer addresses

`crates/gvm-gateway-rest/src/peer_addr.rs`, with what it uses of `std::net`: IP addresses,
their textual form and its parser.
-/

namespace GvmGateway.Rest

/-! ## `std::net::IpAddr` -/

/-- An address of either family. -/
inductive IpAddr where
  | v4 (ip : BitVec 32)
  | v6 (ip : BitVec 128)
deriving DecidableEq, Repr

namespace IpAddr

/-- A reader takes what it recognises off the front of the text. -/
abbrev Reader (α : Type) := List Char → Option (α × List Char)

/-- `char::to_digit`. -/
def toDigit (radix : ℕ) (c : Char) : Option ℕ :=
  let digit? :=
    if '0' ≤ c ∧ c ≤ '9' then some (c.toNat - '0'.toNat)
    else if 'a' ≤ c ∧ c ≤ 'f' then some (c.toNat - 'a'.toNat + 10)
    else if 'A' ≤ c ∧ c ≤ 'F' then some (c.toNat - 'A'.toNat + 10)
    else none
  digit?.filter (· < radix)

/-- A number of at most `maxDigits` digits below `bound`. -/
def readNumber (radix maxDigits : ℕ) (allowZeroPrefix : Bool) (bound : ℕ) : Reader ℕ := fun cs =>
  let digits := (cs.takeWhile fun c => (toDigit radix c).isSome).filterMap (toDigit radix)
  let value := digits.foldl (fun result digit => result * radix + digit) 0
  if digits = [] ∨ maxDigits < digits.length then none
  else if !allowZeroPrefix ∧ digits.head? = some 0 ∧ 1 < digits.length then none
  else if value < bound then some (value, cs.drop digits.length)
  else none

/-- One character, as given. -/
def readGivenChar (target : Char) : Reader Unit
  | c :: cs => if c = target then some ((), cs) else none
  | [] => none

/-- The separator is read before every item but the first. -/
def readSeparator {α : Type} (sep : Char) (index : ℕ) (inner : Reader α) : Reader α := fun cs =>
  if index = 0 then inner cs else (readGivenChar sep cs).bind fun (_, cs) => inner cs

/-- Four decimal numbers with dots between them. -/
def readIpv4Addr : Reader (BitVec 32) := fun cs => do
  let (a, cs) ← readSeparator '.' 0 (readNumber 10 3 false 256) cs
  let (b, cs) ← readSeparator '.' 1 (readNumber 10 3 false 256) cs
  let (c, cs) ← readSeparator '.' 2 (readNumber 10 3 false 256) cs
  let (d, cs) ← readSeparator '.' 3 (readNumber 10 3 false 256) cs
  return (BitVec.ofNat 32 (((a * 256 + b) * 256 + c) * 256 + d), cs)

/-- Up to `limit` 16-bit groups from the `i`-th on, an IPv4 address standing for the last two.
Tells whether the groups end in one. -/
def readGroups (limit : ℕ) : (fuel i : ℕ) → List Char → List ℕ × Bool × List Char
  | 0, _, cs => ([], false, cs)
  | fuel + 1, i, cs =>
    -- an IPv4 tail stands for two groups
    let ipv4 := if i + 1 < limit then readSeparator ':' i readIpv4Addr cs else none
    match ipv4 with
    | some (ip, cs) => ([ip.toNat / 65536, ip.toNat % 65536], true, cs)
    | none =>
      match readSeparator ':' i (readNumber 16 4 true 65536) cs with
      | some (group, cs) =>
        let (groups, endsInIpv4, cs) := readGroups limit fuel (i + 1) cs
        (group :: groups, endsInIpv4, cs)
      | none => ([], false, cs)

/-- The address of eight groups. -/
def ofSegments (segments : List ℕ) : BitVec 128 :=
  BitVec.ofNat 128 (segments.foldl (fun ip segment => ip * 65536 + segment) 0)

/-- Eight groups, or fewer around one `::`. -/
def readIpv6Addr : Reader (BitVec 128) := fun cs =>
  let (head, headIpv4, cs) := readGroups 8 8 0 cs
  if head.length = 8 then some (ofSegments head, cs)
  else if headIpv4 then none
  else do
    -- the groups that `::` leaves out are zero
    let (_, cs) ← readGivenChar ':' cs
    let (_, cs) ← readGivenChar ':' cs
    let limit := 8 - (head.length + 1)
    let (tail, _, cs) := readGroups limit limit 0 cs
    let zeros := List.replicate (8 - head.length - tail.length) 0
    return (ofSegments (head ++ zeros ++ tail), cs)

/-- An IPv4 address, or else an IPv6 one. -/
def readIpAddr : Reader IpAddr := fun cs =>
  match readIpv4Addr cs with
  | some (ip, cs) => some (v4 ip, cs)
  | none => (readIpv6Addr cs).map fun (ip, cs) => (v6 ip, cs)

/-- `str::parse`: the whole text is an address. -/
def fromStr (value : String) : Option IpAddr :=
  match readIpAddr value.toList with
  | some (ip, []) => some ip
  | _ => none

/-- The four bytes of an address. -/
def octets4 (ip : BitVec 32) : List ℕ :=
  [24, 16, 8, 0].map fun shift => (ip >>> shift).toNat % 256

/-- The eight groups of an address. -/
def segments (ip : BitVec 128) : List ℕ :=
  [112, 96, 80, 64, 48, 32, 16, 0].map fun shift => (ip >>> shift).toNat % 65536

/-- A group in lower case, without leading zeros. -/
def hex (n : ℕ) : String := String.ofList (Nat.toDigits 16 n)

/-- `Ipv4Addr` as it is displayed. -/
def displayIpv4 (ip : BitVec 32) : String :=
  ".".intercalate ((octets4 ip).map toString)

/-- The first of the longest runs of zero segments, as its start and its length. -/
def longestZeros (segments : List ℕ) : ℕ × ℕ :=
  let step := fun (state : (ℕ × ℕ) × (ℕ × ℕ)) (item : ℕ × ℕ) =>
    let (segment, i) := item
    let (current, longest) := state
    if segment = 0 then
      let current := if current.2 = 0 then (i, 1) else (current.1, current.2 + 1)
      -- of runs of one length the first
      (current, if longest.2 < current.2 then current else longest)
    else ((0, 0), longest)
  (segments.zipIdx.foldl step ((0, 0), (0, 0))).2

def displaySegments (segments : List ℕ) : String := ":".intercalate (segments.map hex)

/-- `Ipv6Addr` as it is displayed: its longest run of zeros is shortened. -/
def displayIpv6 (ip : BitVec 128) : String :=
  if ip >>> 32 = 0xffff#128 then "::ffff:" ++ displayIpv4 (ip.setWidth 32)
  else
    let (start, len) := longestZeros (segments ip)
    if 1 < len then
      displaySegments ((segments ip).take start) ++ "::" ++
        displaySegments ((segments ip).drop (start + len))
    else displaySegments (segments ip)

/-- The text that `format!` writes for the address. -/
def display : IpAddr → String
  | v4 ip => displayIpv4 ip
  | v6 ip => displayIpv6 ip

example : (fromStr "2001:db8::1:0:0:7").map display = some "2001:db8::1:0:0:7" := by decide

end IpAddr

/-! ## `ClientPeerAddr` -/

/-- Peer socket address recorded by the server accept path. -/
structure ClientPeerAddr where
  ip : IpAddr
  port : UInt16
deriving DecidableEq, Repr

/-! ## `TrustedProxyCidr` -/

/-- The width of an address. -/
def maxPrefix : IpAddr → ℕ
  | .v4 _ => 32
  | .v6 _ => 128

/-- CIDR range for a proxy whose forwarded client IP headers may be trusted. Only `fromStr`
builds one, so a prefix is never longer than the address. -/
structure TrustedProxyCidr where
  network : IpAddr
  prefixLen : ℕ
  prefix_le : prefixLen ≤ maxPrefix network

namespace TrustedProxyCidr

/-- `ipv4_mask`. -/
def ipv4Mask (prefixLen : ℕ) : BitVec 32 :=
  if prefixLen = 0 then 0 else BitVec.allOnes 32 <<< (32 - prefixLen)

/-- `ipv6_mask`. -/
def ipv6Mask (prefixLen : ℕ) : BitVec 128 :=
  if prefixLen = 0 then 0 else BitVec.allOnes 128 <<< (128 - prefixLen)

/-- Returns whether `ip` is inside this configured trusted proxy range. -/
def contains (cidr : TrustedProxyCidr) (ip : IpAddr) : Bool :=
  match cidr.network, ip with
  | .v4 network, .v4 ip =>
    ip &&& ipv4Mask cidr.prefixLen == network &&& ipv4Mask cidr.prefixLen
  | .v6 network, .v6 ip =>
    ip &&& ipv6Mask cidr.prefixLen == network &&& ipv6Mask cidr.prefixLen
  | _, _ => false

/-- `ipv4_mask` and `ipv6_mask` with the subtraction and the shift checked: the shift must be
less than the width. -/
def checkedMask (width prefixLen : ℕ) : Option (BitVec width) :=
  if prefixLen = 0 then some 0
  else if width < prefixLen then none
  else if width ≤ width - prefixLen then none
  else some (BitVec.allOnes width <<< (width - prefixLen))

/-- `contains` with its masks checked. -/
def containsChecked (cidr : TrustedProxyCidr) (ip : IpAddr) : Option Bool :=
  match cidr.network, ip with
  | .v4 network, .v4 ip => do
    let mask ← checkedMask 32 cidr.prefixLen
    return ip &&& mask == network &&& mask
  | .v6 network, .v6 ip => do
    let mask ← checkedMask 128 cidr.prefixLen
    return ip &&& mask == network &&& mask
  -- a network of the other family
  | _, _ => some false

/-- `str::parse::<u8>`: digits after an optional plus sign, leading zeros allowed. -/
def parseU8 (cs : List Char) : Option ℕ :=
  let digits := if cs.head? = some '+' then cs.tail else cs
  if digits = [] ∨ digits.any fun c => !c.isDigit then none
  else
    let value := digits.foldl (fun result c => result * 10 + (c.toNat - '0'.toNat)) 0
    if value < 256 then some value else none

/-- `TrustedProxyCidr::from_str`. -/
def fromStr (value : String) : Except String TrustedProxyCidr :=
  let cs := Text.trim value.toList
  if '/' ∉ cs then .error "expected CIDR notation like 127.0.0.1/32"
  else
    let network := String.ofList (cs.takeWhile (· ≠ '/'))
    let prefixLen := (cs.dropWhile (· ≠ '/')).tail
    match IpAddr.fromStr network with
    | none => .error s!"invalid CIDR network address '{network}'"
    | some ip =>
      -- up to 255 here, and up to the family's length below
      match parseU8 prefixLen with
      | none => .error s!"invalid CIDR prefix length '{String.ofList prefixLen}'"
      | some len =>
        if h : len ≤ maxPrefix ip then .ok ⟨ip, len, h⟩
        else .error s!"CIDR prefix length {len} exceeds maximum {maxPrefix ip}"

end TrustedProxyCidr

end GvmGateway.Rest
