import QuicTelemetry.Address

/-!
# Networks

A network is what the addresses with the same leading bits have in common. A
peer is never named by its address, whose values are without bound, but by the
network around it: the first 20 bits in version 4, the first 32 bits in
version 6.
-/

namespace QuicTelemetry

/-- **A network**: its first address and the number of bits that count. -/
structure Network where
  /-- The address whose other bits are all zero. -/
  first : Address
  /-- The number of leading bits that count. -/
  length : Nat
  deriving DecidableEq, Repr

namespace Network

/-- How many leading bits of a peer's address are kept. -/
def keptBits : Address → Nat
  | .v4 _ => 20
  | .v6 .. => 32

/-- A number whose `places` lowest bits are cleared. -/
def clearLow (places n : Nat) : Nat := n / Nat.pow 2 places * Nat.pow 2 places

/-- The address with all but the leading bits cleared. A scope belongs to a
single address: it is dropped as soon as a bit is cleared. -/
def clearHost (length : Nat) : Address → Address
  | .v4 bits => .v4 (BitVec.ofNat 32 (clearLow (32 - length) bits.toNat))
  | .v6 bits scope =>
    let cleared := BitVec.ofNat 128 (clearLow (128 - length) bits.toNat)
    .v6 cleared (if cleared = bits then scope else none)

/-- The network of the given length around an address. -/
def around (length : Nat) (address : Address) : Network := ⟨clearHost length address, length⟩

/-- **The network a peer is named by**, seen through a mapped address. -/
def ofPeer (address : Address) : Network :=
  let address := address.unmapped
  around (keptBits address) address

/-- The text of a network: its first address, a slash and its length. -/
def text (n : Network) : String := n.first.text ++ "/" ++ toString n.length

/-- The network a text stands for, whose address may have any other bits. -/
def read? (s : String) : Option Network := do
  let (front, length) ← Text.cut? '/' s.toList
  let address ← Address.read? (String.ofList front)
  if length ≠ [] ∧ length.all Char.isDigit then
    some (around (Address.number 10 (length.map fun c => c.toNat - '0'.toNat)) address)
  else none

end Network

end QuicTelemetry
