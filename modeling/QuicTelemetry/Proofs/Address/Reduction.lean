import QuicTelemetry.Proofs.Address.PeerLabel
import QuicTelemetry.Proofs.Address.Spelling

/-!
# Reducing a peer to its network

A peer comes as an address or as the text of one, and is named by a network. In bits
this is one shift to the right and one back: the low 12 bits of an address of version
4 are cleared and the low 96 of one of version 6, where an address of version 6 that
carries one of version 4 counts as that one (`Value.peerNetwork?_spellings`).

The first address of a network is an address itself and could be reduced again.
Nothing comes of it: its low bits are cleared already, it keeps the scope that
remained, and it carries no address of version 4, for the bits that would have to be
set for that are among the cleared ones (`Network.ofPeer_first`). As an address is
read back from its text, the same holds of the text a label shows in front of the
slash (`Value.peerLabel?_reduces_itself`).
-/

namespace QuicTelemetry

/-! ## The network of a peer -/

namespace Value

/-- **The network a peer is reduced to**, if the value is a peer address. -/
def peerNetwork? (v : Value) : Option Network := v.peerAddress?.map Network.ofPeer

/-- The label is the text of the network. -/
theorem peerLabel?_eq_map (v : Value) : v.peerLabel? = v.peerNetwork?.map Network.text := by
  unfold peerLabel? peerNetwork?
  rw [Option.map_map]
  rfl

end Value

namespace Network

/-- Clearing the low bits shifts them out. -/
theorem ofNat_clearLow {w : Nat} (places : Nat) (x : BitVec w) :
    BitVec.ofNat w (clearLow places x.toNat) = x >>> places <<< places := by
  refine BitVec.eq_of_toNat_eq ?_
  rw [BitVec.toNat_ofNat, BitVec.toNat_shiftLeft, BitVec.toNat_ushiftRight, Nat.shiftLeft_eq,
    Nat.shiftRight_eq_div_pow]
  rfl

/-- The number of a word whose low bits are shifted out. -/
theorem toNat_shifted {w : Nat} (places : Nat) (x : BitVec w) :
    (x >>> places <<< places).toNat = clearLow places x.toNat := by
  rw [← ofNat_clearLow, toNat_ofNat_clearLow]

/-- The low bits are gone once they are shifted out. -/
theorem shifted_shifted {w : Nat} (places : Nat) (x : BitVec w) :
    x >>> places <<< places >>> places <<< places = x >>> places <<< places := by
  refine BitVec.eq_of_toNat_eq ?_
  rw [toNat_shifted, toNat_shifted, clearLow_eq_self_iff]
  exact Nat.mul_mod_left ..

/-- **The network of an address of version 4**, mapped or not. -/
theorem ofPeer_v4 {a : Address} {x : BitVec 32} (h : a.unmapped = .v4 x) :
    ofPeer a = ⟨.v4 (x >>> 12 <<< 12), 20⟩ := by
  unfold ofPeer
  rw [h]
  exact congrArg (fun bits => Network.mk (.v4 bits) 20) (ofNat_clearLow 12 x)

/-- **The network of an address of version 6.** -/
theorem ofPeer_v6 {a : Address} {x : BitVec 128} {scope : Option String}
    (h : a.unmapped = .v6 x scope) :
    ofPeer a = ⟨.v6 (x >>> 96 <<< 96) (Address.remainingScope (.v6 x scope)), 32⟩ := by
  unfold ofPeer
  rw [h]
  show Network.mk (clearHost 32 (.v6 x scope)) 32 = _
  rw [clearHost_v6, ofNat_clearLow]

end Network

namespace Address

/-- An address of version 6 carries one of version 4 if its upper bits say so. -/
theorem unmapped_v6 (x : BitVec 128) (scope : Option String) :
    unmapped (.v6 x scope) = if x >>> 32 = 0xFFFF#128 then .v4 (x.setWidth 32) else .v6 x scope := by
  have hiff : x >>> 32 = 0xFFFF#128 ↔ x.toNat / 0x100000000 = 0xFFFF := by
    rw [← BitVec.toNat_inj, BitVec.toNat_ushiftRight, Nat.shiftRight_eq_div_pow]
    rfl
  have hbits : BitVec.ofNat 32 (x.toNat % 0x100000000) = x.setWidth 32 := by
    refine BitVec.eq_of_toNat_eq ?_
    rw [BitVec.toNat_ofNat, BitVec.toNat_setWidth]
    exact Nat.mod_mod ..
  simp only [unmapped, hiff, hbits]

/-- **An address whose low bits are cleared carries no other one.** -/
theorem unmapped_shifted (x : BitVec 128) (scope : Option String) :
    unmapped (.v6 (x >>> 96 <<< 96) scope) = .v6 (x >>> 96 <<< 96) scope := by
  rw [unmapped_v6, if_neg]
  intro h
  have hnat := congrArg BitVec.toNat h
  rw [BitVec.toNat_ushiftRight, Network.toNat_shifted, Nat.shiftRight_eq_div_pow] at hnat
  have hnat : x.toNat / 2 ^ 96 * 2 ^ 96 / 2 ^ 32 = 0xFFFF := hnat
  omega

/-- What an address carries has a scope that can be written if the address has. -/
theorem IsWritable.unmapped {a : Address} (h : a.IsWritable) : a.unmapped.IsWritable := by
  cases a with
  | v4 x => exact h
  | v6 x scope =>
    rw [unmapped_v6]
    split
    · trivial
    · exact h

/-- The scope that remains is the address's own. -/
theorem eq_of_remainingScope {x : BitVec 128} {scope : Option String} {s : String}
    (h : remainingScope (.v6 x scope) = some s) : scope = some s := by
  simp only [remainingScope] at h
  split at h
  · exact h
  · cases h

/-- Of no scope nothing remains. -/
theorem remainingScope_none (x : BitVec 128) : remainingScope (.v6 x none) = none := ite_self _

/-- Of an address with its low bits cleared the whole scope remains. -/
theorem remainingScope_shifted (x : BitVec 128) (scope : Option String) :
    remainingScope (.v6 (x >>> 96 <<< 96) scope) = scope := by
  have hlow : (x >>> 96 <<< 96).toNat % 2 ^ 96 = 0 := by
    rw [Network.toNat_shifted]
    exact Nat.mul_mod_left ..
  simp only [remainingScope, if_pos hlow]

end Address

namespace Network

/-! ## Reducing twice -/

/-- **The first address of a peer's network is what it carries**: it is never seen
through. -/
theorem unmapped_first (a : Address) : (ofPeer a).first.unmapped = (ofPeer a).first := by
  cases h : a.unmapped with
  | v4 x =>
    rw [ofPeer_v4 h]
    rfl
  | v6 x scope =>
    rw [ofPeer_v6 h]
    exact Address.unmapped_shifted ..

/-- **Reducing the first address of a peer's network changes nothing.** -/
theorem ofPeer_first (a : Address) : ofPeer (ofPeer a).first = ofPeer a := by
  have hfirst := unmapped_first a
  cases h : a.unmapped with
  | v4 x =>
    rw [ofPeer_v4 h] at hfirst ⊢
    rw [ofPeer_v4 hfirst, shifted_shifted]
  | v6 x scope =>
    rw [ofPeer_v6 h] at hfirst ⊢
    rw [ofPeer_v6 hfirst, shifted_shifted, Address.remainingScope_shifted]

/-- The first address of a network can be written if the peer's address can. -/
theorem isWritable_first {a : Address} (h : a.IsWritable) : (ofPeer a).first.IsWritable := by
  have hcarried := h.unmapped
  cases hcase : a.unmapped with
  | v4 x =>
    rw [ofPeer_v4 hcase]
    trivial
  | v6 x scope =>
    rw [hcase] at hcarried
    rw [ofPeer_v6 hcase]
    exact fun s hs => hcarried s (Address.eq_of_remainingScope hs)

/-- A peer's network is told by its first address. -/
theorem ofPeer_eq_iff {a b : Address} : ofPeer a = ofPeer b ↔ (ofPeer a).first = (ofPeer b).first := by
  refine ⟨congrArg first, fun h => ?_⟩
  rw [← ofPeer_first a, h, ofPeer_first]

/-- **The length of a peer's network goes by the version.** -/
theorem version_length (a : Address) :
    ((ofPeer a).first.version, (ofPeer a).length) ∈ [(4, 20), (6, 32)] := by
  cases h : a.unmapped with
  | v4 x =>
    rw [ofPeer_v4 h]
    exact List.mem_cons_self
  | v6 x scope =>
    rw [ofPeer_v6 h]
    exact List.mem_cons_of_mem _ List.mem_cons_self

/-! ## The text of a network -/

theorem toString_nat_inj {n m : Nat} : toString n = toString m ↔ n = m := by
  refine ⟨fun h => ?_, congrArg _⟩
  rw [Nat.toString_eq_ofList_toDigits, Nat.toString_eq_ofList_toDigits, String.ofList_inj] at h
  rw [← Nat.ofDigitChars_ten_toDigits (n := n), h, Nat.ofDigitChars_ten_toDigits]

/-- **A network is told by its text.** -/
theorem text_inj {n m : Network} (hn : n.first.IsWritable) (hm : m.first.IsWritable) :
    n.text = m.text ↔ n = m := by
  refine ⟨fun h => ?_, congrArg _⟩
  have hcut (l : Network) (hl : l.first.IsWritable) :
      Text.cut? '/' l.text.toList = some (l.first.text.toList, (toString l.length).toList) := by
    have htext : l.text.toList = l.first.text.toList ++ '/' :: (toString l.length).toList := by
      simp [text]
    rw [htext, Text.cut?_append (Address.slash_not_mem_text hl)]
  have hparts := hcut n hn
  rw [h, hcut m hm] at hparts
  obtain ⟨hfirst, hlength⟩ := Prod.mk.inj (Option.some.inj hparts)
  have hread := Address.read?_text hn
  rw [← String.toList_inj.mp hfirst, Address.read?_text hm] at hread
  cases n
  cases m
  exact congrArg₂ Network.mk (Option.some.inj hread).symm
    (toString_nat_inj.mp (String.toList_inj.mp hlength)).symm

end Network

/-! ## Peers given in bits -/

namespace Address

/-- **The forms in which an address is passed as a peer**: the address itself and
its text. -/
def spellings (a : Address) : List Value := [.address a, .text a.text]

/-- **An address without a scope**, of either version, from its bits. -/
def ofBits : BitVec 32 ⊕ BitVec 128 → Address
  | .inl x => .v4 x
  | .inr x => .v6 x none

theorem isWritable_ofBits (bits : BitVec 32 ⊕ BitVec 128) : (ofBits bits).IsWritable := by
  cases bits with
  | inl x => trivial
  | inr x => exact nofun

/-- The network of bits has no scope either. -/
theorem exists_first_ofBits (bits : BitVec 32 ⊕ BitVec 128) :
    ∃ kept, (Network.ofPeer (ofBits bits)).first = ofBits kept := by
  cases bits with
  | inl x => exact ⟨.inl (x >>> 12 <<< 12), congrArg Network.first (Network.ofPeer_v4 rfl)⟩
  | inr x =>
    by_cases hmapped : x >>> 32 = 0xFFFF#128
    · have hcase := (unmapped_v6 x none).trans (if_pos hmapped)
      exact ⟨.inl _, congrArg Network.first (Network.ofPeer_v4 hcase)⟩
    · have hcase := (unmapped_v6 x none).trans (if_neg hmapped)
      refine ⟨.inr (x >>> 96 <<< 96), ?_⟩
      rw [ofBits, Network.ofPeer_v6 hcase, remainingScope_none]
      rfl

/-- Addresses without a scope are told by their versions and numbers. -/
theorem ofBits_eq_iff (bits others : BitVec 32 ⊕ BitVec 128) :
    ofBits bits = ofBits others ↔
      (ofBits bits).version = (ofBits others).version ∧ (ofBits bits).toNat = (ofBits others).toNat := by
  refine ⟨fun h => h ▸ ⟨rfl, rfl⟩, fun ⟨hversion, hnat⟩ => ?_⟩
  match bits, others with
  | .inl x, .inl y => exact congrArg v4 (BitVec.eq_of_toNat_eq hnat)
  | .inr x, .inr y => exact congrArg (v6 · none) (BitVec.eq_of_toNat_eq hnat)
  | .inl x, .inr y => cases hversion
  | .inr x, .inl y => cases hversion

end Address

/-- **The networks of two peers without a scope** are told by the versions and
numbers of their first addresses. -/
theorem Network.ofPeer_ofBits_eq_iff (bits others : BitVec 32 ⊕ BitVec 128) :
    let n := ofPeer (Address.ofBits bits)
    let m := ofPeer (Address.ofBits others)
    n = m ↔ n.first.version = m.first.version ∧ n.first.toNat = m.first.toNat := by
  obtain ⟨kept, hkept⟩ := Address.exists_first_ofBits bits
  obtain ⟨left, hleft⟩ := Address.exists_first_ofBits others
  intro n m
  rw [ofPeer_eq_iff, hkept, hleft]
  exact Address.ofBits_eq_iff kept left

namespace Value

theorem peerAddress?_of_mem_spellings {a : Address} (ha : a.IsWritable) {v : Value}
    (hv : v ∈ a.spellings) : v.peerAddress? = some a := by
  simp only [Address.spellings, List.mem_cons, List.not_mem_nil, or_false] at hv
  rcases hv with rfl | rfl
  · rfl
  · exact Address.read?_text ha

/-- **What bits are reduced to**, in either form. The 32 bits of version 4 lose their
low 12. The 128 bits of version 6 lose their low 96, unless they carry 32 bits of
version 4, which are then reduced in their place. And two peers have one label
exactly if they have one network: a label shows no more of a peer without a scope
than the version and the first address of its network. -/
theorem peerNetwork?_spellings :
    (∀ x : BitVec 32, ∀ v ∈ (Address.v4 x).spellings,
      v.peerNetwork? = some ⟨.v4 (x >>> 12 <<< 12), 20⟩)
    ∧ (∀ x : BitVec 128, ∀ v ∈ (Address.v6 x none).spellings,
      if x >>> 32 = 0xFFFF#128 then
        ∀ carried ∈ (Address.v4 (x.setWidth 32)).spellings, v.peerNetwork? = carried.peerNetwork?
      else v.peerNetwork? = some ⟨.v6 (x >>> 96 <<< 96) none, 32⟩)
    ∧ ∀ bits others : BitVec 32 ⊕ BitVec 128,
      ∀ v ∈ (Address.ofBits bits).spellings, ∀ w ∈ (Address.ofBits others).spellings,
        ∃ n m, v.peerNetwork? = some n ∧ w.peerNetwork? = some m
          ∧ v.peerLabel? = some n.text ∧ w.peerLabel? = some m.text
          ∧ (v.peerLabel? = w.peerLabel? ↔ n = m)
          ∧ (n = m ↔ n.first.version = m.first.version ∧ n.first.toNat = m.first.toNat) := by
  have hnetwork (bits : BitVec 32 ⊕ BitVec 128) {v : Value}
      (hv : v ∈ (Address.ofBits bits).spellings) :
      v.peerNetwork? = some (Network.ofPeer (Address.ofBits bits)) := by
    unfold peerNetwork?
    rw [peerAddress?_of_mem_spellings (Address.isWritable_ofBits bits) hv]
    rfl
  refine ⟨fun x v hv => ?_, fun x v hv => ?_, fun bits others v hv w hw => ?_⟩
  · rw [hnetwork (.inl x) hv]
    exact congrArg some (Network.ofPeer_v4 rfl)
  · rw [hnetwork (.inr x) hv]
    split
    · next hmapped =>
      intro carried hcarried
      rw [hnetwork (.inl (x.setWidth 32)) hcarried, Address.ofBits, Address.ofBits,
        Network.ofPeer_v4 ((Address.unmapped_v6 x none).trans (if_pos hmapped)),
        Network.ofPeer_v4 (a := .v4 (x.setWidth 32)) rfl]
    · next hmapped =>
      rw [Address.ofBits, Network.ofPeer_v6 ((Address.unmapped_v6 x none).trans (if_neg hmapped)),
        Address.remainingScope_none]
  · have hlabel {v : Value} {n : Network} (h : v.peerNetwork? = some n) :
        v.peerLabel? = some n.text := by
      rw [peerLabel?_eq_map, h]
      rfl
    have hwritable (bits : BitVec 32 ⊕ BitVec 128) :=
      Network.isWritable_first (Address.isWritable_ofBits bits)
    have hv := hnetwork bits hv
    have hw := hnetwork others hw
    refine ⟨_, _, hv, hw, hlabel hv, hlabel hw, ?_, Network.ofPeer_ofBits_eq_iff bits others⟩
    rw [hlabel hv, hlabel hw, Option.some_inj]
    exact Network.text_inj (hwritable bits) (hwritable others)

/-- A text of an address that carries another one: it is reduced as the latter. -/
theorem peerNetwork?_spellings_mapped :
    (Value.text "::ffff:cb00:714d").peerNetwork? = some ⟨.v4 0xcb007000#32, 20⟩ := by
  have htext : Address.text (.v6 0xffffcb00714d#128 none) = "::ffff:cb00:714d" := by decide +kernel
  have h := peerNetwork?_spellings.2.1 0xffffcb00714d#128 _
    (List.mem_cons_of_mem _ List.mem_cons_self)
  rw [if_pos (by decide), htext] at h
  rw [h _ List.mem_cons_self]
  exact peerNetwork?_spellings.1 0xcb00714d#32 _ List.mem_cons_self

/-! ## A label is reduced to itself -/

/-- **What a label shows in front of the slash is a peer of the same label.** Of any
peer that can come up the label is an address, a slash and a length that goes by the
version; the address is read back from there, is not seen through, and is reduced to
the same network and so to the same label. An address object comes up only if its
scope can be written, as its scope was read from some text. -/
theorem peerLabel?_reduces_itself {v : Value} (hv : ∀ a, v = .address a → a.IsWritable)
    {label : String} (h : v.peerLabel? = some label) :
    ∃ n, v.peerNetwork? = some n
      ∧ label = n.first.text ++ "/" ++ toString n.length
      ∧ '/' ∉ n.first.text.toList
      ∧ (n.first.version, n.length) ∈ [(4, 20), (6, 32)]
      ∧ (Value.text n.first.text).peerAddress? = some n.first
      ∧ n.first.unmapped = n.first
      ∧ (Value.text n.first.text).peerNetwork? = some n
      ∧ (Value.text n.first.text).peerLabel? = some label := by
  rw [peerLabel?_eq_map] at h
  obtain ⟨n, hn, rfl⟩ := Option.map_eq_some_iff.mp h
  obtain ⟨a, ha, rfl⟩ := Option.map_eq_some_iff.mp hn
  have hwritable : a.IsWritable := by
    unfold peerAddress? at ha
    split at ha
    · exact Address.isWritable_of_read? ha
    · cases ha
      exact hv _ rfl
    · cases ha
  have hfirst := Network.isWritable_first hwritable
  have hread : (Value.text (Network.ofPeer a).first.text).peerAddress? = some (Network.ofPeer a).first :=
    Address.read?_text hfirst
  have hnetwork : (Value.text (Network.ofPeer a).first.text).peerNetwork? = some (Network.ofPeer a) := by
    unfold peerNetwork?
    rw [hread, Option.map_some, Network.ofPeer_first]
  refine ⟨Network.ofPeer a, hn, rfl, Address.slash_not_mem_text hfirst, Network.version_length a,
    hread, Network.unmapped_first a, hnetwork, ?_⟩
  rw [peerLabel?_eq_map, hnetwork]
  rfl

/-- A spelling with a scope that remains: the label shows the scope, and so does what
is read back from it. -/
theorem peerLabel?_reduces_itself_scope :
    (Value.text "FE80::%eth0").peerLabel? = some "fe80::%eth0/32"
      ∧ (Value.text "fe80::%eth0").peerLabel? = some "fe80::%eth0/32" := by
  have hlabel : (Value.text "FE80::%eth0").peerLabel? = some "fe80::%eth0/32" := by decide +kernel
  obtain ⟨n, hn, -, -, -, -, -, -, hagain⟩ := peerLabel?_reduces_itself (by simp) hlabel
  refine ⟨hlabel, ?_⟩
  have hfirst : n.first.text = "fe80::%eth0" := by
    have hnetwork : (Value.text "FE80::%eth0").peerNetwork?
        = some ⟨.v6 0xfe800000000000000000000000000000#128 (some "eth0"), 32⟩ := by decide +kernel
    rw [hn, Option.some_inj] at hnetwork
    rw [hnetwork]
    decide +kernel
  rw [hfirst] at hagain
  exact hagain

end Value

end QuicTelemetry
