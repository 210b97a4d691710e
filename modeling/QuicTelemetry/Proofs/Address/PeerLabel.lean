import Mathlib.Algebra.Group.Nat.Defs
import QuicTelemetry.Value

/-!
# What the label of a peer shows

A peer is named by its network so that the series of a metric are as many as
the networks and not as many as the peers. Two peers of one network should
therefore have the same label: the version and the leading bits are all that
a label may depend on.

They have, with one exception, and `Value.peerLabel?_eq_iff` says which one.
Clearing the bits behind the network drops the scope of an address, but an
address of version 6 whose bits behind the network are all zero has none to
clear and **keeps its scope**, which is a text the peer may choose. Two peers
of one network have the same label exactly if the same scope remains of
both, and `Value.peerLabel?_distinguishes_scopes` is the smallest pair of
peers that are told apart.
-/

namespace QuicTelemetry

namespace Address

/-- **Two addresses lie in one network**: they are of one version and agree on
the leading bits, 20 of them in version 4 and 32 in version 6. The scope is
not looked at. -/
def InOneNetwork : Address → Address → Prop
  | .v4 x, .v4 y => ∀ i < 20, x.getMsbD i = y.getMsbD i
  | .v6 x _, .v6 y _ => ∀ i < 32, x.getMsbD i = y.getMsbD i
  | _, _ => False

instance : DecidableRel InOneNetwork
  | .v4 x, .v4 y => inferInstanceAs (Decidable (∀ i < 20, x.getMsbD i = y.getMsbD i))
  | .v6 x _, .v6 y _ => inferInstanceAs (Decidable (∀ i < 32, x.getMsbD i = y.getMsbD i))
  | .v4 _, .v6 .. => instDecidableFalse
  | .v6 .., .v4 _ => instDecidableFalse

/-- **The scope that remains** once the bits behind the network are cleared:
that of an address of version 6 in which they are zero already. -/
def remainingScope : Address → Option String
  | .v4 _ => none
  | .v6 bits scope => if bits.toNat % 2 ^ 96 = 0 then scope else none

/-- Words that agree on their leading bits are equal once the other bits are
shifted out. -/
theorem toNat_div_eq_of_getMsbD_eq {w k : Nat} (hk : k ≤ w) {x y : BitVec w}
    (h : ∀ i < k, x.getMsbD i = y.getMsbD i) :
    x.toNat / 2 ^ (w - k) = y.toNat / 2 ^ (w - k) := by
  refine Nat.eq_of_testBit_eq fun j => ?_
  rw [Nat.testBit_div_two_pow, Nat.testBit_div_two_pow, BitVec.testBit_toNat,
    BitVec.testBit_toNat]
  rcases Nat.lt_or_ge j k with hj | hj
  · have hbit := h (k - 1 - j) (by omega)
    rw [BitVec.getMsbD_eq_getLsbD, BitVec.getMsbD_eq_getLsbD] at hbit
    rw [decide_eq_true (by omega : k - 1 - j < w), Bool.true_and, Bool.true_and] at hbit
    rw [show j + (w - k) = w - 1 - (k - 1 - j) by omega]
    exact hbit
  · rw [BitVec.getLsbD_of_ge x _ (by omega), BitVec.getLsbD_of_ge y _ (by omega)]

end Address

namespace Network

/-- The cleared bits fit into the word again. -/
theorem toNat_ofNat_clearLow {w : Nat} (places : Nat) (x : BitVec w) :
    (BitVec.ofNat w (clearLow places x.toNat)).toNat = clearLow places x.toNat := by
  rw [BitVec.toNat_ofNat]
  exact Nat.mod_eq_of_lt (Nat.lt_of_le_of_lt (Nat.div_mul_le_self _ _) x.isLt)

/-- Nothing is cleared where the low bits are zero. -/
theorem clearLow_eq_self_iff (places n : Nat) :
    clearLow places n = n ↔ n % 2 ^ places = 0 := by
  show n / 2 ^ places * 2 ^ places = n ↔ _
  have h := Nat.div_add_mod n (2 ^ places)
  rw [Nat.mul_comm] at h
  omega

theorem clearHost_v6 (bits : BitVec 128) (scope : Option String) :
    clearHost 32 (.v6 bits scope)
      = .v6 (BitVec.ofNat 128 (clearLow 96 bits.toNat)) (Address.remainingScope (.v6 bits scope)) := by
  have hiff : BitVec.ofNat 128 (clearLow 96 bits.toNat) = bits ↔ bits.toNat % 2 ^ 96 = 0 := by
    rw [← BitVec.toNat_inj, toNat_ofNat_clearLow, clearLow_eq_self_iff]
  show Address.v6 _ (if BitVec.ofNat 128 (clearLow 96 bits.toNat) = bits then scope else none) = _
  simp only [Address.remainingScope, hiff]

/-- **The text of a network shows the scope of its first address.** -/
theorem text_v6_inj {bits : BitVec 128} {s t : Option String} {length : Nat} :
    text ⟨.v6 bits s, length⟩ = text ⟨.v6 bits t, length⟩ ↔ s = t := by
  refine ⟨fun h => ?_, fun h => by rw [h]⟩
  have hl := congrArg String.toList h
  cases s with
  | none =>
    cases t with
    | none => rfl
    | some t => simp [text, Address.text] at hl
  | some s =>
    cases t with
    | none => simp [text, Address.text] at hl
    | some t =>
      have hst : s.toList = t.toList := by simpa [text, Address.text] using hl
      exact congrArg some (String.toList_inj.mp hst)

end Network

namespace Value

open Network

/-- **Two peers of one network have the same label exactly if the same scope
remains of both.** Of an address of version 4 none remains, mapped or not, and
of one of version 6 none unless all its bits behind the network are zero; so
the one thing a label shows besides the network is the scope of such an
address. -/
theorem peerLabel?_eq_iff {v w : Value} {a b : Address} (hv : v.peerAddress? = some a)
    (hw : w.peerAddress? = some b) (h : a.unmapped.InOneNetwork b.unmapped) :
    v.peerLabel? = w.peerLabel? ↔ a.unmapped.remainingScope = b.unmapped.remainingScope := by
  unfold peerLabel?
  rw [hv, hw, Option.map_some, Option.map_some, Option.some_inj]
  unfold ofPeer
  revert h
  cases a.unmapped with
  | v4 x =>
    cases b.unmapped with
    | v4 y =>
      intro h
      have hbits := Address.toNat_div_eq_of_getMsbD_eq (by decide) h
      have hclear : clearLow 12 x.toNat = clearLow 12 y.toNat := congrArg (· * 2 ^ 12) hbits
      refine iff_of_true ?_ rfl
      show Network.text ⟨.v4 (BitVec.ofNat 32 (clearLow 12 x.toNat)), 20⟩
        = Network.text ⟨.v4 (BitVec.ofNat 32 (clearLow 12 y.toNat)), 20⟩
      rw [hclear]
    | v6 y t => exact fun h => h.elim
  | v6 x s =>
    cases b.unmapped with
    | v4 y => exact fun h => h.elim
    | v6 y t =>
      intro h
      have hbits := Address.toNat_div_eq_of_getMsbD_eq (by decide) h
      have hclear : clearLow 96 x.toNat = clearLow 96 y.toNat := congrArg (· * 2 ^ 96) hbits
      show Network.text ⟨clearHost 32 (.v6 x s), 32⟩ = Network.text ⟨clearHost 32 (.v6 y t), 32⟩
        ↔ _
      rw [clearHost_v6, clearHost_v6, hclear]
      exact text_v6_inj

/-- A spelling with a scope and an address without one, both with bits behind
the network: no scope remains of either, and the labels are equal. -/
theorem peerLabel?_eq_of_cleared_scope :
    (Value.text "2001:0DB8:00ab::1%eth0").peerLabel?
      = (Value.address (.v6 0x20010db8000000000000000000000001#128 none)).peerLabel? :=
  (peerLabel?_eq_iff (a := .v6 0x20010db800ab00000000000000000001#128 (some "eth0"))
    (by decide +kernel) rfl (by decide +kernel)).mpr (by decide +kernel)

/-- **A label may show more than a network**: the two addresses differ in
their scopes alone, have no bit behind the network, and have labels of their
own. -/
theorem peerLabel?_distinguishes_scopes :
    ¬ ∀ (v w : Value) (a b : Address), v.peerAddress? = some a → w.peerAddress? = some b →
      a.unmapped.InOneNetwork b.unmapped → v.peerLabel? = w.peerLabel? := by
  intro h
  have hlabels := h (.text "fe80::%1") (.text "fe80::%2")
    (.v6 0xfe800000000000000000000000000000#128 (some "1"))
    (.v6 0xfe800000000000000000000000000000#128 (some "2"))
    (by decide +kernel) (by decide +kernel) (by decide +kernel)
  have hone : (Value.text "fe80::%1").peerLabel? = some "fe80::%1/32" := by decide +kernel
  have htwo : (Value.text "fe80::%2").peerLabel? = some "fe80::%2/32" := by decide +kernel
  rw [hone, htwo] at hlabels
  exact absurd hlabels (by decide)

end Value

end QuicTelemetry
