import Mathlib.Data.List.Nodup
import Mathlib.Tactic.SplitIfs
import QuicTelemetry.Label.WireCode
import QuicTelemetry.Proofs.Lists

/-!
# Labels of wire codes

A peer chooses the code it closes a connection with, so any whole number comes
in. An assigned code has a place in the order of the labels, and everything else
has the last place, that of `unknown`; the alerts of the transport share one.
Labels at different places differ, so **two codes have one label exactly if they
have one place** (`Http3Error.ofWireCode_eq_iff`,
`TransportError.ofWireCode_eq_iff`), and so do the texts the series carry.

The codes that are kept free for probing, every thirty-first from `0x21` on, are
not assigned, so all of them are `unknown` (`Http3Error.ofWireCode_reserved`).
-/

namespace QuicTelemetry

/-! ## Places -/

/-- A code among the assigned ones has the label at its place. -/
theorem assigned?_eq_getElem? {α : Type} (members : List α) {first code : Int} (h : first ≤ code) :
    assigned? members first code = members[(code - first).toNat]? :=
  if_neg (Int.not_lt.mpr h)

/-- A code outside the assigned ones has no label. -/
theorem assigned?_eq_none {α : Type} {members : List α} {first code : Int}
    (h : code < first ∨ first + members.length ≤ code) : assigned? members first code = none := by
  unfold assigned?
  split
  · rfl
  · exact List.getElem?_eq_none (by omega)

namespace Http3Error

/-- **The assigned codes** of the application. -/
def IsAssigned (code : Int) : Prop :=
  (0x100 ≤ code ∧ code ≤ 0x110) ∨ (0x200 ≤ code ∧ code ≤ 0x202)

/-- The place of a code in the order of the labels. -/
def place (code : Int) : Nat :=
  if 0x100 ≤ code ∧ code ≤ 0x110 then (code - 0x100).toNat
  else if 0x200 ≤ code ∧ code ≤ 0x202 then 17 + (code - 0x200).toNat
  else 20

theorem nodup_all : all.Nodup := by decide

/-- **The label of a code** is the one at its place. -/
theorem getElem?_place (code : Int) : all[place code]? = some (ofWireCode code) := by
  unfold place ofWireCode
  split
  · next h =>
    have hlt : (code - 0x100).toNat < 17 := by omega
    have hcode : assigned? applicationCodes 0x100 code = all[(code - 0x100).toNat]? := by
      rw [assigned?_eq_getElem? _ h.1, applicationCodes, List.getElem?_take_of_lt hlt]
    obtain ⟨label, hlabel⟩ : ∃ label, all[(code - 0x100).toNat]? = some label :=
      ⟨_, List.getElem?_eq_getElem (Nat.lt_trans hlt (by decide))⟩
    rw [hcode, hlabel]
    rfl
  · next happlication =>
    have hnone : assigned? applicationCodes 0x100 code = none := by
      refine assigned?_eq_none ?_
      simp only [show applicationCodes.length = 17 from rfl]
      omega
    rw [hnone]
    split
    · next h =>
      have hlt : (code - 0x200).toNat < 3 := by omega
      have hcode : assigned? compressionCodes 0x200 code = all[17 + (code - 0x200).toNat]? := by
        rw [assigned?_eq_getElem? _ h.1, compressionCodes, List.getElem?_take_of_lt hlt,
          List.getElem?_drop]
      obtain ⟨label, hlabel⟩ : ∃ label, all[17 + (code - 0x200).toNat]? = some label :=
        ⟨_, List.getElem?_eq_getElem (by simp only [show all.length = 21 from rfl]; omega)⟩
      rw [hcode, hlabel]
      rfl
    · next hcompression =>
      have hnone' : assigned? compressionCodes 0x200 code = none := by
        refine assigned?_eq_none ?_
        simp only [show compressionCodes.length = 3 from rfl]
        omega
      rw [hnone']
      rfl

/-- **Two codes have one label** exactly if they are equal or neither is
assigned. -/
theorem ofWireCode_eq_iff (code code' : Int) :
    ofWireCode code = ofWireCode code' ↔ code = code' ∨ (¬ IsAssigned code ∧ ¬ IsAssigned code') := by
  rw [eq_iff_of_getElem? nodup_all (getElem?_place code) (getElem?_place code')]
  unfold place IsAssigned
  split_ifs <;> omega

/-- A code has the last label if it is not assigned. -/
theorem ofWireCode_of_not_isAssigned {code : Int} (h : ¬ IsAssigned code) :
    ofWireCode code = .unknown := by
  have hplace : place code = 20 := by
    unfold IsAssigned at h
    rw [not_or] at h
    rw [place, if_neg h.1, if_neg h.2]
  have hlabel := getElem?_place code
  rw [hplace] at hlabel
  exact (Option.some.inj hlabel).symm

/-- **The codes kept free for probing** are not assigned. -/
theorem ofWireCode_reserved (n : Nat) : ofWireCode (0x1f * n + 0x21) = .unknown := by
  refine ofWireCode_of_not_isAssigned ?_
  unfold IsAssigned
  omega

/-- Labels with one text are one. -/
theorem text_inj {l l' : Http3Error} (h : l.text = l'.text) : l = l' :=
  List.inj_on_of_nodup_map (f := text) (by simp [all, text]) l.mem_all l'.mem_all h

end Http3Error

namespace TransportError

/-- **The TLS alerts** among the codes of the transport. -/
def IsAlert (code : Int) : Prop := 0x100 ≤ code ∧ code ≤ 0x1ff

/-- **The assigned codes** of the transport, alerts included. -/
def IsAssigned (code : Int) : Prop := (0 ≤ code ∧ code ≤ 0x10) ∨ IsAlert code

/-- The place of a code in the order of the labels. -/
def place (code : Int) : Nat :=
  if 0x100 ≤ code ∧ code ≤ 0x1ff then 17
  else if 0 ≤ code ∧ code ≤ 0x10 then code.toNat
  else 18

theorem nodup_all : all.Nodup := by decide

/-- **The label of a code** is the one at its place. -/
theorem getElem?_place (code : Int) : all[place code]? = some (ofWireCode code) := by
  unfold place ofWireCode
  split
  · rfl
  · split
    · next h =>
      have hlt : code.toNat < 17 := by omega
      have hcode : assigned? transportCodes 0 code = all[code.toNat]? := by
        rw [assigned?_eq_getElem? _ h.1, Int.sub_zero, transportCodes, List.getElem?_take_of_lt hlt]
      obtain ⟨label, hlabel⟩ : ∃ label, all[code.toNat]? = some label :=
        ⟨_, List.getElem?_eq_getElem (Nat.lt_trans hlt (by decide))⟩
      rw [hcode, hlabel]
      rfl
    · next htransport =>
      have hnone : assigned? transportCodes 0 code = none := by
        refine assigned?_eq_none ?_
        simp only [show transportCodes.length = 17 from rfl]
        omega
      rw [hnone]
      rfl

/-- **Two codes have one label** exactly if they are equal, neither is assigned,
or both are alerts. -/
theorem ofWireCode_eq_iff (code code' : Int) :
    ofWireCode code = ofWireCode code'
      ↔ code = code' ∨ (¬ IsAssigned code ∧ ¬ IsAssigned code') ∨ (IsAlert code ∧ IsAlert code') := by
  rw [eq_iff_of_getElem? nodup_all (getElem?_place code) (getElem?_place code')]
  unfold place IsAssigned IsAlert
  split_ifs <;> omega

/-- Labels with one text are one. -/
theorem text_inj {l l' : TransportError} (h : l.text = l'.text) : l = l' :=
  List.inj_on_of_nodup_map (f := text) (by simp [all, text]) l.mem_all l'.mem_all h

end TransportError

end QuicTelemetry
