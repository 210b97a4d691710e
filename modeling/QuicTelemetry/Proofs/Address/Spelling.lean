import Mathlib.Data.List.TakeWhile
import QuicTelemetry.Address
import QuicTelemetry.Proofs.Lists
import QuicTelemetry.Proofs.Text.Fields

/-!
# An address is read back from its text

An address has many spellings and one text. Writing leaves out the longest run of
zero groups, and reading fills a gap with as many zeros as are missing, so the two
fit for any run that is left out, and which one it is does not matter: all that is
needed of the choice is that only zeros are left out (`isRun_longestZeros`).

What reading could go wrong on are the marks between the parts. No digit is one of
them, so a text falls apart exactly where it was put together. Only a scope has
characters of its own, and may have none of the marks that end it. **The addresses
that some text stands for are those whose scope is such a scope**, and each of them
is what its own text stands for (`isWritable_iff`, `read?_text`).
-/

namespace QuicTelemetry

namespace Address

/-! ## Numerals -/

/-- The characters between the parts of an address and behind it. -/
def marks : List Char := ['.', ':', '%', '/']

/-- No digit is a mark. -/
theorem digitChar_ne_mark {c : Char} (hc : c ∈ marks) (d : Nat) : Nat.digitChar d ≠ c := by
  simp only [marks, List.mem_cons, List.not_mem_nil, or_false] at hc
  rcases hc with rfl | rfl | rfl | rfl <;> exact Nat.digitChar_ne _ (by decide)

/-- No mark is in a numeral. -/
theorem mark_not_mem_toDigits {base : Nat} (hbase : 1 < base) {c : Char} (hc : c ∈ marks) (n : Nat) :
    c ∉ Nat.toDigits base n := by
  induction n using Nat.strongRecOn with
  | ind n ih =>
    rw [Nat.toDigits_eq_if hbase]
    split
    · rw [List.mem_singleton]
      exact (digitChar_ne_mark hc n).symm
    · next hn =>
      rw [List.mem_append, List.mem_singleton, not_or]
      exact ⟨ih _ (Nat.div_lt_self (by omega) hbase), (digitChar_ne_mark hc _).symm⟩

theorem hexDigit?_digitChar : ∀ d < 16, hexDigit? (Nat.digitChar d) = some d := by decide

/-- One digit more. -/
theorem number_concat (base : Nat) (digits : List Nat) (d : Nat) :
    number base (digits ++ [d]) = base * number base digits + d := by
  unfold number
  rw [List.foldl_append]
  rfl

/-- **A hexadecimal numeral is read back**, digit by digit. -/
theorem exists_mapM_hexDigit? (n : Nat) :
    ∃ digits, (Nat.toDigits 16 n).mapM hexDigit? = some digits ∧ number 16 digits = n := by
  induction n using Nat.strongRecOn with
  | ind n ih =>
    rw [Nat.toDigits_eq_if (by decide)]
    split
    · next hn =>
      refine ⟨[n], ?_, ?_⟩
      · simp [hexDigit?_digitChar n hn]
      · simp [number]
    · next hn =>
      obtain ⟨digits, hdigits, hnumber⟩ := ih (n / 16) (by omega)
      refine ⟨digits ++ [n % 16], ?_, ?_⟩
      · simp [hdigits, hexDigit?_digitChar (n % 16) (Nat.mod_lt _ (by decide))]
      · rw [number_concat, hnumber]
        omega

/-- **A group is read back.** -/
theorem group?_toDigits {n : Nat} (h : n < 65536) : group? (Nat.toDigits 16 n) = some n := by
  obtain ⟨digits, hdigits, hnumber⟩ := exists_mapM_hexDigit? n
  have hlength : (Nat.toDigits 16 n).length ≤ 4 :=
    (Nat.length_toDigits_le_iff (by decide) (by decide)).mpr h
  have hne : Nat.toDigits 16 n ≠ [] := Nat.toDigits_ne_nil
  unfold group?
  rw [if_neg (by simp only [hne, false_or]; omega), hdigits]
  exact congrArg some hnumber

/-- **A byte is read back.** -/
theorem octet?_decimal : ∀ n < 256, octet? (decimal n) = some n := by decide +kernel

/-! ## Version 4 -/

theorem octets_lt (bits : BitVec 32) : ∀ n ∈ octets bits, n < 256 := by
  unfold octets
  rw [List.forall_mem_map]
  exact fun _ _ => Nat.mod_lt _ (by decide)

/-- The bytes make up the bits. -/
theorem number_octets (bits : BitVec 32) : number 256 (octets bits) = bits.toNat := by
  have h := bits.isLt
  simp only [number, octets, List.map_cons, List.map_nil, List.foldl_cons, List.foldl_nil]
  show 256 * (256 * (256 * (256 * 0 + bits.toNat / 16777216 % 256) + bits.toNat / 65536 % 256)
    + bits.toNat / 256 % 256) + bits.toNat / 1 % 256 = bits.toNat
  omega

/-- **An address of version 4 is read back.** -/
theorem readDotted?_dotted (bits : BitVec 32) : readDotted? (dotted bits) = some bits := by
  have hfields : Text.fields '.' (dotted bits) = (octets bits).map decimal := by
    refine Text.fields_join (by simp [octets]) ?_
    rw [List.forall_mem_map]
    exact fun n _ => mark_not_mem_toDigits (by decide) (by decide) n
  have hbytes : ((octets bits).map decimal).mapM octet? = some (octets bits) :=
    mapM_map_eq fun n hn => octet?_decimal n (octets_lt bits n hn)
  unfold readDotted?
  simp only [hfields, hbytes]
  show (if 4 = 4 then some (BitVec.ofNat 32 (number 256 (octets bits))) else none) = some bits
  rw [number_octets, BitVec.ofNat_toNat, BitVec.setWidth_eq]
  rfl

theorem mark_not_mem_dotted {c : Char} (hc : c ∈ marks) (hdot : c ≠ '.') (bits : BitVec 32) :
    c ∉ dotted bits := by
  intro h
  rcases Text.mem_join h with rfl | ⟨part, hpart, hmem⟩
  · exact hdot rfl
  · obtain ⟨n, -, rfl⟩ := List.mem_map.mp hpart
    exact mark_not_mem_toDigits (by decide) hc n hmem

/-- **No address of version 4 is read** where there is anything but digits and
dots. -/
theorem readDotted?_of_mem {cs : List Char} {c : Char} (hc : c ∈ cs) (hdigit : c.isDigit = false)
    (hdot : c ≠ '.') : readDotted? cs = none := by
  obtain ⟨part, hpart, hin⟩ : ∃ part ∈ Text.fields '.' cs, c ∈ part := by
    rw [← Text.join_fields '.' cs] at hc
    exact (Text.mem_join hc).resolve_left hdot
  have hnone : octet? part = none := by
    have hall : part.all Char.isDigit = false := by
      rw [List.all_eq_false]
      exact ⟨c, hin, by rw [hdigit]; exact Bool.false_ne_true⟩
    unfold octet?
    rw [if_pos (by simp [hall])]
  have hparts : (Text.fields '.' cs).mapM octet? = none := by
    generalize Text.fields '.' cs = parts at hpart
    induction parts with
    | nil => cases hpart
    | cons first parts ih =>
      rw [List.mapM_cons]
      rcases List.mem_cons.mp hpart with rfl | hrest
      · rw [hnone]
        rfl
      · rw [ih hrest]
        cases octet? first <;> rfl
  unfold readDotted?
  simp only [hparts]
  rfl

/-! ## Runs of zeros -/

/-- **A run of zeros** in some groups: where it starts, and its length. -/
def IsRun (gs : List Nat) (run : Nat × Nat) : Prop :=
  ∃ front back, gs = front ++ (List.replicate run.2 0 ++ back) ∧ front.length = run.1

theorem exists_leadingZeros (gs : List Nat) :
    ∃ back, gs = List.replicate (leadingZeros gs) 0 ++ back := by
  refine ⟨gs.dropWhile (· = 0), ?_⟩
  have hzeros : gs.takeWhile (· = 0) = List.replicate (leadingZeros gs) 0 :=
    List.eq_replicate_iff.mpr ⟨rfl, fun g hg => by simpa using List.mem_takeWhile_imp hg⟩
  rw [← hzeros]
  exact List.takeWhile_append_dropWhile.symm

/-- **What is looked for is a run of zeros**, whichever is the best one so far. -/
theorem isRun_longestZeros {front rest : List Nat} {best : Nat × Nat}
    (h : IsRun (front ++ rest) best) :
    IsRun (front ++ rest) (longestZeros front.length best rest) := by
  induction rest generalizing front best with
  | nil => exact h
  | cons g rest ih =>
    have hnext : IsRun ((front ++ [g]) ++ rest)
        (if best.2 < leadingZeros (g :: rest) then (front.length, leadingZeros (g :: rest))
          else best) := by
      rw [List.append_assoc]
      show IsRun (front ++ g :: rest) _
      split
      · obtain ⟨back, hback⟩ := exists_leadingZeros (g :: rest)
        exact ⟨front, back, congrArg (front ++ ·) hback, rfl⟩
      · exact h
    have hrun := ih hnext
    rw [List.append_assoc, List.length_append] at hrun
    exact hrun

/-! ## Groups -/

/-- Numbers that are groups: each has four hexadecimal digits at most. -/
def AreGroups (gs : List Nat) : Prop := ∀ g ∈ gs, g < 65536

theorem areGroups_groups (bits : BitVec 128) : AreGroups (groups bits) := by
  unfold AreGroups groups
  rw [List.forall_mem_map]
  exact fun _ _ => Nat.mod_lt _ (by decide)

/-- **The groups make up the bits.** -/
theorem ofGroups_groups (bits : BitVec 128) : ofGroups (groups bits) = bits := by
  have hstep (n k : Nat) :
      65536 * (n / Nat.pow 2 (k + 16)) + n / Nat.pow 2 k % 65536 = n / Nat.pow 2 k := by
    show 2 ^ 16 * (n / 2 ^ (k + 16)) + n / 2 ^ k % 2 ^ 16 = n / 2 ^ k
    rw [Nat.pow_add, ← Nat.div_div_eq_div_mul]
    exact Nat.div_add_mod ..
  have hfirst : bits.toNat / Nat.pow 2 112 % 65536 = bits.toNat / Nat.pow 2 112 :=
    Nat.mod_eq_of_lt (Nat.div_lt_of_lt_mul bits.isLt)
  have hnumber : number 65536 (groups bits) = bits.toNat := by
    simp only [number, groups, List.map_cons, List.map_nil, List.foldl_cons, List.foldl_nil]
    rw [Nat.mul_zero, Nat.zero_add, hfirst, hstep _ 96, hstep _ 80, hstep _ 64, hstep _ 48,
      hstep _ 32, hstep _ 16, hstep _ 0]
    exact Nat.div_one _
  unfold ofGroups
  rw [hnumber, BitVec.ofNat_toNat, BitVec.setWidth_eq]

theorem fields_colonSeparated {gs : List Nat} (hne : gs ≠ []) :
    Text.fields ':' (colonSeparated gs) = gs.map (Nat.toDigits 16) := by
  refine Text.fields_join (by simpa using hne) ?_
  rw [List.forall_mem_map]
  exact fun g _ => mark_not_mem_toDigits (by decide) (by decide) g

theorem mark_not_mem_colonSeparated {c : Char} (hc : c ∈ marks) (hcolon : c ≠ ':') (gs : List Nat) :
    c ∉ colonSeparated gs := by
  intro h
  rcases Text.mem_join h with rfl | ⟨part, hpart, hmem⟩
  · exact hcolon rfl
  · obtain ⟨g, -, rfl⟩ := List.mem_map.mp hpart
    exact mark_not_mem_toDigits (by decide) hc g hmem

theorem mapM_group?_map {gs : List Nat} (h : AreGroups gs) :
    (gs.map (Nat.toDigits 16)).mapM group? = some gs :=
  mapM_map_eq fun g hg => group?_toDigits (h g hg)

theorem ne_nil_of_mem_map {gs : List Nat} {part : List Char}
    (h : part ∈ gs.map (Nat.toDigits 16)) : part ≠ [] := by
  obtain ⟨g, -, rfl⟩ := List.mem_map.mp h
  exact Nat.toDigits_ne_nil

/-! ## Gaps -/

/-- Without a dot the fields are those of the text. -/
theorem colonFields?_of_not_mem {cs : List Char} (h : '.' ∉ cs) :
    colonFields? cs = some (Text.fields ':' cs) := by
  unfold colonFields?
  cases hlast : (Text.fields ':' cs).getLast? with
  | none => simp [hlast]
  | some ending =>
    have hnot : '.' ∉ ending := fun hmem =>
      h (Text.mem_of_mem_fields (List.mem_of_getLast? hlast) hmem)
    simp [hlast, hnot]

/-- **The fields of some groups beside a gap.** Where there is no group there is
one empty field, and this is the only way for a field to be empty. -/
structure IsSide (gs : List Nat) (fields : List (List Char)) : Prop where
  /-- There is a field. -/
  ne_nil : fields ≠ []
  /-- There are not more fields than groups, but for the one. -/
  length_le : fields.length ≤ max 1 gs.length
  /-- The fields are read as the groups. -/
  read : side? fields = some gs
  /-- No field behind the first one is empty. -/
  tail : ∀ part ∈ fields.tail, part ≠ []
  /-- No field in front of the last one is empty. -/
  dropLast : ∀ part ∈ fields.dropLast, part ≠ []

theorem isSide_fields {gs : List Nat} (h : AreGroups gs) :
    IsSide gs (Text.fields ':' (colonSeparated gs)) := by
  by_cases hne : gs = []
  · subst hne
    exact ⟨by decide, by decide, rfl, nofun, nofun⟩
  · rw [fields_colonSeparated hne]
    refine ⟨by simpa using hne, ?_, ?_, fun part hpart => ?_, fun part hpart => ?_⟩
    · rw [List.length_map]
      exact le_max_right _ _
    · unfold side?
      rw [if_neg, mapM_group?_map h]
      intro heq
      exact ne_nil_of_mem_map (heq ▸ List.mem_singleton_self _ : [] ∈ gs.map (Nat.toDigits 16)) rfl
    · exact ne_nil_of_mem_map (List.mem_of_mem_tail hpart)
    · exact ne_nil_of_mem_map ((List.dropLast_sublist _).subset hpart)

/-- **The empty field between two sides is the gap.** -/
theorem gap?_append {front back : List (List Char)} (hfront : front ≠ []) (hback : back ≠ [])
    (htail : ∀ part ∈ front.tail, part ≠ []) (hinit : ∀ part ∈ back.dropLast, part ≠ []) :
    gap? (front ++ [] :: back) = some (some (front, back)) := by
  obtain ⟨first, rest, rfl⟩ := List.exists_cons_of_ne_nil hfront
  have hdrop : (((first :: rest) ++ [] :: back).drop 1).dropLast = rest ++ [] :: back.dropLast := by
    show (rest ++ ([] :: back)).dropLast = _
    rw [List.dropLast_append_of_ne_nil (List.cons_ne_nil _ _), List.dropLast_cons_of_ne_nil hback]
  have hcount : (rest ++ [] :: back.dropLast).countP (fun part => decide (part = [])) = 1 := by
    rw [List.countP_append, List.countP_cons,
      List.countP_eq_zero.mpr fun part hpart => by simpa using htail part hpart,
      List.countP_eq_zero.mpr fun part hpart => by simpa using hinit part hpart]
    rfl
  have htake : (rest ++ [] :: back.dropLast).takeWhile (fun part => decide (part ≠ [])) = rest := by
    rw [List.takeWhile_append_of_pos fun part hpart => by simpa using htail part hpart]
    simp
  unfold gap?
  simp only [hdrop, hcount, htake]
  refine congrArg some (congrArg some (Prod.ext ?_ ?_))
  · show ((first :: rest) ++ [] :: back).take (rest.length + 1) = first :: rest
    exact List.take_left' rfl
  · show ((first :: rest) ++ [] :: back).drop (rest.length + 2) = back
    rw [List.append_cons]
    exact List.drop_left' (by simp)

/-- Where no field is empty there is no gap. -/
theorem gap?_map (gs : List Nat) : gap? (gs.map (Nat.toDigits 16)) = some none := by
  have hcount :
      ((gs.map (Nat.toDigits 16)).drop 1).dropLast.countP (fun part => decide (part = [])) = 0 := by
    rw [List.countP_eq_zero]
    intro part hpart
    simpa using ne_nil_of_mem_map (List.mem_of_mem_drop ((List.dropLast_sublist _).subset hpart))
  unfold gap?
  simp only [hcount]

/-- **Groups on the two sides of a gap are read** with zeros in between. -/
theorem readGroups?_gap {front back : List Nat} (hfront : AreGroups front) (hback : AreGroups back)
    (hlength : front.length + back.length < 8) :
    readGroups? (colonSeparated front ++ [':', ':'] ++ colonSeparated back)
      = some (front ++ List.replicate (8 - (front.length + back.length)) 0 ++ back) := by
  have hf := isSide_fields hfront
  have hb := isSide_fields hback
  set left := Text.fields ':' (colonSeparated front)
  set right := Text.fields ':' (colonSeparated back)
  have hfields : Text.fields ':' (colonSeparated front ++ [':', ':'] ++ colonSeparated back)
      = left ++ [] :: right := by
    rw [List.append_assoc]
    show Text.fields ':' (colonSeparated front ++ ':' :: ([] ++ ':' :: colonSeparated back)) = _
    rw [Text.fields_append, Text.fields_append]
    rfl
  have hdot : '.' ∉ colonSeparated front ++ [':', ':'] ++ colonSeparated back := by
    simp only [List.mem_append, not_or]
    exact ⟨⟨mark_not_mem_colonSeparated (by decide) (by decide) _, by decide⟩,
      mark_not_mem_colonSeparated (by decide) (by decide) _⟩
  have hleft := List.length_pos_iff.mpr hf.ne_nil
  have hright := List.length_pos_iff.mpr hb.ne_nil
  have hcount : (left ++ [] :: right).length = left.length + (right.length + 1) := by
    rw [List.length_append, List.length_cons]
  have hfew : ¬ 9 < (left ++ [] :: right).length := by
    have hf := hf.length_le
    have hb := hb.length_le
    omega
  unfold readGroups?
  rw [colonFields?_of_not_mem hdot, hfields, if_neg (by omega)]
  simp only [Option.bind_eq_bind, Option.bind_some, if_neg hfew,
    gap?_append hf.ne_nil hb.ne_nil hf.tail hb.dropLast, hf.read, hb.read, if_pos hlength]

/-- **Eight groups without a gap are read.** -/
theorem readGroups?_colonSeparated {gs : List Nat} (h : AreGroups gs) (hlength : gs.length = 8) :
    readGroups? (colonSeparated gs) = some gs := by
  have hfields : Text.fields ':' (colonSeparated gs) = gs.map (Nat.toDigits 16) :=
    fields_colonSeparated (by rintro rfl; cases hlength)
  have hdot : '.' ∉ colonSeparated gs := mark_not_mem_colonSeparated (by decide) (by decide) _
  unfold readGroups?
  rw [colonFields?_of_not_mem hdot, hfields, List.length_map, hlength, if_neg (by decide)]
  simp only [Option.bind_eq_bind, Option.bind_some, List.length_map, hlength, gap?_map,
    mapM_group?_map h]
  rfl

/-- **The text of eight groups is read back**, whichever run of zeros is left
out of it. -/
theorem readGroups?_compressed {gs : List Nat} (h : AreGroups gs) (hlength : gs.length = 8) :
    readGroups? (compressed gs) = some gs := by
  obtain ⟨front, back, hgs, hstart⟩ : IsRun gs (longestZeros 0 (0, 0) gs) :=
    @isRun_longestZeros [] gs (0, 0) ⟨[], gs, rfl, rfl⟩
  unfold compressed
  generalize longestZeros 0 (0, 0) gs = run at hgs hstart
  obtain ⟨start, size⟩ := run
  dsimp only at hgs hstart ⊢
  split
  · exact readGroups?_colonSeparated h hlength
  · next hsize =>
    have htake : gs.take start = front := by
      rw [hgs]
      exact List.take_left' hstart
    have hdrop : gs.drop (start + size) = back := by
      rw [hgs, ← List.append_assoc]
      exact List.drop_left' (by rw [List.length_append, List.length_replicate, hstart])
    have hsum : front.length + (size + back.length) = 8 := by
      rw [← hlength, hgs, List.length_append, List.length_append, List.length_replicate]
    have hfront : AreGroups front := fun g hg => h g (hgs ▸ List.mem_append_left _ hg)
    have hback : AreGroups back := fun g hg =>
      h g (hgs ▸ List.mem_append_right _ (List.mem_append_right _ hg))
    -- as many zeros are missing as were left out
    have hmissing : 8 - (front.length + back.length) = size := by omega
    rw [htake, hdrop, readGroups?_gap hfront hback (by omega), hmissing, List.append_assoc, ← hgs]

/-- Groups are only read where there is a colon. -/
theorem colon_mem_of_readGroups? {cs : List Char} {gs : List Nat} (h : readGroups? cs = some gs) :
    ':' ∈ cs := by
  by_contra hnot
  unfold readGroups? at h
  rw [Text.fields_of_not_mem hnot] at h
  cases h

theorem mark_not_mem_compressed {c : Char} (hc : c ∈ marks) (hcolon : c ≠ ':') (gs : List Nat) :
    c ∉ compressed gs := by
  have hside (gs : List Nat) : c ∉ colonSeparated gs := mark_not_mem_colonSeparated hc hcolon gs
  unfold compressed
  dsimp only
  split
  · exact hside _
  · simp only [List.mem_append, not_or]
    exact ⟨⟨hside _, by simp [hcolon]⟩, hside _⟩

/-! ## Addresses -/

/-- **A scope that can be written**: it is not empty, and has neither of the marks
that end a scope. -/
def IsScope (scope : String) : Prop := scope ≠ "" ∧ '%' ∉ scope.toList ∧ '/' ∉ scope.toList

/-- **An address that can be written**: its scope is one, if it has a scope. -/
def IsWritable : Address → Prop
  | .v4 _ => True
  | .v6 _ scope => ∀ s, scope = some s → IsScope s

theorem toList_text_v4 (bits : BitVec 32) : (text (.v4 bits)).toList = dotted bits :=
  String.toList_ofList

theorem toList_text_v6 (bits : BitVec 128) (scope : Option String) :
    (text (.v6 bits scope)).toList
      = compressed (groups bits) ++ scope.elim [] fun s => '%' :: s.toList := by
  cases scope <;> simp [text]

/-- No slash is in the text of an address. -/
theorem slash_not_mem_text {a : Address} (h : a.IsWritable) : '/' ∉ a.text.toList := by
  cases a with
  | v4 bits =>
    rw [toList_text_v4]
    exact mark_not_mem_dotted (by decide) (by decide) bits
  | v6 bits scope =>
    rw [toList_text_v6, List.mem_append, not_or]
    refine ⟨mark_not_mem_compressed (by decide) (by decide) _, ?_⟩
    cases scope with
    | none => exact List.not_mem_nil
    | some s => simpa using (h s rfl).2.2

/-- **An address is read back from its text**, if it can be written at all. -/
theorem read?_text {a : Address} (h : a.IsWritable) : read? a.text = some a := by
  have hslash := slash_not_mem_text h
  unfold read?
  simp only [List.contains_iff_mem, hslash, if_false]
  cases a with
  | v4 bits => rw [toList_text_v4, readDotted?_dotted]
  | v6 bits scope =>
    have hgroups : readGroups? (compressed (groups bits)) = some (groups bits) :=
      readGroups?_compressed (areGroups_groups bits) rfl
    have hpercent : '%' ∉ compressed (groups bits) :=
      mark_not_mem_compressed (by decide) (by decide) _
    have hdotted : readDotted? (text (.v6 bits scope)).toList = none := by
      refine readDotted?_of_mem (c := ':') ?_ rfl (by decide)
      rw [toList_text_v6]
      exact List.mem_append_left _ (colon_mem_of_readGroups? hgroups)
    rw [hdotted]
    dsimp only
    rw [toList_text_v6]
    unfold readV6?
    cases scope with
    | none =>
      rw [Option.elim_none, List.append_nil, Text.cut?_of_not_mem hpercent]
      dsimp only
      rw [hgroups, Option.map_some, ofGroups_groups]
    | some s =>
      obtain ⟨hne, hnot, -⟩ := h s rfl
      have hempty : s.toList ≠ [] := by simpa using hne
      rw [Option.elim_some, Text.cut?_append hpercent]
      simp [hempty, hnot, hgroups, ofGroups_groups]

/-- **What was read can be written.** -/
theorem isWritable_of_read? {s : String} {a : Address} (h : read? s = some a) : a.IsWritable := by
  unfold read? at h
  dsimp only at h
  split at h
  · cases h
  · next hslash =>
    split at h
    · cases h
      trivial
    · unfold readV6? at h
      split at h
      · obtain ⟨gs, -, rfl⟩ := Option.map_eq_some_iff.mp h
        intro scope hscope
        cases hscope
      · next front scope hcut =>
        split at h
        · cases h
        · next hscope =>
          obtain ⟨gs, -, rfl⟩ := Option.map_eq_some_iff.mp h
          rintro _ ⟨⟩
          rw [not_or] at hscope
          refine ⟨by simpa using hscope.1, by simpa using hscope.2, ?_⟩
          rw [String.toList_ofList]
          intro hmem
          rw [Text.eq_append_of_cut? hcut] at hslash
          simp [hmem] at hslash

/-- **The addresses that can be written are those that some text stands for.** -/
theorem isWritable_iff {a : Address} : a.IsWritable ↔ ∃ s, read? s = some a :=
  ⟨fun h => ⟨_, read?_text h⟩, fun ⟨_, h⟩ => isWritable_of_read? h⟩

end Address

end QuicTelemetry
