import QuicTelemetry.Store.Family

/-!
# Series of a family

Every store finds a series by its label values. What a change of one series
leaves of the others is said here once, for cells of any kind, and so is what a
caller's labels come to: stores check the names of labels in two ways, over the
names as a set and over the sorted names, and **where no name comes twice the
two checks are one** (`sameNames_iff_sortTexts_eq`).
-/

namespace QuicTelemetry

namespace Family

variable {Cell : Type} (family : Family Cell)

/-! ## Cells after a change -/

@[simp] theorem shape_ensure (values : List String) (fresh : Cell) :
    (family.ensure values fresh).shape = family.shape := by
  unfold ensure
  split <;> rfl

@[simp] theorem labels_ensure (values : List String) (fresh : Cell) :
    (family.ensure values fresh).labels = family.labels := by
  unfold ensure
  split <;> rfl

@[simp] theorem help_ensure (values : List String) (fresh : Cell) :
    (family.ensure values fresh).help = family.help := by
  unfold ensure
  split <;> rfl

/-- **A series that was asked for exists**, with its cell if it had one; no
other series changes. -/
theorem cell?_ensure (values values' : List String) (fresh : Cell) :
    (family.ensure values fresh).cell? values'
      = if values' = values then some ((family.cell? values).getD fresh)
        else family.cell? values' := by
  unfold ensure
  split
  · next hhas =>
    obtain ⟨cell, hcell⟩ := Option.isSome_iff_exists.mp hhas
    split
    · next heq =>
      rw [heq]
      show family.series.get? values = some ((family.series.get? values).getD fresh)
      rw [hcell]
      rfl
    · rfl
  · next hhas =>
    have hnone : family.series.get? values = none := by
      rw [← Option.not_isSome_iff_eq_none]
      exact hhas
    show (family.series.push values fresh).get? values'
      = if values' = values then some ((family.series.get? values).getD fresh)
        else family.series.get? values'
    rw [Table.get?_push]
    by_cases h : values' = values
    · rw [if_pos h, h, hnone, if_pos rfl]
      rfl
    · rw [if_neg h, if_neg (Ne.symm h), Option.or_none]

/-- A change of one cell changes no other. -/
theorem cell?_adjust (values values' : List String) (f : Cell → Cell) :
    (family.adjust values f).cell? values'
      = if values' = values then (family.cell? values').map f else family.cell? values' :=
  Table.get?_adjust _ _ _ _

/-- **A family in which one series has a cell**, and which is otherwise another. -/
structure Changed (values : List String) (cell : Cell) (family' : Family Cell) : Prop where
  shape : family'.shape = family.shape
  labels : family'.labels = family.labels
  cells : ∀ values', family'.cell? values'
    = if values' = values then some cell else family.cell? values'

variable {family}

theorem Changed.refl {values : List String} {cell : Cell} (h : family.cell? values = some cell) :
    family.Changed values cell family := by
  refine ⟨rfl, rfl, fun values' => ?_⟩
  split
  · next heq => rw [heq, h]
  · rfl

theorem Changed.adjust {values : List String} {cell : Cell} (h : family.cell? values = some cell)
    (cell' : Cell) : family.Changed values cell' (family.adjust values fun _ => cell') := by
  refine ⟨rfl, rfl, fun values' => ?_⟩
  rw [cell?_adjust]
  split
  · next heq =>
    rw [heq, h]
    rfl
  · rfl

theorem Changed.ensure (family : Family Cell) (values : List String) (fresh : Cell) :
    family.Changed values ((family.cell? values).getD fresh) (family.ensure values fresh) :=
  ⟨shape_ensure _ _ _, labels_ensure _ _ _, fun _ => cell?_ensure _ _ _ _⟩

end Family

/-- **Families in which one series has a cell**, and which are otherwise others. -/
structure Writes {Cell : Type} (t : Table String (Family Cell)) (id : SeriesId) (cell : Cell)
    (t' : Table String (Family Cell)) : Prop where
  keys : t'.keys = t.keys
  others : ∀ name, name ≠ id.family → t'.get? name = t.get? name
  family : ∀ f, t.get? id.family = some f →
    ∃ f', t'.get? id.family = some f' ∧ f.Changed id.values cell f'

namespace Writes

variable {Cell : Type} {t : Table String (Family Cell)} {id : SeriesId} {cell : Cell}

theorem refl {f : Family Cell} (hf : t.get? id.family = some f)
    (hcell : f.cell? id.values = some cell) : Writes t id cell t := by
  refine ⟨rfl, fun _ _ => rfl, fun f' hf' => ⟨f', hf', ?_⟩⟩
  obtain rfl := Option.some.inj (hf.symm.trans hf')
  exact .refl hcell

/-- A change of one family that comes to one cell. -/
theorem adjust {f : Family Cell} (hf : t.get? id.family = some f) {change : Family Cell → Family Cell}
    (h : f.Changed id.values cell (change f)) : Writes t id cell (t.adjust id.family change) := by
  refine ⟨Table.keys_adjust _ _ _, fun name hname => ?_, fun f' hf' => ⟨change f, ?_, ?_⟩⟩
  · rw [Table.get?_adjust, if_neg hname]
  · rw [Table.get?_adjust, if_pos rfl, hf]
    rfl
  · obtain rfl := Option.some.inj (hf.symm.trans hf')
    exact h

end Writes

/-! ## Names of labels -/

theorem sameNames_iff (a b : List String) : sameNames a b = true ↔ ∀ name, name ∈ a ↔ name ∈ b := by
  unfold sameNames
  simp only [Bool.and_eq_true, List.all_eq_true, List.contains_iff_mem]
  exact ⟨fun h name => ⟨h.1 name, h.2 name⟩,
    fun h => ⟨fun name => (h name).mp, fun name => (h name).mpr⟩⟩

/-- Sorted texts are equal if the texts are the same up to their order. -/
theorem sortTexts_eq_iff {a b : List String} : sortTexts a = sortTexts b ↔ a.Perm b := by
  have hperm (texts : List String) : (sortTexts texts).Perm texts := List.mergeSort_perm texts _
  constructor
  · intro h
    have hb := hperm b
    rw [← h] at hb
    exact (hperm a).symm.trans hb
  · intro h
    have hsorted (texts : List String) : (sortTexts texts).Pairwise (· ≤ ·) := by
      refine (List.pairwise_mergeSort (fun a b c hab hbc => ?_) (fun a b => ?_) texts).imp
        fun hab => of_decide_eq_true hab
      · exact decide_eq_true (String.le_trans (of_decide_eq_true hab) (of_decide_eq_true hbc))
      · rw [Bool.or_eq_true]
        exact (String.le_total a b).imp decide_eq_true decide_eq_true
    refine List.Perm.eq_of_pairwise (fun x y _ _ hxy hyx => String.le_antisymm hxy hyx)
      (hsorted a) (hsorted b) ?_
    exact (hperm a).trans (h.trans (hperm b).symm)

/-- **The two checks of label names are one** where no name comes twice. -/
theorem sameNames_iff_sortTexts_eq {a b : List String} (ha : a.Nodup) (hb : b.Nodup) :
    sameNames a b = true ↔ sortTexts b = sortTexts a := by
  rw [sortTexts_eq_iff, sameNames_iff, List.perm_comm, List.perm_ext_iff_of_nodup ha hb]

/-! ## Labels -/

/-- **The labels with the given names and texts.** -/
def Labelling.of (names values : List String) : Labelling :=
  (names.zip values).map fun label => (label.1, .text label.2)

namespace Labelling

variable {names values : List String}

theorem names_of (hlength : values.length = names.length) :
    (Labelling.of names values).map Prod.fst = names := by
  unfold Labelling.of
  rw [List.map_map]
  exact List.map_fst_zip (Nat.le_of_eq hlength.symm)

/-- The values of labels, in the order of their names. -/
theorem values_of (hnames : names.Nodup) (hlength : values.length = names.length) :
    (Labelling.of names values).values names = values := by
  induction names generalizing values with
  | nil => exact (List.eq_nil_of_length_eq_zero hlength).symm
  | cons name names ih =>
    cases values with
    | nil => exact absurd hlength (by simp)
    | cons value values =>
      obtain ⟨hnot, hnames⟩ := List.nodup_cons.mp hnames
      have hrest := ih hnames (Nat.succ.inj hlength)
      show text ((name, .text value) :: Labelling.of names values) name
        :: names.map (text ((name, .text value) :: Labelling.of names values)) = value :: values
      have hhead : text ((name, .text value) :: Labelling.of names values) name = value := by
        unfold text
        rw [List.find?_cons_of_pos (by exact beq_self_eq_true name)]
        rfl
      rw [hhead]
      congr 1
      refine Eq.trans (List.map_congr_left fun other hother => ?_) hrest
      unfold text
      rw [List.find?_cons_of_neg]
      rw [beq_iff_eq]
      rintro rfl
      exact hnot hother

theorem clashes_of (hlength : values.length = names.length) {taken : List String}
    (h : ∀ name ∈ taken, name ∉ names) : (Labelling.of names values).clashes taken = false := by
  unfold clashes
  rw [List.any_eq_false]
  intro label hlabel
  rw [List.contains_iff_mem]
  intro htaken
  refine h _ htaken ?_
  rw [← names_of hlength]
  exact List.mem_map_of_mem hlabel

end Labelling

end QuicTelemetry
