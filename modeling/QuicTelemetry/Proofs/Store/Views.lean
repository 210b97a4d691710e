import Mathlib.Data.List.Nodup
import QuicTelemetry.Proofs.Facade.Holding
import QuicTelemetry.Proofs.Text.Words
import QuicTelemetry.Store.Pipeline

/-!
# Views and the names they are for

The bounds of a histogram reach it by its name. A view has the name as a pattern,
as it is written; an instrument is stored under its name in lower case. The two
meet because a pattern is looked for in lower case, too, and because a name that
the pipeline takes has only characters that stand for themselves in a pattern,
also in lower case. What is left is to compare names of the catalogue in a
namespace: **an instrument of the catalogue has its own bounds in every
namespace**, however it is spelled (`View.boundsFor_catalogue`).
-/

namespace QuicTelemetry

/-! ## Patterns without places -/

namespace Text

/-- Whether a character stands for itself in a pattern. -/
def isPlain (c : Char) : Bool := c != '*' && c != '?' && c != '['

/-- The places of a pattern in which every character stands for itself. -/
theorem globItems_of_isPlain {cs : List Char} (h : ∀ c ∈ cs, isPlain c = true) {fuel : Nat}
    (hfuel : cs.length ≤ fuel) : globItems fuel cs = cs.map .char := by
  induction cs generalizing fuel with
  | nil => cases fuel <;> rfl
  | cons c cs ih =>
    obtain ⟨fuel, rfl⟩ : ∃ n, fuel = n + 1 := ⟨fuel - 1, by simp at hfuel; omega⟩
    have hc : isPlain c = true := h c List.mem_cons_self
    simp only [isPlain, Bool.and_eq_true, bne_iff_ne, ne_eq] at hc
    have hrest := ih (fun c hmem => h c (List.mem_cons_of_mem _ hmem)) (Nat.le_of_succ_le_succ hfuel)
    rw [globItems, hrest, List.map_cons]
    · exact hc.1.1
    · exact hc.1.2
    · exact hc.2

/-- Characters match themselves. -/
theorem globMatch_chars (cs ds : List Char) :
    globMatch (cs.map .char) ds = decide (cs = ds) := by
  induction cs generalizing ds with
  | nil => cases ds <;> simp [globMatch]
  | cons c cs ih =>
    cases ds with
    | nil => simp [globMatch]
    | cons d ds =>
      rw [List.map_cons, globMatch, ih]
      by_cases hcd : c = d <;> simp [hcd]

/-- **A pattern without places matches itself alone.** -/
theorem matchesGlob_of_isPlain {pattern : String} (h : ∀ c ∈ pattern.toList, isPlain c = true)
    (s : String) : matchesGlob pattern s = decide (pattern = s) := by
  unfold matchesGlob
  dsimp only
  rw [globItems_of_isPlain h (Nat.le_refl _), globMatch_chars, decide_eq_decide]
  exact String.toList_inj

end Text

/-! ## Names of instruments -/

/-- What stands in a name has a lower case of its own and stands for itself in a
pattern. -/
def Text.IsSimple (s : String) : Prop := ∀ c ∈ s.toList, c.toNat < 128 ∧ isPlain c = true

theorem Text.isSimple_append {s t : String} : IsSimple (s ++ t) ↔ IsSimple s ∧ IsSimple t := by
  unfold IsSimple
  rw [String.toList_append]
  exact List.forall_mem_append

theorem Text.isSimple_underscore : IsSimple "_" := by
  intro c hc
  obtain rfl : c = '_' := List.mem_singleton.mp hc
  decide

/-- What is simple stays so in lower case. -/
theorem Text.IsSimple.lower {s : String} (h : IsSimple s) : IsSimple (Text.lower s) := by
  have hall : ∀ n < 128, isPlain (Char.ofNat n) = true →
      (lowerChar (Char.ofNat n)).toNat < 128 ∧ isPlain (lowerChar (Char.ofNat n)) = true := by
    decide
  intro c hc
  rw [toList_lower_of_ascii fun c hc => (h c hc).1] at hc
  obtain ⟨d, hd, rfl⟩ := List.mem_map.mp hc
  have hsimple := hall d.toNat (h d hd).1
  rw [Char.ofNat_toNat] at hsimple
  exact hsimple (h d hd).2

/-- Whether a character may stand in the name of an instrument. -/
def Pipeline.isNameChar (c : Char) : Bool := c.isAlphanum || ['-', '_', '.', '/'].contains c

/-- What stands in the name of an instrument is simple, and no blank. -/
theorem Pipeline.simple_of_isNameChar {c : Char} (h : isNameChar c = true) :
    c.toNat < 128 ∧ Text.isPlain c = true ∧ isMargin c = false := by
  have hascii : c.toNat < 128 := by
    rcases (Bool.or_eq_true ..).mp h with halnum | hother
    · exact Text.toNat_lt_of_isAlphanum halnum
    · obtain rfl | rfl | rfl | rfl : c = '-' ∨ c = '_' ∨ c = '.' ∨ c = '/' := by
        simpa using hother
      all_goals decide
  have hall : ∀ n < 128, isNameChar (Char.ofNat n) = true →
      Text.isPlain (Char.ofNat n) = true ∧ isMargin (Char.ofNat n) = false := by
    decide
  have hc := hall c.toNat hascii
  rw [Char.ofNat_toNat] at hc
  exact ⟨hascii, hc h⟩

theorem Pipeline.isNameChar_of_isName {name : String} (h : isName name = true) :
    ∀ c ∈ name.toList, isNameChar c = true := by
  unfold isName at h
  intro c hc
  split at h
  · next hnil =>
    rw [hnil] at hc
    exact absurd hc List.not_mem_nil
  · next first rest hcons =>
    rw [hcons] at hc
    simp only [Bool.and_eq_true, List.all_eq_true] at h
    rcases List.mem_cons.mp hc with rfl | hc
    · simp [isNameChar, Char.isAlphanum, h.1.1]
    · exact h.2 c hc

/-- **A name that the pipeline takes** is simple. -/
theorem Pipeline.isSimple_of_isName {name : String} (h : isName name = true) :
    Text.IsSimple name := by
  intro c hc
  obtain ⟨hascii, hplain, -⟩ := simple_of_isNameChar (isNameChar_of_isName h c hc)
  exact ⟨hascii, hplain⟩

/-- Whether a character is a small letter, a digit or an underscore. -/
def Text.isSmall (c : Char) : Bool := c.isLower || c.isDigit || c == '_'

theorem Pipeline.isNameChar_of_isSmall {c : Char} (h : Text.isSmall c = true) :
    isNameChar c = true := by
  simp only [Text.isSmall, Bool.or_eq_true, beq_iff_eq] at h
  rcases h with (hlower | hdigit) | rfl
  · simp [isNameChar, Text.isAlphanum_of_isLower hlower]
  · simp [isNameChar, Char.isAlphanum, hdigit]
  · rfl

/-- What is small has no other lower case. -/
theorem Text.lowerChar_of_isSmall {c : Char} (h : isSmall c = true) :
    c.toNat < 128 ∧ isPlain c = true ∧ lowerChar c = c := by
  obtain ⟨hascii, hplain, -⟩ := Pipeline.simple_of_isNameChar (Pipeline.isNameChar_of_isSmall h)
  have hall : ∀ n < 128, isSmall (Char.ofNat n) = true →
      lowerChar (Char.ofNat n) = Char.ofNat n := by
    decide
  have hc := hall c.toNat hascii
  rw [Char.ofNat_toNat] at hc
  exact ⟨hascii, hplain, hc h⟩

namespace Catalogue

/-- The names of the catalogue are short and small. -/
theorem isSmall_name : ∀ metric ∈ all, metric.name.toList.length ≤ 64
    ∧ ∀ c ∈ metric.name.toList, Text.isSmall c = true := by
  let check (cs : List Char) : Bool := decide (cs.length ≤ 64) && cs.all Text.isSmall
  suffices h : ∀ metric ∈ all, check metric.name.toList = true by
    simpa only [check, Bool.and_eq_true, decide_eq_true_eq, List.all_eq_true] using h
  simp only [all, connection, task, List.cons_append, List.nil_append, List.forall_mem_cons,
    List.not_mem_nil, false_implies, implies_true, and_true]
  repeat' apply And.intro
  all_goals exact Text.check_spelled check (by rfl)

theorem isSimple_name : ∀ metric ∈ all, Text.IsSimple metric.name := by
  intro metric hmetric c hc
  obtain ⟨hascii, hplain, -⟩ := Text.lowerChar_of_isSmall ((isSmall_name metric hmetric).2 c hc)
  exact ⟨hascii, hplain⟩

theorem lower_name : ∀ metric ∈ all, Text.lower metric.name = metric.name := by
  intro metric hmetric
  have hsmall := fun c hc => Text.lowerChar_of_isSmall ((isSmall_name metric hmetric).2 c hc)
  rw [← String.toList_inj, Text.toList_lower_of_ascii fun c hc => (hsmall c hc).1]
  exact (List.map_congr_left fun c hc => (hsmall c hc).2.2).trans (List.map_id' _)

/-- No histogram of the catalogue has the default bounds. -/
theorem bounds_ne_defaults : ∀ metric ∈ all, metric.kind.isHistogram = true →
    metric.bounds.getD [] ≠ View.defaults := by
  decide +kernel

theorem bounds_ne_nil : ∀ metric ∈ all, metric.kind.isHistogram = true →
    metric.bounds.getD [] ≠ [] := by
  decide

end Catalogue

/-- **A namespace that is itself a name** of a fair length makes names. -/
theorem Pipeline.isName_qualify {space : String} (hspace : isName space = true)
    (hlength : space.toList.length ≤ 190) {metric : Metric} (hmetric : metric ∈ Catalogue.all) :
    isName (qualify (some space) metric.name) = true := by
  obtain ⟨hshort, hsmall⟩ := Catalogue.isSmall_name metric hmetric
  have hlist : (qualify (some space) metric.name).toList
      = space.toList ++ '_' :: metric.name.toList := by
    show (space ++ "_" ++ metric.name).toList = _
    rw [String.toList_append, String.toList_append, List.append_assoc]
    rfl
  unfold isName at hspace ⊢
  rw [hlist]
  cases hcs : space.toList with
  | nil =>
    rw [hcs] at hspace
    exact absurd hspace Bool.false_ne_true
  | cons c rest =>
    rw [hcs, List.length_cons] at hlength
    rw [hcs] at hspace
    simp only [Bool.and_eq_true, decide_eq_true_eq, List.all_eq_true] at hspace
    simp only [List.cons_append, Bool.and_eq_true, decide_eq_true_eq, List.all_eq_true,
      List.length_append, List.length_cons]
    refine ⟨⟨hspace.1.1, by omega⟩, fun d hd => ?_⟩
    rcases List.mem_append.mp hd with hd | hd
    · exact hspace.2 d hd
    · rcases List.mem_cons.mp hd with rfl | hd
      · rfl
      · exact isNameChar_of_isSmall (hsmall d hd)

/-- A namespace whose names are simple is simple. -/
theorem isSimple_space {space name : String} (h : Text.IsSimple (qualify (some space) name)) :
    Text.IsSimple space :=
  (Text.isSimple_append.mp (Text.isSimple_append.mp h).1).1

/-- Names in a simple namespace are simple. -/
theorem isSimple_qualify {space : Option String} {name name' : String}
    (h : Text.IsSimple (qualify space name)) (hname' : Text.IsSimple name') :
    Text.IsSimple (qualify space name') := by
  cases space with
  | none => exact hname'
  | some space =>
    exact Text.isSimple_append.mpr ⟨(Text.isSimple_append.mp h).1, hname'⟩

/-- **The stored name of a metric** is its name in the namespace in lower case. -/
theorem lower_qualify {space : Option String} {metric : Metric} (hmetric : metric ∈ Catalogue.all)
    (h : Text.IsSimple (qualify space metric.name)) :
    Text.lower (qualify space metric.name) = qualify (space.map Text.lower) metric.name := by
  cases space with
  | none => exact Catalogue.lower_name metric hmetric
  | some space =>
    have hspace := isSimple_space h
    have hunderscore := Text.isSimple_underscore
    have hname := Catalogue.isSimple_name metric hmetric
    show Text.lower (space ++ "_" ++ metric.name) = Text.lower space ++ "_" ++ metric.name
    rw [Text.lower_append (fun c hc => (Text.isSimple_append.mpr ⟨hspace, hunderscore⟩ c hc).1)
        fun c hc => (hname c hc).1,
      Text.lower_append (fun c hc => (hspace c hc).1) fun c hc => (hunderscore c hc).1,
      Catalogue.lower_name metric hmetric]
    rfl

/-- Metrics with one stored name are one. -/
theorem Catalogue.eq_of_lower_eq {space : Option String} {metric metric' : Metric}
    (h : metric ∈ all) (h' : metric' ∈ all) (hsimple : Text.IsSimple (qualify space metric.name))
    (hname : Text.lower (qualify space metric.name) = Text.lower (qualify space metric'.name)) :
    metric = metric' := by
  rw [lower_qualify h hsimple,
    lower_qualify h' (isSimple_qualify hsimple (isSimple_name metric' h'))] at hname
  exact eq_of_qualify_eq h h' hname

/-! ## Bounds by name -/

namespace View

/-- The views of the catalogue are those of its histograms. -/
theorem mem_catalogue_iff {space : Option String} {view : View} :
    view ∈ catalogue space ↔ ∃ metric ∈ Catalogue.all, metric.kind.isHistogram = true
      ∧ view = ⟨qualify space metric.name, (metric.bounds.getD []).map .real⟩ := by
  unfold catalogue
  rw [List.mem_filterMap]
  refine exists_congr fun metric => and_congr_right fun hmetric => ?_
  unfold of?
  cases hkind : metric.kind.isHistogram with
  | false => simp
  | true =>
    have hbounds : ((metric.bounds.getD []).map Value.real).isEmpty = false := by
      rw [List.isEmpty_eq_false_iff, ne_eq, List.map_eq_nil_iff]
      exact Catalogue.bounds_ne_nil metric hmetric hkind
    rw [hbounds, Bool.not_false, Bool.and_true, if_pos rfl, Option.some.injEq, eq_comm]
    exact ⟨fun heq => ⟨rfl, heq⟩, fun h => h.2⟩

/-- A view for a simple name applies to the instrument that is stored under it. -/
theorem applies_of_isSimple {view : View} (h : Text.IsSimple view.pattern) (name : String) :
    view.applies name = decide (Text.lower view.pattern = name) :=
  Text.matchesGlob_of_isPlain (fun c hc => (h.lower c hc).2) name

/-- **An instrument of the catalogue has its own bounds**, in whatever namespace it
is. The view that is found cannot be that of another histogram, since names of the
catalogue that differ still do in lower case. -/
theorem boundsFor_catalogue {space : Option String} {metric : Metric}
    (hmetric : metric ∈ Catalogue.all) (hkind : metric.kind.isHistogram = true)
    (hname : Pipeline.isName (qualify space metric.name) = true) :
    boundsFor (catalogue space) (Text.lower (qualify space metric.name))
      = (metric.bounds.getD []).map .real := by
  have hsimple := Pipeline.isSimple_of_isName hname
  have happlies : ∀ other ∈ Catalogue.all, ∀ bounds,
      View.applies ⟨qualify space other.name, bounds⟩ (Text.lower (qualify space metric.name))
        = decide (Text.lower (qualify space other.name)
          = Text.lower (qualify space metric.name)) :=
    fun other hother _ =>
      applies_of_isSimple (isSimple_qualify hsimple (Catalogue.isSimple_name other hother)) _
  unfold boundsFor
  split
  · next view hfind =>
    obtain ⟨other, hother, -, rfl⟩ := mem_catalogue_iff.mp (List.mem_of_find?_eq_some hfind)
    have hstored := List.find?_some hfind
    rw [happlies other hother] at hstored
    rw [Catalogue.eq_of_lower_eq hmetric hother hsimple (of_decide_eq_true hstored).symm]
  · next hfind =>
    have hview : (⟨qualify space metric.name, (metric.bounds.getD []).map .real⟩ : View)
        ∈ catalogue space := mem_catalogue_iff.mpr ⟨metric, hmetric, hkind, rfl⟩
    have hnot := List.find?_eq_none.mp hfind _ hview
    rw [happlies metric hmetric] at hnot
    exact absurd (decide_eq_true rfl) hnot

end View

end QuicTelemetry
