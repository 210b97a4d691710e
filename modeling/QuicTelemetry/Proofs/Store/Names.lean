import Mathlib.Data.List.Infix
import Mathlib.Data.List.Pairwise
import QuicTelemetry.Proofs.Facade.Holding

/-!
# Names in several namespaces

A name in a namespace is the namespace, an underscore and the name of a metric,
so where the namespace ends cannot be told from the text alone. It can be told
for the catalogue: **no name of a sample is the end of another**
(`Catalogue.eq_of_isSuffix`), so two namespaces make one text only if they are
the same namespace and the samples are of one metric
(`eq_of_qualify_append_eq`). The families of a registry are therefore apart, in
whichever namespaces their metrics are.
-/

namespace QuicTelemetry

/-! ## Namespaces in front -/

/-- What a namespace puts in front of a name. -/
def front : Option String → String
  | some space => space ++ "_"
  | none => ""

theorem qualify_eq_append (space : Option String) (name : String) :
    qualify space name = front space ++ name := by
  cases space with
  | none => exact String.empty_append.symm
  | some space => rfl

theorem front_inj {space space' : Option String} (h : front space = front space') :
    space = space' := by
  have hne (s : String) : s ++ "_" ≠ "" := by
    intro heq
    have hlist := congrArg String.toList heq
    rw [String.toList_append] at hlist
    exact absurd (List.append_eq_nil_iff.mp hlist).2 (by decide)
  cases space with
  | none =>
    cases space' with
    | none => rfl
    | some s' => exact absurd h.symm (hne s')
  | some s =>
    cases space' with
    | none => exact absurd h (hne s)
    | some s' => exact congrArg some ((String.append_left_inj "_").mp h)

/-- Texts with different namespaces are different as namespaces. -/
theorem Value.space?_text_inj {s s' : String} (h : (Value.text s).space? = (Value.text s').space?) :
    s = s' := by
  unfold Value.space? Value.truthy Value.toText at h
  dsimp only at h
  split at h <;> split at h
  all_goals simp_all

namespace Catalogue

/-! ## Names of samples -/

/-- **The names of samples**, from their ends, with the metrics and what follows
their names. -/
def backwards : List (List Char × String × String) :=
  all.flatMap fun metric => (Exposition.endings (Facade.shapeOf metric)).map fun ending =>
    (ending.toList.reverse ++ metric.name.toList.reverse, metric.name, ending)

/-- The names of samples, from the characters of the names of the metrics. -/
def backwardsOf (spelling : List (List Char)) : List (List Char × String × String) :=
  (all.zip spelling).flatMap fun (metric, cs) =>
    (Exposition.endings (Facade.shapeOf metric)).map fun ending =>
      (ending.toList.reverse ++ cs.reverse, metric.name, ending)

theorem backwardsOf_toList :
    backwardsOf (all.map fun metric => metric.name.toList) = backwards := by
  unfold backwardsOf backwards
  rw [List.zip_map_right, List.zip_eq_zipWith, List.zipWith_self, List.map_map, List.flatMap_map]
  rfl

/-- Of two names of samples, neither is the end of the other. -/
theorem pairwise_backwards :
    backwards.Pairwise fun p q => (p.1.isPrefixOf q.1 || q.1.isPrefixOf p.1) = false := by
  -- a literal is the text of its characters, so that none has to be decoded
  obtain ⟨spelling, hspelling, hpairwise⟩ : ∃ spelling,
      (all.map fun metric => metric.name.toList) = spelling
        ∧ (backwardsOf spelling).Pairwise fun p q =>
          (p.1.isPrefixOf q.1 || q.1.isPrefixOf p.1) = false := by
    apply Exists.intro
    apply And.intro
    · simp only [all, connection, task, List.cons_append, List.nil_append, List.map_cons,
        List.map_nil]
      repeat' apply congrArg₂ List.cons String.toList_ofList
      rfl
    · decide +kernel
  rw [← backwardsOf_toList, hspelling]
  exact hpairwise

/-- No name of a sample is the end of another. -/
theorem eq_of_isPrefixOf_backwards : ∀ p ∈ backwards, ∀ q ∈ backwards,
    p.1.isPrefixOf q.1 = true → p.2 = q.2 := by
  intro p hp q hq hbegins
  have hsymm : Std.Symm fun p q : List Char × String × String =>
      (p.1.isPrefixOf q.1 || q.1.isPrefixOf p.1) = false :=
    ⟨fun _ _ h => (Bool.or_comm ..).trans h⟩
  by_contra hne
  have hneither := pairwise_backwards.forall hp hq fun heq => hne (congrArg Prod.snd heq)
  rw [hbegins] at hneither
  cases hneither

/-- No name of the catalogue ends as the samples of a counter do. -/
theorem getLast?_name_ne : ∀ metric ∈ all,
    metric.name.toList ≠ [] ∧ metric.name.toList.getLast? ≠ "_total".toList.getLast? := by
  have htotal : "_total".toList = ['_', 't', 'o', 't', 'a', 'l'] := String.toList_ofList
  let check (cs : List Char) : Bool := !cs.isEmpty && cs.getLast? != some 'l'
  suffices h : ∀ metric ∈ all, check metric.name.toList = true by
    simpa [check, htotal] using h
  simp only [all, connection, task, List.cons_append, List.nil_append, List.forall_mem_cons,
    List.not_mem_nil, false_implies, implies_true, and_true]
  repeat' apply And.intro
  all_goals exact Text.check_spelled check (by rfl)

/-- **No name of a sample is the end of another.** -/
theorem eq_of_isSuffix {metric metric' : Metric} (h : metric ∈ all) (h' : metric' ∈ all)
    {ending ending' : String} (hending : ending ∈ Exposition.endings (Facade.shapeOf metric))
    (hending' : ending' ∈ Exposition.endings (Facade.shapeOf metric'))
    (hsuffix : metric.name.toList ++ ending.toList <:+ metric'.name.toList ++ ending'.toList) :
    metric = metric' ∧ ending = ending' := by
  have hmem {metric : Metric} (h : metric ∈ all) {ending : String}
      (hending : ending ∈ Exposition.endings (Facade.shapeOf metric)) :
      (ending.toList.reverse ++ metric.name.toList.reverse, metric.name, ending) ∈ backwards :=
    List.mem_flatMap.mpr ⟨metric, h, List.mem_map.mpr ⟨ending, hending, rfl⟩⟩
  have hprefix : (ending.toList.reverse ++ metric.name.toList.reverse).isPrefixOf
      (ending'.toList.reverse ++ metric'.name.toList.reverse) = true := by
    rw [List.isPrefixOf_iff_prefix, ← List.reverse_append, ← List.reverse_append,
      List.reverse_prefix]
    exact hsuffix
  obtain ⟨hname, hend⟩ :=
    Prod.mk.inj (eq_of_isPrefixOf_backwards _ (hmem h hending) _ (hmem h' hending') hprefix)
  exact ⟨List.inj_on_of_nodup_map nodup_names h h' hname, hend⟩

end Catalogue

/-- **Texts that end in names of samples** are the same only if everything in
them is. -/
theorem eq_of_append_eq {metric metric' : Metric} (h : metric ∈ Catalogue.all)
    (h' : metric' ∈ Catalogue.all) {ending ending' : String}
    (hending : ending ∈ Exposition.endings (Facade.shapeOf metric))
    (hending' : ending' ∈ Exposition.endings (Facade.shapeOf metric')) {before before' : List Char}
    (heq : before ++ (metric.name.toList ++ ending.toList)
      = before' ++ (metric'.name.toList ++ ending'.toList)) :
    before = before' ∧ metric = metric' ∧ ending = ending' := by
  have hsame : metric = metric' ∧ ending = ending' := by
    rcases List.suffix_or_suffix_of_suffix ⟨before, heq⟩ ⟨before', rfl⟩ with hsuffix | hsuffix
    · exact Catalogue.eq_of_isSuffix h h' hending hending' hsuffix
    · obtain ⟨hmetric, hend⟩ := Catalogue.eq_of_isSuffix h' h hending' hending hsuffix
      exact ⟨hmetric.symm, hend.symm⟩
  obtain ⟨rfl, rfl⟩ := hsame
  exact ⟨List.append_cancel_right heq, rfl, rfl⟩

/-- **Names of samples in namespaces** tell the namespace, the metric and what
follows its name. -/
theorem eq_of_qualify_append_eq {space space' : Option String} {metric metric' : Metric}
    (h : metric ∈ Catalogue.all) (h' : metric' ∈ Catalogue.all) {ending ending' : String}
    (hending : ending ∈ Exposition.endings (Facade.shapeOf metric))
    (hending' : ending' ∈ Exposition.endings (Facade.shapeOf metric'))
    (heq : qualify space metric.name ++ ending = qualify space' metric'.name ++ ending') :
    space = space' ∧ metric = metric' ∧ ending = ending' := by
  have hlists := congrArg String.toList heq
  simp only [qualify_eq_append, String.toList_append, List.append_assoc] at hlists
  obtain ⟨hfront, hsame⟩ := eq_of_append_eq h h' hending hending' hlists
  exact ⟨front_inj (String.toList_inj.mp hfront), hsame⟩

/-- Every family has a sample under its own name, or a name kept for it. -/
theorem Exposition.nil_mem_endings (shape : Shape) : "" ∈ endings shape := by
  cases shape <;> exact List.mem_cons_self

/-- **Qualified names tell the namespace and the metric.** -/
theorem eq_of_qualify_eq_qualify {space space' : Option String} {metric metric' : Metric}
    (h : metric ∈ Catalogue.all) (h' : metric' ∈ Catalogue.all)
    (heq : qualify space metric.name = qualify space' metric'.name) :
    space = space' ∧ metric = metric' := by
  obtain ⟨hspace, hmetric, -⟩ := eq_of_qualify_append_eq h h'
    (Exposition.nil_mem_endings _) (Exposition.nil_mem_endings _) (congrArg (· ++ "") heq)
  exact ⟨hspace, hmetric⟩

/-! ## Reserved names -/

namespace Exposition

/-- A metric is exposed under its name. -/
theorem stem_qualify {metric : Metric} (h : metric ∈ Catalogue.all) (space : Option String)
    (shape : Shape) : stem shape (qualify space metric.name) = qualify space metric.name := by
  cases shape with
  | counter =>
    refine if_neg fun hends => ?_
    rw [String.endsWith_eq_endsWith_toSlice, String.Slice.endsWith_string_iff,
      String.copy_toSlice, qualify_eq_append, String.toList_append] at hends
    obtain ⟨hne, hlast⟩ := Catalogue.getLast?_name_ne metric h
    obtain ⟨before, hbefore⟩ := hends
    have hlasts := congrArg List.getLast? hbefore
    rw [List.getLast?_append_of_ne_nil _ (by decide), List.getLast?_append_of_ne_nil _ hne] at hlasts
    exact hlast hlasts.symm
  | gauge => rfl
  | histogram bounds => rfl

/-- The names that a metric reserves. -/
theorem reserved_qualify {metric : Metric} (h : metric ∈ Catalogue.all) (space : Option String) :
    reserved (Facade.shapeOf metric) (qualify space metric.name)
      = (endings (Facade.shapeOf metric)).map (qualify space metric.name ++ ·) := by
  unfold reserved
  rw [stem_qualify h]

/-- **Metrics reserve no name in common**, unless they are one metric in one
namespace. -/
theorem apart_qualify {space space' : Option String} {metric metric' : Metric}
    (h : metric ∈ Catalogue.all) (h' : metric' ∈ Catalogue.all)
    (hne : (space, metric) ≠ (space', metric')) :
    Apart (qualify space metric.name, Facade.shapeOf metric)
      (qualify space' metric'.name, Facade.shapeOf metric') := by
  intro name hname hname'
  dsimp only at hname hname'
  rw [reserved_qualify h] at hname
  rw [reserved_qualify h'] at hname'
  obtain ⟨ending, hending, rfl⟩ := List.mem_map.mp hname
  obtain ⟨ending', hending', heq⟩ := List.mem_map.mp hname'
  obtain ⟨hspace, hmetric, -⟩ := eq_of_qualify_append_eq h' h hending' hending heq
  exact hne (by rw [hspace, hmetric])

end Exposition

end QuicTelemetry
