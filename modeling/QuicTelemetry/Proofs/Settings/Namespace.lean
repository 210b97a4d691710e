import QuicTelemetry.Proofs.Facade.Wiring
import QuicTelemetry.Proofs.Text.Words
import QuicTelemetry.Settings

/-!
# The texts that are namespaces

The namespace goes in front of every name, as it is written, so what settings accept for
it shows in every store. It should be an identifier: a letter or an underscore, then
letters, digits and underscores, all of ASCII. The check also lets a line end follow.

**Settings accept a text exactly if it is empty, an identifier, or an identifier with a
line end behind it**, and refuse every other text by its name
(`Settings.ofArgs_accepts_iff`). In a namespace that is accepted the names of the
catalogue are identifiers, unless it ends with a line end: then none of them is, since
the line end stands in the middle of each.
-/

namespace QuicTelemetry

open Text

/-! ## The check -/

namespace Settings

/-- A text without its line end, if it ends with one. -/
def withoutLineEnd (s : String) : String :=
  .ofList (if s.toList.getLast? = some '\n' then s.toList.dropLast else s.toList)

theorem withoutLineEnd_of_ne {s : String} (h : s.toList.getLast? ≠ some '\n') :
    withoutLineEnd s = s := by
  rw [withoutLineEnd, if_neg h, String.ofList_toList]

theorem toList_append_newline (u : String) : (u ++ "\n").toList = u.toList ++ ['\n'] :=
  String.toList_append

theorem withoutLineEnd_append (u : String) : withoutLineEnd (u ++ "\n") = u := by
  rw [withoutLineEnd, toList_append_newline, if_pos List.getLast?_concat, List.dropLast_concat,
    String.ofList_toList]

/-- A text that ends with a line end. -/
theorem exists_of_getLast? {s : String} (h : s.toList.getLast? = some '\n') :
    ∃ u, s = u ++ "\n" := by
  refine ⟨.ofList s.toList.dropLast, String.toList_inj.mp ?_⟩
  rw [toList_append_newline, String.toList_ofList, List.dropLast_append_getLast? _ h]

/-- What is checked is the text without its line end. -/
theorem isSpace_iff_withoutLineEnd (s : String) :
    isSpace s = true ↔ IsIdentifier (withoutLineEnd s) := by
  unfold isSpace IsIdentifier withoutLineEnd
  dsimp only
  rw [String.toList_ofList]
  cases (if s.toList.getLast? = some '\n' then s.toList.dropLast else s.toList) with
  | nil => simp
  | cons c rest => simp [isWordChar]

/-- **What the check lets through**: identifiers, and identifiers with a line end. -/
theorem isSpace_iff (s : String) :
    isSpace s = true ↔ IsIdentifier s ∨ ∃ u, IsIdentifier u ∧ s = u ++ "\n" := by
  rw [isSpace_iff_withoutLineEnd]
  constructor
  · intro h
    by_cases hlast : s.toList.getLast? = some '\n'
    · obtain ⟨u, rfl⟩ := exists_of_getLast? hlast
      rw [withoutLineEnd_append] at h
      exact .inr ⟨u, h, rfl⟩
    · rw [withoutLineEnd_of_ne hlast] at h
      exact .inl h
  · rintro (h | ⟨u, h, rfl⟩)
    · rwa [withoutLineEnd_of_ne h.getLast?_ne]
    · rwa [withoutLineEnd_append]

/-- **A text that is accepted** for a namespace. -/
def AcceptsSpace (t : String) : Prop :=
  t = "" ∨ IsIdentifier t ∨ ∃ u, IsIdentifier u ∧ t = u ++ "\n"

/-- A text is accepted, or it is the namespace that is found fault with. -/
theorem spaceFault?_text (t : String) :
    spaceFault? (.text t) = none ∧ AcceptsSpace t
      ∨ spaceFault? (.text t) = some (.badNamespace (.text t)) ∧ ¬ AcceptsSpace t := by
  by_cases hempty : t = ""
  · subst hempty
    exact .inl ⟨rfl, .inl rfl⟩
  · have htruthy : (Value.text t).truthy = true := bne_iff_ne.mpr hempty
    have haccepts : AcceptsSpace t ↔ isSpace t = true :=
      (or_iff_right hempty).trans (isSpace_iff t).symm
    unfold spaceFault?
    rw [htruthy, haccepts]
    dsimp only
    cases isSpace t with
    | true => exact .inl ⟨rfl, rfl⟩
    | false => exact .inr ⟨rfl, Bool.false_ne_true⟩

/-- Where the store is known, the namespace decides. -/
theorem ofArgs_of_backend {env : Environment} {args : List (String × Value)} {b : String}
    (hnames : ∀ arg ∈ args, arg.1 ∈ names)
    (hbackend : pick env args "backend" "QUICMETRICS_BACKEND" (.text "prometheus") = .text b)
    (hknown : Text.lower b ∈ backendNames) :
    let space := pick env args "namespace" "QUICMETRICS_NAMESPACE" (.text "")
    (spaceFault? space = none → ∃ settings, ofArgs env args = .ok settings ∧ settings.space = space)
    ∧ ∀ fault, spaceFault? space = some fault → ofArgs env args = .error fault := by
  intro space
  have hall : (args.all fun arg => names.contains arg.1) = true :=
    List.all_eq_true.mpr fun arg harg => List.contains_iff_mem.mpr (hnames arg harg)
  have hisBackend : isBackend (.text (Text.lower b)) = true := List.contains_iff_mem.mpr hknown
  unfold ofArgs check
  rw [if_pos hall, hbackend]
  simp only [lowerBackend, hisBackend, bind, Except.bind, pure, Except.pure]
  refine ⟨fun hnone => ?_, fun fault hfault => ?_⟩
  · rw [hnone]
    exact ⟨_, rfl, rfl⟩
  · rw [hfault]
    rfl

end Settings

/-! ## Names in a namespace -/

namespace Catalogue

/-- The names of the catalogue are identifiers. -/
theorem isIdentifier_name : ∀ metric ∈ all, IsIdentifier metric.name := by
  let check (cs : List Char) : Bool := cs.head?.any Char.isAlpha && cs.all isWordChar
  have hcheck {s : String} (h : check s.toList = true) : IsIdentifier s := by
    obtain ⟨hfirst, hall⟩ := (Bool.and_eq_true ..).mp h
    obtain ⟨c, rest, hlist⟩ : ∃ c rest, s.toList = c :: rest :=
      List.ne_nil_iff_exists_cons.mp fun hnil => by simp [hnil] at hfirst
    rw [hlist] at hfirst hall
    exact ⟨c, rest, hlist, .inl hfirst, fun d hd =>
      List.all_eq_true.mp hall d (List.mem_cons_of_mem _ hd)⟩
  suffices h : ∀ metric ∈ all, check metric.name.toList = true from
    fun metric hmetric => hcheck (h metric hmetric)
  simp only [all, connection, task, List.cons_append, List.nil_append, List.forall_mem_cons,
    List.not_mem_nil, false_implies, implies_true, and_true]
  repeat' apply And.intro
  all_goals exact Text.check_spelled check (by rfl)

end Catalogue

/-- A text that is not empty is the namespace it stands for. -/
theorem Value.space?_text {t : String} (h : t ≠ "") : (Value.text t).space? = some t :=
  if_pos (bne_iff_ne.mpr h)

/-- **In a namespace that is accepted** a name is an identifier, or there is a line end
in it. -/
theorem qualify_of_acceptsSpace {t name : String} (ht : Settings.AcceptsSpace t)
    (hname : IsIdentifier name) :
    t.toList.getLast? ≠ some '\n' ∧ IsIdentifier (qualify (Value.text t).space? name)
      ∨ t.toList.getLast? = some '\n' ∧ '\n' ∈ (qualify (Value.text t).space? name).toList := by
  have hne {t : String} (h : t.toList ≠ []) : t ≠ "" := by
    rintro rfl
    exact h rfl
  rcases ht with rfl | hident | ⟨u, hident, rfl⟩
  · exact .inl ⟨nofun, hname⟩
  · refine .inl ⟨hident.getLast?_ne, ?_⟩
    rw [Value.space?_text (hne hident.toList_ne_nil), qualify, String.append_assoc]
    refine hident.append fun c hc => ?_
    rw [String.toList_append] at hc
    rcases List.mem_append.mp hc with hc | hc
    · rw [List.mem_singleton.mp hc]
      rfl
    · exact hname.isWordChar_of_mem c hc
  · have hlist := Settings.toList_append_newline u
    refine .inr ⟨by rw [hlist, List.getLast?_concat], ?_⟩
    have hnil : (u ++ "\n").toList ≠ [] := by
      simp [hlist]
    rw [Value.space?_text (hne hnil), qualify, String.toList_append, String.toList_append, hlist]
    simp

namespace Settings

/-- **Which namespaces settings accept.** Where the store is a known one, a text is
accepted exactly if it is empty, an identifier, or an identifier with a line end, and
else it is refused by its name. In the namespace of settings that were accepted each name
of the catalogue is an identifier if the text does not end with a line end, and has a
character that no identifier has if it does. -/
theorem ofArgs_accepts_iff {env : Environment} {args : List (String × Value)} {b t : String}
    (hnames : ∀ arg ∈ args, arg.1 ∈ names)
    (hbackend : pick env args "backend" "QUICMETRICS_BACKEND" (.text "prometheus") = .text b)
    (hknown : Text.lower b ∈ backendNames)
    (hspace : pick env args "namespace" "QUICMETRICS_NAMESPACE" (.text "") = .text t) :
    ((∃ settings, ofArgs env args = .ok settings) ↔
      t = "" ∨ IsIdentifier t ∨ ∃ u, IsIdentifier u ∧ t = u ++ "\n")
    ∧ (∀ fault, ofArgs env args = .error fault → fault = .badNamespace (.text t))
    ∧ ∀ settings, ofArgs env args = .ok settings →
        settings.space = .text t
        ∧ ∀ metric ∈ Catalogue.all,
            (t.toList.getLast? ≠ some '\n' →
              IsIdentifier (qualify settings.space.space? metric.name))
            ∧ (t.toList.getLast? = some '\n' →
              ∃ c ∈ (qualify settings.space.space? metric.name).toList, isWordChar c = false) := by
  obtain ⟨hok, herror⟩ := ofArgs_of_backend hnames hbackend hknown
  rw [hspace] at hok herror
  rcases spaceFault?_text t with ⟨hfault, haccepts⟩ | ⟨hfault, haccepts⟩
  · obtain ⟨settings, hsettings, htext⟩ := hok hfault
    refine ⟨iff_of_true ⟨settings, hsettings⟩ haccepts, fun fault heq => ?_, fun other hother => ?_⟩
    · rw [hsettings] at heq
      cases heq
    · obtain rfl : settings = other := Except.ok.inj (hsettings.symm.trans hother)
      refine ⟨htext, fun metric hmetric => ?_⟩
      rw [htext]
      rcases qualify_of_acceptsSpace haccepts (Catalogue.isIdentifier_name metric hmetric) with
        ⟨hlast, hident⟩ | ⟨hlast, hmem⟩
      · exact ⟨fun _ => hident, fun h => absurd h hlast⟩
      · exact ⟨fun h => absurd hlast h, fun _ => ⟨'\n', hmem, rfl⟩⟩
  · have hrefused := herror _ hfault
    refine ⟨iff_of_false ?_ haccepts, fun fault heq => ?_, fun settings heq => ?_⟩
    · rintro ⟨settings, hsettings⟩
      rw [hrefused] at hsettings
      cases hsettings
    · exact Except.error.inj (heq.symm.trans hrefused)
    · rw [hrefused] at heq
      cases heq

/-- The namespace of an edge: it is accepted, and its names are identifiers. -/
theorem ofArgs_accepts_iff_edge :
    ∃ settings, ofArgs [] [("namespace", .text "edge_pop1")] = .ok settings
      ∧ IsIdentifier (qualify settings.space.space? "quic_udp_drop_count") := by
  have hbackend : pick [] [("namespace", .text "edge_pop1")] "backend" "QUICMETRICS_BACKEND"
      (.text "prometheus") = .text "prometheus" := rfl
  have hspace : pick [] [("namespace", .text "edge_pop1")] "namespace" "QUICMETRICS_NAMESPACE"
      (.text "") = .text "edge_pop1" := rfl
  obtain ⟨hiff, -, hnamed⟩ := ofArgs_accepts_iff (by decide) hbackend (by decide) hspace
  have hident : IsIdentifier "edge_pop1" :=
    ⟨'e', "dge_pop1".toList, rfl, .inl rfl, by simp [isWordChar]⟩
  obtain ⟨settings, hsettings⟩ := hiff.mpr (.inr (.inl hident))
  have hmetric : Catalogue.udpDropCount ∈ Catalogue.all := by
    simp [Catalogue.all, Catalogue.connection]
  exact ⟨settings, hsettings, ((hnamed settings hsettings).2 _ hmetric).1 hident.getLast?_ne⟩

/-- **A namespace that is no identifier is accepted**: a line end behind one goes into
every name. -/
theorem ofArgs_accepts_lineEnd :
    (∃ settings, ofArgs [] [("namespace", .text "edge\n")] = .ok settings
      ∧ '\n' ∈ (qualify settings.space.space? "quic_udp_drop_count").toList)
    ∧ "edge\n" ≠ "" ∧ ¬ IsIdentifier "edge\n" := by
  refine ⟨⟨_, rfl, by decide⟩, by decide, fun h => ?_⟩
  exact h.newline_notMem (by decide)

end Settings

end QuicTelemetry
