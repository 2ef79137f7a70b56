import Mathlib.Data.List.Nodup
import SpokenCalculator.CommandLine.Options
import SpokenCalculator.CommandLine.Session
import SpokenCalculator.Proofs.Result

namespace SpokenCalculator

inductive OptionKind.Takes : OptionKind → Json → Prop
  | flag : Takes .flag (.flag true)
  | text (text : String) : Takes .text (.string text)
  | choice {values : List String} {text : String} (hmem : text ∈ values) :
      Takes (.choice values) (.string text)
  | real (value : BinaryReal) : Takes .real (.number value.text)
  | integer (value : Int) : Takes .integer (.number (toString value))

def Argument.IsAmong (specs : List OptionSpec) : Argument → Prop
  | .option spec _ => spec ∈ specs
  | _ => True

namespace CommandLine

def Parsed.IsGiven (specs : List OptionSpec) (parsed : Parsed) : Prop :=
  ∀ entry ∈ parsed.values, ∃ spec ∈ specs, spec.destination = entry.1 ∧ spec.kind.Takes entry.2

section

variable {specs : List OptionSpec} {spec : OptionSpec}

theorem takes_of_readValue {text : String} {value : Json} (htakes : spec.takesValue = true)
    (h : readValue spec text = .ok value) : spec.kind.Takes value := by
  obtain ⟨names, destination, kind, usual⟩ := spec
  cases kind with
  | help => cases htakes
  | flag => cases htakes
  | text =>
      cases h
      exact .text text
  | choice values =>
      unfold readValue at h
      dsimp only at h
      split at h
      · rename_i hmem
        cases h
        exact .choice (List.contains_iff_mem.mp hmem)
      · cases h
  | real =>
      unfold readValue at h
      dsimp only at h
      split at h
      · cases h
        exact .real _
      · cases h
  | integer =>
      unfold readValue at h
      dsimp only at h
      split at h
      · cases h
        exact .integer _
      · cases h

section

variable {parsed after : Parsed}

theorem Parsed.IsGiven.put (h : parsed.IsGiven specs) (hspec : spec ∈ specs) {value : Json}
    (hvalue : spec.kind.Takes value) : (parsed.put spec value).IsGiven specs :=
  List.forall_mem_cons.mpr ⟨⟨spec, hspec, rfl, hvalue⟩, h⟩

theorem isGiven_of_takeAttached (h : parsed.IsGiven specs) (hspec : spec ∈ specs)
    {attached : AttachedValue} (hafter : takeAttached parsed spec attached = .ok after) :
    after.IsGiven specs := by
  unfold takeAttached at hafter
  split at hafter
  · rename_i htakes
    cases hread : readValue spec (String.ofList attached.text) with
    | error fault =>
        rw [hread] at hafter
        cases hafter
    | ok value =>
        rw [hread] at hafter
        cases hafter
        exact h.put hspec (takes_of_readValue htakes hread)
  · split at hafter <;> cases hafter

theorem isGiven_of_takeAlone (h : parsed.IsGiven specs) (hspec : spec ∈ specs)
    (hafter : takeAlone parsed spec = .ok after) : after.IsGiven specs := by
  unfold takeAlone at hafter
  split at hafter
  · cases hafter
  · rename_i hflag
    cases hafter
    refine h.put hspec ?_
    rw [hflag]
    exact .flag
  · cases hafter

theorem isGiven_of_consume {arguments : List Argument} (h : parsed.IsGiven specs)
    (harguments : ∀ argument ∈ arguments, argument.IsAmong specs)
    (hafter : consume parsed arguments = .ok after) : after.IsGiven specs := by
  fun_induction consume parsed arguments with
  | case1 parsed =>
      cases hafter
      exact h
  | case2 parsed text rest ih => exact ih h (List.forall_mem_cons.mp harguments).2 hafter
  | case3 parsed text rest ih => exact ih h (List.forall_mem_cons.mp harguments).2 hafter
  | case4 parsed spec attached rest next hnext ih =>
      obtain ⟨hspec, hrest⟩ := List.forall_mem_cons.mp harguments
      exact ih (isGiven_of_takeAttached h hspec hnext) hrest hafter
  | case5 => cases hafter
  | case6 parsed spec text rest htakes value hvalue ih =>
      obtain ⟨hspec, hrest⟩ := List.forall_mem_cons.mp harguments
      exact ih (h.put hspec (takes_of_readValue htakes hvalue)) (List.forall_mem_cons.mp hrest).2
        hafter
  | case7 => cases hafter
  | case8 parsed spec text rest htakes next hnext ih =>
      obtain ⟨hspec, hrest⟩ := List.forall_mem_cons.mp harguments
      exact ih (isGiven_of_takeAlone h hspec hnext) hrest hafter
  | case9 => cases hafter
  | case10 parsed spec rest hplain next hnext ih =>
      obtain ⟨hspec, hrest⟩ := List.forall_mem_cons.mp harguments
      exact ih (isGiven_of_takeAlone h hspec hnext) hrest hafter
  | case11 => cases hafter

end

theorem mem_of_mem_namesOf {name : String} (h : (name, spec) ∈ namesOf specs) : spec ∈ specs := by
  simp only [namesOf, List.mem_flatMap, List.mem_map] at h
  obtain ⟨_, hspec, _, _, hsame⟩ := h
  cases hsame
  exact hspec

theorem mem_of_lookup {name : String} (h : (namesOf specs).lookup name = some spec) :
    spec ∈ specs := by
  obtain ⟨before, behind, hnames, -⟩ := List.lookup_eq_some_iff.mp h
  exact mem_of_mem_namesOf (hnames ▸ List.mem_append_right before List.mem_cons_self)

theorem mem_of_mem_candidates {argument : List Char} {name : String}
    {attached : Option AttachedValue}
    (h : (name, spec, attached) ∈ candidates (namesOf specs) argument) : spec ∈ specs := by
  unfold candidates at h
  split at h
  · obtain ⟨_, hmem, hsame⟩ := List.mem_map.mp h
    cases hsame
    exact mem_of_mem_namesOf (List.mem_filter.mp hmem |>.1)
  · obtain ⟨entry, hmem, hentry⟩ := List.mem_filterMap.mp h
    dsimp only at hentry
    split at hentry
    · cases hentry
      exact mem_of_mem_namesOf hmem
    · split at hentry
      · cases hentry
        exact mem_of_mem_namesOf hmem
      · cases hentry

theorem isAmong_of_classify {argument : String} {result : Argument}
    (h : classify (namesOf specs) argument = .ok result) : result.IsAmong specs := by
  unfold classify at h
  dsimp only at h
  split at h
  · cases h
    trivial
  · split at h
    · rename_i hlookup
      cases h
      exact mem_of_lookup hlookup
    · rename_i hlookup
      cases h
      exact mem_of_lookup hlookup
    · split at h
      · cases h
        trivial
      · split at h
        · rename_i name found attached hcandidates
          cases h
          exact mem_of_mem_candidates
            (hcandidates ▸ List.mem_singleton_self (name, found, attached))
        · split at h <;> cases h <;> trivial
        · cases h

theorem isAmong_of_classifyAll {arguments : List String} {results : List Argument}
    (h : classifyAll (namesOf specs) arguments = .ok results) :
    ∀ result ∈ results, result.IsAmong specs := by
  fun_induction classifyAll (namesOf specs) arguments generalizing results with
  | case1 =>
      cases h
      exact List.forall_mem_nil _
  | case2 rest =>
      cases h
      exact List.forall_mem_cons.mpr ⟨trivial, List.forall_mem_map.mpr fun _ _ => trivial⟩
  | case3 argument rest hne ih =>
      obtain ⟨first, hfirst, h⟩ := bind_eq_ok.mp h
      obtain ⟨others, hothers, h⟩ := bind_eq_ok.mp h
      cases h
      exact List.forall_mem_cons.mpr ⟨isAmong_of_classify hfirst, ih hothers⟩

end

theorem nodup_destinations (directory : String) :
    ((specs directory).map OptionSpec.destination).Nodup := by
  have hnodup : ["help", "model", "window", "max_listen", "fixed_window", "silence",
    "volume_threshold", "device", "barge_in", "require_wake_word", "no_greeting", "rate",
    "log_level", "log_file"].Nodup := by decide
  exact hnodup

theorem lookup_destination {value : OptionSpec → Json} {specs : List OptionSpec}
    (hnodup : (specs.map OptionSpec.destination).Nodup) {spec : OptionSpec} (hspec : spec ∈ specs) :
    (specs.map fun spec => (spec.destination, value spec)).lookup spec.destination =
      some (value spec) := by
  induction specs with
  | nil => cases hspec
  | cons first rest ih =>
      obtain ⟨hfirst, hrest⟩ := List.nodup_cons.mp hnodup
      rw [List.map_cons, List.lookup_cons]
      rcases List.mem_cons.mp hspec with rfl | hmem
      · rw [beq_self_eq_true]
      · have hne : spec.destination ≠ first.destination := fun hsame =>
          hfirst (hsame ▸ List.mem_map_of_mem hmem)
        rw [beq_false_of_ne hne]
        exact ih hrest hmem

/-- The values of accepted arguments, and what the options hold. -/
theorem exists_isGiven_of_parse {directory : String} {arguments : List String}
    {options : List (String × Json)} (h : parse directory arguments = .ok options) :
    ∃ parsed : Parsed, parsed.IsGiven (specs directory) ∧
      options = ((specs directory).filter fun spec => spec.destination != "help").map fun spec =>
        (spec.destination, (parsed.values.lookup spec.destination).getD spec.usual) := by
  obtain ⟨classified, hclassified, h⟩ := bind_eq_ok.mp h
  obtain ⟨parsed, hparsed, h⟩ := bind_eq_ok.mp h
  have hnothing : Parsed.IsGiven (specs directory) ⟨[], []⟩ := by
    intro entry hentry
    cases hentry
  refine ⟨parsed, isGiven_of_consume hnothing (isAmong_of_classifyAll hclassified) hparsed, ?_⟩
  dsimp only at h
  split at h
  · cases h
  · exact (Except.ok.inj h).symm

/-- An option of accepted arguments holds its usual value, or one that it
takes. -/
theorem optionOf_of_parse {directory : String} {arguments : List String}
    {options : List (String × Json)} (h : parse directory arguments = .ok options)
    {spec : OptionSpec} (hspec : spec ∈ specs directory) (hhelp : spec.destination ≠ "help") :
    optionOf options spec.destination = spec.usual ∨
      spec.kind.Takes (optionOf options spec.destination) := by
  obtain ⟨parsed, hgiven, rfl⟩ := exists_isGiven_of_parse h
  have hkept : spec ∈ (specs directory).filter fun spec => spec.destination != "help" :=
    List.mem_filter.mpr ⟨hspec, bne_iff_ne.mpr hhelp⟩
  have hnodup := (nodup_destinations directory).sublist
    ((List.filter_sublist (p := fun spec => spec.destination != "help")).map OptionSpec.destination)
  rw [optionOf, lookup_destination hnodup hkept, Option.getD_some]
  cases hvalue : parsed.values.lookup spec.destination with
  | none => exact Or.inl rfl
  | some value =>
      right
      obtain ⟨before, behind, hvalues, -⟩ := List.lookup_eq_some_iff.mp hvalue
      obtain ⟨other, hother, hsame, htakes⟩ := hgiven (spec.destination, value)
        (hvalues ▸ List.mem_append_right before List.mem_cons_self)
      have hother : other = spec :=
        List.inj_on_of_nodup_map (nodup_destinations directory) hother hspec hsame
      exact hother ▸ htakes

theorem exists_modelSource_of_parse {directory : String} {arguments : List String}
    {options : List (String × Json)} (h : parse directory arguments = .ok options) :
    ∃ path, modelSource (optionOf options "model") = .path path := by
  have hspec : ⟨["--model"], "model", .text, .string (joinPath directory modelDirectory)⟩ ∈
    specs directory := List.mem_cons_of_mem _ List.mem_cons_self
  have hhelp : "model" ≠ "help" := by decide
  rcases optionOf_of_parse h hspec hhelp with husual | htakes
  · exact ⟨_, congrArg modelSource husual⟩
  · dsimp only at htakes
    generalize optionOf options "model" = value at htakes
    cases htakes with
    | text path => exact ⟨path, rfl⟩

end CommandLine

end SpokenCalculator
