import Mathlib.Data.List.TakeWhile
import OrdinalAdmission.Config.Basic
import OrdinalAdmission.Proofs.Sequencing

/-!
# Valid configurations

`validate_ok_iff` reads the checks of a configuration as the rules they decide. Every valid
configuration gives a pipeline (`pipeline_of_valid`): its features are the listed ones in their
order, none of them twice, and the separator stands in the name of none. A configuration that gives
none is refused by its checks, and nothing else goes wrong on the way (`built_iff_validated`).
-/

namespace OrdinalAdmission

-- ---------------------------------------------------------------------------
-- Blank texts
-- ---------------------------------------------------------------------------

theorem Text.trim_eq_empty_iff {text : String} :
    trim text = "" ↔ ∀ c ∈ text.toList, isBlank c = true := by
  rw [trim, ← String.toList_inj]
  simp only [String.toList_ofList, String.toList_empty, List.reverse_eq_nil_iff,
    List.dropWhile_eq_nil_iff, List.mem_reverse]
  constructor
  · intro h c hc
    rw [← List.takeWhile_append_dropWhile (p := isBlank) (l := text.toList)] at hc
    rcases List.mem_append.mp hc with hc | hc
    · exact List.mem_takeWhile_imp hc
    · exact h c hc
  · exact fun h c hc => h c (List.dropWhile_subset _ hc)

theorem Text.trim_ne_empty_iff {text : String} :
    trim text ≠ "" ↔ ∃ c ∈ text.toList, isBlank c = false := by
  simp [Ne, trim_eq_empty_iff]

-- ---------------------------------------------------------------------------
-- Names of features
-- ---------------------------------------------------------------------------

namespace Feature

theorem name_inj {first second : Feature} : first.name = second.name ↔ first = second := by
  cases first <;> cases second <;> decide

theorem ofName?_eq_some_iff {text : String} {feature : Feature} :
    ofName? text = some feature ↔ feature.name = text := by
  constructor
  · intro h
    unfold ofName? at h
    split at h <;> cases h <;> rfl
  · rintro rfl
    cases feature <;> rfl

theorem mem_standard (feature : Feature) : feature ∈ standard := by
  cases feature <;> decide

theorem mem_names_standard_iff {text : String} :
    text ∈ standard.map (·.name) ↔ ∃ feature : Feature, feature.name = text := by
  simp [List.mem_map, mem_standard]

theorem exists_name_iff {text : String} :
    (∃ feature : Feature, feature.name = text) ↔ text = "mount-volume" ∨ text = "host-port" := by
  constructor
  · rintro ⟨feature, rfl⟩
    cases feature
    · exact .inr rfl
    · exact .inl rfl
  · rintro (rfl | rfl)
    · exact ⟨mountVolume, rfl⟩
    · exact ⟨hostPort, rfl⟩

end Feature

theorem Annotations.Scheme.isUnusable_eq_false_iff {c : Char} :
    isUnusable c = false ↔ c.isDigit = false ∧ c ≠ '-' ∧ Text.isBlank c = false := by
  simp [isUnusable, and_assoc]

theorem Annotations.Scheme.make_eq_ok_iff {stem : String} {separator : Char} {scheme : Scheme} :
    make stem separator = .ok scheme ↔
      stem ≠ "" ∧ isUnusable separator = false ∧ scheme = ⟨stem, separator⟩ := by
  unfold make
  split
  · next h => exact iff_of_false nofun fun hok => hok.1 (by simpa using h)
  · next hstem =>
    split
    · next hunusable => exact iff_of_false nofun fun hok => by simp [hok.2.1] at hunusable
    · next husable =>
      have hne : stem ≠ "" := by simpa using hstem
      simp [hne, husable, eq_comm]

namespace Config

-- ---------------------------------------------------------------------------
-- What is checked
-- ---------------------------------------------------------------------------

/-- The configuration is valid, with the character as its separator. -/
structure Valid (config : Config) (c : Char) : Prop where
  separator : config.separator = String.singleton c
  usable : Annotations.Scheme.isUnusable c = false
  stem : config.stem ≠ ""
  label : Text.trim config.label ≠ ""
  distinct : config.handlers.Nodup
  known : ∀ name ∈ config.handlers, ∃ feature : Feature, feature.name = name
  free : ∀ name ∈ config.handlers, c ∉ name.toList

section
variable {config : Config} {c : Char}

theorem separatorChar_eq_ok_iff :
    config.separatorChar = .ok c ↔ config.separator = String.singleton c := by
  rw [← String.toList_inj, String.toList_singleton, separatorChar]
  split
  · next d hd => simp [hd]
  · next hnone => exact iff_of_false nofun (hnone c)

theorem scheme_eq_ok_iff {scheme : Annotations.Scheme} :
    config.scheme = .ok scheme ↔ ∃ c, config.separator = String.singleton c ∧ config.stem ≠ "" ∧
      Annotations.Scheme.isUnusable c = false ∧ scheme = ⟨config.stem, c⟩ := by
  simp only [Config.scheme, bind_eq_ok_iff, mapError_eq_ok_iff, separatorChar_eq_ok_iff,
    Annotations.Scheme.make_eq_ok_iff]

theorem checkHandlers_cons_ok_iff {seen rest : List String} {name : String} :
    checkHandlers c seen (name :: rest) = .ok () ↔
      (∃ feature : Feature, feature.name = name) ∧ name ∉ seen ∧ c ∉ name.toList ∧
        checkHandlers c (name :: seen) rest = .ok () := by
  have hlisted : (!(Feature.standard.map (·.name)).contains name) = true ↔
      ¬ ∃ feature : Feature, feature.name = name := by
    rw [← Feature.mem_names_standard_iff, Bool.not_eq_true', ← Bool.not_eq_true,
      List.contains_iff_mem]
  rw [checkHandlers]
  split
  · next h => exact iff_of_false nofun fun hok => hlisted.mp h hok.1
  · next hknown =>
    rw [hlisted, Classical.not_not] at hknown
    split
    · next h => exact iff_of_false nofun fun hok => hok.2.1 (by simpa using h)
    · next hseen =>
      split
      · next h => exact iff_of_false nofun fun hok => hok.2.2.1 (by simpa using h)
      · next hfree =>
        exact (and_iff_right hknown).trans
          ((and_iff_right (by simpa using hseen)).trans (and_iff_right (by simpa using hfree)))
          |>.symm

theorem checkHandlers_ok_iff {seen names : List String} :
    checkHandlers c seen names = .ok () ↔ names.Nodup ∧ (∀ name ∈ names, name ∉ seen) ∧
      (∀ name ∈ names, ∃ feature : Feature, feature.name = name) ∧
      ∀ name ∈ names, c ∉ name.toList := by
  induction names generalizing seen with
  | nil => simp [checkHandlers]
  | cons name rest ih =>
    simp only [checkHandlers_cons_ok_iff, ih, List.nodup_cons, List.forall_mem_cons]
    constructor
    · rintro ⟨hknown, hseen, hfree, hnodup, hrest, hallKnown, hallFree⟩
      have hnot : name ∉ rest := fun hm => hrest name hm List.mem_cons_self
      have hunseen : ∀ other ∈ rest, other ∉ seen :=
        fun other ho hm => hrest other ho (List.mem_cons_of_mem _ hm)
      exact ⟨⟨hnot, hnodup⟩, ⟨hseen, hunseen⟩, ⟨hknown, hallKnown⟩, hfree, hallFree⟩
    · rintro ⟨⟨hnot, hnodup⟩, ⟨hseen, hunseen⟩, ⟨hknown, hallKnown⟩, hfree, hallFree⟩
      refine ⟨hknown, hseen, hfree, hnodup, fun other ho hm => ?_, hallKnown, hallFree⟩
      rcases List.mem_cons.mp hm with rfl | hm
      · exact hnot ho
      · exact hunseen other ho hm

theorem validate_ok_iff : config.validate = .ok () ↔ ∃ c, config.Valid c := by
  have hlabel : ∀ rest : Except ConfigError Unit,
      (if (Text.trim config.label).isEmpty then do throw .emptyLabel; rest else rest) = .ok () ↔
        Text.trim config.label ≠ "" ∧ rest = .ok () := by
    intro rest
    by_cases h : Text.trim config.label = ""
    · simp [h, throw, throwThe, MonadExceptOf.throw, bind, Except.bind]
    · simp [h]
  simp only [validate, bind_eq_ok_iff, separatorChar_eq_ok_iff, scheme_eq_ok_iff, hlabel,
    checkHandlers_ok_iff]
  constructor
  · rintro ⟨c, hc, _, ⟨d, hd, hstem, husable, -⟩, hlabel, hdistinct, -, hknown, hfree⟩
    obtain rfl : c = d := by simpa [← String.toList_inj] using hc.symm.trans hd
    exact ⟨c, hc, husable, hstem, hlabel, hdistinct, hknown, hfree⟩
  · rintro ⟨c, h⟩
    exact ⟨c, h.separator, _, ⟨c, h.separator, h.stem, h.usable, rfl⟩, h.label, h.distinct,
      by simp, h.known, h.free⟩

-- ---------------------------------------------------------------------------
-- What is built
-- ---------------------------------------------------------------------------

theorem mapM_feature_ok {names : List String}
    (h : ∀ name ∈ names, ∃ feature : Feature, feature.name = name) :
    ∃ features, names.mapM feature = .ok features ∧ features.map (·.name) = names := by
  induction names with
  | nil => exact ⟨[], rfl, rfl⟩
  | cons name rest ih =>
    obtain ⟨first, rfl⟩ := h name List.mem_cons_self
    obtain ⟨features, hrest, hnames⟩ := ih fun other ho => h other (List.mem_cons_of_mem _ ho)
    have hfirst : feature first.name = .ok first := by
      simp [feature, Feature.ofName?_eq_some_iff.mpr rfl]
    refine ⟨first :: features, ?_, by rw [List.map_cons, hnames]⟩
    rw [List.mapM_cons, hfirst, hrest]
    rfl

theorem pipeline_of_valid (h : config.Valid c) :
    ∃ features, config.scheme = .ok ⟨config.stem, c⟩ ∧
      config.pipeline = .ok
        { identifier := .label config.label, scheme := ⟨config.stem, c⟩, features } ∧
      features.map (·.name) = config.handlers := by
  obtain ⟨features, hfeatures, hnames⟩ := mapM_feature_ok h.known
  have hscheme : config.scheme = .ok ⟨config.stem, c⟩ :=
    scheme_eq_ok_iff.mpr ⟨c, h.separator, h.stem, h.usable, rfl⟩
  refine ⟨features, hscheme, ?_, hnames⟩
  rw [Config.pipeline, validate_ok_iff.mpr ⟨c, h⟩, hscheme, hfeatures]
  rfl

-- ---------------------------------------------------------------------------
-- What goes wrong
-- ---------------------------------------------------------------------------

/-- Nothing goes wrong but what the checks find. -/
theorem pipeline_eq_error_iff {error : ConfigError} :
    config.pipeline = .error error ↔ config.validate = .error error := by
  constructor
  · intro herror
    rcases bind_eq_error_iff.mp herror with hvalidate | ⟨⟨⟩, hvalidate, -⟩
    · exact hvalidate
    · obtain ⟨c, hc⟩ := validate_ok_iff.mp hvalidate
      obtain ⟨features, -, hpipeline, -⟩ := pipeline_of_valid hc
      rw [hpipeline] at herror
      cases herror
  · intro hvalidate
    rw [Config.pipeline, hvalidate]
    rfl

theorem pipeline_eq_ok_iff {pipeline : Pipeline} :
    config.pipeline = .ok pipeline ↔ config.validate = .ok () ∧
      pipeline.identifier = .label config.label ∧ pipeline.scheme.stem = config.stem ∧
      config.separator = String.singleton pipeline.scheme.separator ∧
      pipeline.features.map (·.name) = config.handlers := by
  have hbuilt : ∀ c, config.Valid c → ∃ features, features.map (·.name) = config.handlers ∧
      config.pipeline = .ok
        { identifier := .label config.label, scheme := ⟨config.stem, c⟩, features } := by
    intro c hc
    obtain ⟨features, -, hpipeline, hnames⟩ := pipeline_of_valid hc
    exact ⟨features, hnames, hpipeline⟩
  constructor
  · intro hok
    obtain ⟨⟨⟩, hvalidate, -⟩ := bind_eq_ok_iff.mp hok
    obtain ⟨c, hc⟩ := validate_ok_iff.mp hvalidate
    obtain ⟨features, hnames, hpipeline⟩ := hbuilt c hc
    obtain rfl := Except.ok.inj (hpipeline.symm.trans hok)
    exact ⟨hvalidate, rfl, rfl, hc.separator, hnames⟩
  · rintro ⟨hvalidate, hidentifier, hstem, hseparator, hnames⟩
    obtain ⟨c, hc⟩ := validate_ok_iff.mp hvalidate
    obtain ⟨features, hnames', hpipeline⟩ := hbuilt c hc
    obtain rfl : pipeline.scheme.separator = c := by
      simpa [← String.toList_inj] using hseparator.symm.trans hc.separator
    have hfeatures : features = pipeline.features :=
      (List.map_inj_right fun _ _ => Feature.name_inj.mp).mp (hnames'.trans hnames.symm)
    rw [hpipeline, hfeatures, ← hidentifier, ← hstem]

theorem checkHandlers_ne_noFeature (seen names : List String) (name : String) :
    checkHandlers c seen names ≠ .error (.noFeature name) := by
  induction names generalizing seen with
  | nil => nofun
  | cons first rest ih =>
    rw [checkHandlers]
    repeat' split
    · nofun
    · nofun
    · nofun
    · exact ih _

theorem scheme_ne_noFeature (name : String) : config.scheme ≠ .error (.noFeature name) := by
  intro h
  rcases bind_eq_error_iff.mp h with hseparator | ⟨c, -, hscheme⟩
  · unfold separatorChar at hseparator
    split at hseparator <;> cases hseparator
  · obtain ⟨reason, -, hreason⟩ := mapError_eq_error_iff.mp hscheme
    cases hreason

theorem validate_ne_noFeature (name : String) : config.validate ≠ .error (.noFeature name) := by
  intro h
  rcases bind_eq_error_iff.mp h with hseparator | ⟨c, hc, h⟩
  · exact scheme_ne_noFeature name (bind_eq_error_iff.mpr (.inl hseparator))
  · rcases bind_eq_error_iff.mp h with hscheme | ⟨scheme, -, h⟩
    · exact scheme_ne_noFeature name hscheme
    · by_cases hlabel : (Text.trim config.label).isEmpty = true
      · rw [if_pos hlabel] at h
        cases h
      · rw [if_neg hlabel] at h
        exact checkHandlers_ne_noFeature [] config.handlers name h

end

/-- The checks of a configuration decide whether a pipeline can be built from it. They ask for a
separator of one character that is no digit, no hyphen and no blank and stands in the name of no
listed handler, a stem, a label that is not blank and handlers that are features and listed once.
What they refuse is refused with their error; what they accept gives the pipeline with the listed
features in their order, the stem, the separator and the label, so that neither the spelling of keys
nor a feature is found wanting after the checks. -/
theorem built_iff_validated (config : Config) :
    (config.validate = .ok () ↔
      (∃ c, config.separator = String.singleton c ∧
        c.isDigit = false ∧ c ≠ '-' ∧ Text.isBlank c = false ∧
        ∀ name ∈ config.handlers, c ∉ name.toList) ∧
      config.stem ≠ "" ∧ (∃ c ∈ config.label.toList, Text.isBlank c = false) ∧
      config.handlers.Nodup ∧
      ∀ name ∈ config.handlers, name = "mount-volume" ∨ name = "host-port") ∧
    ((∃ pipeline, config.pipeline = .ok pipeline) ↔ config.validate = .ok ()) ∧
    (∀ error, config.pipeline = .error error ↔ config.validate = .error error) ∧
    (∀ pipeline, config.pipeline = .ok pipeline ↔ config.validate = .ok () ∧
      pipeline.identifier = .label config.label ∧ pipeline.scheme.stem = config.stem ∧
      config.separator = String.singleton pipeline.scheme.separator ∧
      pipeline.features.map (·.name) = config.handlers) ∧
    (config.validate = .ok () → (∃ scheme, config.scheme = .ok scheme) ∧
      ∃ features, config.handlers.mapM feature = .ok features) ∧
    ∀ name, config.pipeline ≠ .error (.noFeature name) := by
  refine ⟨?_, ?_, fun _ => pipeline_eq_error_iff, fun _ => pipeline_eq_ok_iff, ?_, ?_⟩
  · rw [validate_ok_iff]
    constructor
    · rintro ⟨c, h⟩
      obtain ⟨hdigit, hhyphen, hblank⟩ := Annotations.Scheme.isUnusable_eq_false_iff.mp h.usable
      exact ⟨⟨c, h.separator, hdigit, hhyphen, hblank, h.free⟩, h.stem,
        Text.trim_ne_empty_iff.mp h.label, h.distinct,
        fun name hm => Feature.exists_name_iff.mp (h.known name hm)⟩
    · rintro ⟨⟨c, hc, hdigit, hhyphen, hblank, hfree⟩, hstem, hlabel, hdistinct, hknown⟩
      have husable := Annotations.Scheme.isUnusable_eq_false_iff.mpr ⟨hdigit, hhyphen, hblank⟩
      exact ⟨c, hc, husable, hstem, Text.trim_ne_empty_iff.mpr hlabel, hdistinct,
        fun name hm => Feature.exists_name_iff.mpr (hknown name hm), hfree⟩
  · constructor
    · rintro ⟨pipeline, hpipeline⟩
      exact (pipeline_eq_ok_iff.mp hpipeline).1
    · intro hvalidate
      obtain ⟨c, hc⟩ := validate_ok_iff.mp hvalidate
      obtain ⟨features, -, hpipeline, -⟩ := pipeline_of_valid hc
      exact ⟨_, hpipeline⟩
  · intro hvalidate
    obtain ⟨c, hc⟩ := validate_ok_iff.mp hvalidate
    obtain ⟨features, hfeatures, -⟩ := mapM_feature_ok hc.known
    obtain ⟨-, hscheme, -⟩ := pipeline_of_valid hc
    exact ⟨⟨_, hscheme⟩, features, hfeatures⟩
  · intro name h
    exact validate_ne_noFeature name (pipeline_eq_error_iff.mp h)

def reordered (separator : String) : Config :=
  { separator, label := " app ", handlers := ["host-port", "mount-volume"] }

theorem built_iff_validated_reordered :
    (reordered ".").validate = .ok () ∧
    (∃ pipeline, (reordered ".").pipeline = .ok pipeline ∧
      pipeline.features.map (·.name) = ["host-port", "mount-volume"]) ∧
    (reordered "v").pipeline = .error (.separatorInHandler "mount-volume" 'v') := by
  obtain ⟨hrules, hbuilt, -, hpipelines, -⟩ := built_iff_validated (reordered ".")
  obtain ⟨-, -, herrors, -⟩ := built_iff_validated (reordered "v")
  have hvalidate : (reordered ".").validate = .ok () :=
    hrules.mpr ⟨⟨'.', rfl, by decide, by decide, by decide, by decide⟩, by decide,
      ⟨'a', by decide, by decide⟩, by decide, by decide⟩
  obtain ⟨pipeline, hpipeline⟩ := hbuilt.mpr hvalidate
  refine ⟨hvalidate, ⟨pipeline, hpipeline, ?_⟩, (herrors _).mpr (by decide +kernel)⟩
  obtain ⟨-, -, -, -, hnames⟩ := (hpipelines pipeline).mp hpipeline
  exact hnames

end Config

end OrdinalAdmission
