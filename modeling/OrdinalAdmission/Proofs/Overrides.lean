import Mathlib.Data.List.Perm.Basic
import OrdinalAdmission.Command.Run
import OrdinalAdmission.Proofs.Validation

/-!
# Overrides of a configuration

Properties are read one by one, up to the first that is faulty, and each gives a key a value. What
they come to is said of every setting by itself: the last property with its key gives its value, and
without one it stays as it was (`IsOverridden`). Whether properties are given at once or in two
batches, in which order those with different keys stand and which of no setting stand between them
makes no difference (`overrides_compose`).
-/

namespace OrdinalAdmission

namespace Config.Override

-- ---------------------------------------------------------------------------
-- What a property says
-- ---------------------------------------------------------------------------

structure Splits (text before after : String) : Prop where
  joined : text = before ++ "=" ++ after
  first : '=' ∉ before.toList

inductive Gives (text : String) : (key value : String) → Prop where
  | given {before after : String} : Splits text before after → Text.trim before ≠ "" →
      Gives text (Text.trim before) (Text.trim after)

inductive Faulty (text : String) : ConfigError → Prop where
  | withoutValue : '=' ∉ text.toList → Faulty text (.propertyWithoutValue text)
  | withoutKey {before after : String} : Splits text before after →
      (∀ c ∈ before.toList, Text.isBlank c = true) → Faulty text (.propertyWithoutKey text)

def keyOf (text : String) : String :=
  Text.trim (String.ofList (text.toList.takeWhile (· ≠ '=')))

section
variable {text before after key value : String} {error : ConfigError}

theorem Splits.cutFirst? (h : Splits text before after) :
    Text.cutFirst? '=' text.toList = some (before.toList, after.toList) :=
  Text.cutFirst?_eq_some_iff.mpr ⟨by simp [h.joined], h.first⟩

theorem exists_splits (h : '=' ∈ text.toList) : ∃ before after, Splits text before after := by
  cases hcut : Text.cutFirst? '=' text.toList with
  | none => exact absurd h (Text.cutFirst?_eq_none_iff.mp hcut)
  | some cut =>
    obtain ⟨htext, hfirst⟩ := Text.cutFirst?_eq_some_iff.mp hcut
    refine ⟨String.ofList cut.1, String.ofList cut.2, ?_, by simpa using hfirst⟩
    simp [← String.toList_inj, htext]

theorem property_of_splits (h : Splits text before after) :
    property text = if Text.trim before = "" then .error (.propertyWithoutKey text)
      else .ok (Text.trim before, Text.trim after) := by
  rw [property, h.cutFirst?]
  simp

theorem property_of_no_sign (h : '=' ∉ text.toList) :
    property text = .error (.propertyWithoutValue text) := by
  rw [property, Text.cutFirst?_eq_none_iff.mpr h]

theorem Gives.property_eq (h : Gives text key value) : property text = .ok (key, value) := by
  cases h with
  | given hsplits hkey => rw [property_of_splits hsplits, if_neg hkey]

theorem Faulty.property_eq (h : Faulty text error) : property text = .error error := by
  cases h with
  | withoutValue hsign => exact property_of_no_sign hsign
  | withoutKey hsplits hblank =>
    rw [property_of_splits hsplits, if_pos (Text.trim_eq_empty_iff.mpr hblank)]

theorem gives_or_faulty (text : String) :
    (∃ key value, Gives text key value) ∨ ∃ error, Faulty text error := by
  by_cases hsign : '=' ∈ text.toList
  · obtain ⟨before, after, hsplits⟩ := exists_splits hsign
    by_cases hkey : Text.trim before = ""
    · exact .inr ⟨_, .withoutKey hsplits (Text.trim_eq_empty_iff.mp hkey)⟩
    · exact .inl ⟨_, _, .given hsplits hkey⟩
  · exact .inr ⟨_, .withoutValue hsign⟩

theorem property_eq_ok_iff : property text = .ok (key, value) ↔ Gives text key value := by
  constructor
  · intro h
    rcases gives_or_faulty text with ⟨key', value', hgives⟩ | ⟨error, hfaulty⟩
    · have hsame := hgives.property_eq.symm.trans h
      cases hsame
      exact hgives
    · cases hfaulty.property_eq.symm.trans h
  · exact Gives.property_eq

theorem property_eq_error_iff : property text = .error error ↔ Faulty text error := by
  constructor
  · intro h
    rcases gives_or_faulty text with ⟨key, value, hgives⟩ | ⟨error', hfaulty⟩
    · cases hgives.property_eq.symm.trans h
    · have hsame := hfaulty.property_eq.symm.trans h
      cases hsame
      exact hfaulty
  · exact Faulty.property_eq

theorem Gives.keyOf_eq (h : Gives text key value) : keyOf text = key := by
  cases h with
  | @given before after hsplits hkey =>
    have htake : text.toList.takeWhile (· ≠ '=') = before.toList := by
      have hbefore : ∀ c ∈ before.toList, decide (c ≠ '=') = true := by
        intro c hc
        simpa using fun hsign : c = '=' => hsplits.first (hsign ▸ hc)
      have htext : text.toList = before.toList ++ '=' :: after.toList := by simp [hsplits.joined]
      rw [htext, List.takeWhile_append_of_pos hbefore]
      simp
    rw [keyOf, htake, String.ofList_toList]

end

-- ---------------------------------------------------------------------------
-- What properties say
-- ---------------------------------------------------------------------------

inductive LastGives (key value : String) : List String → Prop where
  | here {text : String} {later : List String} : Gives text key value →
      (∀ other ∈ later, keyOf other ≠ key) → LastGives key value (text :: later)
  | later {text : String} {later : List String} : LastGives key value later →
      LastGives key value (text :: later)

section
variable {properties more : List String} {overrides : TextMap} {key : String}

theorem parse_eq_ok_iff :
    parse properties = .ok overrides ↔
      ∃ given, properties.mapM property = .ok given ∧ overrides = .ofList given := by
  unfold parse
  cases properties.mapM property <;> simp [Except.map, eq_comm]

theorem parse_eq_error_iff {error : ConfigError} :
    parse properties = .error error ↔
      ∃ text, First (fun text => ∃ error, Faulty text error) properties text ∧
        Faulty text error := by
  simp only [← property_eq_error_iff]
  rw [← mapM_eq_error_iff, parse]
  cases properties.mapM property <;> simp [Except.map]

theorem keys_of_mapM {given : List (String × String)}
    (h : properties.mapM property = .ok given) : given.map Prod.fst = properties.map keyOf := by
  have hgiven := mapM_eq_ok_iff.mp h
  clear h
  induction hgiven with
  | nil => rfl
  | cons hentry _ ih =>
    rw [List.map_cons, List.map_cons, ih, (property_eq_ok_iff.mp hentry).keyOf_eq]

theorem lastGives_of_get? {given : List (String × String)} {value : String}
    (h : properties.mapM property = .ok given)
    (hvalue : (SortedMap.ofList given).get? key = some value) :
    LastGives key value properties := by
  have hgiven := mapM_eq_ok_iff.mp h
  clear h
  induction hgiven with
  | nil => cases hvalue
  | @cons text entry later rest hentry hrest ih =>
    have hgives := property_eq_ok_iff.mp hentry
    rw [SortedMap.get?_ofList_cons] at hvalue
    cases hlater : (SortedMap.ofList rest : TextMap).get? key with
    | some found =>
      rw [hlater] at hvalue
      exact .later (ih (hlater.trans hvalue))
    | none =>
      rw [hlater, Option.none_or] at hvalue
      obtain ⟨rfl, hown⟩ : key = entry.1 ∧ entry.2 = value := by simpa using hvalue
      refine .here (hown ▸ hgives) fun other ho hkey => ?_
      have hnone := SortedMap.get?_ofList_eq_none_iff.mp hlater
      rw [keys_of_mapM (mapM_eq_ok_iff.mpr hrest)] at hnone
      exact hnone (List.mem_map.mpr ⟨other, ho, hkey⟩)

theorem parse_append_of_ok {first second : TextMap} (hfirst : parse properties = .ok first)
    (hsecond : parse more = .ok second) :
    ∃ both, parse (properties ++ more) = .ok both ∧
      ∀ config, apply both config = apply second (apply first config) := by
  obtain ⟨given, hgiven, rfl⟩ := parse_eq_ok_iff.mp hfirst
  obtain ⟨given', hgiven', rfl⟩ := parse_eq_ok_iff.mp hsecond
  have hboth : (properties ++ more).mapM property = .ok (given ++ given') := by
    rw [List.mapM_append, hgiven, hgiven']
    rfl
  refine ⟨_, parse_eq_ok_iff.mpr ⟨_, hboth, rfl⟩, fun config => ?_⟩
  simp [apply, SortedMap.get?_ofList_append, Option.getD_or, Option.map_or]

theorem ok_of_parse_append (h : parse (properties ++ more) = .ok overrides) :
    (∃ first, parse properties = .ok first) ∧ ∃ second, parse more = .ok second := by
  obtain ⟨given, hgiven, -⟩ := parse_eq_ok_iff.mp h
  rw [List.mapM_append] at hgiven
  obtain ⟨first, hfirst, hgiven⟩ := bind_eq_ok_iff.mp hgiven
  obtain ⟨second, hsecond, -⟩ := bind_eq_ok_iff.mp hgiven
  exact ⟨⟨_, parse_eq_ok_iff.mpr ⟨first, hfirst, rfl⟩⟩,
    _, parse_eq_ok_iff.mpr ⟨second, hsecond, rfl⟩⟩

end

-- ---------------------------------------------------------------------------
-- What settings become
-- ---------------------------------------------------------------------------

def Lists (value : String) (names : List String) : Prop :=
  ∃ pieces, value = ",".intercalate pieces ∧ (∀ piece ∈ pieces, ',' ∉ piece.toList) ∧
    names = (pieces.map Text.trim).filter (· ≠ "")

/-- What comes of a setting `own`, where a value is one of those that it `Reads`. -/
inductive IsOverridden {α : Type} (Reads : String → α → Prop) (properties : List String)
    (key : String) (own : α) : α → Prop where
  | kept : (∀ text ∈ properties, keyOf text ≠ key) → IsOverridden Reads properties key own own
  | given {value : String} {result : α} : LastGives key value properties → Reads value result →
      IsOverridden Reads properties key own result

structure AreOverridden (properties : List String) (before after : Config) : Prop where
  stem : IsOverridden Eq properties "spoditor.annotation.prefix" before.stem after.stem
  separator :
    IsOverridden Eq properties "spoditor.annotation.separator" before.separator after.separator
  label : IsOverridden Eq properties "spoditor.identity.label" before.label after.label
  handlers :
    IsOverridden Lists properties "spoditor.pipeline.handlers" before.handlers after.handlers

def settingKeys : List String :=
  ["spoditor.annotation.prefix", "spoditor.annotation.separator", "spoditor.identity.label",
    "spoditor.pipeline.handlers"]

inductive Padded : List String → List String → Prop where
  | nil : Padded [] []
  | shared {text : String} {properties padded : List String} : Padded properties padded →
      Padded (text :: properties) (text :: padded)
  | added {text key value : String} {properties padded : List String} : Gives text key value →
      key ∉ settingKeys → Padded properties padded → Padded properties (text :: padded)

section
variable {properties padded : List String} {overrides : TextMap}

theorem lists_items (value : String) : Lists value (items value) := by
  refine ⟨(Text.pieces ',' value.toList).map String.ofList, ?_, ?_, ?_⟩
  · rw [← String.toList_inj, String.toList_intercalate, List.map_map]
    simp [Function.comp_def, Text.intercalate_pieces]
  · intro piece hm
    obtain ⟨chars, hchars, rfl⟩ := List.mem_map.mp hm
    simpa using Text.not_mem_of_mem_pieces hchars
  · have hempty : ∀ item : String, (!item.isEmpty) = decide (item ≠ "") := by
      intro item
      by_cases h : item = "" <;> simp [h]
    simp only [items, hempty, List.map_map]
    rfl

theorem isOverridden_getD {α : Type} {Reads : String → α → Prop} {read : String → α}
    (hread : ∀ value, Reads value (read value)) {given : List (String × String)}
    (h : properties.mapM property = .ok given) (key : String) (own : α) :
    IsOverridden Reads properties key own
      ((((SortedMap.ofList given : TextMap).get? key).map read).getD own) := by
  cases hfound : (SortedMap.ofList given : TextMap).get? key with
  | none =>
    have hnone := SortedMap.get?_ofList_eq_none_iff.mp hfound
    rw [keys_of_mapM h] at hnone
    exact .kept fun text hm hkey => hnone (List.mem_map.mpr ⟨text, hm, hkey⟩)
  | some value => exact .given (lastGives_of_get? h hfound) (hread value)

theorem areOverridden_apply (h : parse properties = .ok overrides) (config : Config) :
    AreOverridden properties config (apply overrides config) := by
  obtain ⟨given, hgiven, rfl⟩ := parse_eq_ok_iff.mp h
  have htext : ∀ key own, IsOverridden Eq properties key own
      (((SortedMap.ofList given : TextMap).get? key).getD own) := by
    intro key own
    have hown : IsOverridden Eq properties key own
        ((((SortedMap.ofList given : TextMap).get? key).map id).getD own) :=
      isOverridden_getD (fun _ => rfl) hgiven key own
    simpa using hown
  exact ⟨htext _ _, htext _ _, htext _ _, isOverridden_getD lists_items hgiven _ _⟩

theorem apply_congr {one other : TextMap} (h : ∀ key ∈ settingKeys, one.get? key = other.get? key)
    (config : Config) : apply one config = apply other config := by
  simp only [settingKeys, List.forall_mem_cons] at h
  obtain ⟨hstem, hseparator, hlabel, hhandlers, -⟩ := h
  simp only [apply, hstem, hseparator, hlabel, hhandlers]

theorem parse_perm {permuted : List String} (h : parse properties = .ok overrides)
    (hperm : permuted.Perm properties) (hdistinct : (properties.map keyOf).Nodup) :
    parse permuted = .ok overrides := by
  obtain ⟨given, hgiven, rfl⟩ := parse_eq_ok_iff.mp h
  obtain ⟨given', hgiven', hsame⟩ := List.perm_comp_forall₂ hperm (mapM_eq_ok_iff.mp hgiven)
  have hkeys := keys_of_mapM hgiven
  rw [← hkeys] at hdistinct
  exact parse_eq_ok_iff.mpr
    ⟨given', mapM_eq_ok_iff.mpr hgiven', SortedMap.ofList_perm hsame.symm hdistinct⟩

theorem Padded.mapM_property (h : Padded properties padded) :
    (∃ error, properties.mapM property = .error error ∧ padded.mapM property = .error error) ∨
    ∃ given given', properties.mapM property = .ok given ∧ padded.mapM property = .ok given' ∧
      ∀ key ∈ settingKeys, (SortedMap.ofList given' : TextMap).get? key =
        (SortedMap.ofList given : TextMap).get? key := by
  induction h with
  | nil => exact .inr ⟨[], [], rfl, rfl, fun _ _ => rfl⟩
  | @shared text properties padded _ ih =>
    simp only [List.mapM_cons]
    cases property text with
    | error error => exact .inl ⟨error, rfl, rfl⟩
    | ok entry =>
      rcases ih with ⟨error, hproperties, hpadded⟩ | ⟨given, given', hproperties, hpadded, hsame⟩
      · rw [hproperties, hpadded]
        exact .inl ⟨error, rfl, rfl⟩
      · rw [hproperties, hpadded]
        refine .inr ⟨entry :: given, entry :: given', rfl, rfl, fun key hkey => ?_⟩
        rw [SortedMap.get?_ofList_cons, SortedMap.get?_ofList_cons, hsame key hkey]
  | @added text key value properties padded hgives hunknown _ ih =>
    rw [List.mapM_cons, hgives.property_eq]
    rcases ih with ⟨error, hproperties, hpadded⟩ | ⟨given, given', hproperties, hpadded, hsame⟩
    · rw [hproperties, hpadded]
      exact .inl ⟨error, rfl, rfl⟩
    · rw [hproperties, hpadded]
      refine .inr ⟨given, (key, value) :: given', rfl, rfl, fun own hown => ?_⟩
      have hne : own ≠ key := fun h => hunknown (h ▸ hown)
      rw [SortedMap.get?_ofList_cons, if_neg hne, Option.or_none, hsame own hown]

theorem Padded.map_parse (h : Padded properties padded) (config : Config) :
    (parse padded).map (apply · config) = (parse properties).map (apply · config) := by
  unfold parse
  rcases h.mapM_property with ⟨error, hproperties, hpadded⟩ |
    ⟨given, given', hproperties, hpadded, hsame⟩
  · rw [hproperties, hpadded]
  · rw [hproperties, hpadded]
    exact congrArg Except.ok (apply_congr hsame config)

/-- The stored configuration need not be valid; the one with the properties over it has to be. -/
theorem config_eq_ok_iff {environment : Command.Environment} {input : Command.Input}
    {stored result : Config} (hstored : Command.storedConfig environment input = .ok stored)
    (h : parse input.properties = .ok overrides) :
    Command.config environment input = .ok result ↔
      result = apply overrides stored ∧ result.validate = .ok () := by
  simp only [Command.config, bind_eq_ok_iff, mapError_eq_ok_iff, hstored, h, Except.ok.injEq,
    exists_eq_left']
  constructor
  · rintro ⟨⟨⟩, hvalid, hresult⟩
    obtain rfl := Except.ok.inj hresult
    exact ⟨rfl, hvalid⟩
  · rintro ⟨rfl, hvalid⟩
    exact ⟨(), hvalid, rfl⟩

end

/-- Properties are read if none is faulty, and else the first faulty one is the error. Two batches
are read if each of them is, and put over a configuration they come to the first and then the second
put over it. Every setting becomes what the last property with its key says, or stays. The order of
properties with different keys makes no difference, and properties of no setting make none. A
command runs with the stored configuration and the properties over it exactly if this is valid. -/
theorem overrides_compose (config : Config) (properties : List String) :
    (∀ error, parse properties = .error error ↔
      ∃ text, First (fun text => ∃ error, Faulty text error) properties text ∧
        Faulty text error) ∧
    (∀ more,
      ((∃ both, parse (properties ++ more) = .ok both) ↔
        (∃ first, parse properties = .ok first) ∧ ∃ second, parse more = .ok second) ∧
      ∀ first second, parse properties = .ok first → parse more = .ok second →
        ∃ both, parse (properties ++ more) = .ok both ∧
          apply both config = apply second (apply first config)) ∧
    (∀ overrides, parse properties = .ok overrides →
      AreOverridden properties config (apply overrides config) ∧
      (∀ permuted : List String, permuted.Perm properties → (properties.map keyOf).Nodup →
        parse permuted = .ok overrides) ∧
      ∀ environment input, input.properties = properties →
        Command.storedConfig environment input = .ok config →
        ∀ result, Command.config environment input = .ok result ↔
          result = apply overrides config ∧ result.validate = .ok ()) ∧
    ∀ padded, Padded properties padded →
      (parse padded).map (apply · config) = (parse properties).map (apply · config) := by
  refine ⟨fun error => parse_eq_error_iff, fun more => ⟨?_, ?_⟩, fun overrides h => ?_, ?_⟩
  · constructor
    · rintro ⟨both, hboth⟩
      exact ok_of_parse_append hboth
    · rintro ⟨⟨first, hfirst⟩, second, hsecond⟩
      obtain ⟨both, hboth, -⟩ := parse_append_of_ok hfirst hsecond
      exact ⟨both, hboth⟩
  · intro first second hfirst hsecond
    obtain ⟨both, hboth, happly⟩ := parse_append_of_ok hfirst hsecond
    exact ⟨both, hboth, happly config⟩
  · refine ⟨areOverridden_apply h config, fun _ => parse_perm h, ?_⟩
    rintro environment input rfl hstored result
    exact config_eq_ok_iff hstored h
  · exact fun padded hpadded => hpadded.map_parse config

def unusable : Command.Environment where
  directory := "/"
  file _ := .ok "annotation.separator=\"\""

def mending : List String :=
  ["spoditor.identity.label=web", "proxy=", " spoditor.identity.label = a=b ",
    "spoditor.annotation.separator=_"]

theorem overrides_compose_mending :
    let input : Command.Input := { source := .file "pod.yaml", properties := mending }
    let mended : Config := { label := "a=b" }
    Command.storedConfig unusable input = .ok { separator := "" } ∧
    ({ separator := "" } : Config).validate ≠ .ok () ∧
    (∃ overrides, parse mending = .ok overrides) ∧
    AreOverridden mending { separator := "" } mended ∧
    Command.config unusable input = .ok mended := by
  intro input mended
  have hstored : Command.storedConfig unusable input = .ok { separator := "" } := by
    decide +kernel
  have hmended : (parse mending).map (apply · { separator := "" }) = .ok mended := by
    decide +kernel
  obtain ⟨-, -, hread, -⟩ := overrides_compose { separator := "" } mending
  cases hparse : parse mending with
  | error error =>
    rw [hparse] at hmended
    cases hmended
  | ok overrides =>
    have hresult : apply overrides { separator := "" } = mended := by
      rw [hparse] at hmended
      exact Except.ok.inj hmended
    obtain ⟨hoverridden, -, hconfig⟩ := hread overrides hparse
    refine ⟨hstored, by decide +kernel, ⟨overrides, rfl⟩, hresult ▸ hoverridden, ?_⟩
    exact (hconfig unusable input rfl hstored mended).mpr ⟨hresult.symm, by decide +kernel⟩

end Config.Override

end OrdinalAdmission
