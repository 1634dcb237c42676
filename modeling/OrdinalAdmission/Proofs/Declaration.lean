import Mathlib.Data.List.Sort
import OrdinalAdmission.Feature.HostPort
import OrdinalAdmission.Proofs.Keeping
import OrdinalAdmission.Proofs.Sequencing

/-!
# What the annotations of a feature declare

The annotations of interest are a map that inserts have built, those of a collection and any that
came after it. A name has the value it was given last, and a feature is looked up among the names
that carry it and no others: `Declares` says what is found there, and `declared_after_inserts` that
this holds however the map came about.
-/

namespace OrdinalAdmission

-- ---------------------------------------------------------------------------
-- Entries of a feature
-- ---------------------------------------------------------------------------

namespace Annotations.Collection

variable {annotations one other : Collection} {feature qualifier value : String}

theorem forFeature_congr
    (h : ∀ qualifier, one.get? ⟨feature, qualifier⟩ = other.get? ⟨feature, qualifier⟩) :
    one.forFeature feature = other.forFeature feature := by
  refine SortedMap.filter_toList_congr (p := fun name : Name => name.feature == feature) ?_
  rintro ⟨own, qualifier⟩ hown
  obtain rfl : own = feature := by simpa using hown
  exact h qualifier

theorem forFeature_eq_nil_iff :
    annotations.forFeature feature = [] ↔
      ∀ qualifier, annotations.get? ⟨feature, qualifier⟩ = none := by
  rw [List.eq_nil_iff_forall_not_mem]
  constructor
  · intro h qualifier
    cases hvalue : annotations.get? ⟨feature, qualifier⟩ with
    | none => rfl
    | some value => exact absurd (mem_forFeature.mpr ⟨rfl, hvalue⟩) (h _)
  · rintro h ⟨⟨own, qualifier⟩, value⟩ hm
    obtain ⟨rfl, hvalue⟩ := mem_forFeature.mp hm
    cases (h qualifier).symm.trans hvalue

structure HoldsOnly (annotations : Collection) (feature qualifier value : String) : Prop where
  found : annotations.get? ⟨feature, qualifier⟩ = some value
  alone : ∀ other, (annotations.get? ⟨feature, other⟩).isSome = true → other = qualifier

theorem forFeature_eq_singleton_iff :
    annotations.forFeature feature = [(⟨feature, qualifier⟩, value)] ↔
      annotations.HoldsOnly feature qualifier value := by
  constructor
  · intro h
    refine ⟨(mem_forFeature.mp (h ▸ List.mem_singleton_self _)).2, fun other hother => ?_⟩
    obtain ⟨found, hfound⟩ := Option.isSome_iff_exists.mp hother
    have hm : ((⟨feature, other⟩ : Name), found) ∈ annotations.forFeature feature :=
      mem_forFeature.mpr ⟨rfl, hfound⟩
    rw [h, List.mem_singleton] at hm
    cases hm
    rfl
  · rintro ⟨hfound, halone⟩
    refine SortedMap.eq_of_mem_iff (annotations.increasing.filter _) (List.pairwise_singleton _ _)
      fun (name, held) => ?_
    refine mem_forFeature.trans ?_
    rw [List.mem_singleton, Prod.mk.injEq]
    constructor
    · rintro ⟨rfl, hheld⟩
      obtain rfl := halone name.qualifier (by simp [hheld])
      exact ⟨rfl, Option.some.inj (hheld.symm.trans hfound)⟩
    · rintro ⟨rfl, rfl⟩
      exact ⟨rfl, hfound⟩

def qualifiers (annotations : Collection) (feature : String) : List String :=
  (annotations.forFeature feature).map (·.1.qualifier)

theorem mem_qualifiers :
    qualifier ∈ annotations.qualifiers feature ↔
      (annotations.get? ⟨feature, qualifier⟩).isSome = true := by
  rw [qualifiers, List.mem_map, Option.isSome_iff_exists]
  constructor
  · rintro ⟨⟨⟨own, _⟩, value⟩, hm, rfl⟩
    obtain ⟨rfl, hvalue⟩ := mem_forFeature.mp hm
    exact ⟨value, hvalue⟩
  · rintro ⟨value, hvalue⟩
    exact ⟨(⟨feature, qualifier⟩, value), mem_forFeature.mpr ⟨rfl, hvalue⟩, rfl⟩

theorem pairwise_qualifiers : (annotations.qualifiers feature).Pairwise (· < ·) := by
  rw [qualifiers, List.pairwise_map]
  refine (annotations.increasing.filter _).imp_of_mem fun {a b} ha hb hlt => ?_
  have hfeatures : a.1.feature = b.1.feature :=
    (mem_forFeature.mp ha).1.trans (mem_forFeature.mp hb).1.symm
  rcases Name.compare_eq_lt_iff.mp hlt with hfeature | ⟨-, hqualifier⟩
  · exact absurd (hfeatures ▸ hfeature) (String.lt_irrefl _)
  · exact hqualifier

theorem length_qualifiers :
    (annotations.qualifiers feature).length = (annotations.forFeature feature).length :=
  List.length_map _

theorem qualifiers_eq {found : List String} (hsorted : found.Pairwise (· < ·))
    (hfound : ∀ qualifier, qualifier ∈ found ↔
      (annotations.get? ⟨feature, qualifier⟩).isSome = true) :
    annotations.qualifiers feature = found :=
  pairwise_qualifiers.eq_of_mem_iff hsorted fun qualifier =>
    mem_qualifiers.trans (hfound qualifier).symm

theorem two_le_length_forFeature :
    2 ≤ (annotations.forFeature feature).length ↔ ∃ first second, first ≠ second ∧
      (∃ value, (first, value) ∈ annotations.forFeature feature) ∧
      ∃ value, (second, value) ∈ annotations.forFeature feature := by
  have hsorted : (annotations.forFeature feature).Pairwise fun a b => compare a.1 b.1 = .lt :=
    annotations.increasing.filter _
  constructor
  · intro h
    match hentries : annotations.forFeature feature, h with
    | first :: second :: rest, _ =>
      rw [hentries] at hsorted
      have hlt := (List.pairwise_cons.mp hsorted).1 second (by simp)
      refine ⟨first.1, second.1, ?_, ⟨first.2, by simp⟩, second.2, by simp⟩
      intro hsame
      simp [hsame] at hlt
  · rintro ⟨first, second, hne, ⟨one, hfirst⟩, other, hsecond⟩
    match hentries : annotations.forFeature feature with
    | [] => simp [hentries] at hfirst
    | [entry] =>
      rw [hentries, List.mem_singleton] at hfirst hsecond
      exact absurd (congrArg Prod.fst (hfirst.trans hsecond.symm)) hne
    | _ :: _ :: _ => simp

-- ---------------------------------------------------------------------------
-- Looking up a feature
-- ---------------------------------------------------------------------------

section
variable {α : Type} {codec : Codec α}

theorem declared?_congr (h : one.forFeature feature = other.forFeature feature) :
    one.declared? feature codec = other.declared? feature codec := by
  rw [declared?, h, ← declared?]

theorem declared?_of_nil (h : annotations.forFeature feature = []) :
    annotations.declared? feature codec = .ok none := by
  rw [declared?, h]

theorem declared?_of_holdsOnly (h : annotations.HoldsOnly feature qualifier value) :
    annotations.declared? feature codec =
      match codec.read.decode value with
      | .ok config => .ok (some ⟨qualifier, config⟩)
      | .error fault => .error (.undecodable fault) := by
  cases hdecode : codec.read.decode value <;>
    simp [declared?, forFeature_eq_singleton_iff.mpr h, hdecode]

theorem declared?_of_several (h : 2 ≤ (annotations.forFeature feature).length) :
    annotations.declared? feature codec =
      .error (.conflicting (annotations.qualifiers feature)) := by
  unfold declared?
  split
  · next hentries => simp [hentries] at h
  · next hentries => simp [hentries] at h
  · rfl

/-- What is found under the name of a feature. Only a value that stands there alone is decoded; of
several none is looked at, and the conflict names the qualifiers of all. -/
inductive Declares (annotations : Collection) (feature : String) (codec : Codec α) :
    Except DeclarationFault (Option (Qualified α)) → Prop where
  | nothing : (∀ qualifier, annotations.get? ⟨feature, qualifier⟩ = none) →
      Declares annotations feature codec (.ok none)
  | conflict {qualifiers : List String} : 2 ≤ qualifiers.length → qualifiers.Pairwise (· < ·) →
      (∀ qualifier, qualifier ∈ qualifiers ↔
        (annotations.get? ⟨feature, qualifier⟩).isSome = true) →
      Declares annotations feature codec (.error (.conflicting qualifiers))
  | fault {qualifier value : String} {fault : Json.Fault} :
      annotations.HoldsOnly feature qualifier value → codec.read.decode value = .error fault →
      Declares annotations feature codec (.error (.undecodable fault))
  | config {qualifier value : String} {config : α} :
      annotations.HoldsOnly feature qualifier value → codec.read.decode value = .ok config →
      Declares annotations feature codec (.ok (some ⟨qualifier, config⟩))

theorem declares_declared? (annotations : Collection) (feature : String) (codec : Codec α) :
    Declares annotations feature codec (annotations.declared? feature codec) := by
  match hentries : annotations.forFeature feature with
  | [] =>
    rw [declared?_of_nil hentries]
    exact .nothing (forFeature_eq_nil_iff.mp hentries)
  | [(⟨own, qualifier⟩, value)] =>
    obtain ⟨rfl, -⟩ := mem_forFeature.mp (hentries ▸ List.mem_singleton_self _)
    have honly := forFeature_eq_singleton_iff.mp hentries
    rw [declared?_of_holdsOnly honly]
    cases hdecoded : codec.read.decode value with
    | error fault => exact .fault honly hdecoded
    | ok config => exact .config honly hdecoded
  | _ :: _ :: _ =>
    have htwo : 2 ≤ (annotations.forFeature feature).length := by simp [hentries]
    rw [declared?_of_several htwo]
    exact .conflict (length_qualifiers ▸ htwo) pairwise_qualifiers fun qualifier => mem_qualifiers

theorem declared?_eq_iff {result : Except DeclarationFault (Option (Qualified α))} :
    annotations.declared? feature codec = result ↔ Declares annotations feature codec result := by
  constructor
  · rintro rfl
    exact declares_declared? annotations feature codec
  · intro h
    cases h with
    | nothing hnone => exact declared?_of_nil (forFeature_eq_nil_iff.mpr hnone)
    | @conflict found htwo hsorted hfound =>
      obtain rfl := qualifiers_eq hsorted hfound
      exact declared?_of_several (length_qualifiers ▸ htwo)
    | fault honly hdecoded => rw [declared?_of_holdsOnly honly, hdecoded]
    | config honly hdecoded => rw [declared?_of_holdsOnly honly, hdecoded]

theorem declared?_eq_conflicting_iff (codec : Codec α) :
    (∃ qualifiers, annotations.declared? feature codec = .error (.conflicting qualifiers)) ↔
      2 ≤ (annotations.forFeature feature).length := by
  constructor
  · rintro ⟨found, h⟩
    cases declared?_eq_iff.mp h with
    | conflict htwo hsorted hfound =>
      obtain rfl := qualifiers_eq hsorted hfound
      exact length_qualifiers ▸ htwo
  · exact fun h => ⟨_, declared?_of_several h⟩

end

end Annotations.Collection

-- ---------------------------------------------------------------------------
-- Inserts
-- ---------------------------------------------------------------------------

namespace Annotations

/-- The map that annotations are put into: an empty one, or what is collected from metadata. -/
inductive Origin where
  | empty
  | collected (scheme : Scheme) (metadata : Kube.Metadata)

namespace Origin

def collection : Origin → Collection
  | empty => .empty
  | collected scheme metadata => scheme.collect metadata

def inserts : Origin → List (Name × String)
  | empty => []
  | collected scheme metadata =>
    (metadata.annotations.getD ∅).toList.filterMap fun (key, value) =>
      (scheme.nameOf? key).map (·, value)

def after (origin : Origin) (inserts : List (Name × String)) : Collection :=
  inserts.foldl (fun found entry => found.insert entry.1 entry.2) origin.collection

theorem collection_eq (origin : Origin) : origin.collection = .ofList origin.inserts := by
  cases origin with
  | empty => rfl
  | collected scheme metadata =>
    rw [collection, inserts, Scheme.collect_eq, SortedMap.ofList, List.foldl_filterMap]
    refine congrArg (fun step => List.foldl step _ _) ?_
    funext found entry
    obtain ⟨key, value⟩ := entry
    cases hname : scheme.nameOf? key <;> simp [hname]

theorem after_eq (origin : Origin) (inserts : List (Name × String)) :
    origin.after inserts = .ofList (origin.inserts ++ inserts) := by
  rw [after, collection_eq, SortedMap.ofList, SortedMap.ofList, List.foldl_append]

theorem get?_after_congr {origin source : Origin} {inserts others : List (Name × String)}
    {feature : String}
    (h : (origin.inserts ++ inserts).filter (·.1.feature = feature) =
      (source.inserts ++ others).filter (·.1.feature = feature)) (qualifier : String) :
    (origin.after inserts).get? ⟨feature, qualifier⟩ =
      (source.after others).get? ⟨feature, qualifier⟩ := by
  have hown : ∀ entries : List (Name × String),
      entries.filter (·.1 = ⟨feature, qualifier⟩) =
        (entries.filter (·.1.feature = feature)).filter (·.1 = ⟨feature, qualifier⟩) := by
    intro entries
    rw [List.filter_filter]
    refine List.filter_congr fun entry _ => ?_
    by_cases hname : entry.1 = ⟨feature, qualifier⟩ <;> simp [hname]
  rw [after_eq, after_eq, SortedMap.get?_ofList, SortedMap.get?_ofList, hown, h, ← hown]

/-- The annotations of a feature in a map that inserts have built. A name has the value that it was
given last. `Declares` says what is found under a feature, the conflict of several entries before
any of them is decoded. Inserts of different names may come in any order, and those of other
features may be left out or put in, whatever their names start with. -/
theorem declared_after_inserts (origin : Origin) (inserts : List (Name × String)) :
    (∀ name, (origin.after inserts).get? name =
      ((origin.inserts ++ inserts).filter (·.1 = name)).getLast?.map (·.2)) ∧
    (∀ {α : Type} (codec : Codec α) (feature : String)
      (result : Except DeclarationFault (Option (Qualified α))),
      (origin.after inserts).declared? feature codec = result ↔
        (origin.after inserts).Declares feature codec result) ∧
    (∀ earlier block reordered later, inserts = earlier ++ block ++ later →
      block.Perm reordered → (block.map Prod.fst).Nodup →
      origin.after inserts = origin.after (earlier ++ reordered ++ later)) ∧
    ∀ (source : Origin) (others : List (Name × String)) (feature : String),
      (origin.inserts ++ inserts).filter (·.1.feature = feature) =
        (source.inserts ++ others).filter (·.1.feature = feature) →
      (∀ qualifier, (origin.after inserts).get? ⟨feature, qualifier⟩ =
        (source.after others).get? ⟨feature, qualifier⟩) ∧
      ∀ {α : Type} (codec : Codec α), (origin.after inserts).declared? feature codec =
        (source.after others).declared? feature codec := by
  refine ⟨fun name => ?_, fun codec feature result => Collection.declared?_eq_iff, ?_, ?_⟩
  · rw [after_eq, SortedMap.get?_ofList]
  · rintro earlier block reordered later rfl hperm hnodup
    have hreorder := SortedMap.ofList_reorder hperm hnodup (origin.inserts ++ earlier) later
    simpa only [after_eq, List.append_assoc] using hreorder
  · intro source others feature h
    have hget := get?_after_congr h
    exact ⟨hget, fun codec => Collection.declared?_congr (Collection.forFeature_congr hget)⟩

def halfWritten : Origin :=
  .collected .standard {
    annotations := some (.ofList [("spoditor.io/host-port-v2", "[]"),
      ("spoditor.io/host-port_0", "[")]) }

def further : List (Name × String) :=
  [(⟨"host-ports", ""⟩, "1"), (⟨"host-port", "1-"⟩, "2"), (⟨"host-port-v2", "3"⟩, "3")]

theorem declared_after_inserts_longer_names :
    let bare : List (Name × String) := [(⟨"host-port", "0"⟩, "["), (⟨"host-port", "1-"⟩, "2")]
    (halfWritten.after further).get? ⟨"host-port", "0"⟩ = some "[" ∧
    further.Perm further.reverse ∧ (further.map Prod.fst).Nodup ∧
    halfWritten.after further = halfWritten.after further.reverse ∧
    (halfWritten.inserts ++ further).filter (·.1.feature = "host-port") =
      (empty.inserts ++ bare).filter (·.1.feature = "host-port") ∧
    (empty.after bare).declared? "host-port" HostPort.Config.codec =
      .error (.conflicting ["0", "1-"]) ∧
    (halfWritten.after further).declared? "host-port" HostPort.Config.codec =
      .error (.conflicting ["0", "1-"]) := by
  intro bare
  obtain ⟨hlast, -, hreorder, hothers⟩ := declared_after_inserts halfWritten further
  have hnodup : (further.map Prod.fst).Nodup := by decide
  have hown : (halfWritten.inserts ++ further).filter (·.1.feature = "host-port") =
      (empty.inserts ++ bare).filter (·.1.feature = "host-port") := by decide +kernel
  have hbare : (empty.after bare).declared? "host-port" HostPort.Config.codec =
      .error (.conflicting ["0", "1-"]) := by decide +kernel
  have hsame := hreorder [] further further.reverse [] (by simp) (List.reverse_perm _).symm hnodup
  refine ⟨(hlast _).trans (by decide +kernel), (List.reverse_perm _).symm, hnodup, ?_, hown, hbare,
    ?_⟩
  · simpa using hsame
  · rw [(hothers empty bare "host-port" hown).2, hbare]

end Origin

end Annotations

end OrdinalAdmission
