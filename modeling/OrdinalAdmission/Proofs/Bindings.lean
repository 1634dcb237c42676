import Mathlib.Data.List.Forall2
import OrdinalAdmission.Proofs.Demand
import OrdinalAdmission.Proofs.Failure

/-!
# Bindings where every port fits

In a run that succeeds no entry that names a container has a port out of range. The bindings of such
an entry are those of its ports that ask for a host port, each at its base and the ordinal. For two
ordinals they are of the same ports and as far apart as the ordinals.
-/

namespace OrdinalAdmission

open Kube

theorem forall₂_flatMap {α β γ : Type} {R : β → γ → Prop} {f : α → List β} {g : α → List γ}
    {items : List α} (h : ∀ item ∈ items, List.Forall₂ R (f item) (g item)) :
    List.Forall₂ R (items.flatMap f) (items.flatMap g) := by
  induction items with
  | nil => exact .nil
  | cons item rest ih =>
    rw [List.flatMap_cons, List.flatMap_cons]
    exact List.rel_append (h item List.mem_cons_self)
      (ih fun other ho => h other (List.mem_cons_of_mem _ ho))

namespace HostPort

def Asks (port : ContainerPort) : Prop :=
  ∃ base, port.hostPort = some base ∧ 0 < base.toInt

def BindsName (entries : List Entry) (name : String) (portName : Option String) : Prop :=
  ∃ entry ∈ entries, entry.name = name ∧ ∃ port ∈ entry.ports, port.name = portName ∧ Asks port

def Entry.Fits (ordinal : UInt32) (entry : Entry) : Prop :=
  ∀ port ∈ entry.ports, ¬ Overflows ordinal port

instance : DecidablePred Asks := fun port =>
  decidable_of_iff (0 < (port.hostPort.getD 0).toInt) <| by
    unfold Asks
    cases port.hostPort <;> simp

-- ---------------------------------------------------------------------------
-- One ordinal
-- ---------------------------------------------------------------------------

def bindingAt (ordinal : UInt32) (port : ContainerPort) : Binding :=
  ⟨port, Int32.ofInt ((port.hostPort.getD 0).toInt + ordinal.toNat)⟩

section
variable {ordinal : UInt32} {port : ContainerPort} {ports : List ContainerPort}

theorem sum_le_of_not_overflows {base : Int32} (hb : port.hostPort = some base)
    (hpos : 0 < base.toInt) (hfits : ¬ Overflows ordinal port) :
    base.toInt + ordinal.toNat ≤ 65535 :=
  Int.not_lt.mp fun hover => hfits ⟨base, hb, hpos, hover⟩

theorem toInt_bindingAt {base : Int32} (hb : port.hostPort = some base) (hpos : 0 < base.toInt)
    (hfits : ¬ Overflows ordinal port) :
    (bindingAt ordinal port).hostPort.toInt = base.toInt + ordinal.toNat := by
  have hbound := sum_le_of_not_overflows hb hpos hfits
  rw [bindingAt, hb, Option.getD_some]
  exact Int32.toInt_ofInt_of_le (by omega) (by omega)

theorem bindings_cons_of_not_asks (h : ¬ Asks port) (rest : List ContainerPort) :
    bindings ordinal (port :: rest) = bindings ordinal rest := by
  have hbase : port.hostPort.getD 0 ≤ 0 := by
    rw [Int32.le_iff_toInt_le, Int32.toInt_zero]
    cases hp : port.hostPort with
    | none => simp
    | some base =>
      refine Int.not_lt.mp fun hpos => h ⟨base, hp, ?_⟩
      simpa using hpos
  simp [bindings, hbase]

theorem bindings_cons_of_asks (h : Asks port) (hfits : ¬ Overflows ordinal port)
    (rest : List ContainerPort) :
    (bindings ordinal (port :: rest)).1 = bindingAt ordinal port :: (bindings ordinal rest).1 := by
  obtain ⟨base, hb, hpos⟩ := h
  have hbound := sum_le_of_not_overflows hb hpos hfits
  have hmax : Int32.maxValue.toInt = 2147483647 := rfl
  have hordinal : (ordinal.toNat : Int) ≤ Int32.maxValue.toInt := by omega
  have heffective : effectivePort base ordinal =
      some (Int32.ofInt (base.toInt + ordinal.toNat)) := by
    simp [effectivePort, maxPort, hordinal, hbound]
  have hbase : ¬ base ≤ 0 := by
    rw [Int32.le_iff_toInt_le, Int32.toInt_zero]
    omega
  simp [bindings, bindingAt, hb, hbase, heffective]

theorem bindings_append_of_fits (h : ∀ port ∈ ports, ¬ Overflows ordinal port)
    (rest : List ContainerPort) :
    bindings ordinal (ports ++ rest) =
      ((ports.filter Asks).map (bindingAt ordinal) ++ (bindings ordinal rest).1,
        (bindings ordinal rest).2) := by
  induction ports with
  | nil => rfl
  | cons port ports ih =>
    have hfits := h port List.mem_cons_self
    have hrest := ih fun other ho => h other (List.mem_cons_of_mem _ ho)
    by_cases hasks : Asks port
    · refine Prod.ext ?_ ?_
      · rw [List.cons_append, bindings_cons_of_asks hasks hfits, hrest]
        simp [hasks]
      · rw [List.cons_append, bindings_cons_of_not_overflows hfits, hrest]
    · rw [List.cons_append, bindings_cons_of_not_asks hasks, hrest]
      simp [hasks]

theorem bindings_of_fits (h : ∀ port ∈ ports, ¬ Overflows ordinal port) :
    (bindings ordinal ports).1 = (ports.filter Asks).map (bindingAt ordinal) := by
  have happend := bindings_append_of_fits h []
  rw [List.append_nil] at happend
  simp [happend, bindings]

def asked (name : String) (entries : List Entry) : List ContainerPort :=
  (entriesFor name entries).flatMap fun entry => entry.ports.filter Asks

theorem mem_asked {name : String} {entries : List Entry} :
    port ∈ asked name entries ↔
      (∃ entry ∈ entriesFor name entries, port ∈ entry.ports) ∧ Asks port := by
  simp only [asked, List.mem_flatMap, List.mem_filter, decide_eq_true_eq, ← and_assoc,
    exists_and_right]

theorem not_overflows_of_mem_asked {name : String} {entries : List Entry}
    (hfits : ∀ entry ∈ entriesFor name entries, entry.Fits ordinal)
    (h : port ∈ asked name entries) : ¬ Overflows ordinal port := by
  obtain ⟨⟨entry, hentry, hport⟩, -⟩ := mem_asked.mp h
  exact hfits entry hentry port hport

theorem bindsName_iff {name : String} {entries : List Entry} {portName : Option String} :
    BindsName entries name portName ↔ ∃ port ∈ asked name entries, port.name = portName := by
  simp only [mem_asked, mem_entriesFor]
  constructor
  · rintro ⟨entry, hm, hname, port, hp, hport, hasks⟩
    exact ⟨port, ⟨⟨entry, ⟨hm, hname⟩, hp⟩, hasks⟩, hport⟩
  · rintro ⟨port, ⟨⟨entry, ⟨hm, hname⟩, hp⟩, hasks⟩, hport⟩
    exact ⟨entry, hm, hname, port, hp, hport, hasks⟩

theorem boundIn_of_fits {name : String} {entries : List Entry}
    (h : ∀ entry ∈ entriesFor name entries, entry.Fits ordinal) :
    boundIn ordinal name entries = (asked name entries).map (bindingAt ordinal) := by
  rw [boundIn, asked, List.map_flatMap, List.flatMap_def, List.flatMap_def]
  exact congrArg _ (List.map_congr_left fun entry he => bindings_of_fits (h entry he))

theorem exists_boundIn {name : String} {entries : List Entry} {portName : Option String}
    (h : ∀ entry ∈ entriesFor name entries, entry.Fits ordinal) :
    (∃ binding ∈ boundIn ordinal name entries, binding.port.name = portName) ↔
      BindsName entries name portName := by
  rw [bindsName_iff, boundIn_of_fits h]
  simp [bindingAt]

end

-- ---------------------------------------------------------------------------
-- Two ordinals
-- ---------------------------------------------------------------------------

def Binding.Apart (first second : UInt32) (one other : Binding) : Prop :=
  other.port = one.port ∧
    other.hostPort.toInt - one.hostPort.toInt = (second.toNat : Int) - first.toNat

section
variable {first second : UInt32}

theorem bindings_apart {ports : List ContainerPort}
    (hfirst : ∀ port ∈ ports, ¬ Overflows first port)
    (hsecond : ∀ port ∈ ports, ¬ Overflows second port) :
    List.Forall₂ (Binding.Apart first second) (bindings first ports).1
      (bindings second ports).1 := by
  rw [bindings_of_fits hfirst, bindings_of_fits hsecond, List.forall₂_map_left_iff,
    List.forall₂_map_right_iff, List.forall₂_same]
  intro port hport
  obtain ⟨hm, hasks⟩ := List.mem_filter.mp hport
  obtain ⟨base, hb, hpos⟩ := of_decide_eq_true hasks
  refine ⟨rfl, ?_⟩
  rw [toInt_bindingAt hb hpos (hfirst port hm), toInt_bindingAt hb hpos (hsecond port hm)]
  omega

theorem boundIn_apart {name : String} {entries : List Entry}
    (hfirst : ∀ entry ∈ entriesFor name entries, entry.Fits first)
    (hsecond : ∀ entry ∈ entriesFor name entries, entry.Fits second) :
    List.Forall₂ (Binding.Apart first second) (boundIn first name entries)
      (boundIn second name entries) :=
  forall₂_flatMap fun entry he => bindings_apart (hfirst entry he) (hsecond entry he)

end

-- ---------------------------------------------------------------------------
-- Runs that succeed
-- ---------------------------------------------------------------------------

theorem mem_inForce {annotations : Annotations.Collection} {ordinal : UInt32} {entry : Entry} :
    entry ∈ (inForce annotations ordinal).containers ↔ ∃ config,
      declared? annotations = .ok (some config) ∧ config.appliesTo ordinal = true ∧
        entry ∈ config.value.containers := by
  unfold inForce inForce?
  cases declared? annotations with
  | error error => simp
  | ok found =>
    cases found with
    | none => simp
    | some config => by_cases happlies : config.appliesTo ordinal <;> simp [happlies]

end HostPort

theorem HostPort.fits_of_applyEntries_ok {ordinal : UInt32} {entries : List Entry}
    {containers : List Container} (h : (applyEntries ordinal entries containers).2 = none)
    {container : Container} (hcontainer : container ∈ containers) {entry : Entry}
    (hentry : entry ∈ entriesFor container.name entries) : entry.Fits ordinal := by
  obtain ⟨hm, hname⟩ := mem_entriesFor.mp hentry
  intro port hport hover
  have hfails : entry.Fails ordinal (containers.map (·.name)) :=
    ⟨List.mem_map.mpr ⟨container, hcontainer, hname.symm⟩, port, hport, hover⟩
  obtain ⟨first, hfirst⟩ := exists_first.mpr ⟨entry, hm, hfails⟩
  obtain ⟨error, hreports⟩ := Entry.reports_of_fails hfirst.mem.2
  rw [applyEntries_error_iff.mpr ⟨first, hfirst, hreports⟩] at h
  cases h

theorem Pipeline.fits_of_ok {annotations : Annotations.Collection} {ordinal : UInt32}
    {features : List Feature} {spec : PodSpec} {result : PodSpec × List Feature}
    (h : applyFeatures annotations ordinal features spec = .ok result) {container : Container}
    (hcontainer : container ∈ spec.containers) {entry : HostPort.Entry}
    (hentry : entry ∈ HostPort.entriesFor container.name
      (demandOf annotations ordinal features).ports) : entry.Fits ordinal := by
  obtain ⟨hm, hname⟩ := HostPort.mem_entriesFor.mp hentry
  obtain ⟨hlisted, hinForce⟩ := mem_ports_demandOf.mp hm
  obtain ⟨config, hdeclared, happlies, hconfig⟩ := HostPort.mem_inForce.mp hinForce
  have hsucceeds := applyFeatures_succeeds_iff.mp ⟨result, h⟩ .hostPort hlisted
  have hnamed : entry.name ∈ spec.containers.map (·.name) :=
    List.mem_map.mpr ⟨container, hcontainer, hname.symm⟩
  intro port hport hover
  exact hsucceeds (.inr ⟨config, hdeclared, happlies, entry, hconfig, hnamed, port, hport, hover⟩)

end OrdinalAdmission
