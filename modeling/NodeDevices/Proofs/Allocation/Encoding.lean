import Mathlib.Data.List.Basic
import NodeDevices.Allocation
import NodeDevices.Proofs.Configuration
import NodeDevices.Proofs.Inventory.Wire
import NodeDevices.Proofs.Json.Writing

/-! What the environment of a container says. Its variables have names of their own, whatever the
vendor and the type of the devices, and what they say about the devices can be read back.
-/

namespace NodeDevices.Allocation

open Inventory

/-- The environment of a container with the given devices. -/
def environment (cls : DeviceClass) (ids : List String) (addresses : List PcieAddress)
    : Environment :=
  let flagged := Dictionary.empty.insert pcieFlagEnv
    (if cls.hasPcieAddress then "true" else "false")
  let informed :=
    if cls.addressing = .fetch then
      flagged.insert pcieInfoEnv (ContainerAddressing.mk (joinIds ids) addresses).toJson.render
    else flagged
  informed.insert cls.deviceListEnv (joinIds ids)

variable {cls : DeviceClass} {ids : List String} {addresses : List PcieAddress}

/-- What a container is told is always written. -/
theorem encode_eq (ids : List String) (addresses : List PcieAddress)
    : encode ids addresses
      = .ok (Json.encode ContainerAddressing.toJson ⟨joinIds ids, addresses⟩) := by
  rw [encode, ContainerAddressing.inverse.write_eq]
  rfl

/-- Ids without commas are what the commas between them separate. -/
theorem splitOn_joinIds (nonempty : ids ≠ []) (plain : ∀ id ∈ ids, ',' ∉ id.toList)
    : ((joinIds ids).toList.splitOn ',').map String.ofList = ids := by
  have parts : (joinIds ids).toList.splitOn ',' = ids.map String.toList := by
    rw [joinIds, String.toList_intercalate]
    refine List.splitOn_intercalate ',' ?_ ?_
    · exact List.forall_mem_map.mpr plain
    · exact fun none => nonempty (List.map_eq_nil_iff.mp none)
  rw [parts, List.map_map]
  exact (List.map_congr_left fun id _ => String.ofList_toList).trans (List.map_id ids)

/-- Variables with different names can be set in either order. -/
theorem insert_comm {environment : Environment} {first second : String} (apart : first ≠ second)
    (value other : String)
    : (environment.insert first value).insert second other
      = (environment.insert second other).insert first value := by
  refine Dictionary.ext_find? fun name => ?_
  simp only [Dictionary.find?_insert]
  by_cases same : name = second
  · rw [if_pos same, if_neg (same ▸ apart.symm), if_pos same]
  · rw [if_neg same, if_neg same]

theorem mem_names_insert {environment : Environment} {name other value : String}
    : other ∈ (environment.insert name value).names ↔ other = name ∨ other ∈ environment.names :=
  Dictionary.mem_names_alter

/-- An environment is made whatever the devices are called, in whatever order its variables are
set.
-/
theorem makeEnvironment_eq (cls : DeviceClass) (ids : List String) (addresses : List PcieAddress)
    : makeEnvironment cls ids addresses = .ok (environment cls ids addresses) := by
  rw [makeEnvironment, environment, encode_eq]
  split
  · have apart : pcieInfoEnv ≠ pcieFlagEnv := by decide
    exact congrArg (fun informed => Except.ok (Dictionary.insert informed _ _))
      (insert_comm apart _ _)
  · rfl

/-- An environment tells a container about its devices. -/
structure Tells (cls : DeviceClass) (ids : List String) (addresses : List PcieAddress)
    (environment : Environment)
    : Prop where
  names
    : ∀ name,
        name ∈ environment.names
        ↔ name = cls.deviceListEnv
          ∨ name = pcieFlagEnv
          ∨ cls.addressing = .fetch ∧ name = pcieInfoEnv
  /-- No variable takes the place of another. -/
  distinct : [cls.deviceListEnv, pcieInfoEnv, pcieFlagEnv].Nodup
  devices : environment.find? cls.deviceListEnv = some (joinIds ids)
  flag
    : environment.find? pcieFlagEnv
      = some (if cls.addressing = .none then "false" else "true")
  /-- A container that is told where its devices are found can read it. -/
  info
    : cls.addressing = .fetch
      → ∃ text,
          environment.find? pcieInfoEnv = some text
          ∧ Json.decode? ContainerAddressing.ofJson? text = some ⟨joinIds ids, addresses⟩
  /-- It can tell its devices apart. -/
  listed
    : ids ≠ []
      → (∀ id ∈ ids, ',' ∉ id.toList)
      → ((joinIds ids).toList.splitOn ',').map String.ofList = ids

theorem environment_tells (cls : DeviceClass) (ids : List String) (addresses : List PcieAddress)
    : Tells cls ids addresses (environment cls ids addresses) := by
  have distinct : [cls.deviceListEnv, pcieInfoEnv, pcieFlagEnv].Nodup :=
    List.nodup_cons.mpr ⟨cls.deviceListEnv_notMem, by decide⟩
  obtain ⟨others, -⟩ := List.nodup_cons.mp distinct
  obtain ⟨info, flag⟩ : cls.deviceListEnv ≠ pcieInfoEnv ∧ cls.deviceListEnv ≠ pcieFlagEnv := by
    simpa using others
  have apart : pcieInfoEnv ≠ pcieFlagEnv := by decide
  constructor
  case distinct => exact distinct
  case names =>
    intro name
    have none : (Dictionary.empty : Environment).names = [] := rfl
    rw [environment, mem_names_insert]
    split
    · next mode =>
        simp only [mem_names_insert, none, List.not_mem_nil, or_false, mode, true_and]
        exact or_congr_right or_comm
    · next mode => simp only [mem_names_insert, none, List.not_mem_nil, mode, false_and]
  case devices => rw [environment, Dictionary.find?_insert, if_pos rfl]
  case flag =>
    rw [environment, Dictionary.find?_insert, if_neg flag.symm]
    split <;> simp [apart.symm, DeviceClass.hasPcieAddress]
  case info =>
    intro mode
    refine ⟨_, ?_, ContainerAddressing.inverse.decode?_encode _⟩
    rw [environment, if_pos mode, Dictionary.find?_insert, if_neg info.symm,
      Dictionary.find?_insert, if_pos rfl]
    rfl
  case listed => exact splitOn_joinIds

/-- Every container is given an environment that tells it about its devices. -/
theorem makeEnvironment_tells (cls : DeviceClass) (ids : List String)
    (addresses : List PcieAddress)
    : ∃ environment,
        makeEnvironment cls ids addresses = .ok environment
        ∧ environment = Allocation.environment cls ids addresses
        ∧ Tells cls ids addresses environment :=
  ⟨_, makeEnvironment_eq cls ids addresses, rfl, environment_tells cls ids addresses⟩

end NodeDevices.Allocation
