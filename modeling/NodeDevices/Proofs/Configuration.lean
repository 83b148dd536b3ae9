import Mathlib.Data.List.Induction
import Mathlib.Data.List.Nodup
import NodeDevices.Allocation
import NodeDevices.Configuration
import NodeDevices.Plugin
import NodeDevices.Proofs.Path

/-! Configurations that are accepted. The names of their classes are proper and distinct, and so
nothing that is derived from a name meets what is derived from another: neither the names under
which devices are asked for, nor the variables of containers, nor the sockets.
-/

namespace NodeDevices

-----------------------------------------------------------------------------------------
-- What is derived from the names of classes
-----------------------------------------------------------------------------------------

namespace DeviceClass

theorem resourceName_inj {first second : DeviceClass} (vendor : first.vendor = second.vendor)
    (same : first.resourceName = second.resourceName)
    : first.deviceType = second.deviceType := by
  rw [resourceName, resourceName, vendor] at same
  exact (String.append_right_inj _).mp same

theorem deviceListEnv_inj {first second : DeviceClass} (vendor : first.vendor = second.vendor)
    (same : first.deviceListEnv = second.deviceListEnv)
    : first.deviceType = second.deviceType := by
  rw [deviceListEnv, deviceListEnv, vendor, String.append_left_inj, String.append_right_inj]
    at same
  exact same

/-- A variable that lists devices is none of those that say where devices are found. -/
theorem deviceListEnv_notMem (cls : DeviceClass)
    : cls.deviceListEnv ∉ [Allocation.pcieInfoEnv, Allocation.pcieFlagEnv] := by
  have ends : cls.deviceListEnv.toList.getLast? = some 'T' := by
    rw [deviceListEnv, String.toList_append, List.getLast?_append]
    rfl
  intro member
  rcases List.mem_pair.mp member with same | same <;> (rw [same] at ends; cases ends)

/-- Whatever the vendor, a socket's path ends in a name that closes with the device type. -/
theorem exists_getLast?_components_socket (directory vendor : String)
    : ∃ tail : String,
        ∀ cls : DeviceClass,
          cls.vendor = vendor
          → '/' ∉ cls.deviceType.toList
          → (Path.components (Path.join directory cls.socketName)).getLast?
            = some (.name (tail ++ ("_" ++ cls.deviceType ++ ".sock"))) := by
  obtain ⟨tail, ends⟩ := Path.exists_getLast?_components_join directory vendor
  refine ⟨tail, fun cls same plain => ?_⟩
  have name : cls.socketName = vendor ++ ("_" ++ cls.deviceType ++ ".sock") := by
    rw [socketName, same, String.append_assoc, String.append_assoc, String.append_assoc]
  rw [name]
  apply ends
  · simp [plain]
  · simp only [String.length_append, show ".sock".length = 5 from rfl]
    omega

/-- The sockets of two types of a vendor's devices are apart. -/
theorem apart_socketName {first second : DeviceClass} (directory : String)
    (vendor : first.vendor = second.vendor) (plain : '/' ∉ first.deviceType.toList)
    (plainToo : '/' ∉ second.deviceType.toList) (different : first.deviceType ≠ second.deviceType)
    : Path.Apart (Path.join directory first.socketName)
        (Path.join directory second.socketName) := by
  obtain ⟨tail, ends⟩ := exists_getLast?_components_socket directory second.vendor
  refine ⟨_, _, ends first vendor plain, ends second rfl plainToo, fun same => different ?_⟩
  rwa [String.append_right_inj, String.append_left_inj, String.append_right_inj] at same

/-- The kubelet's socket is apart from those of all classes. -/
theorem apart_kubelet {cls : DeviceClass} (directory : String)
    (plain : '/' ∉ cls.deviceType.toList)
    : Path.Apart (Path.join directory Kubelet.socketName)
        (Path.join directory cls.socketName) := by
  obtain ⟨tail, ends⟩ := exists_getLast?_components_socket directory cls.vendor
  obtain ⟨before, within⟩ := Path.exists_segments_join directory Kubelet.socketName
  have kubelet : (Path.components (Path.join directory Kubelet.socketName)).getLast?
      = some (.name Kubelet.socketName) :=
    Path.getLast?_components within rfl
  refine ⟨_, _, kubelet, ends cls rfl plain, fun same => ?_⟩
  -- the kubelet's own name has no underscore
  have underscore : '_' ∈ (tail ++ ("_" ++ cls.deviceType ++ ".sock")).toList := by simp
  rw [← same] at underscore
  exact absurd underscore (by decide)

end DeviceClass

namespace Configuration

/-- The name of the device type that an entry configures. -/
def Entry.deviceType (entry : Entry) : String :=
  Text.trim entry.name

/-- The entry's name is more than blanks, and has no slash. -/
def Entry.Named (entry : Entry) : Prop :=
  entry.deviceType ≠ "" ∧ '/' ∉ entry.deviceType.toList

/-- All entries are named, and each of them otherwise. -/
structure Proper (entries : List Entry) : Prop where
  named : ∀ entry ∈ entries, entry.Named
  distinct : (entries.map Entry.deviceType).Nodup

/-- What is wrong with an entry that comes after others. -/
inductive Offends (before : List Entry) (entry : Entry) : ConfigurationError → Prop
  | badName (unnamed : ¬ entry.Named) : Offends before entry (.badName entry.name)
  | listedTwice (named : entry.Named) (known : entry.deviceType ∈ before.map Entry.deviceType)
    : Offends before entry (.listedTwice entry.deviceType)

/-- The first entry that offends does so in the given way. -/
def FirstOffence (entries : List Entry) (error : ConfigurationError) : Prop :=
  ∃ before entry after,
    entries = before ++ entry :: after ∧ Proper before ∧ Offends before entry error

variable {before : List Entry} {entry : Entry}

-----------------------------------------------------------------------------------------
-- The check
-----------------------------------------------------------------------------------------

/-- A further entry leaves the others proper when it is named, and otherwise than they are. -/
theorem proper_append_singleton
    : Proper (before ++ [entry])
      ↔ Proper before ∧ entry.Named ∧ entry.deviceType ∉ before.map Entry.deviceType := by
  constructor
  · intro proper
    have distinct := proper.distinct
    rw [List.map_append, List.nodup_append] at distinct
    refine ⟨⟨?_, distinct.1⟩, proper.named entry (by simp), ?_⟩
    · exact fun other member => proper.named other (List.mem_append_left _ member)
    · exact fun known => distinct.2.2 _ known _ (by simp) rfl
  · rintro ⟨proper, named, fresh⟩
    constructor
    · intro other member
      rcases List.mem_append.mp member with earlier | last
      · exact proper.named other earlier
      · exact List.mem_singleton.mp last ▸ named
    · rw [List.map_append, List.nodup_append]
      refine ⟨proper.distinct, List.nodup_singleton _, ?_⟩
      rintro name known other last rfl
      exact fresh (List.mem_singleton.mp last ▸ known)

/-- Entries that are not proper have a first one that offends. -/
theorem exists_firstOffence {entries : List Entry} (improper : ¬ Proper entries)
    : ∃ error, FirstOffence entries error := by
  induction entries using List.reverseRecOn with
  | nil => exact absurd ⟨by simp, List.nodup_nil⟩ improper
  | append_singleton before entry ih =>
      by_cases proper : Proper before
      · by_cases named : entry.Named
        · have known : entry.deviceType ∈ before.map Entry.deviceType := by
            by_contra fresh
            exact improper (proper_append_singleton.mpr ⟨proper, named, fresh⟩)
          exact ⟨_, before, entry, [], rfl, proper, .listedTwice named known⟩
        · exact ⟨_, before, entry, [], rfl, proper, .badName named⟩
      · obtain ⟨error, earlier, first, after, split, rest⟩ := ih proper
        refine ⟨error, earlier, first, after ++ [entry], ?_, rest⟩
        rw [split, List.append_assoc, List.cons_append]

/-- The check of one entry. -/
theorem checkNames_cons (seen : List String) (entry : Entry) (rest : List Entry)
    : checkNames seen (entry :: rest)
      = if entry.deviceType = "" ∨ '/' ∈ entry.deviceType.toList then .error (.badName entry.name)
        else if entry.deviceType ∈ seen then .error (.listedTwice entry.deviceType)
        else checkNames (entry.deviceType :: seen) rest :=
  rfl

/-- The check passes over entries that are proper, and remembers their names. -/
theorem checkNames_of_proper (proper : Proper before) (rest : List Entry)
    : checkNames [] (before ++ rest)
      = checkNames (before.map Entry.deviceType).reverse rest := by
  induction before using List.reverseRecOn generalizing rest with
  | nil => rfl
  | append_singleton before entry ih =>
      obtain ⟨earlier, named, fresh⟩ := proper_append_singleton.mp proper
      rw [List.append_assoc, List.singleton_append, ih earlier, checkNames_cons,
        if_neg (not_or.mpr named), if_neg (mt List.mem_reverse.mp fresh), List.map_append,
        List.reverse_append]
      rfl

/-- The check ends at the first entry that offends. -/
theorem checkNames_of_firstOffence {entries : List Entry} {error : ConfigurationError}
    (offence : FirstOffence entries error)
    : checkNames [] entries = .error error := by
  obtain ⟨before, entry, after, rfl, proper, offends⟩ := offence
  rw [checkNames_of_proper proper, checkNames_cons]
  cases offends with
  | badName unnamed =>
      rw [Entry.Named, not_and_or, not_not, not_not] at unnamed
      exact if_pos unnamed
  | listedTwice named known =>
      rw [if_neg (not_or.mpr named)]
      exact if_pos (List.mem_reverse.mpr known)

/-- Exactly the proper configurations are accepted. -/
theorem validate_eq_ok_iff {configuration : Configuration}
    : configuration.validate = .ok () ↔ Proper configuration.resources := by
  constructor
  · intro accepted
    by_contra improper
    obtain ⟨error, offence⟩ := exists_firstOffence improper
    rw [validate, checkNames_of_firstOffence offence] at accepted
    cases accepted
  · intro proper
    rw [validate, ← List.append_nil configuration.resources, checkNames_of_proper proper]
    rfl

/-- All others are refused for the first entry that offends. -/
theorem validate_eq_error_iff {configuration : Configuration} {error : ConfigurationError}
    : configuration.validate = .error error ↔ FirstOffence configuration.resources error := by
  refine ⟨fun refused => ?_, checkNames_of_firstOffence⟩
  have improper : ¬ Proper configuration.resources := fun proper => by
    rw [validate_eq_ok_iff.mpr proper] at refused
    cases refused
  obtain ⟨first, offence⟩ := exists_firstOffence improper
  have same : Except.error first = .error error :=
    (checkNames_of_firstOffence offence).symm.trans refused
  cases same
  exact offence

-----------------------------------------------------------------------------------------
-- The classes of an accepted configuration
-----------------------------------------------------------------------------------------

/-- What holds of any two types of a vendor's devices holds of the classes of proper entries. -/
theorem Proper.pairwise_classes {configuration : Configuration} {vendor : String}
    {relation : DeviceClass → DeviceClass → Prop} (proper : Proper configuration.resources)
    (related
      : ∀ {first second : DeviceClass},
          first.vendor = second.vendor
          → '/' ∉ first.deviceType.toList
          → '/' ∉ second.deviceType.toList
          → first.deviceType ≠ second.deviceType
          → relation first second)
    : (configuration.classes vendor).Pairwise relation := by
  refine List.pairwise_map.mpr ((List.pairwise_map.mp proper.distinct).imp_of_mem ?_)
  intro first second member memberToo different
  exact related rfl (proper.named first member).2 (proper.named second memberToo).2 different

/-- A configuration is accepted if its names, without the blanks around them, are proper and
distinct, and refused for the first name that is not. What is derived from the names of an
accepted one is distinct as well, whatever the vendor: the names of resources, the variables
of containers, and the sockets in any directory, where the kubelet has its own.
-/
theorem validate_keepsApart (configuration : Configuration)
    : (configuration.validate = .ok () ↔ Proper configuration.resources)
      ∧ (∀ error,
          configuration.validate = .error error ↔ FirstOffence configuration.resources error)
      ∧ (configuration.validate = .ok ()
          → ∀ vendor,
              let classes := configuration.classes vendor
              classes = configuration.resources.map (fun entry =>
                { vendor, deviceType := entry.deviceType, addressing := entry.addressing })
              ∧ (classes.map DeviceClass.resourceName).Nodup
              ∧ ([Allocation.pcieInfoEnv, Allocation.pcieFlagEnv]
                  ++ classes.map DeviceClass.deviceListEnv).Nodup
              ∧ ∀ settings : Plugin.Settings,
                  (Path.join settings.directory Kubelet.socketName
                    :: classes.map fun cls => { settings with cls }.socketPath).Pairwise
                    Path.Apart) := by
  refine ⟨validate_eq_ok_iff, fun _ => validate_eq_error_iff, ?_⟩
  intro accepted vendor classes
  have proper := validate_eq_ok_iff.mp accepted
  refine ⟨rfl, ?_, ?_, ?_⟩
  · refine List.pairwise_map.mpr (proper.pairwise_classes fun vendor _ _ different => ?_)
    exact mt (DeviceClass.resourceName_inj vendor) different
  · refine List.nodup_append.mpr ⟨by decide, ?_, ?_⟩
    · refine List.pairwise_map.mpr (proper.pairwise_classes fun vendor _ _ different => ?_)
      exact mt (DeviceClass.deviceListEnv_inj vendor) different
    · rintro name fixed other listed rfl
      obtain ⟨cls, _, rfl⟩ := List.mem_map.mp listed
      exact cls.deviceListEnv_notMem fixed
  · intro settings
    refine List.pairwise_cons.mpr ⟨?_, ?_⟩
    · intro path listed
      obtain ⟨cls, member, rfl⟩ := List.mem_map.mp listed
      obtain ⟨entry, configured, rfl⟩ := List.mem_map.mp member
      exact DeviceClass.apart_kubelet settings.directory (proper.named entry configured).2
    · exact List.pairwise_map.mpr
        (proper.pairwise_classes (DeviceClass.apart_socketName settings.directory))

/-- Blanks around names do not count, and the vendor may lead to another directory. -/
theorem validate_keepsApart_of_blanks
    : let configuration : Configuration := {
        resources := [{ name := "\u3000J5 " }, { name := "J 5", addressing := .fetch }]
      }
      configuration.validate = .ok ()
      ∧ ∀ settings : Plugin.Settings,
          (Path.join settings.directory Kubelet.socketName
            :: (configuration.classes "../kubelet").map fun cls =>
              { settings with cls }.socketPath).Pairwise Path.Apart := by
  intro configuration
  have accepted : configuration.validate = .ok () := by decide +kernel
  exact ⟨accepted, ((validate_keepsApart configuration).2.2 accepted "../kubelet").2.2.2⟩

end Configuration

end NodeDevices
