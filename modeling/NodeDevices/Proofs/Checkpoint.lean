import NodeDevices.Checkpoint
import NodeDevices.Proofs.Json.Gap
import NodeDevices.Proofs.Json.Shape

/-! The kubelet's checkpoint is read back as it was written, and what stands for the device ids of
an entry decides alone which of their shapes is read, or that the whole document is refused.
-/

namespace NodeDevices.Checkpoint

open Json

-----------------------------------------------------------------------------------------
-- Round trip
-----------------------------------------------------------------------------------------

theorem DeviceIds.inverse : Inverse ofJson? toJson where
  plain
    | .flat ids => inverse_text.list.plain ids
    | .byNumaNode nodes => inverse_text.list.dictionary.plain nodes
  reads
    | .flat ids => by
        rw [toJson, ofJson?, inverse_text.list.reads]
    | .byNumaNode nodes => by
        have noList : Json.list? Json.text? (Json.dictionary (Json.list Json.text) nodes) = none :=
          rfl
        rw [toJson, ofJson?, noList, inverse_text.list.dictionary.reads]
        rfl

theorem DeviceIds.inverse_optional : Inverse (optional? ofJson?) (optional toJson) :=
  inverse.optional fun ids => by cases ids <;> simp [toJson, list, dictionary, record]

theorem Entry.inverse : Inverse ofJson? toJson :=
  have response := inverse_text.optional (by simp [text])
  inverse_record (fun _ => rfl) (by decide)
    (by simp [DeviceIds.inverse_optional.plain, response.plain])
    fun entry => by
      simp [Record.required?, Record.default?, Record.get?, List.lookup_cons, inverse_text.reads,
        DeviceIds.inverse_optional.reads, response.reads]

/-- The document of the data of a checkpoint, with the registered resources in some order. -/
def dataIn (order : KeyOrder (List String))
    (data : Option (List Entry) × Option (Dictionary (List String))) : Json :=
  .record [
    ("PodDeviceEntries", optional (list Entry.toJson) data.1),
    ("RegisteredDevices", optional (dictionaryIn order (list text)) data.2)
  ]

/-- The document of a checkpoint, with the registered resources in some order. -/
def toJsonIn (order : KeyOrder (List String)) (checkpoint : Checkpoint) : Json :=
  .record [
    ("Data", dataIn order (checkpoint.entries, checkpoint.registeredDevices)),
    ("Checksum", .int checkpoint.checksum.toNat)
  ]

/-- A checkpoint is written in one of the orders. -/
theorem toJsonIn_entries : toJsonIn ⟨Dictionary.entries, fun _ => .refl _⟩ = toJson :=
  rfl

theorem inverse_data (order : KeyOrder (List String)) : Inverse data? (dataIn order) :=
  have entries := Entry.inverse.list.optional (by simp [list])
  have registered := (inverse_text.list.dictionaryIn order).optional
    (by simp [dictionaryIn, record])
  inverse_record (fun _ => rfl) (by decide) (by simp [entries.plain, registered.plain])
    fun data => by
      simp [Record.default?, Record.get?, List.lookup_cons, entries.reads, registered.reads]

/-- A checkpoint is read back from its document. -/
theorem inverse (order : KeyOrder (List String)) : Inverse ofJson? (toJsonIn order) :=
  inverse_record (fun _ => rfl) (by decide) (by simp [(inverse_data order).plain])
    fun checkpoint => by
      simp [Record.required?, Record.default?, Record.get?, List.lookup_cons,
        (inverse_data order).reads, inverse_uint64.reads]

-----------------------------------------------------------------------------------------
-- Shapes of device ids
-----------------------------------------------------------------------------------------

/-- What a document says about device ids: a list of texts, an object of such lists by the names
of the nodes, or nothing. The last list at a name counts.
-/
inductive DeviceIds.Written : Json → Option DeviceIds → Prop
  | flat (ids : List String) : Written (list text ids) (some (.flat ids))
  | byNumaNode (nodes : List (String × List String)) :
      Written (.record (nodes.map fun node => (node.1, list text node.2)))
        (some (.byNumaNode (.ofList nodes)))
  | none : Written .null none

theorem DeviceIds.ofJson?_eq_flat_iff {document : Json} {ids : List String}
    : ofJson? document = some (.flat ids) ↔ document = list text ids := by
  rw [← exact_text.list, ofJson?]
  split
  · next read => simp [read]
  · next unread =>
      rw [unread]
      simp

theorem DeviceIds.ofJson?_eq_byNumaNode_iff {document : Json}
    {nodes : Dictionary (List String)}
    : ofJson? document = some (.byNumaNode nodes)
      ↔ ∃ members : List (String × List String), nodes = .ofList members
        ∧ document = .record (members.map fun node => (node.1, list text node.2)) := by
  rw [ofJson?]
  split
  · next ids read =>
      obtain rfl := (exact_text.list _ _).mp read
      simp [list, record]
  · next unread =>
      simp [exact_text.list.dictionary?_eq_some_iff]

/-- Device ids are read as what a document says, and from no other document. -/
theorem DeviceIds.optional?_eq_some_iff {document : Json} {ids : Option DeviceIds}
    : optional? ofJson? document = some ids ↔ Written document ids := by
  constructor
  · intro read
    by_cases present : document = .null
    · obtain rfl := present
      obtain rfl : none = ids := Option.some.inj read
      exact .none
    · rw [optional?_of_ne_null _ present] at read
      obtain ⟨given, shape, rfl⟩ := Option.map_eq_some_iff.mp read
      cases given with
      | flat ids =>
          rw [ofJson?_eq_flat_iff.mp shape]
          exact .flat ids
      | byNumaNode nodes =>
          obtain ⟨members, rfl, rfl⟩ := ofJson?_eq_byNumaNode_iff.mp shape
          exact .byNumaNode members
  · intro written
    cases written with
    | flat ids =>
        rw [optional?_of_ne_null _ (by simp [list]), ofJson?_eq_flat_iff.mpr rfl,
          Option.map_some]
    | byNumaNode nodes =>
        rw [optional?_of_ne_null _ (by simp [record]),
          ofJson?_eq_byNumaNode_iff.mpr ⟨nodes, rfl, rfl⟩, Option.map_some]
    | none => rfl

-----------------------------------------------------------------------------------------
-- Documents with a gap at the device ids
-----------------------------------------------------------------------------------------

/-- A checkpoint document with a gap at the device ids of one entry. -/
structure Gap where
  document : Layer
  data : Layer
  before : List Json
  entry : Layer
  after : List Json
  inDocument : document.IsField ["Data", "Checksum"] "Data"
  inData : data.IsField ["PodDeviceEntries", "RegisteredDevices"] "PodDeviceEntries"
  inEntry : entry.IsField
    ["PodUID", "ContainerName", "ResourceName", "DeviceIDs", "AllocResp"] "DeviceIDs"

namespace Gap

/-- The document around the entry. -/
def around (gap : Gap) (entry : Json) : Json :=
  gap.document.fill (gap.data.fill (.arr (gap.before ++ entry :: gap.after)))

/-- Puts a value into the gap. -/
def fill (gap : Gap) (value : Json) : Json :=
  gap.around (gap.entry.fill value)

/-- The document whose entry does not mention device ids. -/
def without? (gap : Gap) : Option Json :=
  gap.entry.without?.map gap.around

/-- The place of the entry. -/
def position (gap : Gap) : Nat :=
  gap.before.length

end Gap

/-- The device ids of the entry at a place. -/
def deviceIdsAt? (checkpoint : Checkpoint) (position : Nat) : Option (Option DeviceIds) :=
  ((checkpoint.entries.getD [])[position]?).map Entry.deviceIds

/-- Replaces the device ids of the entry at a place. -/
def withDeviceIds (checkpoint : Checkpoint) (position : Nat) (ids : Option DeviceIds)
    : Checkpoint :=
  { checkpoint with
    entries := checkpoint.entries.map fun entries =>
      entries.modify position fun entry => { entry with deviceIds := ids } }

theorem Entry.ofJson?_fill {layer : Layer}
    (field : layer.IsField
      ["PodUID", "ContainerName", "ResourceName", "DeviceIDs", "AllocResp"] "DeviceIDs")
    {filler : Json} {entry : Entry} (h : ofJson? (layer.fill filler) = some entry)
    : (∀ value, ofJson? (layer.fill value)
        = (optional? DeviceIds.ofJson? value).map fun ids => { entry with deviceIds := ids })
      ∧ ∀ document ∈ layer.without?,
          ofJson? document = some { entry with deviceIds := none } := by
  obtain ⟨record, known, _⟩ := Option.bind_eq_some_iff.mp h
  obtain ⟨keyed, before, after, absent, absent', fills, without⟩ :=
    Layer.exists_fields field (by decide) (by decide) known
  have beside {other : String} (different : other ≠ "DeviceIDs") (value : Json) :=
    Record.get?_beside before after different keyed value
  have pod := beside (by decide : "PodUID" ≠ _)
  have container := beside (by decide : "ContainerName" ≠ _)
  have resource := beside (by decide : "ResourceName" ≠ _)
  have response := beside (by decide : "AllocResp" ≠ _)
  simp only [ofJson?, fills, Record.required?, Record.default?, Option.bind_eq_bind,
    Option.bind_some, Option.pure_def, Record.get?_gap absent, pod, container, resource,
    response, Option.bind_eq_some_iff] at h
  obtain ⟨_, ⟨_, hasPod, readPod⟩, _, ⟨_, hasContainer, readContainer⟩, _,
    ⟨_, hasResource, readResource⟩, ids, _, _, readResponse, built⟩ := h
  obtain rfl := Option.some.inj built
  constructor
  · intro value
    simp only [ofJson?, fills, Record.required?, Record.default?, Option.bind_eq_bind,
      Option.bind_some, Option.pure_def, Record.get?_gap absent, pod, container, resource,
      response, hasPod, readPod, hasContainer, readContainer, hasResource, readResource,
      readResponse]
    cases optional? DeviceIds.ofJson? value <;> rfl
  · intro document member
    simp only [ofJson?, without document member, Record.required?, Record.default?,
      Option.bind_eq_bind, Option.bind_some, Option.pure_def, Record.get?_closed absent absent',
      hasPod, readPod, hasContainer, readContainer, hasResource, readResource, readResponse]

theorem length_of_mapM {α β : Type} {read? : α → Option β} {items : List α} {values : List β}
    (h : items.mapM read? = some values)
    : values.length = items.length := by
  induction items generalizing values with
  | nil =>
      obtain rfl := Option.some.inj h
      rfl
  | cons item items ih =>
      simp only [List.mapM_cons, Option.bind_eq_bind, Option.bind_eq_some_iff,
        Option.pure_def] at h
      obtain ⟨value, _, others, read, built⟩ := h
      obtain rfl := Option.some.inj built
      rw [List.length_cons, List.length_cons, ih read]

/-- The entries of a list are read one by one. -/
theorem list?_ofJson?_gap {before after : List Json} {filler : Json} {entries : List Entry}
    (h : list? Entry.ofJson? (.arr (before ++ filler :: after)) = some entries)
    : ∃ first entry rest, entries = first ++ entry :: rest ∧ first.length = before.length
      ∧ Entry.ofJson? filler = some entry
      ∧ ∀ value, list? Entry.ofJson? (.arr (before ++ value :: after))
          = (Entry.ofJson? value).map fun entry => first ++ entry :: rest := by
  simp only [list?, List.mapM_append, List.mapM_cons, Option.bind_eq_bind,
    Option.bind_eq_some_iff, Option.pure_def] at h
  obtain ⟨first, begins, _, ⟨entry, here, rest, ends, later⟩, built⟩ := h
  obtain rfl := Option.some.inj later
  refine ⟨first, entry, rest, (Option.some.inj built).symm, length_of_mapM begins, here, ?_⟩
  · intro value
    simp only [list?, List.mapM_append, List.mapM_cons, begins, ends, Option.bind_eq_bind,
      Option.bind_some, Option.pure_def]
    cases Entry.ofJson? value <;> rfl

theorem data?_fill {layer : Layer}
    (field : layer.IsField ["PodDeviceEntries", "RegisteredDevices"] "PodDeviceEntries")
    {items : List Json} {held : Option (List Entry)}
    {registered : Option (Dictionary (List String))}
    (h : data? (layer.fill (.arr items)) = some (held, registered))
    : ∃ entries, held = some entries ∧ list? Entry.ofJson? (.arr items) = some entries
      ∧ ∀ items, data? (layer.fill (.arr items))
          = (list? Entry.ofJson? (.arr items)).map fun entries => (some entries, registered) := by
  obtain ⟨record, known, _⟩ := Option.bind_eq_some_iff.mp h
  obtain ⟨keyed, before, after, absent, _, fills, _⟩ :=
    Layer.exists_fields field (by decide) (by decide) known
  have beside (value : Json) := Record.get?_beside before after
    (by decide : "RegisteredDevices" ≠ "PodDeviceEntries") keyed value
  simp only [data?, fills, Record.default?, Option.bind_eq_bind, Option.bind_some,
    Option.pure_def, Record.get?_gap absent, beside, optional?, Option.bind_eq_some_iff,
    Option.map_eq_some_iff] at h
  obtain ⟨_, ⟨entries, read, rfl⟩, _, readRegistered, built⟩ := h
  obtain ⟨rfl, rfl⟩ := Prod.mk.inj (Option.some.inj built)
  refine ⟨entries, rfl, read, ?_⟩
  intro items
  simp only [data?, fills, Record.default?, Option.bind_eq_bind, Option.bind_some,
    Option.pure_def, Record.get?_gap absent, beside, optional?, readRegistered]
  cases list? Entry.ofJson? (.arr items) <;> rfl

theorem ofJson?_fill {layer : Layer} (field : layer.IsField ["Data", "Checksum"] "Data")
    {filler : Json} {checkpoint : Checkpoint} (h : ofJson? (layer.fill filler) = some checkpoint)
    : data? filler = some (checkpoint.entries, checkpoint.registeredDevices)
      ∧ ∀ value, ofJson? (layer.fill value) = (data? value).map fun data =>
          { checkpoint with entries := data.1, registeredDevices := data.2 } := by
  obtain ⟨record, known, _⟩ := Option.bind_eq_some_iff.mp h
  obtain ⟨keyed, before, after, absent, _, fills, _⟩ :=
    Layer.exists_fields field (by decide) (by decide) known
  have beside (value : Json) := Record.get?_beside before after
    (by decide : "Checksum" ≠ "Data") keyed value
  simp only [ofJson?, fills, Record.required?, Record.default?, Option.bind_eq_bind,
    Option.bind_some, Option.pure_def, Record.get?_gap absent, beside,
    Option.bind_eq_some_iff] at h
  obtain ⟨data, read, checksum, readChecksum, built⟩ := h
  obtain rfl := Option.some.inj built
  refine ⟨read, ?_⟩
  intro value
  simp only [ofJson?, fills, Record.required?, Record.default?, Option.bind_eq_bind,
    Option.bind_some, Option.pure_def, Record.get?_gap absent, beside, readChecksum]
  cases data? value <;> rfl

theorem modify_middle {α : Type} (first rest : List α) (item : α) (change : α → α)
    : (first ++ item :: rest).modify first.length change = first ++ change item :: rest := by
  induction first with
  | nil => rfl
  | cons head first ih =>
      rw [List.cons_append, List.length_cons, List.modify_succ_cons, ih, List.cons_append]

/-- Only the device ids of the entry with the gap depend on what is in it. -/
theorem ofJson?_gap (gap : Gap) {filler : Json} {checkpoint : Checkpoint}
    (h : ofJson? (gap.fill filler) = some checkpoint)
    : (∀ value, ofJson? (gap.fill value)
        = (optional? DeviceIds.ofJson? value).map (checkpoint.withDeviceIds gap.position))
      ∧ (∀ document ∈ gap.without?,
          ofJson? document = some (checkpoint.withDeviceIds gap.position none))
      ∧ ∀ ids, (checkpoint.withDeviceIds gap.position ids).deviceIdsAt? gap.position
          = some ids := by
  obtain ⟨readData, document⟩ := ofJson?_fill gap.inDocument h
  obtain ⟨entries, held, readEntries, data⟩ := data?_fill gap.inData readData
  obtain ⟨first, entry, rest, rfl, placed, readEntry, item⟩ := list?_ofJson?_gap readEntries
  obtain ⟨fills, without⟩ := Entry.ofJson?_fill gap.inEntry readEntry
  have around (value : Json) : ofJson? (gap.around value) = (Entry.ofJson? value).map fun entry =>
      { checkpoint with entries := some (first ++ entry :: rest) } := by
    rw [Gap.around, document, data, item]
    cases Entry.ofJson? value <;> rfl
  have replaced (ids : Option DeviceIds) : checkpoint.withDeviceIds gap.position ids
      = { checkpoint with
          entries := some (first ++ { entry with deviceIds := ids } :: rest) } := by
    rw [withDeviceIds, held, Gap.position, ← placed, Option.map_some, modify_middle]
  refine ⟨?_, ?_, ?_⟩
  · intro value
    rw [Gap.fill, around, fills]
    cases optional? DeviceIds.ofJson? value with
    | none => rfl
    | some ids => simp [replaced]
  · intro shorter member
    obtain ⟨given, missing, rfl⟩ := Option.map_eq_some_iff.mp member
    rw [around, without given missing, Option.map_some, replaced]
  · intro ids
    rw [replaced, deviceIdsAt?, Gap.position, ← placed]
    simp

/-- A checkpoint is read back in any order of its registered resources. In a document that reads
with something at the device ids of an entry, what stands there is read in the shape it is written
in, nothing else changes, and a document with any other value there is refused.
-/
theorem roundTrips_and_readsByShape
    : (∀ order, RoundTrips ofJson? (toJsonIn order))
      ∧ ∀ (gap : Gap) (filler : Json) (checkpoint : Checkpoint),
          ofJson? (gap.fill filler) = some checkpoint
          → (∀ value read,
              ofJson? (gap.fill value) = some read
              ↔ ∃ ids,
                  DeviceIds.Written value ids
                  ∧ read = checkpoint.withDeviceIds gap.position ids)
            ∧ (∀ value,
                ofJson? (gap.fill value) = none ↔ ∀ ids, ¬ DeviceIds.Written value ids)
            ∧ (∀ document ∈ gap.without?,
                ofJson? document = some (checkpoint.withDeviceIds gap.position none))
            ∧ ∀ ids,
                (checkpoint.withDeviceIds gap.position ids).deviceIdsAt? gap.position
                = some ids := by
  refine ⟨fun order => (inverse order).roundTrips, ?_⟩
  intro gap filler checkpoint h
  obtain ⟨fills, without, placed⟩ := ofJson?_gap gap h
  refine ⟨?_, ?_, without, placed⟩
  · intro value read
    simp only [fills, Option.map_eq_some_iff, DeviceIds.optional?_eq_some_iff,
      eq_comm (a := read)]
  · intro value
    rw [fills, Option.map_eq_none_iff, Option.eq_none_iff_forall_ne_some]
    simp only [ne_eq, DeviceIds.optional?_eq_some_iff]

/-- The document of a checkpoint of one entry. -/
def Gap.single : Gap where
  document := .member [] "Data" []
  data := .member [] "PodDeviceEntries" []
  before := []
  entry := .member
    [(some "PodUID", text "p"), (some "ContainerName", text "c"), (some "ResourceName", text "r")]
    "DeviceIDs" []
  after := []
  inDocument := rfl
  inData := rfl
  inEntry := rfl

theorem readsByShape_single
    : ∃ checkpoint, ofJson? (Gap.single.fill .null) = some checkpoint
      ∧ ofJson? (Gap.single.fill (list text ["a"]))
        = some (checkpoint.withDeviceIds 0 (some (.flat ["a"]))) := by
  let entry : Entry := { podUid := "p", containerName := "c", resourceName := "r" }
  have valid : ofJson? (Gap.single.fill .null) = some { entries := some [entry] } := by
    rfl
  obtain ⟨reads, _⟩ := roundTrips_and_readsByShape.2 Gap.single .null _ valid
  exact ⟨_, valid, (reads _ _).mpr ⟨_, .flat ["a"], rfl⟩⟩

end NodeDevices.Checkpoint
