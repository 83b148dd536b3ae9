import NodeDevices.Inventory.DeviceRecord
import NodeDevices.Inventory.Envelope
import NodeDevices.Inventory.Request
import NodeDevices.Proofs.Json.Shape
import NodeDevices.Proofs.Time.Timestamp

/-! What the inventory and the containers are told is read back as it was written, and what is
read from any text is written in a form that stays.
-/

namespace NodeDevices.Inventory

open Json Time

theorem DeviceRecord.inverse_timestamp : Inverse timestamp? timestamp where
  plain t := isPlain_text t.render
  reads t := by
    rw [timestamp?, timestamp, inverse_text.reads, Option.bind_eq_bind, Option.bind_some,
      Timestamp.parse?_render]

theorem DeviceRecord.inverse_optionalTimestamp
    : Inverse (optional? timestamp?) (optional timestamp) :=
  inverse_timestamp.optional fun t => by simp [timestamp, text]

theorem DeviceRecord.inverse : Inverse ofJson? toJson :=
  inverse_record (fun _ => rfl) (by decide) (by simp [inverse_optionalTimestamp.plain])
    fun device => by
      simp [Record.required?, Record.default?, Record.get?, List.lookup_cons, inverse_text.reads,
        inverse_int8.reads, inverse_int64.reads, inverse_optionalTimestamp.reads]

theorem DeviceQuery.inverse : Inverse ofJson? toJson :=
  inverse_record (fun _ => rfl) (by decide) (by simp)
    fun query => by simp [Record.required?, Record.get?, List.lookup_cons, inverse_text.reads]

theorem AddressQuery.inverse : Inverse ofJson? toJson :=
  inverse_record (fun _ => rfl) (by decide) (by simp [inverse_text.list.plain])
    fun query => by simp [Record.required?, Record.get?, inverse_text.list.reads]

theorem AllocationNotice.inverse : Inverse ofJson? toJson :=
  inverse_record (fun _ => rfl) (by decide) (by simp)
    fun notice => by
      simp [Record.required?, Record.get?, List.lookup_cons, inverse_text.reads, inverse_bool.reads]

theorem PcieAddress.inverse : Inverse ofJson? toJson :=
  inverse_record (fun _ => rfl) (by decide) (by simp)
    fun address => by simp [Record.required?, Record.get?, List.lookup_cons, inverse_text.reads]

theorem ContainerAddressing.inverse : Inverse ofJson? toJson :=
  inverse_record (fun _ => rfl) (by decide) (by simp [PcieAddress.inverse.list.plain])
    fun addressing => by
      simp [Record.required?, Record.get?, List.lookup_cons, inverse_text.reads,
        PcieAddress.inverse.list.reads]

/-- An envelope keeps the law of its payload, if no payload is written as the missing one is. -/
theorem Envelope.inverse {α : Type} {payload? : Json → Option α} {payload : α → Json}
    (inverse : Inverse payload? payload) (present : ∀ value, payload value ≠ .null)
    : Inverse (ofJson? payload?) (toJson payload) :=
  inverse_record (fun _ => rfl) (by decide) (by simp [(inverse.optional present).plain])
    fun envelope => by
      simp [Record.default?, Record.nullable?, Record.get?, List.lookup_cons, inverse_text.reads,
        inverse_int32.reads, (inverse.optional present).reads]

-----------------------------------------------------------------------------------------
-- Round trips
-----------------------------------------------------------------------------------------

/-- The instant of a local time: the same second and fraction, in the minute of universal time. -/
structure StandsFor (t : Timestamp) (time : Timestamp.LocalTime) : Prop where
  minutes : t.minutes = time.minutes
  second : t.second = time.second
  nanosecond : (t.nanosecond : Nat) = time.nanosecond

theorem decode?_localTime (time : Timestamp.LocalTime)
    : decode? DeviceRecord.timestamp? (encode text time.render)
      = Timestamp.parse? time.render := by
  rw [decode?, encode, parse?_render (isPlain_text _), Option.bind_eq_bind, Option.bind_some,
    DeviceRecord.timestamp?, inverse_text.reads, Option.bind_eq_bind, Option.bind_some]

/-- Whatever is sent is read back, and whatever is read is sent in a form that stays, with the
maps in any order. An instant that was given in local time is sent in universal time.
-/
theorem wire_roundTrips
    : RoundTrips DeviceRecord.ofJson? DeviceRecord.toJson
      ∧ RoundTrips DeviceQuery.ofJson? DeviceQuery.toJson
      ∧ RoundTrips (list? AllocationNotice.ofJson?) (list AllocationNotice.toJson)
      ∧ RoundTrips AddressQuery.ofJson? AddressQuery.toJson
      ∧ RoundTrips PcieAddress.ofJson? PcieAddress.toJson
      ∧ RoundTrips ContainerAddressing.ofJson? ContainerAddressing.toJson
      ∧ RoundTrips (Envelope.ofJson? bool?) (Envelope.toJson .bool)
      ∧ (∀ order, RoundTrips (Envelope.ofJson? DeviceLists.ofJson?)
          (Envelope.toJson (dictionaryIn order (list DeviceRecord.toJson))))
      ∧ RoundTrips (Envelope.ofJson? (list? PcieAddress.ofJson?))
          (Envelope.toJson (list PcieAddress.toJson))
      ∧ RoundTrips DeviceRecord.timestamp? DeviceRecord.timestamp
      ∧ (∀ (time : Timestamp.LocalTime) (t : Timestamp),
          decode? DeviceRecord.timestamp? (encode text time.render) = some t
          → StandsFor t time)
      ∧ ∀ time : Timestamp.LocalTime,
          firstYear < time.date.year
          → time.date.year < lastYear
          → ∃ t, decode? DeviceRecord.timestamp? (encode text time.render) = some t := by
  have bools := Envelope.inverse inverse_bool (by simp)
  have lists (order : KeyOrder (List DeviceRecord)) :=
    Envelope.inverse (DeviceRecord.inverse.list.dictionaryIn order)
      (by simp [dictionaryIn, record])
  have addresses := Envelope.inverse PcieAddress.inverse.list (by simp [list])
  refine ⟨DeviceRecord.inverse.roundTrips, DeviceQuery.inverse.roundTrips,
    AllocationNotice.inverse.list.roundTrips, AddressQuery.inverse.roundTrips,
    PcieAddress.inverse.roundTrips, ContainerAddressing.inverse.roundTrips, bools.roundTrips,
    fun order => (lists order).roundTrips, addresses.roundTrips,
    DeviceRecord.inverse_timestamp.roundTrips, ?_, ?_⟩
  · intro time t read
    rw [decode?_localTime] at read
    obtain ⟨minutes, second, nanosecond⟩ := Timestamp.LocalTime.eq_of_parse?_render read
    exact ⟨minutes, second, nanosecond⟩
  · intro time later earlier
    rw [decode?_localTime]
    exact Timestamp.LocalTime.exists_parse?_render later earlier

end NodeDevices.Inventory
