import NodeDevices.Node
import NodeDevices.Proofs.Allocation
import NodeDevices.Proofs.Inventory.Listing
import NodeDevices.Proofs.Session.Settling

/-! What a session of a plugin offers from its beginning to its end, told from the one reply of
the inventory that its devices come from.
-/

namespace NodeDevices

open Inventory

/-- The devices of a roster are those that some records are about, and each stands for the first
record of its id.
-/
structure Roster.Offers (roster : Roster) (records : List DeviceRecord) : Prop where
  named : ∀ id, id ∈ roster.ids ↔ ∃ record ∈ records, record.ip = id
  distinct : roster.ids.Nodup
  ordered
    : roster.ids.Pairwise fun first second =>
        (records.map (·.ip)).idxOf first < (records.map (·.ip)).idxOf second
  /-- In a poll each id is asked for by the number of its first record. -/
  asked
    : ∀ answer,
        List.Forall₂
          (fun id probed =>
            ∃ record,
              records.find? (·.ip = id) = some record ∧ probed = (id, answer record.id))
          roster.ids (Health.probeAll roster answer)

namespace Roster

variable {roster : Roster} {records : List DeviceRecord}

/-- The roster that is made from some records offers what they are about. -/
theorem offers_ofList (records : List DeviceRecord)
    : (ofList (records.map DeviceRecord.device)).Offers records := by
  have order := ids_ofList_pairwise (records.map DeviceRecord.device)
  rw [List.map_map] at order
  refine {
    named := fun id => by simp [mem_ids_ofList, DeviceRecord.device]
    distinct := nodup_ids_ofList _
    ordered := order
    asked := fun answer => ?_
  }
  rw [ids, Health.probeAll, List.forall₂_map_left_iff, List.forall₂_map_right_iff,
    List.forall₂_same]
  intro device member
  have found := get?_of_mem (nodup_ids_ofList _) member
  rw [get?_ofList, List.find?_map] at found
  obtain ⟨record, first, rfl⟩ := Option.map_eq_some_iff.mp found
  exact ⟨record, first, rfl⟩

/-- Healths that are stored change nothing of what is offered. -/
theorem Offers.replay (h : roster.Offers records) (events : List Health.Event)
    : (roster.replay events).Offers records := by
  obtain ⟨named, distinct, ordered, asked⟩ := h
  constructor <;> simpa only [ids_replay, probeAll_replay]

end Roster

namespace Session.Chronicle

/-- A session that a start leaves has the devices that the inventory's reply gives as online; a
reply that gives none leaves it without any. At every later time these are what each pushed list
names, what requests may ask for, and what is polled.
-/
theorem run_offersOnline (client : Client) (transport : Http.Transport) (plugin : Plugin)
    (world : Node) (actions : List Action)
    : let cls := plugin.settings.cls
      let reply := client.listing transport plugin.settings.node cls.deviceType
      let devices := client.listDevices transport plugin.settings.node cls.deviceType
      let chronicle := run (.ofList devices) actions
      let roster := chronicle.session.roster
      (∀ running,
        (plugin.start (Node.host (client.listDevices transport)) world).2.1.current = some running
        → running.session = { roster := .ofList devices })
      ∧ roster.Offers (onlineRecords cls.deviceType reply)
      ∧ (listedRecords? cls.deviceType reply = none → roster.ids = [])
      ∧ (∀ number, ∀ list ∈ chronicle.history.pushedOn number, list.map Prod.fst = roster.ids)
      ∧ ∀ lookup? requests,
          (∀ resource id,
            (Allocation.allocate cls roster lookup? requests).result
              ≠ .error (.unknownDevice resource id))
          ↔ ∀ id ∈ requests.flatten, id ∈ roster.ids := by
  intro cls reply devices chronicle roster
  have truthful : Truthful (.ofList devices) chronicle := run_truthful _ actions
  have offers : roster.Offers (onlineRecords cls.deviceType reply) := by
    have listed : devices = (onlineRecords cls.deviceType reply).map DeviceRecord.device :=
      client.listDevices_eq transport _ _
    have replayed : roster = (Roster.ofList devices).replay chronicle.history.stored :=
      truthful.replayed
    rw [replayed, listed]
    exact (Roster.offers_ofList _).replay _
  refine ⟨?_, offers, ?_, ?_, fun _ _ => Allocation.accepts_iff⟩
  · intro running held
    obtain ⟨_, began⟩ := Plugin.session_of_start held
    exact began
  · intro none
    refine List.eq_nil_iff_forall_not_mem.mpr fun id member => ?_
    obtain ⟨record, online, _⟩ := (offers.named id).mp member
    simp [onlineRecords, none] at online
  · intro number list pushed
    rw [truthful.named number list pushed, ← truthful.ids_eq]

end Session.Chronicle

end NodeDevices
