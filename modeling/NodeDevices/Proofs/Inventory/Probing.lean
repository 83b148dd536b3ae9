import NodeDevices.Proofs.Inventory.Listing

/-! What a probe tells of a device. Only a reply that says in so many words that the device is ill
finds it so; whatever else comes of the request finds it healthy.
-/

namespace NodeDevices.Inventory

open Http

/-- The reply has a status of success and a body that reads as an envelope with the return code of
success and the payload `false`.
-/
def Denies (reply : Reply) : Prop :=
  ∃ status body envelope,
    reply = .answered status body
    ∧ 200 ≤ status ∧ status < 300
    ∧ Json.ofBytes? body >>= Envelope.ofJson? Json.bool? = some envelope
    ∧ envelope.code = 0
    ∧ envelope.data = some false

theorem denies_iff {reply : Reply}
    : Denies reply ↔ ∃ envelope, served? Json.bool? reply = some envelope
        ∧ envelope.data = some false := by
  constructor
  · rintro ⟨status, body, envelope, rfl, low, high, read, zero, ill⟩
    refine ⟨envelope, ?_, ill⟩
    rw [served?, if_pos ⟨low, high⟩, read, Option.filter_some, if_pos (decide_eq_true zero)]
  · rintro ⟨envelope, served, ill⟩
    cases reply with
    | lost => cases served
    | answered status body =>
        rw [served?] at served
        split at served
        · next success =>
            obtain ⟨read, zero⟩ := Option.filter_eq_some_iff.mp served
            exact ⟨status, body, envelope, rfl, success.1, success.2, read,
              of_decide_eq_true zero, ill⟩
        · cases served

namespace Client

variable (client : Client) (transport : Transport)

/-- What comes of probing a device. -/
def probing (uuid : Int64) : Reply :=
  client.reply transport .get (probePath client.endpoints.health uuid) ""

/-- A probe finds a device ill only if its reply denies that the device is healthy. -/
theorem probe_eq_false_iff (uuid : Int64)
    : client.probe transport uuid = false ↔ Denies (client.probing transport uuid) := by
  have called := client.toOption_call transport .get (probePath client.endpoints.health uuid) ""
    Json.bool?
  have probed
      : (client.tryProbe transport uuid).toOption
        = (client.call transport .get (probePath client.endpoints.health uuid) ""
            Json.bool?).toOption.bind id := by
    rw [tryProbe]
    cases client.call transport .get (probePath client.endpoints.health uuid) "" Json.bool? with
    | error => rfl
    | ok data => cases data <;> rfl
  rw [denies_iff, probe, probed, called, probing]
  cases served? Json.bool?
      (client.reply transport .get (probePath client.endpoints.health uuid) "") with
  | none => simp
  | some envelope => cases data : envelope.data <;> simp [data]

end Client

end NodeDevices.Inventory
