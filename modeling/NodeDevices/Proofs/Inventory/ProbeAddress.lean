import Mathlib.Logic.Function.Basic
import NodeDevices.Proofs.Http.Numbered
import NodeDevices.Proofs.Inventory.Probing

/-! Where devices are probed. The path of a probe is the template of the configuration with the
number of the device at each of its places, and it tells the number. What is asked for is the
normal form of the address, in which a step back takes away the segment before it, and with that
perhaps the number: addresses tell devices apart, too, as long as they take no step back behind
a number.
-/

namespace NodeDevices.Inventory.Client

open Http Text

-----------------------------------------------------------------------------------------
-- Paths of probes
-----------------------------------------------------------------------------------------

theorem placeholder_ne_nil : placeholder.toList ≠ [] := by
  decide

/-- No character of a number is one of the placeholder. -/
theorem notMem_placeholder (uuid : Int64)
    : ∀ c ∈ Decimal.signed uuid.toInt, c ∉ placeholder.toList :=
  (isNumeral_signed uuid.toInt).forall_mem (by decide)

theorem signed_toInt_injective : Function.Injective fun uuid : Int64 => Decimal.signed uuid.toInt :=
  Decimal.signed_injective.comp fun _ _ => Int64.toInt_inj.mp

/-- The path of a probe is a template that is filled with the number of the device. -/
theorem toList_probePath {text : String} {template : Template}
    (scanned : Scan placeholder.toList text.toList template) (uuid : Int64)
    : (probePath text uuid).toList = fill (Decimal.signed uuid.toInt) template := by
  rw [probePath, String.toList_ofList, scanned.replace_eq placeholder_ne_nil]

/-- No placeholder is left in the path of a probe. -/
theorem not_infix_probePath (text : String) (uuid : Int64)
    : ¬ placeholder.toList <:+: (probePath text uuid).toList := by
  rw [probePath, String.toList_ofList]
  exact not_infix_replace placeholder_ne_nil (Decimal.signed_ne_nil _) (notMem_placeholder uuid) _

/-- The path of a probe tells the number of the device. -/
theorem probePath_injective {text : String} (marked : placeholder.toList <:+: text.toList)
    : Function.Injective (probePath text) := by
  obtain ⟨template, scanned⟩ := exists_scan placeholder_ne_nil text.toList
  intro first second same
  have filled := congrArg String.toList same
  rw [toList_probePath scanned, toList_probePath scanned] at filled
  exact signed_toInt_injective
    (fill_injective (scanned.place_mem placeholder_ne_nil marked) filled)

-----------------------------------------------------------------------------------------
-- Requests of probes
-----------------------------------------------------------------------------------------

variable (client : Client)

/-- The request by which a device is probed, if the address is one. -/
def probeRequest? (uuid : Int64) : Option Request :=
  (client.request .get (probePath client.endpoints.health uuid) "").toOption

/-- What comes of probing a device is the reply to this request. -/
theorem probing_eq (transport : Transport) (uuid : Int64)
    : client.probing transport uuid = ((client.probeRequest? uuid).map transport).getD .lost := by
  unfold probing reply probeRequest?
  cases client.request .get (probePath client.endpoints.health uuid) "" with
  | error => rfl
  | ok request => rfl

/-- Devices that are probed by one request are found alike, whatever the server replies. -/
theorem probe_eq_of_probeRequest? (transport : Transport) {first second : Int64}
    (same : client.probeRequest? first = client.probeRequest? second)
    : client.probe transport first = client.probe transport second := by
  have replied : client.probing transport first = client.probing transport second := by
    rw [probing_eq, probing_eq, same]
  apply Bool.eq_iff_iff.mpr
  apply not_iff_not.mp
  rw [Bool.not_eq_true, Bool.not_eq_true, probe_eq_false_iff, probe_eq_false_iff, replied]

/-- The template goes on behind a start without placeholders, which completes the address of the
server to one that is valid by itself and has no fragment. It goes on with a new part of the
address, and a placeholder there is not in the fragment.
-/
structure GoesOn (start rest : String) : Prop where
  split : client.endpoints.health = start ++ rest
  unmarked : ¬ placeholder.toList <:+: start.toList
  valid : (Url.parse? (client.server ++ start)).isSome
  whole : '#' ∉ (client.server ++ start).toList
  rooted : ∃ c ∈ rest.toList.head?, Url.endsServer c = true
  asked : placeholder.toList <:+: rest.toList.takeWhile (· ≠ '#')

variable {client}

theorem parse?_of_probeRequest? {uuid : Int64} {request : Request}
    (made : client.probeRequest? uuid = some request)
    : Url.parse? (client.server ++ probePath client.endpoints.health uuid) = some request.url := by
  unfold probeRequest? Client.request at made
  split at made
  · cases made
  · next url read =>
      split at made
      · cases made
        exact read
      · cases made

theorem GoesOn.exists_template {start rest : String} (goes : client.GoesOn start rest)
    : ∃ c template,
        Url.endsServer c = true
        ∧ Url.IsSent (some c :: template)
        ∧ ∀ uuid : Int64,
            (probePath rest uuid).toList = c :: fill (Decimal.signed uuid.toInt) template
            ∧ (client.server ++ probePath client.endpoints.health uuid).toList
              = (client.server ++ start).toList
                ++ c :: fill (Decimal.signed uuid.toInt) template := by
  obtain ⟨c, first, ends⟩ := goes.rooted
  obtain ⟨tail, shown⟩ := List.head?_eq_some_iff.mp first
  have foreign : c ∉ placeholder.toList := by
    intro member
    have other : (placeholder.toList.all (!Url.endsServer ·)) = true := by decide
    have apart := List.all_eq_true.mp other c member
    simp [ends] at apart
  obtain ⟨template, scanned⟩ := exists_scan placeholder_ne_nil tail
  have rooted := scanned.cons_of_foreign placeholder_ne_nil foreign
  refine ⟨c, template, ends, ?_, fun uuid => ⟨?_, ?_⟩⟩
  · apply Url.isSent_iff_place_mem.mpr
    apply rooted.place_mem_of_occurs placeholder_ne_nil (List.takeWhile_prefix _).isInfix
    have plain : (placeholder.toList.all (· ≠ '#')) = true := by decide
    rw [← takeWhile_fill (List.all_eq_true.mp plain), rooted.fill_part, ← shown]
    exact goes.asked
  · rw [← shown] at rooted
    rw [toList_probePath rooted, fill_char]
  · have whole := rooted.behind foreign goes.unmarked
    rw [← shown, ← String.toList_append, ← goes.split] at whole
    rw [String.toList_append, toList_probePath whole, fill_append, fill_map_some, fill_char,
      String.toList_append, List.append_assoc]

/-- Two requests that ask for one resource are for one device, if neither path takes a step back
where the template goes on.
-/
theorem GoesOn.eq_of_resource {start rest : String} {first second : Int64}
    {request other : Request} (goes : client.GoesOn start rest)
    (made : client.probeRequest? first = some request)
    (made' : client.probeRequest? second = some other)
    (forward : Url.stepsBack (probePath rest first).toList = false)
    (forward' : Url.stepsBack (probePath rest second).toList = false)
    (same : request.url.resource = other.url.resource)
    : first = second := by
  obtain ⟨c, template, ends, sent, shown⟩ := goes.exists_template
  have read := parse?_of_probeRequest? made
  have read' := parse?_of_probeRequest? made'
  rw [← String.ofList_toList (s := client.server ++ _), (shown first).2] at read
  rw [← String.ofList_toList (s := client.server ++ _), (shown second).2] at read'
  rw [(shown first).1] at forward
  rw [(shown second).1] at forward'
  have valid : (Url.parse? (String.ofList (client.server ++ start).toList)).isSome := by
    rw [String.ofList_toList]
    exact goes.valid
  apply signed_toInt_injective
  exact Url.eq_of_resource (isNumeral_signed _) (isNumeral_signed _) valid goes.whole ends sent
    forward forward' read read' same

-----------------------------------------------------------------------------------------
-- The standard template
-----------------------------------------------------------------------------------------

/-- The standard path of a probe has the number of the device as a segment, and no step back. -/
theorem stepsBack_standard (uuid : Int64)
    : Url.stepsBack (probePath ({} : Endpoints).health uuid).toList = false := by
  have numeral := isNumeral_signed uuid.toInt
  let template : Template :=
    "/api/v3/device/".toList.map some ++ none :: "/healthy".toList.map some
  have shown
      : (probePath ({} : Endpoints).health uuid).toList
        = fill (Decimal.signed uuid.toInt) template := by
    rw [probePath, String.toList_ofList]
    rfl
  have counts : Url.countedAround template = template := by decide
  have path : Url.pathAround template = template := by decide
  have parts
      : fill (Decimal.signed uuid.toInt) template
        = "/api/v3/device".toList
          ++ '/' :: (Decimal.signed uuid.toInt ++ '/' :: "healthy".toList) := rfl
  have plain : '/' ∉ Decimal.signed uuid.toInt :=
    fun member => absurd (numeral.plain _ member) (by decide)
  rw [Url.stepsBack, shown, Url.counted_fill numeral, counts, Url.pathText_fill numeral, path,
    parts, splitOn_append_mark, splitOn_append_mark, splitOn_of_notMem plain, List.any_append,
    List.any_append, List.any_cons, List.any_nil, Url.isBack_of_isNumeral numeral]
  decide

/-- With the standard template, no two devices are probed at one resource of a server whose address
is valid and has no fragment.
-/
theorem standard_eq_of_resource {server : String} {first second : Int64} {request other : Request}
    (valid : (Url.parse? server).isSome) (whole : '#' ∉ server.toList)
    (made : ({ server } : Client).probeRequest? first = some request)
    (made' : ({ server } : Client).probeRequest? second = some other)
    (same : request.url.resource = other.url.resource)
    : first = second := by
  have goes : ({ server } : Client).GoesOn "" ({} : Endpoints).health := {
    split := (String.empty_append).symm
    unmarked := mt contains_iff_infix.mpr (by decide)
    valid := by rwa [String.append_empty]
    whole := by rwa [String.append_empty]
    rooted := ⟨'/', rfl, rfl⟩
    asked := contains_iff_infix.mp (by decide)
  }
  exact goes.eq_of_resource made made' (stepsBack_standard first) (stepsBack_standard second) same

-----------------------------------------------------------------------------------------
-- Templates of any kind
-----------------------------------------------------------------------------------------

/-- The probes of a template tell devices apart. The path of a probe has no placeholder any more
and tells the number of the device, and so does the text of its address. The requests ask for
different resources, too, if a placeholder stands behind what is an address by itself, and the
paths take no step back there.
-/
theorem probes_tellApart (client : Client)
    (marked : placeholder.toList <:+: client.endpoints.health.toList)
    : (∀ uuid, ¬ placeholder.toList <:+: (probePath client.endpoints.health uuid).toList)
      ∧ Function.Injective (probePath client.endpoints.health)
      ∧ Function.Injective (fun uuid => client.server ++ probePath client.endpoints.health uuid)
      ∧ ∀ {start rest : String},
          client.GoesOn start rest
          → ∀ {first second : Int64} {request other : Request},
              client.probeRequest? first = some request
              → client.probeRequest? second = some other
              → Url.stepsBack (probePath rest first).toList = false
              → Url.stepsBack (probePath rest second).toList = false
              → request.url.resource = other.url.resource
              → first = second := by
  have injective := probePath_injective marked
  refine ⟨not_infix_probePath _, injective, ?_, ?_⟩
  · intro first second same
    apply injective
    have texts := congrArg String.toList same
    simp only [String.toList_append, List.append_cancel_left_eq] at texts
    exact String.toList_inj.mp texts
  · intro start rest goes first second request other
    exact goes.eq_of_resource

/-- Two ports of a template with steps back in front of its placeholders, which tells a device from
one whose number starts with its own.
-/
theorem probes_tellApart_of_ports
    : let client : Client := {
        server := "http://c/base"
        endpoints := { health := "/a/../device/\x7buuid\x7d/port/\x7buuid\x7d?node=1" }
      }
      placeholder.toList <:+: client.endpoints.health.toList
      ∧ client.GoesOn "/a/.." "/device/\x7buuid\x7d/port/\x7buuid\x7d?node=1"
      ∧ probePath client.endpoints.health 1 ≠ probePath client.endpoints.health 11
      ∧ ∃ request other,
          client.probeRequest? 1 = some request
          ∧ client.probeRequest? 11 = some other
          ∧ request.url.resource ≠ other.url.resource := by
  intro client
  have marked : placeholder.toList <:+: client.endpoints.health.toList :=
    contains_iff_infix.mp (by decide +kernel)
  have goes : client.GoesOn "/a/.." "/device/\x7buuid\x7d/port/\x7buuid\x7d?node=1" := {
    split := by decide +kernel
    unmarked := mt contains_iff_infix.mpr (by decide +kernel)
    valid := by decide +kernel
    whole := by decide +kernel
    rooted := ⟨'/', rfl, rfl⟩
    asked := contains_iff_infix.mp (by decide +kernel)
  }
  obtain ⟨request, made⟩ : ∃ request, client.probeRequest? 1 = some request :=
    Option.isSome_iff_exists.mp (by decide +kernel)
  obtain ⟨other, made'⟩ : ∃ other, client.probeRequest? 11 = some other :=
    Option.isSome_iff_exists.mp (by decide +kernel)
  obtain ⟨-, paths, -, law⟩ := probes_tellApart client marked
  refine ⟨marked, goes, ?_, request, other, made, made', ?_⟩
  · exact paths.ne (by decide)
  · intro same
    exact absurd (law goes made made' (by decide +kernel) (by decide +kernel) same) (by decide)

/-- Three templates by which two devices are probed at one resource: a step back takes the number
away, it spells a letter of the host whose case does not count, or it is in the fragment.
-/
theorem probeRequest?_sameResource
    : let resource? (health : String) (uuid : Int64) : Option Url :=
        (probeRequest? { server := "http://c", endpoints := { health } } uuid).map
          (·.url.resource)
      let Conflates (health : String) (first second : Int64) : Prop :=
        placeholder.toList <:+: health.toList
        ∧ first ≠ second
        ∧ (resource? health first).isSome
        ∧ resource? health first = resource? health second
      Conflates "/device/\x7buuid\x7d/../healthy" 1 2
      ∧ Conflates ".%\x7buuid\x7d/healthy" 49 69
      ∧ Conflates "/healthy#\x7buuid\x7d" 1 2 := by
  intro resource? Conflates
  have conflates {health : String} {first second : Int64}
      (marked : contains placeholder.toList health.toList = true) (different : first ≠ second)
      (same : (resource? health first).isSome
        ∧ resource? health first = resource? health second)
      : Conflates health first second := by
    have found : placeholder.toList <:+: health.toList := contains_iff_infix.mp marked
    exact ⟨found, different, same⟩
  refine ⟨conflates ?_ ?_ ?_, conflates ?_ ?_ ?_, conflates ?_ ?_ ?_⟩ <;> decide +kernel

end NodeDevices.Inventory.Client
