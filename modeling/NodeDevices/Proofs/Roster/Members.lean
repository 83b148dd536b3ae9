import Mathlib.Data.List.Nodup
import NodeDevices.Device.Handle
import NodeDevices.Proofs.Roster

/-! What a roster is of its list, and what stays of it over time. It has the first device of each
id, and goes on having it. A health that is stored is seen at one position, and given back when
the next one is stored there.
-/

namespace NodeDevices.Roster

/-- The devices of a list that come first with their id. -/
def firstOfEach (devices : List Device) : List Device :=
  (devices.zipIdx.filter fun entry =>
    entry.1.id ∉ (devices.take entry.2).map Device.id).map Prod.fst

-----------------------------------------------------------------------------------------
-- The roster of a list
-----------------------------------------------------------------------------------------

theorem firstOfEach_append (devices : List Device) (device : Device)
    : firstOfEach (devices ++ [device])
      = if device.id ∈ devices.map Device.id then firstOfEach devices
        else firstOfEach devices ++ [device] := by
  have earlier
      : devices.zipIdx.filter (fun entry =>
          entry.1.id ∉ ((devices ++ [device]).take entry.2).map Device.id)
        = devices.zipIdx.filter fun entry =>
            entry.1.id ∉ (devices.take entry.2).map Device.id := by
    refine List.filter_congr fun entry member => ?_
    have bound := (List.mem_zipIdx member).2.1
    rw [List.take_append_of_le_length (by omega)]
  rw [firstOfEach, List.zipIdx_append, List.filter_append, earlier, List.map_append,
    ← firstOfEach]
  by_cases taken : device.id ∈ devices.map Device.id <;> simp_all

/-- A roster has the first device of each id, in the order of its list. -/
theorem devices_ofList (devices : List Device)
    : (ofList devices).devices = firstOfEach devices := by
  induction devices using List.reverseRecOn with
  | nil => rfl
  | append_singleton devices device ih =>
      rw [devices_ofList_append, firstOfEach_append, ih]
      exact if_congr mem_ids_ofList rfl rfl

/-- Devices with distinct ids are all kept. -/
theorem devices_ofList_of_nodup {devices : List Device}
    (distinct : (devices.map Device.id).Nodup)
    : (ofList devices).devices = devices := by
  induction devices using List.reverseRecOn with
  | nil => rfl
  | append_singleton devices device ih =>
      rw [List.map_append, List.map_singleton, List.nodup_append] at distinct
      obtain ⟨before, -, apart⟩ := distinct
      have fresh : device.id ∉ (ofList devices).ids := fun taken =>
        apart device.id (mem_ids_ofList.mp taken) device.id List.mem_cons_self rfl
      rw [devices_ofList_append, if_neg fresh, ih before]

/-- The device with an id is the one at its position. -/
theorem get?_eq_bind_position? (roster : Roster) (id : String)
    : roster.get? id = (roster.position? (.id id)).bind (roster.devices[·]?) :=
  List.find?_eq_bind_findIdx?_getElem?

/-- A roster stands for a list of devices. -/
structure Represents (roster : Roster) (devices : List Device) : Prop where
  /-- It has the first device of each id, in the order of the list. -/
  firsts : roster.devices = firstOfEach devices
  distinct : roster.ids.Nodup
  contains : ∀ id, roster.contains id = true ↔ ∃ device ∈ devices, device.id = id
  get : ∀ id, roster.get? id = devices.find? (·.id = id)
  /-- It is the roster of the devices that it has. -/
  again : ofList roster.devices = roster

theorem ofList_represents (devices : List Device) : (ofList devices).Represents devices where
  firsts := devices_ofList devices
  distinct := nodup_ids_ofList devices
  contains id := by rw [contains_iff, mem_ids_ofList, List.mem_map]
  get := get?_ofList devices
  again := congrArg Roster.mk (devices_ofList_of_nodup (nodup_ids_ofList devices))

-----------------------------------------------------------------------------------------
-- The members of a roster
-----------------------------------------------------------------------------------------

/-- Two rosters have the same devices, whatever the healths of these. -/
def SameMembers (first second : Roster) : Prop :=
  second.devices.map Device.identity = first.devices.map Device.identity

namespace SameMembers

variable {first second : Roster}

theorem ids_eq (h : first.SameMembers second) : second.ids = first.ids := by
  have same := congrArg (List.map Prod.fst) h
  rwa [List.map_map, List.map_map] at same

theorem size_eq (h : first.SameMembers second) : second.size = first.size := by
  rw [← length_ids, ← length_ids, h.ids_eq]

theorem contains_eq (h : first.SameMembers second) (id : String)
    : second.contains id = first.contains id := by
  rw [Bool.eq_iff_iff, contains_iff, contains_iff, h.ids_eq]

/-- A handle leads where it led. -/
theorem position?_eq (h : first.SameMembers second) (handle : Handle)
    : second.position? handle = first.position? handle := by
  cases handle with
  | position number => simp only [position?, h.size_eq]
  | id id =>
      have place (roster : Roster)
          : roster.position? (.id id) = roster.ids.findIdx? (· = id) := by
        rw [ids, List.findIdx?_map]
        rfl
      rw [place, place, h.ids_eq]

end SameMembers

-----------------------------------------------------------------------------------------
-- One store
-----------------------------------------------------------------------------------------

variable {roster : Roster} {handle : Handle} {health : Health} {position : Nat}
  {operations : List (Handle × Health)}

/-- A handle leads to a device that there is. -/
theorem exists_of_position? (leads : roster.position? handle = some position)
    : ∃ device, roster.devices[position]? = some device := by
  have bound : position < roster.devices.length := by
    cases handle with
    | position number =>
        obtain ⟨bound, same⟩ := Option.ite_none_right_eq_some.mp leads
        exact Option.some.inj same ▸ bound
    | id id => exact (List.findIdx?_eq_some_iff_findIdx_eq.mp leads).1
  exact ⟨_, List.getElem?_eq_getElem bound⟩

theorem exchange_of_none (lost : roster.position? handle = none)
    : roster.exchange handle health = (none, roster) := by
  rw [exchange, lost]

theorem exchange_of_some {device : Device} (leads : roster.position? handle = some position)
    (found : roster.devices[position]? = some device)
    : roster.exchange handle health
      = (some device.health, ⟨roster.devices.set position { device with health }⟩) := by
  simp only [exchange, leads, found, List.modify_eq_set_getElem?, Option.map_some,
    Option.map_eq_map, Option.getD_some]

/-- A store gives what the view shows at its position, and is seen there. -/
theorem exchange_healthView (leads : roster.position? handle = some position) (health : Health)
    : ∃ id previous,
        roster.healthView[position]? = some (id, previous)
        ∧ (roster.exchange handle health).1 = some previous
        ∧ (roster.exchange handle health).2.healthView
          = roster.healthView.set position (id, health) := by
  obtain ⟨device, found⟩ := exists_of_position? leads
  refine ⟨device.id, device.health, ?_, ?_, ?_⟩
  · rw [healthView, List.getElem?_map, found, Option.map_some]
  · rw [exchange_of_some leads found]
  · rw [exchange_of_some leads found, healthView, healthView, List.map_set]

/-- A store leaves the members of a roster as they are. -/
theorem sameMembers_exchange (roster : Roster) (handle : Handle) (health : Health)
    : roster.SameMembers (roster.exchange handle health).2 := by
  cases leads : roster.position? handle with
  | none =>
      rw [exchange_of_none leads]
      rfl
  | some position =>
      obtain ⟨device, found⟩ := exists_of_position? leads
      have kept : (roster.devices.map Device.identity)[position]? = some device.identity := by
        rw [List.getElem?_map, found, Option.map_some]
      obtain ⟨bound, same⟩ := List.getElem?_eq_some_iff.mp kept
      rw [exchange_of_some leads found, SameMembers, List.map_set]
      exact (congrArg _ same.symm).trans (List.set_getElem_self bound)

/-- A store for an id is the one that a roster makes where that id is. -/
theorem exchange_id {device : Device} (distinct : roster.ids.Nodup)
    (member : device ∈ roster.devices)
    : roster.exchange (.id device.id) health
      = (some device.health, roster.setHealth device.id health) := by
  have known := get?_of_mem distinct member
  rw [get?_eq_bind_position?] at known
  obtain ⟨position, leads, found⟩ := Option.bind_eq_some_iff.mp known
  rw [exchange_of_some leads found, setHealth]
  refine congrArg (some device.health, Roster.mk ·) (List.ext_getElem? fun number => ?_)
  rw [List.getElem?_set, List.getElem?_map]
  have bound := (List.getElem?_eq_some_iff.mp found).1
  by_cases here : position = number
  · subst here
    rw [if_pos rfl, if_pos bound, found, Option.map_some, if_pos rfl]
  · rw [if_neg here]
    cases there : roster.devices[number]? with
    | none => rfl
    | some other =>
        -- as ids are distinct, a device elsewhere has another one
        have apart : other.id ≠ device.id := by
          intro same
          have equal : roster.ids[number]? = roster.ids[position]? := by
            rw [ids, List.getElem?_map, List.getElem?_map, there, found, Option.map_some,
              Option.map_some, same]
          have bound' : position < roster.ids.length := by rwa [ids, List.length_map]
          exact here ((List.getElem?_inj bound' distinct).mp equal.symm)
        rw [Option.map_some, if_neg apart]

-----------------------------------------------------------------------------------------
-- One store after another
-----------------------------------------------------------------------------------------

/-- A roster after some stores. -/
def after (roster : Roster) (operations : List (Handle × Health)) : Roster :=
  (roster.exchangeAll operations).2

/-- What some stores gave. -/
def given (roster : Roster) (operations : List (Handle × Health)) : List (Option Health) :=
  (roster.exchangeAll operations).1

theorem exchangeAll_append (roster : Roster) (first second : List (Handle × Health))
    : roster.exchangeAll (first ++ second)
      = (roster.given first ++ (roster.after first).given second,
          (roster.after first).after second) := by
  induction first generalizing roster with
  | nil => rfl
  | cons operation rest ih => simp only [List.cons_append, exchangeAll, ih, given, after]

theorem after_concat (operations : List (Handle × Health)) (operation : Handle × Health)
    : roster.after (operations ++ [operation])
      = ((roster.after operations).exchange operation.1 operation.2).2 :=
  congrArg Prod.snd (exchangeAll_append roster operations _)

theorem given_concat (operations : List (Handle × Health)) (operation : Handle × Health)
    : roster.given (operations ++ [operation])
      = roster.given operations
        ++ [((roster.after operations).exchange operation.1 operation.2).1] :=
  congrArg Prod.fst (exchangeAll_append roster operations _)

theorem length_given (roster : Roster) (operations : List (Handle × Health))
    : (roster.given operations).length = operations.length := by
  induction operations using List.reverseRecOn with
  | nil => rfl
  | append_singleton operations operation ih => simp [given_concat, ih]

/-- Stores leave the members of a roster as they are. -/
theorem sameMembers_after (roster : Roster) (operations : List (Handle × Health))
    : roster.SameMembers (roster.after operations) := by
  induction operations using List.reverseRecOn with
  | nil => rfl
  | append_singleton operations operation ih =>
      rw [after_concat]
      exact (sameMembers_exchange _ _ _).trans ih

/-- A store among others is made in the roster that those before it leave. -/
theorem exchange_at (roster : Roster) {n : Nat} {operation : Handle × Health}
    (nth : operations[n]? = some operation)
    : (roster.given operations)[n]?
        = some ((roster.after (operations.take n)).exchange operation.1 operation.2).1
      ∧ roster.after (operations.take (n + 1))
        = ((roster.after (operations.take n)).exchange operation.1 operation.2).2 := by
  have taken : operations.take (n + 1) = operations.take n ++ [operation] := by
    rw [List.take_add_one, nth, Option.toList_some]
  have enough : (operations.take n).length = n :=
    List.length_take_of_le (Nat.le_of_lt (List.getElem?_eq_some_iff.mp nth).1)
  constructor
  · have split : roster.given operations
        = roster.given (operations.take n ++ [operation])
          ++ (roster.after (operations.take (n + 1))).given (operations.drop (n + 1)) := by
      have whole :=
        exchangeAll_append roster (operations.take (n + 1)) (operations.drop (n + 1))
      rw [List.take_append_drop] at whole
      rw [← taken]
      exact congrArg Prod.fst whole
    have last := (length_given roster (operations.take n)).trans enough
    rw [split, given_concat, List.append_assoc, List.getElem?_append_right (Nat.le_of_eq last),
      last, Nat.sub_self]
    rfl
  · rw [taken, after_concat]

/-- What was stored at a position. -/
def storedAt (roster : Roster) (operations : List (Handle × Health)) (position : Nat)
    : List Health :=
  (operations.filter fun operation => roster.position? operation.1 = some position).map Prod.snd

/-- What the stores at a position gave. -/
def givenAt (roster : Roster) (operations : List (Handle × Health)) (position : Nat)
    : List (Option Health) :=
  ((operations.zip (roster.given operations)).filter fun entry =>
    roster.position? entry.1.1 = some position).map Prod.snd

theorem storedAt_concat (operations : List (Handle × Health)) (operation : Handle × Health)
    : roster.storedAt (operations ++ [operation]) position
      = if roster.position? operation.1 = some position
        then roster.storedAt operations position ++ [operation.2]
        else roster.storedAt operations position := by
  rw [storedAt, List.filter_append, List.map_append, ← storedAt]
  by_cases here : roster.position? operation.1 = some position <;> simp [here]

theorem givenAt_concat (operations : List (Handle × Health)) (operation : Handle × Health)
    : roster.givenAt (operations ++ [operation]) position
      = if roster.position? operation.1 = some position
        then roster.givenAt operations position
          ++ [((roster.after operations).exchange operation.1 operation.2).1]
        else roster.givenAt operations position := by
  rw [givenAt, given_concat, List.zip_append (length_given roster operations).symm,
    List.filter_append, List.map_append, ← givenAt]
  by_cases here : roster.position? operation.1 = some position <;> simp [here]

/-- A store elsewhere is not seen at a position. -/
theorem exchange_healthView_of_ne (apart : roster.position? handle ≠ some position)
    (health : Health)
    : (roster.exchange handle health).2.healthView[position]? = roster.healthView[position]? := by
  cases leads : roster.position? handle with
  | none => rw [exchange_of_none leads]
  | some other =>
      obtain ⟨id, previous, -, -, view⟩ := exchange_healthView leads health
      rw [view, List.getElem?_set_ne fun equal => apart (leads.trans (congrArg some equal))]

/-- What is stored at a position is given by the next store there, or it is there in the end. -/
theorem exists_givenAt_concat {device : Device} (operations : List (Handle × Health))
    (found : roster.devices[position]? = some device)
    : ∃ last,
        (roster.after operations).healthView[position]? = some (device.id, last)
        ∧ roster.givenAt operations position ++ [some last]
          = (device.health :: roster.storedAt operations position).map some := by
  induction operations using List.reverseRecOn with
  | nil =>
      refine ⟨device.health, ?_, rfl⟩
      change roster.healthView[position]? = _
      rw [healthView, List.getElem?_map, found, Option.map_some]
  | append_singleton operations operation ih =>
      obtain ⟨last, shown, turns⟩ := ih
      have same := (sameMembers_after roster operations).position?_eq operation.1
      rw [after_concat, givenAt_concat, storedAt_concat]
      by_cases here : roster.position? operation.1 = some position
      · obtain ⟨id, previous, shown', gave, view⟩ :=
          exchange_healthView (same.trans here) operation.2
        cases shown.symm.trans shown'
        obtain ⟨bound, -⟩ := List.getElem?_eq_some_iff.mp shown
        refine ⟨operation.2, ?_, ?_⟩
        · rw [view, List.getElem?_set_self bound]
        · rw [if_pos here, if_pos here, gave, turns, ← List.cons_append, List.map_append,
            List.map_singleton]
      · refine ⟨last, ?_, ?_⟩
        · rw [exchange_healthView_of_ne (fun leads => here (same.symm.trans leads)), shown]
        · rw [if_neg here, if_neg here, turns]

/-- Stores are seen where they are made, and leave all else of a roster as it is. -/
structure Stores (roster : Roster) (operations : List (Handle × Health)) : Prop where
  ids : (roster.after operations).ids = roster.ids
  size : (roster.after operations).size = roster.size
  contains : ∀ id, (roster.after operations).contains id = roster.contains id
  identities
    : (roster.after operations).devices.map Device.identity
      = roster.devices.map Device.identity
  /-- The view shows the devices in their order. -/
  shown : (roster.after operations).healthView.map Prod.fst = roster.ids
  handles : ∀ handle, (roster.after operations).position? handle = roster.position? handle
  /-- A store gives what the view shows at its position, and changes the view there and nowhere
  else.
  -/
  made
    : ∀ n handle health position,
        operations[n]? = some (handle, health)
        → roster.position? handle = some position
        → ∃ id previous,
            (roster.after (operations.take n)).healthView[position]? = some (id, previous)
            ∧ (roster.given operations)[n]? = some (some previous)
            ∧ (roster.after (operations.take (n + 1))).healthView
              = (roster.after (operations.take n)).healthView.set position (id, health)
  lost
    : ∀ n handle health,
        operations[n]? = some (handle, health)
        → roster.position? handle = none
        → (roster.given operations)[n]? = some none
          ∧ roster.after (operations.take (n + 1)) = roster.after (operations.take n)
  /-- Each health that is stored at a position is given by the next store there, and the last one
  stays.
  -/
  turns
    : ∀ position device,
        roster.devices[position]? = some device
        → ∃ last,
            (roster.after operations).healthView[position]? = some (device.id, last)
            ∧ roster.givenAt operations position ++ [some last]
              = (device.health :: roster.storedAt operations position).map some

theorem stores (roster : Roster) (operations : List (Handle × Health))
    : roster.Stores operations := by
  have same := sameMembers_after roster operations
  constructor
  case ids => exact same.ids_eq
  case size => exact same.size_eq
  case contains => exact same.contains_eq
  case identities => exact same
  case shown => rw [map_fst_healthView, same.ids_eq]
  case handles => exact same.position?_eq
  case made =>
    intro n handle health position nth leads
    obtain ⟨gave, left⟩ := exchange_at roster nth
    rw [gave, left]
    obtain ⟨id, previous, shown, given, view⟩ :=
      exchange_healthView (((sameMembers_after roster _).position?_eq handle).trans leads) health
    exact ⟨id, previous, shown, congrArg some given, view⟩
  case lost =>
    intro n handle health nth leads
    obtain ⟨gave, left⟩ := exchange_at roster nth
    have lost := ((sameMembers_after roster (operations.take n)).position?_eq handle).trans leads
    rw [gave, left, exchange_of_none lost]
    exact ⟨rfl, rfl⟩
  case turns => exact fun position device found => exists_givenAt_concat operations found

/-- The roster of a list has the first device of each id, and stores change nothing but healths.
To store a health for an id is to store it in the device that the id leads to.
-/
theorem ofList_keepsMembers (devices : List Device) (operations : List (Handle × Health))
    : let roster := ofList devices
      let after := roster.after operations
      roster.Represents devices
      ∧ roster.Stores operations
      ∧ (∀ id, after.get? id = (after.position? (.id id)).bind (after.devices[·]?))
      ∧ ∀ device ∈ after.devices, ∀ health,
          after.exchange (.id device.id) health
          = (some device.health, after.setHealth device.id health) := by
  intro roster after
  have distinct : after.ids.Nodup :=
    (sameMembers_after roster operations).ids_eq ▸ nodup_ids_ofList devices
  refine ⟨ofList_represents devices, stores roster operations, get?_eq_bind_position? after, ?_⟩
  exact fun device member health => exchange_id distinct member

/-- A device with a taken id is no member, and a health is given back when another is stored. -/
example
    : let roster := ofList [⟨"a", 1, .healthy⟩, ⟨"b", 2, .healthy⟩, ⟨"a", 3, .unhealthy⟩]
      roster.devices.map Device.uuid = [1, 2]
      ∧ roster.given [(.id "b", .unhealthy), (.position 2, .healthy), (.position 1, .healthy)]
        = [some .healthy, none, some .unhealthy] := by
  decide

end NodeDevices.Roster
