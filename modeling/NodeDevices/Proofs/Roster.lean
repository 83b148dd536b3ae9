import Mathlib.Data.List.Induction
import NodeDevices.Health.Monitor
import NodeDevices.Proofs.Dictionary

/-! Rosters, as they are made of a list and over time. Of devices with one id the first stays, in
its order. Storing healths one after another, as a history of events asks for, touches neither
ids nor numbers; what it leaves at an id is the health of the last event there.
-/

namespace NodeDevices.Roster

open Health (Event)

/-- The health of the device with an id. -/
def health? (roster : Roster) (id : String) : Option Health :=
  (roster.get? id).map Device.health

/-- The roster after the healths that some events bring were stored one after another. -/
def replay (roster : Roster) (events : List Event) : Roster :=
  events.foldl (fun roster event => roster.setHealth event.id event.health) roster

/-- The event brings a device of the roster another health than it has. -/
def ChangedBy (roster : Roster) (event : Event) : Prop :=
  ∃ health, roster.health? event.id = some health ∧ health ≠ event.health

/-- Each of the events brings a change when they are stored one after another. -/
def AllChange : Roster → List Event → Prop
  | _, [] => True
  | roster, event :: rest =>
      roster.ChangedBy event ∧ AllChange (roster.setHealth event.id event.health) rest

-----------------------------------------------------------------------------------------
-- Ids and views
-----------------------------------------------------------------------------------------

/-- What does not depend on the healths of devices is the same after one is stored. -/
theorem map_devices_setHealth {α : Type} {f : Device → α}
    (blind : ∀ device health, f { device with health } = f device) (roster : Roster)
    (id : String) (health : Health)
    : (roster.setHealth id health).devices.map f = roster.devices.map f := by
  rw [setHealth, List.map_map]
  apply List.map_congr_left
  intro device _
  simp only [Function.comp]
  split
  · exact blind device health
  · rfl

theorem map_devices_replay {α : Type} {f : Device → α}
    (blind : ∀ device health, f { device with health } = f device) (roster : Roster)
    (events : List Event)
    : (roster.replay events).devices.map f = roster.devices.map f := by
  induction events generalizing roster with
  | nil => rfl
  | cons event rest ih => exact (ih _).trans (map_devices_setHealth blind _ _ _)

@[simp]
theorem ids_setHealth (roster : Roster) (id : String) (health : Health)
    : (roster.setHealth id health).ids = roster.ids :=
  map_devices_setHealth (fun _ _ => rfl) roster id health

@[simp]
theorem ids_replay (roster : Roster) (events : List Event)
    : (roster.replay events).ids = roster.ids :=
  map_devices_replay (fun _ _ => rfl) roster events

@[simp]
theorem probeAll_replay (roster : Roster) (events : List Event) (answer : Int64 → Bool)
    : Health.probeAll (roster.replay events) answer = Health.probeAll roster answer :=
  map_devices_replay (fun _ _ => rfl) roster events

@[simp]
theorem map_fst_healthView (roster : Roster) : roster.healthView.map Prod.fst = roster.ids := by
  simp [healthView, ids]

theorem contains_iff {roster : Roster} {id : String}
    : roster.contains id = true ↔ id ∈ roster.ids := by
  simp [contains, ids]

@[simp]
theorem length_ids (roster : Roster) : roster.ids.length = roster.size := by
  simp [ids, size]

/-- Storing a health rewrites the view entry by entry. -/
theorem healthView_setHealth (roster : Roster) (id : String) (health : Health)
    : (roster.setHealth id health).healthView
      = roster.healthView.map (fun entry => if entry.1 = id then (id, health) else entry) := by
  simp only [healthView, setHealth, List.map_map]
  apply List.map_congr_left
  intro device _
  by_cases same : device.id = id <;> simp [same]

-----------------------------------------------------------------------------------------
-- The first devices of a list
-----------------------------------------------------------------------------------------

/-- A further device comes last in the roster, unless its id is taken. -/
theorem devices_ofList_append (devices : List Device) (device : Device)
    : (ofList (devices ++ [device])).devices
      = if device.id ∈ (ofList devices).ids then (ofList devices).devices
        else (ofList devices).devices ++ [device] := by
  simp [ofList, keepFirst, ids]

/-- The ids of a roster are those of the devices that it was made from. -/
theorem mem_ids_ofList {devices : List Device} {id : String}
    : id ∈ (ofList devices).ids ↔ id ∈ devices.map Device.id := by
  induction devices using List.reverseRecOn with
  | nil => rfl
  | append_singleton devices device ih =>
      rw [ids, devices_ofList_append, List.map_append, List.mem_append, ← ih]
      split
      · next taken =>
          refine ⟨Or.inl, ?_⟩
          rintro (known | last)
          · exact known
          · rwa [List.mem_singleton.mp last]
      · rw [List.map_append, List.mem_append, ids]

/-- The ids of a roster come in the order in which each comes first in its list. -/
theorem ids_ofList_pairwise (devices : List Device)
    : (ofList devices).ids.Pairwise fun first second =>
        (devices.map Device.id).idxOf first < (devices.map Device.id).idxOf second := by
  induction devices using List.reverseRecOn with
  | nil => exact List.Pairwise.nil
  | append_singleton devices device ih =>
      -- a further device moves no id that came before it
      have place (id : String) (member : id ∈ (ofList devices).ids)
          : ((devices ++ [device]).map Device.id).idxOf id = (devices.map Device.id).idxOf id := by
        rw [List.map_append, List.idxOf_append, if_pos (mem_ids_ofList.mp member)]
      have kept
          : (ofList devices).ids.Pairwise fun first second =>
              ((devices ++ [device]).map Device.id).idxOf first
                < ((devices ++ [device]).map Device.id).idxOf second := by
        refine ih.imp_of_mem fun first second order => ?_
        rwa [place _ first, place _ second]
      rw [ids, devices_ofList_append]
      split
      · exact kept
      · next fresh =>
          have extended
              : ((ofList devices).devices ++ [device]).map Device.id
                = (ofList devices).ids ++ [device.id] :=
            List.map_append
          rw [extended, List.pairwise_append]
          refine ⟨kept, List.pairwise_singleton _ _, ?_⟩
          intro id member other last
          have known := mem_ids_ofList.mp member
          rw [List.mem_singleton.mp last, place id member, List.map_append, List.idxOf_append,
            if_neg (mt mem_ids_ofList.mpr fresh)]
          exact Nat.lt_add_left _ (List.idxOf_lt_length_of_mem known)

theorem nodup_ids_ofList (devices : List Device) : (ofList devices).ids.Nodup :=
  (ids_ofList_pairwise devices).imp fun order same => by simp [same] at order

/-- Of the devices with one id a roster has the first one of its list. -/
theorem get?_ofList (devices : List Device) (id : String)
    : (ofList devices).get? id = devices.find? (·.id = id) := by
  induction devices using List.reverseRecOn with
  | nil => rfl
  | append_singleton devices device ih =>
      rw [get?, devices_ofList_append, List.find?_append, ← ih]
      split
      · next taken =>
          by_cases same : device.id = id
          · obtain ⟨first, member, found⟩ := List.mem_map.mp taken
            have some : ((ofList devices).get? id).isSome := by
              rw [get?, List.find?_isSome]
              exact ⟨first, member, by simp [found, same]⟩
            rw [Option.or_of_isSome some, get?]
          · simp [same, get?]
      · rw [List.find?_append, get?]

-----------------------------------------------------------------------------------------
-- Health at an id
-----------------------------------------------------------------------------------------

/-- Storing a health is seen at its own id, if there is such a device, and nowhere else. -/
theorem health?_setHealth (roster : Roster) (id other : String) (health : Health)
    : (roster.setHealth id health).health? other
      = if other = id then (roster.health? other).map (fun _ => health)
        else roster.health? other := by
  simp only [health?, get?, setHealth, List.find?_map, Option.map_map]
  have found : roster.devices.find?
        ((fun device => decide (device.id = other))
          ∘ fun device => if device.id = id then { device with health } else device)
      = roster.devices.find? (fun device => decide (device.id = other)) := by
    congr 1
    funext device
    simp only [Function.comp]
    split <;> rfl
  rw [found]
  by_cases same : other = id
  · subst other
    simp only [if_pos]
    apply Option.map_congr
    intro device member
    have known := List.find?_some member
    simp only [decide_eq_true_eq] at known
    simp [known]
  · simp only [if_neg same]
    apply Option.map_congr
    intro device member
    have known := List.find?_some member
    simp only [decide_eq_true_eq] at known
    simp [known, same]

/-- Of distinct ids, each leads to its own device. -/
theorem get?_of_mem {roster : Roster} (distinct : roster.ids.Nodup) {device : Device}
    (member : device ∈ roster.devices)
    : roster.get? device.id = some device := by
  obtain ⟨before, after, split⟩ := List.append_of_mem member
  have absent : ∀ other ∈ before, other.id ≠ device.id := by
    intro other earlier same
    rw [ids, split, List.map_append, List.nodup_append] at distinct
    exact distinct.2.2 other.id (List.mem_map_of_mem earlier) device.id (by simp) same
  have none : before.find? (fun other => decide (other.id = device.id)) = none := by
    simpa using absent
  simp [get?, split, none]

/-- The devices of a roster are among those of its list. -/
theorem mem_of_mem_ofList {devices : List Device} {device : Device}
    (member : device ∈ (ofList devices).devices)
    : device ∈ devices := by
  have first := get?_of_mem (nodup_ids_ofList devices) member
  rw [get?_ofList] at first
  exact List.mem_of_find?_eq_some first

/-- Of distinct ids, each has the health of its own device. -/
theorem health?_of_mem {roster : Roster} (distinct : roster.ids.Nodup) {device : Device}
    (member : device ∈ roster.devices)
    : roster.health? device.id = some device.health := by
  rw [health?, get?_of_mem distinct member]
  rfl

/-- An id with a health is the id of a device, and conversely. -/
theorem health?_isSome_iff {roster : Roster} {id : String}
    : (roster.health? id).isSome ↔ id ∈ roster.ids := by
  simp [health?, get?, ids]

/-- A health is what the view shows. -/
theorem health?_eq_lookup (roster : Roster) (id : String)
    : roster.health? id = roster.healthView.lookup id := by
  rw [health?, get?, healthView]
  induction roster.devices with
  | nil => rfl
  | cons device rest ih =>
      rw [List.map_cons, Dictionary.lookup_cons_eq_ite, List.find?_cons]
      by_cases same : device.id = id
      · simp [same]
      · simp only [same, decide_false, if_neg (Ne.symm same)]
        exact ih

-----------------------------------------------------------------------------------------
-- Replays
-----------------------------------------------------------------------------------------

@[simp]
theorem replay_nil (roster : Roster) : roster.replay [] = roster :=
  rfl

@[simp]
theorem replay_append (roster : Roster) (first second : List Event)
    : roster.replay (first ++ second) = (roster.replay first).replay second :=
  List.foldl_append

@[simp]
theorem replay_cons (roster : Roster) (event : Event) (rest : List Event)
    : roster.replay (event :: rest) = (roster.setHealth event.id event.health).replay rest :=
  rfl

/-- A change at the end of a history is a change of what the history comes to. -/
theorem allChange_append {roster : Roster} {first second : List Event}
    : roster.AllChange (first ++ second)
      ↔ roster.AllChange first ∧ (roster.replay first).AllChange second := by
  induction first generalizing roster with
  | nil => simp [AllChange]
  | cons event rest ih => simp [AllChange, ih, and_assoc]

/-- Storing a change is seen at exactly the device that it is about. -/
theorem ChangedBy.setHealth {roster : Roster} {event : Event} (h : roster.ChangedBy event)
    (id : String)
    : (roster.setHealth event.id event.health).health? id
      = if id = event.id then some event.health else roster.health? id := by
  obtain ⟨health, known, _⟩ := h
  rw [health?_setHealth]
  split
  · next same => simp [same, known]
  · rfl

/-- A change changes the view. -/
theorem ChangedBy.healthView_ne {roster : Roster} {event : Event} (h : roster.ChangedBy event)
    : (roster.setHealth event.id event.health).healthView ≠ roster.healthView := by
  intro same
  have shown := h.setHealth event.id
  rw [if_pos rfl, health?_eq_lookup, same, ← health?_eq_lookup] at shown
  obtain ⟨health, known, other⟩ := h
  exact other (Option.some.inj (known.symm.trans shown))

end NodeDevices.Roster
