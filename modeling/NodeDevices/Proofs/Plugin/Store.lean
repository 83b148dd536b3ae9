import NodeDevices.Proofs.Plugin.Objects

/-! Sessions beside each other in one heap. Each got addresses of its own when it began, and none
comes to those of another, whatever happens in any of them. So each is what it is by itself.
-/

namespace NodeDevices

open Session (Monitored)

/-- Sessions by their number, in a heap that they share. -/
structure Store where
  heap : Heap := {}
  services : List Service := []

namespace Store

/-- The monitored session with a number, read out of the heap. -/
def monitored? (store : Store) (number : Nat) : Option Monitored :=
  store.services[number]?.map (·.monitored store.heap)

/-- Something happens in the session with a number. -/
def work (store : Store) (number : Nat) (action : Monitored.Action) : Store :=
  match store.services[number]? with
  | none => store
  | some service =>
      let (heap, changed) := service.perform store.heap action
      { heap, services := store.services.set number changed }

/-- A new session of a roster, at the addresses that come next. -/
def newcomer (store : Store) (roster : Roster) : Service where
  snapshot := List.range' store.heap.next roster.size
  line := store.heap.next
  token := store.heap.next
  monitor := .ofRoster roster

/-- Makes room for a session of a roster: its devices, a channel without events, and a token. -/
def allot (store : Store) (roster : Roster) (stopped : Bool) : Store where
  heap := {
    device := fun address =>
      if address < store.heap.next then store.heap.device address
      else roster.devices[address - store.heap.next]?.getD (store.heap.device address)
    line := Function.update store.heap.line store.heap.next {}
    token := Function.update store.heap.token store.heap.next stopped
    next := store.heap.next + roster.size + 1
  }
  services := store.services ++ [store.newcomer roster]

/-- The sessions share nothing, what each refers to is its own, and no address is in use that is
still to be given away.
-/
structure Owned (store : Store) : Prop where
  apart : (store.services.map Service.toPlace).Pairwise Place.Apart
  below : ∀ service ∈ store.services, service.Below store.heap.next
  sound : ∀ service ∈ store.services, service.Sound store.heap

variable {store : Store} {number : Nat} {service : Service}

theorem owned_empty : Owned {} where
  apart := .nil
  below := by simp
  sound := by simp

/-- Two sessions with different numbers share nothing. -/
theorem Owned.apart_of_ne (h : store.Owned) {other : Nat} {beside : Service}
    (found : store.services[number]? = some service)
    (there : store.services[other]? = some beside) (differ : number ≠ other)
    : service.Apart beside.toPlace := by
  obtain ⟨within, rfl⟩ := List.getElem?_eq_some_iff.mp found
  obtain ⟨inside, rfl⟩ := List.getElem?_eq_some_iff.mp there
  have apart := List.pairwise_iff_getElem.mp h.apart
  simp only [List.length_map, List.getElem_map] at apart
  rcases Nat.lt_or_gt_of_ne differ with before | behind
  · exact apart number other within inside before
  · exact (apart other number inside within behind).symm

-----------------------------------------------------------------------------------------
-- What happens in a session
-----------------------------------------------------------------------------------------

theorem work_of_found (found : store.services[number]? = some service)
    (action : Monitored.Action)
    : store.work number action = {
        heap := (service.perform store.heap action).1
        services := store.services.set number (service.perform store.heap action).2
      } := by
  rw [work, found]

theorem length_work (number : Nat) (action : Monitored.Action)
    : (store.work number action).services.length = store.services.length := by
  unfold work
  split
  · rfl
  · exact List.length_set

/-- What happens in one session does not touch another. -/
theorem Owned.unmoved_perform (h : store.Owned) (found : store.services[number]? = some service)
    (action : Monitored.Action) {other : Nat} {beside : Service}
    (there : store.services[other]? = some beside) (differ : number ≠ other)
    : beside.Unmoved store.heap (service.perform store.heap action).1 := by
  have sound := h.sound service (List.mem_of_getElem? found)
  exact (Service.perform_advance sound action).confined.unmoved
    (h.apart_of_ne found there differ)

/-- Whatever happens in a session, all sessions stay where they are. -/
theorem Owned.places_set (h : store.Owned) (found : store.services[number]? = some service)
    (action : Monitored.Action)
    : (store.services.set number (service.perform store.heap action).2).map Service.toPlace
      = store.services.map Service.toPlace := by
  have advance := Service.perform_advance (h.sound service (List.mem_of_getElem? found)) action
  apply List.ext_getElem?
  intro position
  rw [List.getElem?_map, List.getElem?_map]
  by_cases same : number = position
  · obtain ⟨within, _⟩ := List.getElem?_eq_some_iff.mp found
    rw [← same, List.getElem?_set_self within, found]
    exact congrArg some advance.place
  · rw [List.getElem?_set_ne same]

/-- What happens in a session keeps the sessions apart. -/
theorem Owned.work (h : store.Owned) (number : Nat) (action : Monitored.Action)
    : (store.work number action).Owned := by
  cases found : store.services[number]? with
  | none => rwa [Store.work, found]
  | some service =>
      have advance :=
        Service.perform_advance (h.sound service (List.mem_of_getElem? found)) action
      rw [work_of_found found]
      constructor
      · rw [h.places_set found action]
        exact h.apart
      · intro other member
        have there := List.mem_map_of_mem (f := Service.toPlace) member
        rw [h.places_set found action] at there
        obtain ⟨before, among, same⟩ := List.mem_map.mp there
        dsimp only
        rw [advance.confined.next, ← same]
        exact h.below before among
      · -- the session itself keeps what is its own, and no other is touched
        intro other member
        obtain ⟨position, held⟩ := List.mem_iff_getElem?.mp member
        by_cases same : number = position
        · obtain ⟨within, _⟩ := List.getElem?_eq_some_iff.mp found
          rw [← same, List.getElem?_set_self within] at held
          cases held
          exact advance.sound
        · rw [List.getElem?_set_ne same] at held
          have sound := h.sound other (List.mem_of_getElem? held)
          exact (sound.unmoved (h.unmoved_perform found action held same)).1

/-- What happens in a session goes on there as it does in a session by itself, and not at all in
any other.
-/
theorem Owned.monitored?_work (h : store.Owned) (number : Nat) (action : Monitored.Action)
    (other : Nat)
    : (store.work number action).monitored? other
      = if other = number then (store.monitored? other).map (·.perform action)
        else store.monitored? other := by
  cases found : store.services[number]? with
  | none =>
      have stays : store.work number action = store := by rw [Store.work, found]
      rw [stays]
      split
      · next same => rw [monitored?, same, found]; rfl
      · rfl
  | some service =>
      rw [work_of_found found]
      split
      · next same =>
          have sound := h.sound service (List.mem_of_getElem? found)
          have refines := Service.perform_refines sound action
          obtain ⟨within, _⟩ := List.getElem?_eq_some_iff.mp found
          rw [monitored?, monitored?, same, found, List.getElem?_set_self within]
          exact congrArg some refines
      · next differ =>
          rw [monitored?, monitored?, List.getElem?_set_ne (Ne.symm differ)]
          cases there : store.services[other]? with
          | none => rfl
          | some beside =>
              have sound := h.sound beside (List.mem_of_getElem? there)
              have unmoved := h.unmoved_perform found action there (Ne.symm differ)
              exact congrArg some (sound.unmoved unmoved).2

-----------------------------------------------------------------------------------------
-- New sessions
-----------------------------------------------------------------------------------------

variable {roster : Roster} {stopped : Bool}

/-- The channel of a new session is empty. -/
theorem line_allot (store : Store) (roster : Roster) (stopped : Bool)
    : (store.allot roster stopped).heap.line (store.newcomer roster).line = {} :=
  Function.update_self _ _ _

theorem length_allot (store : Store) (roster : Roster) (stopped : Bool)
    : (store.allot roster stopped).services.length = store.services.length + 1 :=
  List.length_append

/-- A new session touches no other. -/
theorem unmoved_allot {place : Place} (below : place.Below store.heap.next) (roster : Roster)
    (stopped : Bool)
    : place.Unmoved store.heap (store.allot roster stopped).heap where
  device address own := if_pos (below.snapshot address own)
  line := Function.update_of_ne below.line.ne _ _
  token := Function.update_of_ne below.token.ne _ _

/-- The addresses of a new session hold its devices. -/
theorem devices_allot (store : Store) (roster : Roster) (stopped : Bool)
    : (List.range' store.heap.next roster.size).map (store.allot roster stopped).heap.device
      = roster.devices := by
  apply List.ext_getElem
  · simp [Roster.size]
  · intro position within inside
    have above : ¬ store.heap.next + position < store.heap.next :=
      Nat.not_lt.mpr (Nat.le_add_right _ _)
    simp [allot, above, List.getElem?_eq_getElem inside]

/-- Room for a session is made beside the others. -/
theorem Owned.allot (h : store.Owned) (distinct : roster.ids.Nodup) (stopped : Bool)
    : (store.allot roster stopped).Owned := by
  have more : store.heap.next < store.heap.next + roster.size + 1 := by omega
  constructor
  · rw [Store.allot, List.map_append, List.pairwise_append]
    refine ⟨h.apart, List.pairwise_singleton _ _, ?_⟩
    intro first among second last
    obtain ⟨service, member, rfl⟩ := List.mem_map.mp among
    cases List.mem_singleton.mp last
    have below := h.below service member
    refine { snapshot := ?_, line := below.line.ne, token := below.token.ne }
    intro address own there
    have above := (List.mem_range'_1.mp there).1
    exact absurd (below.snapshot address own) (Nat.not_lt.mpr above)
  · intro service member
    rcases List.mem_append.mp member with earlier | last
    · exact (h.below service earlier).mono more.le
    · cases List.mem_singleton.mp last
      refine { snapshot := ?_, line := more, token := more }
      intro address own
      exact Nat.lt_succ_of_lt (List.mem_range'_1.mp own).2
  · intro service member
    rcases List.mem_append.mp member with earlier | last
    · exact ((h.sound service earlier).unmoved (unmoved_allot (h.below service earlier) _ _)).1
    · cases List.mem_singleton.mp last
      have ids : (List.range' store.heap.next roster.size).map
            (fun address => ((store.allot roster stopped).heap.device address).id)
          = roster.ids := by
        rw [Roster.ids, ← devices_allot store roster stopped, List.map_map]
        rfl
      refine { distinct := ids ▸ distinct, unread := ?_, hands := ?_ }
      · intro notice among
        rw [line_allot] at among
        cases among
      · intro number stream event found
        cases found

/-- A new session has its devices and no event in its channel, and the others are what they were.
-/
theorem Owned.monitored?_allot (h : store.Owned) (roster : Roster) (stopped : Bool)
    (number : Nat)
    : (store.allot roster stopped).monitored? number
      = if number = store.services.length then some {
          chronicle := { session := { roster, stopped } }
          monitor := .ofRoster roster }
        else store.monitored? number := by
  have token : (store.allot roster stopped).heap.token store.heap.next = stopped :=
    Function.update_self _ _ _
  have devices := devices_allot store roster stopped
  have channel : (store.allot roster stopped).heap.channel store.heap.next = {} := by
    have line := line_allot store roster stopped
    rw [newcomer] at line
    rw [Heap.channel, line]
    rfl
  rw [monitored?]
  rcases Nat.lt_trichotomy number store.services.length with earlier | rfl | later
  · have there : (store.allot roster stopped).services[number]? = store.services[number]? :=
      List.getElem?_append_left earlier
    rw [if_neg earlier.ne, monitored?, there, List.getElem?_eq_getElem earlier]
    have member := List.getElem_mem earlier
    have unmoved := unmoved_allot (h.below _ member) roster stopped
    exact congrArg some ((h.sound _ member).unmoved unmoved).2
  · have there
        : (store.allot roster stopped).services[store.services.length]?
          = some (store.newcomer roster) :=
      List.getElem?_concat_length
    rw [if_pos rfl, there, Option.map_some, Service.monitored, Service.session, newcomer, devices,
      channel, token]
  · have beyond : (store.allot roster stopped).services[number]? = none := by
      apply List.getElem?_eq_none
      rw [length_allot]
      exact later
    rw [if_neg later.ne', beyond, monitored?, List.getElem?_eq_none later.le]
    rfl

end Store

end NodeDevices
