import Mathlib.Data.List.Nodup
import Mathlib.Logic.Function.Basic
import NodeDevices.Proofs.Session.Monitored

/-! Sessions as they lie in a heap that all of them share. A session holds its devices, its
channel and its stop token by their addresses, and an event refers to its device by the address,
not by the id. What a session is, read out of the heap, goes on as a session by itself does.
-/

namespace NodeDevices

open Health (Event Channel)

/-- An event as it lies in a channel. -/
structure Notice where
  device : Nat
  health : Health
  deriving DecidableEq

/-- A channel as it lies in the heap. -/
structure Line where
  unread : List Notice := []
  missed : Nat := 0
  closed : Bool := false
  deriving DecidableEq

/-- Sends a notice. -/
def Line.send (line : Line) (notice : Notice) : Line :=
  let unread := line.unread ++ [notice]
  if Channel.capacity < unread.length then
    { line with unread := unread.drop 1, missed := line.missed + 1 }
  else { line with unread }

/-- Devices, channels and stop tokens by address, and the least address that was never used. -/
structure Heap where
  device : Nat → Device := fun _ => { id := "", uuid := 0 }
  line : Nat → Line := fun _ => {}
  token : Nat → Bool := fun _ => false
  next : Nat := 0

namespace Heap

/-- The event that a notice stands for. -/
def event (heap : Heap) (notice : Notice) : Event :=
  ⟨(heap.device notice.device).id, notice.health⟩

/-- The channel at an address. -/
def channel (heap : Heap) (address : Nat) : Channel where
  unread := (heap.line address).unread.map heap.event
  missed := (heap.line address).missed
  closed := (heap.line address).closed

/-- Sets the health of the device at an address. -/
def setHealth (heap : Heap) (address : Nat) (health : Health) : Heap :=
  { heap with
    device := Function.update heap.device address { heap.device address with health } }

/-- Changes the channel at an address. -/
def setLine (heap : Heap) (address : Nat) (line : Line) : Heap :=
  { heap with line := Function.update heap.line address line }

/-- Sets the stop token at an address. -/
def cancel (heap : Heap) (address : Nat) : Heap :=
  { heap with token := Function.update heap.token address true }

end Heap

/-- Where the devices, the channel and the stop token of a session are. -/
structure Place where
  snapshot : List Nat
  line : Nat
  token : Nat

namespace Place

/-- Two places share nothing. -/
structure Apart (first second : Place) : Prop where
  snapshot : ∀ address ∈ first.snapshot, address ∉ second.snapshot
  line : first.line ≠ second.line
  token : first.token ≠ second.token

/-- All that is at a place is below a bound. -/
structure Below (place : Place) (bound : Nat) : Prop where
  snapshot : ∀ address ∈ place.snapshot, address < bound
  line : place.line < bound
  token : place.token < bound

/-- Nothing at the place was changed. -/
structure Unmoved (place : Place) (before after : Heap) : Prop where
  device : ∀ address ∈ place.snapshot, after.device address = before.device address
  line : after.line place.line = before.line place.line
  token : after.token place.token = before.token place.token

/-- Nothing was changed but what is at the place. -/
structure Confined (place : Place) (before after : Heap) : Prop where
  device : ∀ address, address ∉ place.snapshot → after.device address = before.device address
  line : ∀ address, address ≠ place.line → after.line address = before.line address
  token : ∀ address, address ≠ place.token → after.token address = before.token address
  next : after.next = before.next

end Place

/-- A session in the heap, with its monitor and its history. -/
structure Service extends Place where
  streams : List Session.Stream := []
  /-- The addresses of the devices that the events in the hands of feeders are about. -/
  hands : Nat → Nat := fun _ => 0
  monitor : Health.Monitor
  history : Session.History := {}

namespace Service

/-- The session, read out of the heap. -/
def session (service : Service) (heap : Heap) : Session where
  roster := ⟨service.snapshot.map heap.device⟩
  channel := heap.channel service.line
  stopped := heap.token service.token
  streams := service.streams

/-- The monitored session, read out of the heap. -/
def monitored (service : Service) (heap : Heap) : Session.Monitored where
  chronicle := { session := service.session heap, history := service.history }
  monitor := service.monitor

/-- The feeder of a stream receives what lies in the channel of the session. -/
def receive? (service : Service) (heap : Heap) (number : Nat) : Option (Heap × Service) := do
  let stream ← service.streams[number]?
  if stream.phase ≠ .reading then none
  else
    let line := heap.line service.line
    if line.missed ≠ 0 then
      return (heap.setLine service.line { line with missed := 0 }, service)
    else match line.unread with
      | notice :: rest =>
          let holding := { stream with phase := .storing (heap.event notice) }
          return (heap.setLine service.line { line with unread := rest },
            { service with
              streams := service.streams.set number holding
              hands := Function.update service.hands number notice.device })
      | [] =>
          if line.closed then
            let ended := { stream with phase := .ended }
            return (heap, { service with streams := service.streams.set number ended })
          else none

/-- The feeder of a stream stores the health of the event in its hand at the device that the event
refers to, and then reads the devices of the session for the list that it makes.
-/
def store? (service : Service) (heap : Heap) (number : Nat) : Option (Heap × Service) := do
  let stream ← service.streams[number]?
  let event ← stream.inHand?
  let after := heap.setHealth (service.hands number) event.health
  let list := (service.session after).roster.healthView
  return (after, { service with streams := service.streams.set number (stream.announce list) })

/-- An action of what works for a session, if it can happen. Only the monitor sends events. What
concerns a stream alone goes as in a session by itself.
-/
def step? (service : Service) (heap : Heap) : Session.Action → Option (Heap × Service)
  | .send _ => none
  | .closeEvents =>
      let line := heap.line service.line
      some (heap.setLine service.line { line with closed := true }, service)
  | .stop => some (heap.cancel service.token, service)
  | .receive number => service.receive? heap number
  | .store number => service.store? heap number
  | action => ((service.session heap).step? action).map fun after =>
      (heap, { service with streams := after.streams })

/-- Performs an action, if it can happen. -/
def act (service : Service) (heap : Heap) (action : Session.Action) : Heap × Service :=
  match service.step? heap action with
  | some (after, changed) =>
      (after, { changed with
        history := service.history.record (service.session heap) action })
  | none => (heap, service)

/-- The monitor of a session takes in the answer to a probe of the device at a position. -/
def probe (service : Service) (heap : Heap) (position : Nat) (answer : Bool)
    : Heap × Service :=
  match service.snapshot[position]? with
  | none => (heap, service)
  | some address =>
      let line := heap.line service.line
      if line.closed then (heap, service)
      else
        let (event, monitor) :=
          service.monitor.observe (heap.device address).id (.ofProbe answer)
        match event with
        | none => (heap, { service with monitor })
        | some event =>
            (heap.setLine service.line (line.send ⟨address, event.health⟩),
              { service with
                monitor
                history := service.history.record (service.session heap) (.send event) })

/-- Performs an action of the monitor or of what else works for a session. -/
def perform (service : Service) (heap : Heap) : Session.Monitored.Action → Heap × Service
  | .probe position answer => service.probe heap position answer
  | .act action => service.act heap action

/-- What a session refers to is its own: its ids tell its devices apart, and every event in its
channel or in the hand of a feeder is about one of them.
-/
structure Sound (service : Service) (heap : Heap) : Prop where
  distinct : (service.snapshot.map fun address => (heap.device address).id).Nodup
  unread : ∀ notice ∈ (heap.line service.line).unread, notice.device ∈ service.snapshot
  hands
    : ∀ number stream event,
        service.streams[number]? = some stream
        → stream.phase = .storing event
        → service.hands number ∈ service.snapshot
          ∧ (heap.device (service.hands number)).id = event.id

/-- What a session did: it changed only what is at its place, where it stays, and what it refers
to is still its own.
-/
structure Advance (service : Service) (heap : Heap) (reached : Heap × Service) : Prop where
  confined : service.Confined heap reached.1
  place : reached.2.toPlace = service.toPlace
  sound : reached.2.Sound reached.1

end Service

-----------------------------------------------------------------------------------------
-- The heap
-----------------------------------------------------------------------------------------

namespace Heap

variable {heap : Heap}

theorem id_setHealth (address other : Nat) (health : Health)
    : ((heap.setHealth address health).device other).id = (heap.device other).id := by
  simp only [setHealth, Function.update_apply]
  split
  · next same => rw [same]
  · rfl

/-- Storing a health changes no event. -/
theorem event_setHealth (address : Nat) (health : Health)
    : (heap.setHealth address health).event = heap.event := by
  funext notice
  rw [event, event, id_setHealth]

theorem channel_setHealth (address : Nat) (health : Health)
    : (heap.setHealth address health).channel = heap.channel := by
  funext line
  rw [channel, event_setHealth]
  rfl

theorem channel_setLine (address : Nat) (line : Line)
    : (heap.setLine address line).channel address
      = { unread := line.unread.map heap.event, missed := line.missed, closed := line.closed } := by
  simp [channel, setLine, event]

/-- A notice that is sent is the event sent. -/
theorem channel_send (address : Nat) (notice : Notice)
    : (heap.setLine address ((heap.line address).send notice)).channel address
      = (heap.channel address).send (heap.event notice) := by
  rw [channel_setLine, channel, Channel.send, Line.send]
  dsimp only
  simp only [List.length_append, List.length_map, List.length_singleton]
  split <;> simp

end Heap

/-- A channel gets nothing but what is sent. -/
theorem Line.mem_unread_send {line : Line} {sent notice : Notice}
    (among : notice ∈ (line.send sent).unread)
    : notice ∈ line.unread ∨ notice = sent := by
  have kept : notice ∈ line.unread ++ [sent] := by
    rw [send] at among
    split at among
    · exact List.mem_of_mem_drop among
    · exact among
  exact (List.mem_append.mp kept).imp_right List.mem_singleton.mp

-----------------------------------------------------------------------------------------
-- What a session does to the heap
-----------------------------------------------------------------------------------------

/-- No stream comes to an event but by receiving it. -/
theorem Session.Step.storing_before {session next : Session} {action : Session.Action}
    (step : Session.Step session action next) (deaf : ∀ number, action ≠ .receive number)
    {number : Nat} {stream : Session.Stream} {event : Event}
    (found : next.streams[number]? = some stream) (phase : stream.phase = .storing event)
    : ∃ earlier,
        session.streams[number]? = some earlier ∧ earlier.phase = .storing event := by
  -- a stream in the place of another has the same event in hand, or none
  have replaced {other : Nat} {before after : Session.Stream}
      (there : session.streams[other]? = some before)
      (held : after.phase = .storing event → before.phase = .storing event)
      (found : (session.streams.set other after)[number]? = some stream)
      : ∃ earlier,
          session.streams[number]? = some earlier ∧ earlier.phase = .storing event := by
    rw [Session.getElem?_set_of_found there] at found
    split at found
    · next same =>
        cases found
        exact ⟨before, same ▸ there, held phase⟩
    · exact ⟨stream, found, phase⟩
  cases step with
  | watch =>
      rcases Session.getElem?_append_fresh found with found | ⟨_, rfl⟩
      · exact ⟨stream, found, phase⟩
      · cases phase
  | send | closeEvents | stop => exact ⟨stream, found, phase⟩
  | lag | closed | receive => exact absurd rfl (deaf _)
  | hangUp there =>
      refine replaced there ?_ found
      intro held
      exact held
  | @read number stream there =>
      exact replaced there (fun held => stream.next_phase ▸ held) found
  | look there | begin there | beginAlone there | take there | takeStale there | store there
  | push there | pushAlone there | quit there =>
      refine replaced there (fun held => ?_) found
      cases held

namespace Place

variable {place other : Place} {heap before after : Heap}

theorem Apart.symm (h : place.Apart other) : other.Apart place where
  snapshot address own there := h.snapshot address there own
  line := h.line.symm
  token := h.token.symm

theorem Below.mono {bound more : Nat} (h : place.Below bound) (le : bound ≤ more)
    : place.Below more where
  snapshot address own := (h.snapshot address own).trans_le le
  line := h.line.trans_le le
  token := h.token.trans_le le

theorem Confined.refl : place.Confined heap heap :=
  ⟨fun _ _ => rfl, fun _ _ => rfl, fun _ _ => rfl, rfl⟩

/-- What is changed at one place does not touch another. -/
theorem Confined.unmoved (h : place.Confined before after) (apart : place.Apart other)
    : other.Unmoved before after where
  device address own := h.device address fun there => apart.snapshot address there own
  line := h.line other.line apart.line.symm
  token := h.token other.token apart.token.symm

theorem confined_setLine (line : Line) : place.Confined heap (heap.setLine place.line line) where
  device _ _ := rfl
  line _ apart := Function.update_of_ne apart _ _
  token _ _ := rfl
  next := rfl

theorem confined_cancel : place.Confined heap (heap.cancel place.token) where
  device _ _ := rfl
  line _ _ := rfl
  token _ apart := Function.update_of_ne apart _ _
  next := rfl

theorem confined_setHealth {address : Nat} (own : address ∈ place.snapshot) (health : Health)
    : place.Confined heap (heap.setHealth address health) where
  device _ apart := Function.update_of_ne (ne_of_mem_of_not_mem own apart).symm _ _
  line _ _ := rfl
  token _ _ := rfl
  next := rfl

end Place

namespace Service

variable {service : Service} {heap after : Heap}

/-- Whether what a session refers to is its own depends on the ids of its devices and on its
channel only.
-/
theorem Sound.of_alike (h : service.Sound heap)
    (ids
      : ∀ address ∈ service.snapshot,
          (after.device address).id = (heap.device address).id)
    (line : after.line service.line = heap.line service.line)
    : service.Sound after where
  distinct := (List.map_congr_left ids) ▸ h.distinct
  unread := line ▸ h.unread
  hands number stream event found phase := by
    obtain ⟨own, named⟩ := h.hands number stream event found phase
    exact ⟨own, (ids _ own).trans named⟩

/-- A session whose place is not touched keeps what it refers to, and is what it was. -/
theorem Sound.unmoved (h : service.Sound heap) (unmoved : service.Unmoved heap after)
    : service.Sound after ∧ service.monitored after = service.monitored heap := by
  refine ⟨h.of_alike (fun address own => ?_) unmoved.line, ?_⟩
  · rw [unmoved.device address own]
  · have devices : service.snapshot.map after.device = service.snapshot.map heap.device :=
      List.map_congr_left unmoved.device
    have events : (heap.line service.line).unread.map after.event
        = (heap.line service.line).unread.map heap.event := by
      apply List.map_congr_left
      intro notice among
      rw [Heap.event, Heap.event, unmoved.device _ (h.unread notice among)]
    simp only [monitored, session, Heap.channel, devices, unmoved.line, unmoved.token, events]

theorem Sound.setLine (h : service.Sound heap) {line : Line}
    (own : ∀ notice ∈ line.unread, notice.device ∈ service.snapshot)
    : service.Sound (heap.setLine service.line line) where
  distinct := h.distinct
  unread := by
    have there : (heap.setLine service.line line).line service.line = line :=
      Function.update_self _ _ _
    rwa [there]
  hands := h.hands

end Service

-----------------------------------------------------------------------------------------
-- A session by itself
-----------------------------------------------------------------------------------------

namespace Service

variable {service : Service} {heap : Heap}

/-- Storing at the address of a device is storing at its id. -/
theorem session_setHealth (distinct : (service.snapshot.map fun a => (heap.device a).id).Nodup)
    {address : Nat} (own : address ∈ service.snapshot) (health : Health)
    : service.session (heap.setHealth address health)
      = { service.session heap with
          roster := (service.session heap).roster.setHealth (heap.device address).id health } := by
  have devices : service.snapshot.map (heap.setHealth address health).device
      = (service.snapshot.map heap.device).map fun device =>
          if device.id = (heap.device address).id then { device with health } else device := by
    rw [List.map_map]
    apply List.map_congr_left
    intro other member
    simp only [Heap.setHealth, Function.update_apply, Function.comp]
    by_cases same : other = address
    · rw [if_pos same, same, if_pos rfl]
    · -- ids tell the devices of a session apart, as their addresses do
      have differs : (heap.device other).id ≠ (heap.device address).id := by
        intro alike
        exact same (List.inj_on_of_nodup_map distinct member own alike)
      rw [if_neg same, if_neg differs]
  simp only [session, devices, Heap.channel_setHealth]
  rfl

/-- What the session is when a stream is put in the place of one and the channel is another. -/
theorem session_receiving (streams : List Session.Stream) (hands : Nat → Nat) (line : Line)
    : { service with streams, hands }.session (heap.setLine service.line line)
      = { service.session heap with
          streams
          channel := {
            unread := line.unread.map heap.event
            missed := line.missed
            closed := line.closed } } := by
  rw [← Heap.channel_setLine service.line line]
  rfl

theorem receive?_refines (number : Nat)
    : (service.receive? heap number).map (fun reached => reached.2.session reached.1)
      = (service.session heap).receive? number := by
  have channel : (service.session heap).channel = heap.channel service.line := rfl
  have streams : (service.session heap).streams[number]? = service.streams[number]? := rfl
  rw [receive?, Session.receive?, streams]
  cases service.streams[number]? with
  | none => rfl
  | some stream =>
      simp only [Option.bind_eq_bind, Option.bind_some]
      by_cases reading : stream.phase = .reading
      case neg =>
        rw [if_pos reading, if_pos reading]
        rfl
      rw [if_neg (not_not.mpr reading), if_neg (not_not.mpr reading), channel]
      by_cases missed : (heap.line service.line).missed = 0
      case neg =>
        rw [if_pos missed, Health.Channel.receive_of_missed missed]
        exact congrArg some (session_receiving service.streams service.hands _)
      rw [if_neg (not_not.mpr missed)]
      cases unread : (heap.line service.line).unread with
      | nil =>
          rw [Health.Channel.receive_of_empty missed (by simp [Heap.channel, unread])]
          cases closed : (heap.line service.line).closed with
          | true =>
              have ended : (heap.channel service.line).closed = true := closed
              simp only [ended, if_true]
              rfl
          | false =>
              have goesOn : (heap.channel service.line).closed = false := closed
              simp only [goesOn, Bool.false_eq_true, if_false]
              rfl
      | cons notice rest =>
          have upcoming : (heap.channel service.line).unread
              = heap.event notice :: rest.map heap.event := by
            simp [Heap.channel, unread]
          rw [Health.Channel.receive_of_unread missed upcoming]
          exact congrArg some (session_receiving _ _ _)

theorem store?_refines (sound : service.Sound heap) (number : Nat)
    : (service.store? heap number).map (fun reached => reached.2.session reached.1)
      = (service.session heap).store? number := by
  have streams : (service.session heap).streams[number]? = service.streams[number]? := rfl
  rw [store?, Session.store?, streams]
  cases found : service.streams[number]? with
  | none => rfl
  | some stream =>
      cases held : stream.inHand? with
      | none => simp only [held, Option.bind_eq_bind, Option.bind_some]; rfl
      | some event =>
          obtain ⟨own, named⟩ :=
            sound.hands number stream event found (Session.Stream.inHand?_eq_some.mp held)
          have stored : service.session (heap.setHealth (service.hands number) event.health)
              = { service.session heap with
                  roster := (service.session heap).roster.setHealth event.id event.health } :=
            named ▸ session_setHealth sound.distinct own event.health
          simp only [held, Option.bind_eq_bind, Option.bind_some]
          refine congrArg some ?_
          calc ({ service with
                  streams := service.streams.set number (stream.announce
                    (service.session
                      (heap.setHealth (service.hands number) event.health)).roster.healthView) }
                : Service).session (heap.setHealth (service.hands number) event.health)
            _ = (service.session (heap.setHealth (service.hands number) event.health)).replace
                  number (stream.announce
                    (service.session
                      (heap.setHealth (service.hands number) event.health)).roster.healthView) :=
                rfl
            _ = _ := by
                rw [stored]
                rfl

/-- What works for a session does in the heap what it does to the session by itself. -/
theorem step?_refines (sound : service.Sound heap) {action : Session.Action}
    (silent : action.Silent)
    : (service.step? heap action).map (fun reached => reached.2.session reached.1)
      = (service.session heap).step? action := by
  have alone {action : Session.Action}
      (onStreams
        : ∀ next,
            Session.Step (service.session heap) action next
            → next = { service.session heap with streams := next.streams })
      : ((((service.session heap).step? action).map fun after =>
          (heap, { service with streams := after.streams })).map
            fun reached => reached.2.session reached.1)
        = (service.session heap).step? action := by
    cases taken : (service.session heap).step? action with
    | none => rfl
    | some next =>
        rw [Option.map_some, Option.map_some, onStreams next (.of_step? taken)]
        rfl
  cases action with
  | send event => exact absurd rfl (silent event)
  | closeEvents =>
      simp only [step?, session, Session.step?, Option.map_some, Heap.channel_setLine]
      rfl
  | stop => simp [step?, session, Session.step?, Heap.cancel, Heap.channel, Heap.event]
  | receive number => exact receive?_refines number
  | store number => exact store?_refines sound number
  | watch | hangUp | read | look | begin | take | push | quit =>
      simp only [step?]
      apply alone
      intro next step
      cases step <;> rfl

theorem advance_refl (sound : service.Sound heap) : service.Advance heap (heap, service) :=
  ⟨.refl, rfl, sound⟩

/-- The hands of feeders stay in order when a stream is put in the place of one. -/
theorem Sound.hands_set (sound : service.Sound heap) {number : Nat} {stream : Session.Stream}
    (found : service.streams[number]? = some stream) {changed : Session.Stream}
    {hands : Nat → Nat}
    (others : ∀ other, other ≠ number → hands other = service.hands other)
    (own
      : ∀ event,
          changed.phase = .storing event
          → hands number ∈ service.snapshot ∧ (heap.device (hands number)).id = event.id)
    (other : Nat) (held : Session.Stream) (event : Event)
    (there : (service.streams.set number changed)[other]? = some held)
    (phase : held.phase = .storing event)
    : hands other ∈ service.snapshot ∧ (heap.device (hands other)).id = event.id := by
  rw [Session.getElem?_set_of_found found] at there
  split at there
  · next same =>
      cases there
      exact same ▸ own event phase
  · next apart =>
      rw [others other apart]
      exact sound.hands other held event there phase

theorem receive?_advance (sound : service.Sound heap) {number : Nat} {reached : Heap × Service}
    (taken : service.receive? heap number = some reached)
    : service.Advance heap reached ∧ reached.2.monitor = service.monitor := by
  simp only [receive?, bind, Option.bind_eq_some_iff] at taken
  obtain ⟨stream, found, taken⟩ := taken
  split at taken
  · cases taken
  split at taken
  · cases taken
    refine ⟨⟨Place.confined_setLine _, rfl, sound.setLine sound.unread⟩, rfl⟩
  split at taken
  · next notice rest unread =>
      cases taken
      have own : notice.device ∈ service.snapshot :=
        sound.unread notice (unread ▸ List.mem_cons_self)
      have kept : service.Sound
          (heap.setLine service.line { heap.line service.line with unread := rest }) := by
        apply sound.setLine
        intro other among
        exact sound.unread other (unread ▸ List.mem_cons_of_mem _ among)
      refine ⟨⟨Place.confined_setLine _, rfl, { kept with hands := ?_ }⟩, rfl⟩
      apply kept.hands_set found
      · intro other apart
        exact Function.update_of_ne apart _ _
      · rintro event ⟨⟩
        dsimp only
        rw [Function.update_self]
        exact ⟨own, rfl⟩
  · split at taken
    · cases taken
      refine ⟨⟨.refl, rfl, { sound with hands := ?_ }⟩, rfl⟩
      apply sound.hands_set found fun _ _ => rfl
      intro event held
      cases held
    · cases taken

theorem store?_advance (sound : service.Sound heap) {number : Nat} {reached : Heap × Service}
    (taken : service.store? heap number = some reached)
    : service.Advance heap reached ∧ reached.2.monitor = service.monitor := by
  simp only [store?, bind, Option.bind_eq_some_iff] at taken
  obtain ⟨stream, found, event, held, taken⟩ := taken
  cases taken
  obtain ⟨own, _⟩ :=
    sound.hands number stream event found (Session.Stream.inHand?_eq_some.mp held)
  have kept : service.Sound (heap.setHealth (service.hands number) event.health) :=
    sound.of_alike (fun other _ => Heap.id_setHealth _ other _) rfl
  refine ⟨⟨Place.confined_setHealth own _, rfl, { kept with hands := ?_ }⟩, rfl⟩
  apply kept.hands_set found fun _ _ => rfl
  intro event held
  cases held

theorem step?_advance (sound : service.Sound heap) {action : Session.Action}
    {reached : Heap × Service} (taken : service.step? heap action = some reached)
    : service.Advance heap reached ∧ reached.2.monitor = service.monitor := by
  cases action with
  | send => cases taken
  | closeEvents =>
      cases taken
      exact ⟨⟨Place.confined_setLine _, rfl, sound.setLine sound.unread⟩, rfl⟩
  | stop =>
      cases taken
      exact ⟨⟨Place.confined_cancel, rfl, sound.of_alike (fun _ _ => rfl) rfl⟩, rfl⟩
  | receive => exact receive?_advance sound taken
  | store => exact store?_advance sound taken
  | watch | hangUp | read | look | begin | take | push | quit =>
      simp only [step?] at taken
      obtain ⟨next, can, rfl⟩ := Option.map_eq_some_iff.mp taken
      refine ⟨⟨.refl, rfl, { sound with hands := ?_ }⟩, rfl⟩
      intro number stream event found phase
      obtain ⟨earlier, there, held⟩ :=
        (Session.Step.of_step? can).storing_before (by simp) found phase
      exact sound.hands number earlier event there held

/-- Whatever a session does, it changes nothing but what is its own. -/
theorem perform_advance (sound : service.Sound heap) (action : Session.Monitored.Action)
    : service.Advance heap (service.perform heap action) := by
  cases action with
  | act action =>
      rw [perform, act]
      split
      · next after changed taken =>
          obtain ⟨advance, _⟩ := step?_advance sound taken
          exact {
            confined := advance.confined
            place := advance.place
            sound := { advance.sound with }
          }
      · exact advance_refl sound
  | probe position answer =>
      rw [perform, probe]
      split
      · exact advance_refl sound
      · next address found =>
          dsimp only
          split
          · exact advance_refl sound
          · split
            · exact { advance_refl sound with sound := { sound with } }
            · next event told =>
                have own : address ∈ service.snapshot := List.mem_of_getElem? found
                refine ⟨Place.confined_setLine _, rfl, { sound.setLine ?_ with }⟩
                intro notice among
                rcases Line.mem_unread_send among with earlier | rfl
                · exact sound.unread notice earlier
                · exact own

theorem act_refines (sound : service.Sound heap) {action : Session.Action}
    (silent : action.Silent)
    : (service.act heap action).2.monitored (service.act heap action).1
      = { service.monitored heap with
          chronicle := (service.monitored heap).chronicle.perform action } := by
  have refines := step?_refines sound silent
  have session : (service.monitored heap).chronicle.session = service.session heap := rfl
  rw [Session.Chronicle.perform, session, ← refines, act]
  cases taken : service.step? heap action with
  | none => rfl
  | some reached =>
      obtain ⟨_, monitor⟩ := step?_advance sound taken
      simp only [monitored, monitor, Option.map_some]
      rfl

/-- What a monitor tells of a device is what a probe said of it. -/
theorem eq_of_observe {monitor left : Health.Monitor} {id : String} {health : Health}
    {event : Event} (observed : monitor.observe id health = (some event, left))
    : event = ⟨id, health⟩ := by
  have told := congrArg Prod.fst observed
  simp only [Health.Monitor.observe] at told
  split at told
  · cases told
  · exact (Option.some.inj told).symm

theorem probe_refines (position : Nat) (answer : Bool)
    : (service.probe heap position answer).2.monitored (service.probe heap position answer).1
      = (service.monitored heap).perform (.probe position answer) := by
  have devices : (service.monitored heap).chronicle.session.roster.devices[position]?
      = service.snapshot[position]?.map heap.device :=
    List.getElem?_map
  rw [probe, Session.Monitored.perform]
  dsimp only
  rw [devices]
  cases service.snapshot[position]? with
  | none => rfl
  | some address =>
      have closed : (service.monitored heap).chronicle.session.channel.closed
          = (heap.line service.line).closed := rfl
      have monitor : (service.monitored heap).monitor = service.monitor := rfl
      dsimp only [Option.map_some]
      rw [closed, monitor]
      split
      · rfl
      · next accepted =>
          rcases observed : service.monitor.observe (heap.device address).id (.ofProbe answer)
            with ⟨event, left⟩
          cases event with
          | none => rfl
          | some event =>
              cases eq_of_observe observed
              let event : Event := ⟨(heap.device address).id, .ofProbe answer⟩
              have sent : (service.session heap).step? (.send event)
                  = some { service.session heap with
                      channel := (heap.channel service.line).send event } :=
                if_neg accepted
              have performed : (service.monitored heap).chronicle.perform (.send event)
                  = { session := { service.session heap with
                        channel := (heap.channel service.line).send event }
                      history := service.history.record (service.session heap) (.send event) } := by
                rw [Session.Chronicle.perform, monitored, sent]
              have alone
                  : ((some event).toList.map Session.Action.send).foldl Session.Chronicle.perform
                      (service.monitored heap).chronicle
                    = (service.monitored heap).chronicle.perform (.send event) :=
                rfl
              dsimp only
              rw [alone, performed, monitored, session, Heap.channel_send]
              rfl

/-- A session in the heap goes on as it does by itself. -/
theorem perform_refines (sound : service.Sound heap) (action : Session.Monitored.Action)
    : (service.perform heap action).2.monitored (service.perform heap action).1
      = (service.monitored heap).perform action := by
  cases action with
  | probe position answer => exact probe_refines position answer
  | act action =>
      by_cases silent : action.Silent
      · rw [Session.Monitored.perform_silent silent]
        exact act_refines sound silent
      · obtain ⟨event, sends⟩ := not_forall.mp silent
        rw [not_not.mp sends]
        rfl

end Service

end NodeDevices
