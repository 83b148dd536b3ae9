import NodeDevices.Proofs.Inventory.Probing
import NodeDevices.Proofs.Session.Advertised

/-! Sessions whose devices are probed through a client, with a transcript of what the client was
told, which events were sent and which lists were pushed. A device is shown unhealthy only if a
reply of the inventory said so before.
-/

namespace NodeDevices

open Health (Event)
open Inventory (Client Denies)

-----------------------------------------------------------------------------------------
-- What a session shows
-----------------------------------------------------------------------------------------

namespace Session

/-- The list shows devices as unhealthy only where that is backed. -/
def View.BackedBy (backing : String → Prop) (list : View) : Prop :=
  ∀ id, (id, .unhealthy) ∈ list → backing id

/-- The event brings bad health only where that is backed. -/
def EventBackedBy (backing : String → Prop) (event : Event) : Prop :=
  event.health = .unhealthy → backing event.id

/-- What a feeder has seen, holds or is about to push is backed. -/
def Phase.BackedBy (backing : String → Prop) : Phase → Prop
  | .opening seen => View.BackedBy backing seen
  | .storing event => EventBackedBy backing event
  | .pushing list => View.BackedBy backing list
  | .waiting | .reading | .ended => True

/-- All that a session shows, or may come to show, is backed. -/
structure BackedBy (backing : String → Prop) (session : Session) : Prop where
  roster : View.BackedBy backing session.roster.healthView
  unread : ∀ event ∈ session.channel.unread, EventBackedBy backing event
  streams : ∀ stream ∈ session.streams, stream.phase.BackedBy backing

variable {backing : String → Prop} {session next : Session}

theorem View.BackedBy.setHealth {roster : Roster} (h : BackedBy backing roster.healthView)
    {event : Event} (backed : EventBackedBy backing event)
    : BackedBy backing (roster.setHealth event.id event.health).healthView := by
  intro id shown
  rw [Roster.healthView_setHealth] at shown
  obtain ⟨entry, member, same⟩ := List.mem_map.mp shown
  split at same
  · obtain ⟨rfl, ill⟩ := Prod.mk.inj same
    exact backed ill
  · exact h id (same ▸ member)

/-- Evidence never goes away. -/
theorem BackedBy.mono {more : String → Prop} (weaker : ∀ id, backing id → more id)
    (h : session.BackedBy backing)
    : session.BackedBy more := by
  refine { roster := ?_, unread := ?_, streams := ?_ }
  · exact fun id shown => weaker id (h.roster id shown)
  · exact fun event member ill => weaker event.id (h.unread event member ill)
  · intro stream member
    have backed := h.streams stream member
    cases phase : stream.phase with
    | opening seen =>
        rw [phase] at backed
        exact fun id shown => weaker id (backed id shown)
    | storing event =>
        rw [phase] at backed
        exact fun ill => weaker event.id (backed ill)
    | pushing list =>
        rw [phase] at backed
        exact fun id shown => weaker id (backed id shown)
    | waiting | reading | ended => trivial

theorem BackedBy.replace (h : session.BackedBy backing) {number : Nat} {changed : Stream}
    (backed : changed.phase.BackedBy backing)
    : (session.replace number changed).BackedBy backing := by
  refine { roster := h.roster, unread := h.unread, streams := ?_ }
  intro stream member
  rcases List.mem_or_eq_of_mem_set member with member | rfl
  · exact h.streams stream member
  · exact backed

/-- Everything shown after a step was shown before it, or comes from the event that was sent. -/
theorem BackedBy.step (h : session.BackedBy backing) {action : Action}
    (can : Step session action next)
    (sent : ∀ event, action = .send event → EventBackedBy backing event)
    : next.BackedBy backing := by
  have mine {number : Nat} {stream : Stream} (found : session.streams[number]? = some stream) :=
    h.streams stream (List.mem_of_getElem? found)
  cases can with
  | watch =>
      refine { h with streams := ?_ }
      intro stream member
      rcases List.mem_append.mp member with member | fresh
      · exact h.streams stream member
      · obtain rfl := List.mem_singleton.mp fresh
        exact fun id shown => absurd shown List.not_mem_nil
  | hangUp found =>
      have backed := mine found
      exact h.replace backed
  | read found =>
      have backed := mine found
      rw [← Stream.next_phase] at backed
      exact h.replace backed
  | @send event accepted =>
      refine { h with unread := ?_ }
      intro other member
      have among : other ∈ session.channel.unread ++ [event] := by
        rw [Health.Channel.send] at member
        split at member
        · exact List.mem_of_mem_drop member
        · exact member
      rcases List.mem_append.mp among with earlier | last
      · exact h.unread other earlier
      · obtain rfl := List.mem_singleton.mp last
        exact sent other rfl
  | closeEvents => exact { h with }
  | stop => exact { h with }
  | look found phase upcoming =>
      have backed := mine found
      rw [phase] at backed
      apply h.replace
      intro id shown
      rcases List.mem_append.mp shown with earlier | last
      · exact backed id earlier
      · obtain rfl := List.mem_singleton.mp last
        exact h.roster id (List.mem_of_getElem? upcoming)
  | begin => exact h.replace trivial
  | beginAlone => exact h.replace trivial
  | take => exact h.replace trivial
  | takeStale => exact h.replace h.roster
  | lag => exact { h with }
  | closed => exact h.replace trivial
  | @receive number stream event rest found phase missed upcoming =>
      have backed := h.unread event (upcoming ▸ List.mem_cons_self)
      have after : (session.replace number { stream with phase := .storing event }).BackedBy
          backing := h.replace backed
      refine { after with unread := ?_ }
      intro other member
      exact h.unread other (upcoming ▸ List.mem_cons_of_mem event member)
  | @store number stream event found phase =>
      have backed := mine found
      rw [phase] at backed
      have list := View.BackedBy.setHealth h.roster backed
      have after : (session.replace number
          (stream.announce (session.roster.setHealth event.id event.health).healthView)).BackedBy
            backing := h.replace list
      exact { after with roster := list }
  | push => exact h.replace trivial
  | pushAlone => exact h.replace trivial
  | quit => exact h.replace trivial

/-- The lists that an action pushes are backed. -/
theorem BackedBy.pushed (h : session.BackedBy backing) (history : History) (action : Action)
    : ∃ new, (history.record session action).pushed = history.pushed ++ new
      ∧ ∀ entry ∈ new, View.BackedBy backing entry.2 := by
  have outgoing (number : Nat)
      : ∀ entry ∈ (session.streams[number]?.bind Stream.outgoing?).toList.map (number, ·),
          View.BackedBy backing entry.2 := by
    intro entry member
    obtain ⟨list, held, rfl⟩ := List.mem_map.mp member
    obtain ⟨stream, found, out⟩ := Option.bind_eq_some_iff.mp (Option.mem_toList.mp held)
    have backed := h.streams stream (List.mem_of_getElem? found)
    unfold Stream.outgoing? at out
    split at out
    · cases phase : stream.phase with
      | opening seen =>
          rw [phase] at out backed
          exact Option.some.inj out ▸ backed
      | pushing list =>
          rw [phase] at out backed
          exact Option.some.inj out ▸ backed
      | waiting | reading | storing | ended =>
          rw [phase] at out
          cases out
    · cases out
  cases action with
  | begin number | push number => exact ⟨_, rfl, outgoing number⟩
  | _ => exact ⟨[], (List.append_nil _).symm, by simp⟩

/-- What a chronicle shows stays backed, and what is pushed on the way is backed too. -/
theorem BackedBy.perform {chronicle : Chronicle} (h : chronicle.session.BackedBy backing)
    (action : Action) (sent : ∀ event, action = .send event → EventBackedBy backing event)
    : (chronicle.perform action).session.BackedBy backing
      ∧ ∃ new, (chronicle.perform action).history.pushed = chronicle.history.pushed ++ new
        ∧ ∀ entry ∈ new, View.BackedBy backing entry.2 := by
  unfold Chronicle.perform
  split
  · next can => exact ⟨h.step (.of_step? can) sent, h.pushed chronicle.history action⟩
  · exact ⟨h, [], (List.append_nil _).symm, by simp⟩

-----------------------------------------------------------------------------------------
-- Transcripts
-----------------------------------------------------------------------------------------

/-- What is put on record of a session. -/
inductive Probed.Entry where
  /-- A device was asked for by its number, and this came of it. -/
  | asked (uuid : Int64) (reply : Http.Reply)
  | sent (event : Event)
  | pushed (number : Nat) (list : View)

/-- The event that was sent, if the entry is about one. -/
def Probed.Entry.sent? : Probed.Entry → Option Event
  | .sent event => some event
  | _ => none

/-- The list that was pushed and the number of its stream, if the entry is about one. -/
def Probed.Entry.pushed? : Probed.Entry → Option (Nat × View)
  | .pushed number list => some (number, list)
  | _ => none

/-- A monitored session whose devices are probed through a client, with a transcript. -/
structure Probed where
  monitored : Monitored
  transcript : List Probed.Entry := []

namespace Probed

/-- Something that happens in a probed session. -/
inductive Action where
  /-- The device at a position is probed over a network. -/
  | probe (position : Nat) (transport : Http.Transport)
  /-- Something else happens. -/
  | act (action : Session.Action)

/-- Goes on with an action, after what is on record about it already, and puts on record what it
adds to the history.
-/
def goesOn (probed : Probed) (asked : List Entry) (action : Monitored.Action) : Probed :=
  let history := probed.monitored.chronicle.history
  let monitored := probed.monitored.perform action
  let sent := monitored.chronicle.history.sent.drop history.sent.length
  let pushed := monitored.chronicle.history.pushed.drop history.pushed.length
  { monitored
    transcript := probed.transcript ++ asked ++ sent.map .sent
      ++ pushed.map fun entry => .pushed entry.1 entry.2 }

/-- Performs an action, if it can happen. A probe says what the client makes of the reply. -/
def perform (client : Client) (probed : Probed) : Action → Probed
  | .probe position transport =>
      match probed.monitored.chronicle.session.roster.devices[position]? with
      | some device =>
          probed.goesOn [.asked device.uuid (client.probing transport device.uuid)]
            (.probe position (client.probe transport device.uuid))
      | none => probed
  | .act action => probed.goesOn [] (.act action)

/-- A probed session of a roster from its beginning, after the actions that could happen. -/
def run (client : Client) (roster : Roster) (actions : List Action) : Probed :=
  actions.foldl (perform client) { monitored := Monitored.run roster [] }

/-- Some reply in a transcript denied that the device of the roster with an id is healthy. -/
def Denied (roster : Roster) (transcript : List Entry) (id : String) : Prop :=
  ∃ device ∈ roster.devices,
    device.id = id ∧ ∃ reply, .asked device.uuid reply ∈ transcript ∧ Denies reply

/-- An entry says of no device that it is unhealthy but on the evidence before it. Bad news is
sent right after the reply that it comes from.
-/
def Justified (roster : Roster) (before : List Entry) : Entry → Prop
  | .asked _ _ => True
  | .sent event =>
      event.health = .unhealthy
      → ∃ earlier device reply,
          before = earlier ++ [.asked device.uuid reply]
          ∧ device ∈ roster.devices
          ∧ device.id = event.id
          ∧ Denies reply
  | .pushed _ list => View.BackedBy (Denied roster before) list

/-- Every entry is justified by those before it. -/
def Verified (roster : Roster) (transcript : List Entry) : Prop :=
  ∀ before entry after, transcript = before ++ entry :: after → Justified roster before entry

variable {roster : Roster} {probed : Probed} {transcript more : List Entry}

theorem Denied.append {id : String} (h : Denied roster transcript id)
    : Denied roster (transcript ++ more) id := by
  obtain ⟨device, member, named, reply, asked, denies⟩ := h
  exact ⟨device, member, named, reply, List.mem_append_left more asked, denies⟩

/-- A verified transcript goes on with entries that are justified by it and by those before. -/
theorem Verified.append (h : Verified roster transcript)
    (justified
      : ∀ before entry after,
          more = before ++ entry :: after → Justified roster (transcript ++ before) entry)
    : Verified roster (transcript ++ more) := by
  intro before entry after split
  rcases List.append_eq_append_iff.mp split
    with ⟨between, rfl, later⟩ | ⟨between, earlier, rest⟩
  · exact justified between entry after later
  · cases between with
    | nil =>
        rw [List.append_nil] at earlier
        have here := justified [] entry after rest.symm
        rwa [List.append_nil, earlier] at here
    | cons first between =>
        obtain ⟨rfl, rfl⟩ := List.cons.inj rest
        exact h before entry between earlier

/-- The transcript has all events that were sent and all lists that were pushed. -/
structure Complete (probed : Probed) : Prop where
  sent : probed.transcript.filterMap Entry.sent? = probed.monitored.chronicle.history.sent
  pushed : probed.transcript.filterMap Entry.pushed? = probed.monitored.chronicle.history.pushed

/-- All that a probed session shows is on record as denied, and so was all that it has pushed. -/
structure Evident (roster : Roster) (probed : Probed) : Prop where
  session
    : probed.monitored.chronicle.session.BackedBy (Denied roster probed.transcript)
  verified : Verified roster probed.transcript
  complete : probed.Complete

theorem transcript_goesOn (asked : List Entry) (action : Monitored.Action)
    (sent : List Event) (pushed : List (Nat × View))
    (sends
      : (probed.monitored.perform action).chronicle.history.sent
        = probed.monitored.chronicle.history.sent ++ sent)
    (pushes
      : (probed.monitored.perform action).chronicle.history.pushed
        = probed.monitored.chronicle.history.pushed ++ pushed)
    : (probed.goesOn asked action).transcript
      = probed.transcript ++ asked ++ sent.map .sent
        ++ pushed.map fun entry => .pushed entry.1 entry.2 := by
  simp only [goesOn, sends, pushes, List.drop_left]

theorem Complete.goesOn (h : probed.Complete) {asked : List Entry} (action : Monitored.Action)
    (noEvents : asked.filterMap Entry.sent? = []) (noLists : asked.filterMap Entry.pushed? = [])
    {sent : List Event} {pushed : List (Nat × View)}
    (sends
      : (probed.monitored.perform action).chronicle.history.sent
        = probed.monitored.chronicle.history.sent ++ sent)
    (pushes
      : (probed.monitored.perform action).chronicle.history.pushed
        = probed.monitored.chronicle.history.pushed ++ pushed)
    : (probed.goesOn asked action).Complete := by
  have transcript := transcript_goesOn asked action sent pushed sends pushes
  have sentOfSent : Entry.sent? ∘ Entry.sent = some := rfl
  have sentOfPushed : (Entry.sent? ∘ fun entry : Nat × View => Entry.pushed entry.1 entry.2)
      = fun _ => none := rfl
  have pushedOfSent : Entry.pushed? ∘ Entry.sent = fun _ => none := rfl
  have pushedOfPushed : (Entry.pushed? ∘ fun entry : Nat × View => Entry.pushed entry.1 entry.2)
      = some := rfl
  constructor
  · rw [transcript]
    simp only [List.filterMap_append, List.filterMap_map, h.sent, noEvents, sentOfSent,
      sentOfPushed, List.filterMap_some, List.filterMap_none, List.append_nil]
    exact sends.symm
  · rw [transcript]
    simp only [List.filterMap_append, List.filterMap_map, h.pushed, noLists, pushedOfSent,
      pushedOfPushed, List.filterMap_some, List.filterMap_none, List.append_nil]
    exact pushes.symm

/-- What streams do needs no new evidence. -/
theorem Evident.act (h : probed.Evident roster) (action : Session.Action)
    : (probed.goesOn [] (.act action)).Evident roster := by
  by_cases silent : action.Silent
  · have performed := Monitored.perform_silent silent probed.monitored
    obtain ⟨session, pushed, pushes, backed⟩ :=
      h.session.perform action fun event sends => absurd sends (silent event)
    rw [← congrArg (·.chronicle.history.pushed) performed] at pushes
    have sends : (probed.monitored.perform (.act action)).chronicle.history.sent
        = probed.monitored.chronicle.history.sent ++ [] := by
      rw [performed, List.append_nil]
      exact Monitored.sent_perform silent
    have transcript := transcript_goesOn [] (.act action) [] pushed sends pushes
    simp only [List.append_nil, List.map_nil] at transcript
    refine { session := ?_, verified := ?_, complete := ?_ }
    · rw [transcript, goesOn, performed]
      exact session.mono fun id => Denied.append
    · rw [transcript]
      apply h.verified.append
      intro before entry after split
      have member : entry ∈ pushed.map fun entry => Entry.pushed entry.1 entry.2 := by
        rw [split]
        exact List.mem_append_right before List.mem_cons_self
      obtain ⟨list, among, rfl⟩ := List.mem_map.mp member
      exact fun id shown => (backed list among id shown).append
    · exact h.complete.goesOn (.act action) rfl rfl sends pushes
  · obtain ⟨event, sends⟩ := not_forall.mp silent
    obtain rfl := not_not.mp sends
    have stays : probed.goesOn [] (.act (.send event)) = probed := by
      simp [goesOn, Monitored.perform]
    rwa [stays]

/-- A probe sends at most one event, which brings what it says of its device. -/
theorem exists_sent_probe (monitored : Monitored) {position : Nat} {device : Device}
    (found : monitored.chronicle.session.roster.devices[position]? = some device)
    (answer : Bool)
    : let after := (monitored.perform (.probe position answer)).chronicle
      let event : Event := ⟨device.id, .ofProbe answer⟩
      after.history.pushed = monitored.chronicle.history.pushed
      ∧ ((after.session = monitored.chronicle.session
          ∧ after.history.sent = monitored.chronicle.history.sent)
        ∨ (after = monitored.chronicle.perform (.send event)
          ∧ after.history.sent = monitored.chronicle.history.sent ++ [event])) := by
  intro after event
  by_cases closed : monitored.chronicle.session.channel.closed = true
  · have stays : after = monitored.chronicle := by
      simp [after, Monitored.perform, found, closed]
    rw [stays]
    exact ⟨rfl, Or.inl ⟨rfl, rfl⟩⟩
  · have accepted := Bool.eq_false_iff.mpr closed
    have performed : after = ((monitored.monitor.observe device.id (.ofProbe answer)).1.toList.map
        Session.Action.send).foldl Chronicle.perform monitored.chronicle := by
      simp [after, Monitored.perform, found, accepted]
    rw [Health.Monitor.observe] at performed
    dsimp only at performed
    split at performed
    · have stays : after = monitored.chronicle := performed
      rw [stays]
      exact ⟨rfl, Or.inl ⟨rfl, rfl⟩⟩
    · have sent : after = monitored.chronicle.perform (.send event) := performed
      have recorded : (monitored.chronicle.perform (.send event)).history.pushed
            = monitored.chronicle.history.pushed
          ∧ (monitored.chronicle.perform (.send event)).history.sent
            = monitored.chronicle.history.sent ++ [event] := by
        simp [Chronicle.perform, step?, accepted, History.record, Health.Channel.Traffic.send]
      rw [sent]
      exact ⟨recorded.1, Or.inr ⟨rfl, recorded.2⟩⟩

/-- Bad news from a probe comes with the reply that denies. -/
theorem Evident.probe (h : probed.Evident roster) (client : Client) (transport : Http.Transport)
    {position : Nat} {device : Device}
    (found : probed.monitored.chronicle.session.roster.devices[position]? = some device)
    (known
      : ∃ original ∈ roster.devices, original.id = device.id ∧ original.uuid = device.uuid)
    : (probed.goesOn [.asked device.uuid (client.probing transport device.uuid)]
        (.probe position (client.probe transport device.uuid))).Evident roster := by
  obtain ⟨original, member, sameId, sameUuid⟩ := known
  let asked : Entry := .asked device.uuid (client.probing transport device.uuid)
  let event : Event := ⟨device.id, .ofProbe (client.probe transport device.uuid)⟩
  have denies (ill : event.health = .unhealthy)
      : Denies (client.probing transport device.uuid) := by
    rw [← client.probe_eq_false_iff]
    cases answer : client.probe transport device.uuid with
    | false => rfl
    | true => simp [event, Health.ofProbe, answer] at ill
  have denied (ill : event.health = .unhealthy)
      : Denied roster (probed.transcript ++ [asked]) event.id := by
    refine ⟨original, member, sameId, client.probing transport device.uuid, ?_, denies ill⟩
    rw [sameUuid]
    exact List.mem_append_right _ List.mem_cons_self
  have remembers : probed.monitored.chronicle.session.BackedBy
      (Denied roster (probed.transcript ++ [asked])) :=
    h.session.mono fun _ => Denied.append
  have afterAsking : Verified roster (probed.transcript ++ [asked]) := by
    apply h.verified.append
    intro before entry after split
    have only : entry ∈ [asked] := by
      rw [split]
      exact List.mem_append_right before List.mem_cons_self
    obtain rfl := List.mem_singleton.mp only
    trivial
  obtain ⟨pushes, ⟨same, sends⟩ | ⟨performed, sends⟩⟩ :=
    exists_sent_probe probed.monitored found (client.probe transport device.uuid)
  · have sends := sends.trans (List.append_nil _).symm
    have pushes := pushes.trans (List.append_nil _).symm
    have transcript := transcript_goesOn [asked] _ [] [] sends pushes
    simp only [List.map_nil, List.append_nil] at transcript
    refine { session := ?_, verified := ?_, complete := ?_ }
    · rw [transcript, goesOn, same]
      exact remembers
    · rw [transcript]
      exact afterAsking
    · exact h.complete.goesOn _ rfl rfl sends pushes
  · have pushes := pushes.trans (List.append_nil _).symm
    have transcript := transcript_goesOn [asked] _ [event] [] sends pushes
    simp only [List.map_nil, List.map_cons, List.append_nil] at transcript
    refine { session := ?_, verified := ?_, complete := ?_ }
    · rw [transcript, goesOn, performed]
      have backed := (remembers.perform (.send event) (by rintro _ ⟨⟩; exact denied)).1
      exact backed.mono fun id => Denied.append
    · rw [transcript]
      apply afterAsking.append
      intro before entry after split
      obtain ⟨rfl, rfl⟩ : before = [] ∧ entry = .sent event := by
        cases before with
        | nil => exact ⟨rfl, (List.cons.inj split).1.symm⟩
        | cons first before => simp at split
      intro ill
      refine ⟨probed.transcript, original, client.probing transport device.uuid, ?_, member,
        sameId, denies ill⟩
      rw [List.append_nil, sameUuid]
    · exact h.complete.goesOn _ rfl rfl sends pushes

/-- A probed session is monitored like any other. -/
theorem exists_run (client : Client) (roster : Roster) (actions : List Action)
    : ∃ taken, (run client roster actions).monitored = Monitored.run roster taken := by
  induction actions using List.reverseRecOn with
  | nil => exact ⟨[], rfl⟩
  | append_singleton actions action ih =>
      obtain ⟨taken, followed⟩ := ih
      rw [run, List.foldl_append, List.foldl_cons, List.foldl_nil, ← run]
      cases action with
      | act action =>
          refine ⟨taken ++ [.act action], ?_⟩
          rw [Monitored.run_append, ← followed]
          rfl
      | probe position transport =>
          rw [perform]
          split
          · next device found =>
              refine ⟨taken ++ [.probe position (client.probe transport device.uuid)], ?_⟩
              rw [Monitored.run_append, ← followed]
              rfl
          · exact ⟨taken, followed⟩

/-- The devices that are probed are those of the roster, whatever their health. -/
theorem exists_original (client : Client) (actions : List Action) {position : Nat}
    {device : Device}
    (found
      : (run client roster actions).monitored.chronicle.session.roster.devices[position]?
        = some device)
    : ∃ original ∈ roster.devices, original.id = device.id ∧ original.uuid = device.uuid := by
  obtain ⟨taken, followed⟩ := exists_run client roster actions
  obtain ⟨performed, alike⟩ := Monitored.exists_run roster taken
  have replayed := (Chronicle.run_truthful roster performed).replayed
  rw [← alike, ← followed] at replayed
  have same := Roster.map_devices_replay (f := fun device => (device.id, device.uuid))
    (fun _ _ => rfl) roster
    (run client roster actions).monitored.chronicle.history.stored
  have member := List.mem_map_of_mem (f := fun device => (device.id, device.uuid))
    (List.mem_of_getElem? found)
  rw [replayed, same] at member
  obtain ⟨original, among, alike⟩ := List.mem_map.mp member
  obtain ⟨sameId, sameUuid⟩ := Prod.mk.inj alike
  exact ⟨original, among, sameId, sameUuid⟩

/-- In every probed session of healthy devices, what is shown and pushed is evident. -/
theorem run_evident (client : Client)
    (healthy : ∀ device ∈ roster.devices, device.health = .healthy) (actions : List Action)
    : (run client roster actions).Evident roster := by
  induction actions using List.reverseRecOn with
  | nil =>
      refine { session := ⟨?_, ?_, ?_⟩, verified := ?_, complete := ⟨rfl, rfl⟩ }
      · intro id shown
        obtain ⟨device, member, same⟩ := List.mem_map.mp shown
        have ill := (Prod.mk.inj same).2
        rw [healthy device member] at ill
        cases ill
      · exact fun event member => absurd member List.not_mem_nil
      · exact fun stream member => absurd member List.not_mem_nil
      · intro before entry after split
        simp [run] at split
  | append_singleton actions action ih =>
      rw [run, List.foldl_append, List.foldl_cons, List.foldl_nil, ← run]
      cases action with
      | act action => exact ih.act action
      | probe position transport =>
          rw [perform]
          split
          · next device found =>
              exact ih.probe client transport found (exists_original client actions found)
          · exact ih

/-- A session whose devices were listed by a client begins with the monitor of those devices. From
then on every event and every list that says of a device that it is unhealthy comes after a reply
of the inventory, to a probe of that device, which denied that the device is healthy.
-/
theorem run_showsUnhealthyOnEvidence (client : Client) (transport : Http.Transport)
    (plugin : Plugin) (world : Node) (actions : List Action)
    : let settings := plugin.settings
      let roster := Roster.ofList
        (client.listDevices transport settings.node settings.cls.deviceType)
      let probed := run client roster actions
      (∀ running,
        (plugin.start (Node.host (client.listDevices transport)) world).2.1.current = some running
        → running.session = { roster }
          ∧ running.monitor = if settings.healthCheck then some (.ofRoster roster) else none)
      ∧ probed.Complete
      ∧ Verified roster probed.transcript := by
  intro settings roster probed
  have evident : probed.Evident roster := by
    apply run_evident
    intro device member
    exact client.health_of_mem_listDevices transport (Roster.mem_of_mem_ofList member)
  refine ⟨?_, evident.complete, evident.verified⟩
  intro running held
  obtain ⟨_, began⟩ := Plugin.session_of_start held
  have monitor := Plugin.monitor_of_start held
  rw [began] at monitor
  exact ⟨began, monitor⟩

end Probed

end Session

end NodeDevices
