import Mathlib.Data.List.Induction
import NodeDevices.Health.Polling
import NodeDevices.Proofs.Health.Observation
import NodeDevices.Proofs.Health.Traffic

/-! A monitor over its calls, with what each call was told, sent and returned. Calls may be cut
short, and the surroundings may do what they like in between: the events are what one long poll
of all answers makes of them.
-/

namespace NodeDevices.Health.Polling

/-- A proof view of the actions that can happen, with what each of them finds and leaves. -/
inductive Step (polling : Polling) : Action → Polling → Prop
  | call (idle : polling.call = none)
    : Step polling .call { polling with call := some { left := polling.roster.devices } }
  | ask {device left found}
    (waits : polling.call = some { left := device :: left, asked := none, found })
    (lasts : polling.stopped = false)
    : Step polling .ask { polling with
        call := some { left, asked := some device, found }
        probes := polling.probes ++ [device.uuid] }
  | answer {device left found} (result)
    (asked : polling.call = some { left, asked := some device, found })
    : Step polling (.answer result) { polling with
        monitor := (polling.monitor.observe device.id (ofProbe result)).2
        outlet := polling.outlet.map
          ((polling.monitor.observe device.id (ofProbe result)).1.toList.foldl Channel.send)
        call := some {
          left
          found := found ++ (polling.monitor.observe device.id (ofProbe result)).1.toList } }
  | finish {left found} (waits : polling.call = some { left, asked := none, found })
    (finished : left = [] ∨ polling.stopped = true)
    : Step polling .finish { polling with call := none }
  | stop : Step polling .stop { polling with stopped := true }
  | store (id health)
    : Step polling (.store id health)
        { polling with roster := polling.roster.setHealth id health }
  | receive : Step polling .receive { polling with outlet := polling.outlet.map (·.receive.2) }
  | abandon : Step polling .abandon { polling with outlet := none }

/-- The view covers every action that can happen. -/
theorem Step.of_step? {polling next : Polling} {action : Action}
    (h : polling.step? action = some next)
    : Step polling action next := by
  cases action with
  | call =>
      simp only [step?] at h
      split at h <;> cases h
      next idle => exact .call idle
  | ask =>
      simp only [step?] at h
      split at h
      · next waits =>
          split at h <;> cases h
          next lasts => exact .ask waits (Bool.eq_false_iff.mpr lasts)
      · cases h
  | answer result =>
      simp only [step?] at h
      split at h <;> cases h
      next asked => exact .answer result asked
  | finish =>
      simp only [step?] at h
      split at h
      · next waits =>
          split at h <;> cases h
          next finished => exact .finish waits finished
      · cases h
  | stop => cases h; exact .stop
  | store id health => cases h; exact .store id health
  | receive => cases h; exact .receive
  | abandon => cases h; exact .abandon

-----------------------------------------------------------------------------------------
-- Whole calls
-----------------------------------------------------------------------------------------

/-- As long as nothing comes in between, probing the devices left is polling them. -/
theorem foldlM_probesOf (probe : Int64 → Bool) (left : List Device) (found : List Event)
    (polling : Polling) (lasts : polling.stopped = false)
    : let poll := polling.monitor.poll (probeAll { devices := left } probe)
      (probesOf left probe).foldlM step? { polling with call := some { left, found } }
      = some { polling with
          monitor := poll.2
          outlet := polling.outlet.map (poll.1.foldl Channel.send)
          probes := polling.probes ++ left.map Device.uuid
          call := some { left := [], found := found ++ poll.1 } } := by
  induction left generalizing polling found with
  | nil => simp [probesOf, probeAll, Monitor.poll]
  | cons device rest ih =>
      let observed := polling.monitor.observe device.id (ofProbe (probe device.uuid))
      have later := ih (found ++ observed.1.toList) { polling with
        monitor := observed.2
        outlet := polling.outlet.map (observed.1.toList.foldl Channel.send)
        probes := polling.probes ++ [device.uuid] } lasts
      have first
          : [Action.ask, .answer (probe device.uuid)].foldlM step?
              { polling with call := some { left := device :: rest, found } }
            = some { polling with
                monitor := observed.2
                outlet := polling.outlet.map (observed.1.toList.foldl Channel.send)
                probes := polling.probes ++ [device.uuid]
                call := some { left := rest, found := found ++ observed.1.toList } } := by
        simp [step?, lasts, observed]
      intro poll
      rw [probesOf, List.flatMap_cons, List.foldlM_append, first]
      refine later.trans ?_
      simp [poll, probeAll, Monitor.poll_cons, observed, Function.comp_def]

/-- Actions that can all happen are performed. -/
theorem foldl_perform_of_foldlM {polling last : Polling} {actions : List Action}
    (happens : actions.foldlM step? polling = some last)
    : actions.foldl perform polling = last := by
  induction actions generalizing polling with
  | nil => exact Option.some_inj.mp happens
  | cons action rest ih =>
      rw [List.foldlM_cons] at happens
      obtain ⟨next, can, later⟩ := Option.bind_eq_some_iff.mp happens
      rw [List.foldl_cons, perform, can, Option.getD_some]
      exact ih later

theorem perform_call {polling : Polling} (idle : polling.call = none)
    : polling.perform .call
      = { polling with call := some { left := polling.roster.devices } } := by
  simp [perform, step?, idle]

/-- A call in which nothing else happens is a poll of all devices. -/
theorem poll_eq {polling : Polling} (idle : polling.call = none)
    (lasts : polling.stopped = false) (probe : Int64 → Bool)
    : let poll := polling.monitor.poll (probeAll polling.roster probe)
      polling.poll probe
      = (poll.1,
          { polling with
            monitor := poll.2
            outlet := polling.outlet.map (poll.1.foldl Channel.send)
            probes := polling.probes ++ polling.roster.devices.map Device.uuid }) := by
  have probed := foldl_perform_of_foldlM
    (foldlM_probesOf probe polling.roster.devices [] polling lasts)
  intro poll
  rw [Polling.poll, List.foldl_cons, perform_call idle, probed]
  simp [found, perform, step?, poll, idle]

/-- A call after the end probes nothing. -/
theorem poll_of_stopped {polling : Polling} (idle : polling.call = none)
    (stopped : polling.stopped = true) (probe : Int64 → Bool)
    : polling.poll probe = ([], polling) := by
  have silent (devices : List Device)
      : (probesOf devices probe).foldl perform
          { polling with call := some { left := polling.roster.devices } }
        = { polling with call := some { left := polling.roster.devices } } := by
    induction devices with
    | nil => rfl
    | cons device rest ih =>
        have asks : perform { polling with call := some { left := polling.roster.devices } } .ask
            = { polling with call := some { left := polling.roster.devices } } := by
          cases devices : polling.roster.devices <;> simp [perform, step?, stopped]
        rw [probesOf, List.flatMap_cons, List.foldl_append, ← probesOf, List.foldl_cons, asks]
        exact ih
  have returned : { polling with call := none } = polling := by rw [← idle]
  rw [Polling.poll, List.foldl_cons, perform_call idle, silent]
  refine Prod.ext rfl (Eq.trans ?_ returned)
  simp [perform, step?, stopped]

-----------------------------------------------------------------------------------------
-- Histories
-----------------------------------------------------------------------------------------

/-- What happened in a call. -/
structure Turn where
  /-- The ids of the devices probed, with the answers. -/
  answers : List (String × Bool) := []
  sent : List Event := []
  returned : List Event := []
  deriving DecidableEq, Repr

/-- What has happened to a monitor and around it. -/
structure History where
  /-- The calls that have returned. -/
  turns : List Turn := []
  /-- The call under way. -/
  current : Turn := {}
  /-- The healths that were stored. -/
  stored : List Event := []
  /-- What has gone through the channel. -/
  traffic : Channel.Traffic := {}
  deriving DecidableEq, Repr

namespace History

/-- The answers in all calls. -/
def answers (history : History) : List (String × Bool) :=
  history.turns.flatMap Turn.answers ++ history.current.answers

/-- The events of all calls. -/
def sent (history : History) : List Event :=
  history.turns.flatMap Turn.sent ++ history.current.sent

/-- The traffic with an event that is sent, if there is a channel and an event. -/
def carry (traffic : Channel.Traffic) : Option Channel → Option Event → Channel.Traffic
  | some channel, some event => traffic.send channel event
  | _, _ => traffic

/-- The history with what an action adds to it that happens to a monitor. -/
def record (history : History) (polling : Polling) : Action → History
  | .answer result =>
      match polling.call.bind Call.asked with
      | some device =>
          let event := (polling.monitor.observe device.id (ofProbe result)).1
          { history with
            current := { history.current with
              answers := history.current.answers ++ [(device.id, result)]
              sent := history.current.sent ++ event.toList }
            traffic := carry history.traffic polling.outlet event }
      | none => history
  | .receive =>
      { history with traffic := polling.outlet.elim history.traffic history.traffic.receive }
  | .finish =>
      { history with
        turns := history.turns ++ [{ history.current with returned := polling.found }]
        current := {} }
  | .store id health => { history with stored := history.stored ++ [⟨id, health⟩] }
  | _ => history

end History

/-- A monitor with its history. -/
structure Chronicle where
  polling : Polling
  history : History := {}
  deriving DecidableEq

namespace Chronicle

/-- Performs an action, if it can happen. -/
def perform (chronicle : Chronicle) (action : Action) : Chronicle :=
  match chronicle.polling.step? action with
  | some polling => { polling, history := chronicle.history.record chronicle.polling action }
  | none => chronicle

/-- A monitor of a roster from its beginning, after the actions that could happen of a list. -/
def run (roster : Roster) (actions : List Action) : Chronicle :=
  actions.foldl perform { polling := .start roster }

/-- What holds of a new monitor, and after each step of a run, holds of every run. -/
theorem run_induction {roster : Roster} {motive : Chronicle → Prop}
    (start : motive { polling := .start roster })
    (step
      : ∀ chronicle action next,
          motive chronicle
          → chronicle.polling.Step action next
          → motive {
            polling := next, history := chronicle.history.record chronicle.polling action
          })
    (actions : List Action)
    : motive (run roster actions) := by
  induction actions using List.reverseRecOn with
  | nil => exact start
  | append_singleton actions action ih =>
      rw [run, List.foldl_append, List.foldl_cons, List.foldl_nil, perform]
      split
      · next next can => exact step _ action next ih (.of_step? can)
      · exact ih

-----------------------------------------------------------------------------------------
-- The events of all calls are those of one poll
-----------------------------------------------------------------------------------------

/-- What a monitor of a roster has observed after some calls. -/
def after (roster : Roster) (turns : List Turn) : Monitor :=
  ((Monitor.ofRoster roster).poll (turns.flatMap Turn.answers)).2

/-- A history is what one poll of all answers makes of them, and each call has its part in it. -/
structure Polled (roster : Roster) (chronicle : Chronicle) : Prop where
  all
    : (Monitor.ofRoster roster).poll chronicle.history.answers
      = (chronicle.history.sent, chronicle.polling.monitor)
  current
    : chronicle.history.current.sent
      = ((after roster chronicle.history.turns).poll chronicle.history.current.answers).1
  past
    : ∀ number turn,
        chronicle.history.turns[number]? = some turn
        → turn.sent
          = ((after roster (chronicle.history.turns.take number)).poll turn.answers).1

variable {roster : Roster} {chronicle : Chronicle}

/-- One more answer is taken in as the last one of the call under way. -/
theorem Polled.answer (h : chronicle.Polled roster) {device : Device} {left : List Device}
    {found : List Event} (result : Bool)
    (asked : chronicle.polling.call = some { left, asked := some device, found })
    {next : Polling}
    (observed : next.monitor = (chronicle.polling.monitor.observe device.id (ofProbe result)).2)
    : Polled roster {
        polling := next
        history := chronicle.history.record chronicle.polling (.answer result)
      } := by
  have last (monitor : Monitor)
      : monitor.poll [(device.id, result)]
        = ((monitor.observe device.id (ofProbe result)).1.toList,
            (monitor.observe device.id (ofProbe result)).2) := by
    simp [Monitor.poll]
  have known : (after roster chronicle.history.turns).poll chronicle.history.current.answers
      = (chronicle.history.current.sent, chronicle.polling.monitor) := by
    have whole := h.all
    rw [History.answers, Monitor.poll_append] at whole
    exact Prod.ext h.current.symm (Prod.mk.inj whole).2
  constructor
  · simp only [History.record, History.answers, History.sent, asked, Option.bind_some,
      ← List.append_assoc]
    rw [Monitor.poll_append, ← History.answers, h.all, ← History.sent, last, observed]
  · simp only [History.record, asked, Option.bind_some]
    rw [Monitor.poll_append, known, last]
  · simpa only [History.record, asked, Option.bind_some] using h.past

/-- A call that returns has its part in the history like those before it. -/
theorem Polled.finish (h : chronicle.Polled roster) {next : Polling}
    (observed : next.monitor = chronicle.polling.monitor)
    : Polled roster {
        polling := next, history := chronicle.history.record chronicle.polling .finish
      } := by
  constructor
  · have whole := h.all
    simp only [History.answers, History.sent] at whole
    simp only [History.record, History.answers, History.sent, List.flatMap_append,
      List.flatMap_cons, List.flatMap_nil, List.append_nil, whole, observed]
  · rfl
  · intro number turn found
    simp only [History.record] at found ⊢
    rcases Nat.lt_or_ge number chronicle.history.turns.length with earlier | last
    · rw [List.getElem?_append_left earlier] at found
      rw [List.take_append_of_le_length (Nat.le_of_lt earlier)]
      exact h.past number turn found
    · obtain rfl : number = chronicle.history.turns.length := by
        have bound := (List.getElem?_eq_some_iff.mp found).1
        simp only [List.length_append, List.length_singleton] at bound
        omega
      rw [List.getElem?_append_right last, Nat.sub_self, List.getElem?_cons_zero,
        Option.some.injEq] at found
      rw [← found, List.take_left]
      exact h.current

/-- In every run the history is that of one poll. -/
theorem run_polled (roster : Roster) (actions : List Action)
    : (run roster actions).Polled roster := by
  refine run_induction (motive := Polled roster)
    { all := rfl, current := rfl, past := by simp } ?_ actions
  intro chronicle action next h step
  cases step with
  | answer result asked => exact h.answer result asked rfl
  | finish => exact h.finish rfl
  | call | ask | stop | store | receive | abandon => exact { h with }

-----------------------------------------------------------------------------------------
-- The course of a call
-----------------------------------------------------------------------------------------

/-- The devices of a call are those of its answers, the one asked for and those left, and what it
has found it has sent. Healths are stored by the surroundings only.
-/
structure OnCourse (roster : Roster) (chronicle : Chronicle) : Prop where
  stored : chronicle.polling.roster = roster.replay chronicle.history.stored
  idle : chronicle.polling.call = none → chronicle.history.current = {}
  underway
    : ∀ left asked found,
        chronicle.polling.call = some { left, asked, found }
        → found = chronicle.history.current.sent
          ∧ chronicle.history.current.answers.map Prod.fst
              ++ (asked.toList ++ left).map Device.id
            = roster.ids
  /-- A call that is not told to stop probes all devices. -/
  past
    : ∀ turn ∈ chronicle.history.turns,
        turn.returned = turn.sent
        ∧ turn.answers.map Prod.fst <+: roster.ids
        ∧ (chronicle.polling.stopped = false → turn.answers.map Prod.fst = roster.ids)

/-- A call stays on its course with every step. -/
theorem OnCourse.step (h : chronicle.OnCourse roster) {action : Action} {next : Polling}
    (step : chronicle.polling.Step action next)
    : OnCourse roster {
        polling := next, history := chronicle.history.record chronicle.polling action
      } := by
  cases step with
  | receive | abandon => exact { h with }
  | stop =>
      refine { h with past := fun turn member => ?_ }
      obtain ⟨same, course, _⟩ := h.past turn member
      exact ⟨same, course, nofun⟩
  | store id health =>
      refine { h with stored := ?_ }
      simp only [History.record, Roster.replay_append, ← h.stored]
      rfl
  | call idle =>
      refine { h with idle := nofun, underway := ?_ }
      rintro left asked found ⟨⟩
      simp only [History.record, h.idle idle, true_and]
      exact (congrArg Roster.ids h.stored).trans (Roster.ids_replay _ _)
  | ask waits =>
      refine { h with idle := nofun, underway := ?_ }
      rintro left asked found ⟨⟩
      exact h.underway _ none _ waits
  | @answer device left found result asked =>
      obtain ⟨same, course⟩ := h.underway _ _ _ asked
      refine { stored := ?_, idle := nofun, underway := ?_, past := ?_ }
      · simpa only [History.record, asked, Option.bind_some] using h.stored
      · rintro left asked found ⟨⟩
        simp only [History.record, asked, Option.bind_some, same, true_and]
        simpa using course
      · simpa only [History.record, asked, Option.bind_some] using h.past
  | @finish left found waits finished =>
      obtain ⟨same, course⟩ := h.underway _ _ _ waits
      refine { stored := h.stored, idle := fun _ => rfl, underway := nofun, past := ?_ }
      intro turn member
      rcases List.mem_append.mp member with earlier | last
      · exact h.past turn earlier
      · obtain rfl := List.mem_singleton.mp last
        refine ⟨?_, ⟨left.map Device.id, course⟩, fun lasts => ?_⟩
        · rw [Polling.found, waits]
          exact same
        · have nothing : left = [] := finished.resolve_right (Bool.eq_false_iff.mp lasts)
          simpa [nothing] using course

/-- In every run each call keeps to its course. -/
theorem run_onCourse (roster : Roster) (actions : List Action)
    : (run roster actions).OnCourse roster := by
  refine run_induction (motive := OnCourse roster)
    { stored := rfl, idle := fun _ => rfl, underway := nofun, past := nofun } ?_ actions
  exact fun chronicle action next h step => h.step step

-----------------------------------------------------------------------------------------
-- What readers of the channel find
-----------------------------------------------------------------------------------------

/-- As long as there is a channel, all events went through it, and its accounts are right. -/
def Carried (chronicle : Chronicle) : Prop :=
  ∀ channel,
    chronicle.polling.outlet = some channel
    → chronicle.history.traffic.sent = chronicle.history.sent
      ∧ chronicle.history.traffic.Accounts channel

/-- An event that a probe brings goes into the channel. -/
theorem Carried.answer (h : chronicle.Carried) {device : Device} {left : List Device}
    {found : List Event} (result : Bool)
    (asked : chronicle.polling.call = some { left, asked := some device, found })
    {next : Polling}
    (outlet
      : next.outlet
        = chronicle.polling.outlet.map
          ((chronicle.polling.monitor.observe device.id (ofProbe result)).1.toList.foldl
            Channel.send))
    : Carried {
        polling := next
        history := chronicle.history.record chronicle.polling (.answer result)
      } := by
  intro channel given
  rw [outlet] at given
  obtain ⟨before, known, rfl⟩ := Option.map_eq_some_iff.mp given
  obtain ⟨sent, accounts⟩ := h before known
  simp only [History.record, History.sent, asked, Option.bind_some, known, ← List.append_assoc]
  rw [← History.sent, ← sent]
  cases (chronicle.polling.monitor.observe device.id (ofProbe result)).1 with
  | none => exact ⟨(List.append_nil _).symm, accounts⟩
  | some event => exact ⟨rfl, accounts.send event⟩

/-- In every run the accounts of the channel are right. -/
theorem run_carried (roster : Roster) (actions : List Action)
    : (run roster actions).Carried := by
  refine run_induction (motive := Carried) ?_ ?_ actions
  · rintro channel ⟨⟩
    exact ⟨rfl, .start⟩
  · intro chronicle action next h step
    cases step with
    | answer result asked => exact h.answer result asked rfl
    | receive =>
        intro channel given
        obtain ⟨before, known, rfl⟩ := Option.map_eq_some_iff.mp given
        obtain ⟨sent, accounts⟩ := h before known
        simp only [History.record, known, Option.elim_some]
        exact ⟨(Channel.Traffic.sent_receive _ _).trans sent, accounts.receive⟩
    | finish =>
        intro channel given
        obtain ⟨sent, accounts⟩ := h channel given
        refine ⟨sent.trans ?_, accounts⟩
        simp [History.record, History.sent]
    | abandon => exact nofun
    | call | ask | stop | store => exact h

/-- A run in which nothing is sent but changes, as each device's results show them. -/
structure SendsChanges (roster : Roster) (chronicle : Chronicle) : Prop where
  /-- The events of a device are its results without those that repeat the one before, where the
  health that it had at the start stands before all.
  -/
  changes
    : ∀ device ∈ roster.devices,
        device.health :: healthsOf device.id chronicle.history.sent
        = (healthsOf device.id (chronicle.history.answers.map resultOf)).destutter' (· ≠ ·)
            device.health
  alternate
    : ∀ device ∈ roster.devices,
        (device.health :: healthsOf device.id chronicle.history.sent).IsChain (· ≠ ·)
  /-- The events come in the order of the probes. -/
  inOrder : chronicle.history.sent.Sublist (chronicle.history.answers.map resultOf)
  /-- The probes of a call go through the devices in order, up to the last one unless the
  monitor is told to stop.
  -/
  past
    : ∀ turn ∈ chronicle.history.turns,
        turn.answers.map Prod.fst <+: roster.ids
        ∧ (chronicle.polling.stopped = false → turn.answers.map Prod.fst = roster.ids)
  current : chronicle.history.current.answers.map Prod.fst <+: roster.ids
  /-- A call returns what it has sent, which are the changes among its results. -/
  returned
    : ∀ number turn,
        chronicle.history.turns[number]? = some turn
        → turn.returned = turn.sent
          ∧ turn.sent
            = (after roster (chronicle.history.turns.take number)).changesAmong turn.answers
  /-- The devices with an observed health are those of the roster, so that each one that is asked
  for has one.
  -/
  observed : ∀ id, id ∈ chronicle.polling.monitor.lastObserved.names ↔ id ∈ roster.ids
  asked
    : ∀ left device found,
        chronicle.polling.call = some { left, asked := some device, found }
        → (chronicle.polling.monitor.lastObserved.find? device.id).isSome
  /-- Only the surroundings store healths. -/
  stored : chronicle.polling.roster = roster.replay chronicle.history.stored
  /-- What is unread in the channel, as long as there is one, are the last events sent. -/
  carried
    : ∀ channel,
        chronicle.polling.outlet = some channel → channel.unread <:+ chronicle.history.sent
  /-- All events went through it: each was received, or gave its place to a further one in a full
  channel, or is unread. Readers were told of those that they missed, or are about to be.
  -/
  accounted
    : ∀ channel,
        chronicle.polling.outlet = some channel
        → let traffic := chronicle.history.traffic
          traffic.Accounts channel
          ∧ chronicle.history.sent = traffic.departed.map Prod.fst ++ channel.unread
          ∧ chronicle.history.sent.length
            = channel.unread.length + traffic.received.length
              + (traffic.lags.sum + channel.missed)

/-- Devices that are not in the roster are never probed. -/
theorem OnCourse.mem_ids (h : chronicle.OnCourse roster)
    : chronicle.history.current.answers.map Prod.fst <+: roster.ids
      ∧ ∀ answer ∈ chronicle.history.answers, answer.1 ∈ roster.ids := by
  have current : chronicle.history.current.answers.map Prod.fst <+: roster.ids := by
    cases call : chronicle.polling.call with
    | none => simp [h.idle call]
    | some call' => exact ⟨_, (h.underway _ _ _ call).2⟩
  refine ⟨current, fun answer member => ?_⟩
  rcases List.mem_append.mp member with earlier | now
  · obtain ⟨turn, returned, among⟩ := List.mem_flatMap.mp earlier
    exact (h.past turn returned).2.1.subset (List.mem_map_of_mem among)
  · exact current.subset (List.mem_map_of_mem now)

/-- In every run the events of a monitor are the changes that its probes show. -/
theorem run_sendsChanges (devices : List Device) (actions : List Action)
    : (run (.ofList devices) actions).SendsChanges (.ofList devices) := by
  have distinct := Roster.nodup_ids_ofList devices
  have polled := run_polled (.ofList devices) actions
  have course := run_onCourse (.ofList devices) actions
  have carried := run_carried (.ofList devices) actions
  generalize run (.ofList devices) actions = chronicle at *
  generalize Roster.ofList devices = roster at *
  obtain ⟨current, probed⟩ := course.mem_ids
  have sent : ((Monitor.ofRoster roster).poll chronicle.history.answers).1
      = chronicle.history.sent := congrArg Prod.fst polled.all
  have observed := Monitor.mem_names_poll probed (Monitor.mem_names_ofRoster distinct)
  rw [polled.all] at observed
  have changes
      : ∀ device ∈ roster.devices,
          device.health :: healthsOf device.id chronicle.history.sent
          = (healthsOf device.id (chronicle.history.answers.map resultOf)).destutter' (· ≠ ·)
              device.health := by
    intro device member
    rw [← Monitor.known_ofRoster distinct member, ← sent]
    exact Monitor.healthsOf_poll _ _
  constructor
  case changes => exact changes
  case alternate =>
    intro device member
    rw [changes device member]
    exact List.isChain_destutter' _ _ _
  case inOrder => exact sent ▸ Monitor.poll_sublist _
  case past => exact fun turn member => (course.past turn member).2
  case current => exact current
  case returned =>
    intro number turn found
    obtain ⟨same, within, _⟩ := course.past turn (List.mem_of_getElem? found)
    refine ⟨same, ?_⟩
    rw [polled.past number turn found]
    exact Monitor.poll_fst_of_nodup (distinct.sublist within.sublist)
  case observed => exact observed
  case asked =>
    intro left device found underway
    rw [Dictionary.find?_isSome_iff]
    apply (observed device.id).mpr
    rw [← (course.underway _ _ _ underway).2]
    simp
  case stored => exact course.stored
  case carried =>
    intro channel given
    obtain ⟨sent, accounts⟩ := carried channel given
    exact sent ▸ accounts.unread_suffix
  case accounted =>
    intro channel given
    obtain ⟨sent, accounts⟩ := carried channel given
    exact ⟨accounts, sent ▸ accounts.order, sent ▸ accounts.length_sent⟩

end Chronicle

end NodeDevices.Health.Polling
