import Mathlib.Algebra.Ring.Nat
import Mathlib.Data.List.Basic
import NodeDevices.Health.Channel

/-! What goes through a channel. Whoever sends and receives, each event that is sent was received,
or gave its place to a further one, or is unread; and readers are told how many they missed.
-/

namespace NodeDevices.Health.Channel

variable {channel : Channel} {event : Event} {rest : List Event}

-----------------------------------------------------------------------------------------
-- Sending and receiving
-----------------------------------------------------------------------------------------

/-- The events that a channel loses when another one is sent while it is full. -/
def displaced (channel : Channel) (event : Event) : List Event :=
  if capacity < (channel.unread ++ [event]).length then (channel.unread ++ [event]).take 1 else []

/-- A channel with room takes an event in. -/
theorem send_of_room (room : channel.unread.length < capacity) (event : Event)
    : channel.send event = { channel with unread := channel.unread ++ [event] }
      ∧ channel.displaced event = [] := by
  have fits : ¬ capacity < (channel.unread ++ [event]).length := by
    simp only [List.length_append, List.length_singleton]
    omega
  exact ⟨if_neg fits, if_neg fits⟩

/-- A full channel gives its oldest event up for a further one. -/
theorem send_of_full {oldest : Event} (unread : channel.unread = oldest :: rest)
    (full : channel.unread.length = capacity) (event : Event)
    : channel.send event
        = { channel with unread := rest ++ [event], missed := channel.missed + 1 }
      ∧ channel.displaced event = [oldest] := by
  have crowded : capacity < (channel.unread ++ [event]).length := by
    simp only [List.length_append, List.length_singleton]
    omega
  constructor
  · rw [send, if_pos crowded, unread]
    rfl
  · rw [displaced, if_pos crowded, unread]
    rfl

/-- A channel tells first how many events were missed. -/
theorem receive_of_missed (missed : channel.missed ≠ 0)
    : channel.receive = (.lagged channel.missed, { channel with missed := 0 }) :=
  if_pos missed

/-- A channel gives its events away in their order. -/
theorem receive_of_unread (missed : channel.missed = 0) (unread : channel.unread = event :: rest)
    : channel.receive = (.event event, { channel with unread := rest }) := by
  simp [receive, missed, unread]

/-- A channel ends when it is closed and everything has been read. -/
theorem receive_of_empty (missed : channel.missed = 0) (empty : channel.unread = [])
    : channel.receive = (if channel.closed then .closed else .nothing, channel) := by
  simp [receive, missed, empty]

-----------------------------------------------------------------------------------------
-- The traffic of a channel
-----------------------------------------------------------------------------------------

/-- How an event left a channel. -/
inductive Departure where
  | received
  | overwritten
  deriving DecidableEq, Repr

/-- What has gone through a channel. -/
structure Traffic where
  /-- The events that were sent. -/
  sent : List Event := []
  /-- The events that left the channel, in the order of leaving. -/
  departed : List (Event × Departure) := []
  /-- The numbers of missed events that readers were told. -/
  lags : List Nat := []
  /-- The greatest number of unread events that a send came to, before any was overwritten. -/
  peak : Nat := 0
  deriving DecidableEq, Repr

namespace Traffic

/-- The events that left the channel in a certain way. -/
def leaving (traffic : Traffic) (departure : Departure) : List Event :=
  (traffic.departed.filter (·.2 = departure)).map Prod.fst

/-- The events that some reader received. -/
def received (traffic : Traffic) : List Event :=
  traffic.leaving .received

/-- The events that were lost because a further one was sent to a full channel. -/
def overwritten (traffic : Traffic) : List Event :=
  traffic.leaving .overwritten

/-- The traffic with an event that is sent to a channel. -/
def send (traffic : Traffic) (channel : Channel) (event : Event) : Traffic where
  sent := traffic.sent ++ [event]
  departed := traffic.departed ++ (channel.displaced event).map (·, .overwritten)
  lags := traffic.lags
  peak := max traffic.peak (channel.unread ++ [event]).length

/-- The traffic with what a reader takes from a channel. -/
def receive (traffic : Traffic) (channel : Channel) : Traffic :=
  match channel.receive.1 with
  | .event event => { traffic with departed := traffic.departed ++ [(event, .received)] }
  | .lagged missed => { traffic with lags := traffic.lags ++ [missed] }
  | _ => traffic

variable {traffic : Traffic}

/-- What is received was sent before. -/
@[simp]
theorem sent_receive (traffic : Traffic) (channel : Channel)
    : (traffic.receive channel).sent = traffic.sent := by
  rw [receive]
  split <;> rfl

/-- What is received is not overwritten. -/
@[simp]
theorem overwritten_receive (traffic : Traffic) (channel : Channel)
    : (traffic.receive channel).overwritten = traffic.overwritten := by
  rw [receive]
  split
  · simp [overwritten, leaving]
  · rfl
  · rfl

/-- What is sent is not received yet. -/
@[simp]
theorem received_send (traffic : Traffic) (channel : Channel) (event : Event)
    : (traffic.send channel event).received = traffic.received := by
  simp [received, leaving, send, List.filter_map]

/-- What was overwritten stays lost. -/
theorem overwritten_prefix_send (traffic : Traffic) (channel : Channel) (event : Event)
    : traffic.overwritten <+: (traffic.send channel event).overwritten := by
  simp only [overwritten, leaving, send, List.filter_append, List.map_append]
  exact List.prefix_append _ _

/-- The accounts of the traffic agree with the channel that it has left. -/
structure Accounts (traffic : Traffic) (channel : Channel) : Prop where
  /-- Events leave the channel in the order in which they were sent. -/
  order : traffic.sent = traffic.departed.map Prod.fst ++ channel.unread
  /-- Of each overwritten event a reader is told, or is about to be. -/
  told : traffic.lags.sum + channel.missed = traffic.overwritten.length
  bounded : channel.unread.length ≤ capacity
  /-- As long as nobody was told, the channel is as full as when it lost an event. -/
  full : channel.missed ≠ 0 → channel.unread.length = capacity
  /-- Only a send to a full channel loses an event. -/
  peak : traffic.overwritten = [] ↔ traffic.peak ≤ capacity

/-- Nothing has gone through a new channel. -/
theorem Accounts.start : Accounts {} {} :=
  ⟨rfl, rfl, Nat.zero_le _, fun none => absurd rfl none, by simp [overwritten, leaving]⟩

/-- A send keeps the accounts: an event more is unread, and at most one is overwritten. -/
theorem Accounts.send (h : traffic.Accounts channel) (event : Event)
    : (traffic.send channel event).Accounts (channel.send event) := by
  have crowd : (channel.unread ++ [event]).length = channel.unread.length + 1 := by simp
  rcases Nat.lt_or_ge channel.unread.length capacity with room | full
  · obtain ⟨sent, displaced⟩ := send_of_room room event
    rw [sent]
    constructor <;> simp only [Traffic.send, displaced, List.map_nil, List.append_nil]
    · rw [h.order, List.append_assoc]
    · exact h.told
    · rw [crowd]
      exact room
    · intro missed
      have level := h.full missed
      omega
    · rw [crowd]
      exact h.peak.trans (by omega)
  · have level := Nat.le_antisymm h.bounded full
    have some : 0 < channel.unread.length := by rw [level]; decide
    obtain ⟨oldest, rest, unread⟩ := List.exists_cons_of_length_pos some
    obtain ⟨sent, displaced⟩ := send_of_full unread level event
    have shorter : rest.length + 1 = capacity := by rw [← level, unread]; rfl
    rw [sent]
    constructor <;> simp only [Traffic.send, displaced]
    · simp [h.order, unread]
    · have told := h.told
      simp only [overwritten, leaving, List.filter_append, List.map_append,
        List.length_append] at told ⊢
      simp only [List.map_cons, List.map_nil, List.filter_cons, List.filter_nil, decide_true,
        if_true, List.length_singleton]
      omega
    · simp only [List.length_append, List.length_singleton]
      omega
    · intro _
      simpa using shorter
    · refine iff_of_false ?_ ?_
      · simp [overwritten, leaving]
      · rw [crowd, level]
        omega

/-- Reception keeps the accounts: the oldest event leaves the channel, unless its reader is told
first what it missed.
-/
theorem Accounts.receive (h : traffic.Accounts channel)
    : (traffic.receive channel).Accounts channel.receive.2 := by
  by_cases missed : channel.missed = 0
  · cases unread : channel.unread with
    | nil =>
        have nothing : traffic.receive channel = traffic := by
          rw [Traffic.receive, receive_of_empty missed unread]
          cases channel.closed <;> rfl
        rw [nothing, receive_of_empty missed unread]
        exact h
    | cons event rest =>
        rw [Traffic.receive, receive_of_unread missed unread]
        constructor
        · simp [h.order, unread]
        · simpa [overwritten, leaving] using h.told
        · have bounded := h.bounded
          rw [unread, List.length_cons] at bounded
          exact Nat.le_of_succ_le bounded
        · exact fun never => absurd missed never
        · simpa [overwritten, leaving] using h.peak
  · rw [Traffic.receive, receive_of_missed missed]
    refine { h with told := ?_, full := fun none => absurd rfl none }
    simpa [overwritten, leaving] using h.told

-----------------------------------------------------------------------------------------
-- What the accounts come to
-----------------------------------------------------------------------------------------

/-- The events of one departure are among those that left, in the same order. -/
theorem leaving_sublist (traffic : Traffic) (departure : Departure)
    : (traffic.leaving departure).Sublist (traffic.departed.map Prod.fst) :=
  List.filter_sublist.map Prod.fst

/-- Whatever left the channel was either received or overwritten. -/
theorem length_received_add_overwritten (traffic : Traffic)
    : traffic.received.length + traffic.overwritten.length = traffic.departed.length := by
  have other : ∀ departure : Departure,
      decide (departure = .overwritten) = !decide (departure = .received) := by
    intro departure
    cases departure <;> rfl
  simp only [received, overwritten, leaving, List.length_map, other]
  exact (List.length_eq_length_filter_add
    (fun event : Event × Departure => decide (event.2 = .received))).symm

/-- While nothing was overwritten, each event that left was received. -/
theorem departure_of_not_overwritten (kept : traffic.overwritten = [])
    : ∀ entry ∈ traffic.departed, entry.2 = .received := by
  rw [overwritten, leaving, List.map_eq_nil_iff, List.filter_eq_nil_iff] at kept
  intro entry left
  cases departure : entry.2 with
  | received => rfl
  | overwritten => exact absurd (decide_eq_true departure) (kept entry left)

theorem received_of_not_overwritten (kept : traffic.overwritten = [])
    : traffic.received = traffic.departed.map Prod.fst := by
  rw [received, leaving, List.filter_eq_self.mpr]
  intro entry left
  exact decide_eq_true (departure_of_not_overwritten kept entry left)

/-- Of all events that were sent, those that are not unread and that nobody was told to have
missed, or is about to be, were received.
-/
theorem Accounts.length_sent (h : traffic.Accounts channel)
    : traffic.sent.length
      = channel.unread.length + traffic.received.length
        + (traffic.lags.sum + channel.missed) := by
  have total := length_received_add_overwritten traffic
  have told := h.told
  rw [h.order, List.length_append, List.length_map]
  omega

/-- What is unread are the last events that were sent. -/
theorem Accounts.unread_suffix (h : traffic.Accounts channel) : channel.unread <:+ traffic.sent :=
  ⟨_, h.order.symm⟩

/-- A channel that everything was read from has told of all that it lost. -/
theorem Accounts.missed_of_read (h : traffic.Accounts channel) (unread : channel.unread = [])
    : channel.missed = 0 := by
  by_contra missed
  have full := h.full missed
  rw [unread] at full
  cases full

end Traffic

end NodeDevices.Health.Channel
