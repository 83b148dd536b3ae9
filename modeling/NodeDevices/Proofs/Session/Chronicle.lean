import Mathlib.Data.List.Induction
import NodeDevices.Proofs.Session.Steps

/-! Sessions with their history, which grows with every action that can happen. A law of all
runs is proved once for the fresh session and once for a step.
-/

namespace NodeDevices

open Health (Event Channel)

-----------------------------------------------------------------------------------------
-- What a step adds to a history
-----------------------------------------------------------------------------------------

/-- The list that the feeder of a connected client pushes next, if it has one. -/
def Session.Stream.outgoing? (stream : Session.Stream) : Option Session.View :=
  if stream.connected then
    match stream.phase with
    | .opening seen => some seen
    | .pushing list => some list
    | _ => none
  else none

namespace Session

/-- The list that a client gets, if it gets one. -/
def Stream.Item.list? : Stream.Item → Option View
  | .list view => some view
  | _ => none

/-- What has happened in a session. -/
structure History extends Channel.Traffic where
  /-- The events whose health was stored. -/
  stored : List Event := []
  /-- The lists that were pushed, each with the number of its stream. -/
  pushed : List (Nat × View) := []
  /-- The lists that clients took, each with the number of its stream. -/
  taken : List (Nat × View) := []
  deriving DecidableEq, Repr

namespace History

/-- The lists that were pushed on a stream. -/
def pushedOn (history : History) (number : Nat) : List View :=
  (history.pushed.filter (·.1 = number)).map Prod.snd

/-- The lists that the client of a stream took. -/
def takenOn (history : History) (number : Nat) : List View :=
  (history.taken.filter (·.1 = number)).map Prod.snd

/-- The history with what an action adds to it that happens in a session. -/
def record (history : History) (session : Session) : Action → History
  | .send event => { history with toTraffic := history.toTraffic.send session.channel event }
  | .receive _ => { history with toTraffic := history.toTraffic.receive session.channel }
  | .store number =>
      { history with
        stored := history.stored ++ (session.streams[number]?.bind Stream.inHand?).toList }
  | .begin number | .push number =>
      { history with
        pushed := history.pushed
          ++ (session.streams[number]?.bind Stream.outgoing?).toList.map (number, ·) }
  | .read number =>
      { history with
        taken := history.taken
          ++ (session.streams[number]?.bind (·.next.1.list?)).toList.map (number, ·) }
  | _ => history

end History

/-- A session with its history. -/
structure Chronicle where
  session : Session
  history : History := {}
  deriving DecidableEq

namespace Chronicle

/-- Performs an action, if it can happen. -/
def perform (chronicle : Chronicle) (action : Action) : Chronicle :=
  match chronicle.session.step? action with
  | some session => { session, history := chronicle.history.record chronicle.session action }
  | none => chronicle

/-- A session of a roster from its beginning, after the actions that could happen of a list. -/
def run (roster : Roster) (actions : List Action) : Chronicle :=
  actions.foldl perform { session := { roster } }

/-- A run goes on with one more action. -/
theorem run_append (roster : Roster) (actions : List Action) (action : Action)
    : run roster (actions ++ [action]) = (run roster actions).perform action := by
  simp [run]

/-- What holds of a fresh session, and after each step of a run, holds of every run. -/
theorem run_induction {roster : Roster} {motive : Chronicle → Prop}
    (start : motive { session := { roster } })
    (step
      : ∀ actions action next,
          motive (run roster actions)
          → Step (run roster actions).session action next
          → motive {
              session := next
              history := (run roster actions).history.record (run roster actions).session action
            })
    (actions : List Action)
    : motive (run roster actions) := by
  induction actions using List.reverseRecOn with
  | nil => exact start
  | append_singleton actions action ih =>
      rw [run_append, perform]
      split
      · next next can => exact step actions action next ih (.of_step? can)
      · exact ih

/-- What holds of a chronicle, and after each step, holds however it goes on. -/
theorem foldl_perform_induction {motive : Chronicle → Prop} {chronicle : Chronicle}
    (start : motive chronicle)
    (step
      : ∀ chronicle action next,
          motive chronicle
          → Step chronicle.session action next
          → motive {
              session := next
              history := chronicle.history.record chronicle.session action
            })
    (actions : List Action)
    : motive (actions.foldl perform chronicle) := by
  induction actions generalizing chronicle with
  | nil => exact start
  | cons action rest ih =>
      refine ih ?_
      rw [perform]
      split
      · next next can => exact step chronicle action next start (.of_step? can)
      · exact start

end Chronicle

-----------------------------------------------------------------------------------------
-- What each kind of step records
-----------------------------------------------------------------------------------------

namespace History

variable {history : History} {session : Session} {number : Nat} {stream : Stream}

theorem record_lag (missed : session.channel.missed ≠ 0)
    : history.record session (.receive number)
      = { history with lags := history.lags ++ [session.channel.missed] } := by
  simp [record, Channel.Traffic.receive, Channel.receive_of_missed missed]

theorem record_closed (missed : session.channel.missed = 0)
    (empty : session.channel.unread = [])
    : history.record session (.receive number) = history := by
  simp only [record, Channel.Traffic.receive, Channel.receive_of_empty missed empty]
  cases session.channel.closed <;> rfl

theorem record_receive {event : Event} {rest : List Event}
    (missed : session.channel.missed = 0) (unread : session.channel.unread = event :: rest)
    : history.record session (.receive number)
      = { history with departed := history.departed ++ [(event, .received)] } := by
  simp [record, Channel.Traffic.receive, Channel.receive_of_unread missed unread]

theorem record_store {event : Event} (found : session.streams[number]? = some stream)
    (phase : stream.phase = .storing event)
    : history.record session (.store number)
      = { history with stored := history.stored ++ [event] } := by
  simp [record, found, Stream.inHand?_eq_some.mpr phase]

theorem record_begin {seen : View} (found : session.streams[number]? = some stream)
    (phase : stream.phase = .opening seen) (connected : stream.connected = true)
    : history.record session (.begin number)
      = { history with pushed := history.pushed ++ [(number, seen)] } := by
  simp [record, found, Stream.outgoing?, phase, connected]

theorem record_beginAlone (found : session.streams[number]? = some stream)
    (alone : stream.connected = false)
    : history.record session (.begin number) = history := by
  simp [record, found, Stream.outgoing?, alone]

theorem record_push {list : View} (found : session.streams[number]? = some stream)
    (phase : stream.phase = .pushing list) (connected : stream.connected = true)
    : history.record session (.push number)
      = { history with pushed := history.pushed ++ [(number, list)] } := by
  simp [record, found, Stream.outgoing?, phase, connected]

theorem record_pushAlone (found : session.streams[number]? = some stream)
    (alone : stream.connected = false)
    : history.record session (.push number) = history := by
  simp [record, found, Stream.outgoing?, alone]

/-- Of lists that were pushed before, each stream has its own. -/
theorem pushedOn_congr {next : History} (pushed : next.pushed = history.pushed) (number : Nat)
    : next.pushedOn number = history.pushedOn number := by
  rw [pushedOn, pushed, pushedOn]

theorem pushedOn_append (number other : Nat) (list : View)
    : { history with pushed := history.pushed ++ [(number, list)] }.pushedOn other
      = if number = other then history.pushedOn other ++ [list]
        else history.pushedOn other := by
  by_cases same : number = other <;> simp [pushedOn, same]

end History

end Session

end NodeDevices
