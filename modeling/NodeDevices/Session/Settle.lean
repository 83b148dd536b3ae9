import NodeDevices.Session.Basic
/-! Sessions whose feeders act until all of them wait: an end comes before anything else,
and the reader goes to the stream that has waited longest.
-/

namespace NodeDevices.Session

/-- The actions that the feeder of a stream tries, the preferred one first. -/
def attempts (number : Nat) : List Action :=
  [.look number, .begin number, .push number, .quit number, .take number, .store number,
    .receive number]

/-- The session after the first action that some feeder can do, if there is one. -/
def advance? (session : Session) : Option Session :=
  ((List.range session.streams.length).flatMap attempts).findSome? session.step?

/-- Lets the feeders act, in at most `bound` steps. -/
def settleWithin : Nat → Session → Session
  | 0, session => session
  | bound + 1, session =>
      match session.advance? with
      | some next => settleWithin bound next
      | none => session

/-- Lets the feeders act until all of them wait. Each stream looks at each device, begins,
takes the reader, catches up and ends at most once, and each unread event is received, stored
and pushed once.
-/
def settle (session : Session) : Session :=
  session.settleWithin ((session.roster.size + 4) * session.streams.length
    + 3 * session.channel.unread.length + 4)

/-- Performs actions, as far as they can happen, and lets the feeders act after them. -/
def actAll (session : Session) (actions : List Action) : Session :=
  (actions.foldl (fun session action => (session.step? action).getD session) session).settle

/-- Performs an action, if it can happen, and lets the feeders act. -/
def act (session : Session) (action : Action) : Session :=
  session.actAll [action]

end NodeDevices.Session
