import NodeDevices.Proofs.Plugin.Attempt
import NodeDevices.Proofs.Session.Monitored

/-! What a plugin does with the session that it holds is one of the runs, in which streams and
monitor take turns: feeders that act until all wait, and polls of all devices.
-/

namespace NodeDevices

open Health (Event Monitor)

namespace Session

/-- The action concerns the streams: no event is sent, and further ones are not ruled out. -/
def Action.OnStreams (action : Action) : Prop :=
  action.Silent ∧ action ≠ .closeEvents

namespace Chronicle

/-- What a chronicle performs happens in its session. -/
theorem session_perform (chronicle : Chronicle) (action : Action)
    : (chronicle.perform action).session
      = (chronicle.session.step? action).getD chronicle.session := by
  unfold perform
  split
  · next next can => rw [can]; rfl
  · next cannot => rw [cannot]; rfl

theorem session_foldl_perform (chronicle : Chronicle) (actions : List Action)
    : (actions.foldl perform chronicle).session
      = actions.foldl (fun session action => (session.step? action).getD session)
          chronicle.session := by
  induction actions generalizing chronicle with
  | nil => rfl
  | cons action rest ih => rw [List.foldl_cons, ih, session_perform, List.foldl_cons]

/-- What feeders do concerns the streams. -/
theorem onStreams_of_mem_attempts {count : Nat} {action : Action}
    (member : action ∈ (List.range count).flatMap attempts)
    : action.OnStreams := by
  obtain ⟨number, _, member⟩ := List.mem_flatMap.mp member
  constructor
  · intro event same
    simp [attempts, same] at member
  · intro same
    simp [attempts, same] at member

/-- What concerns the streams does not end the events. -/
theorem closed_perform {action : Action} (onStreams : action.OnStreams) (chronicle : Chronicle)
    : (chronicle.perform action).session.channel.closed
      = chronicle.session.channel.closed := by
  unfold perform
  split
  · next next can =>
      cases Step.of_step? can with
      | send => exact absurd rfl (onStreams.1 _)
      | closeEvents => exact absurd rfl onStreams.2
      | _ => rfl
  · rfl

theorem closed_foldl_perform {actions : List Action}
    (onStreams : ∀ action ∈ actions, action.OnStreams) (chronicle : Chronicle)
    : (actions.foldl perform chronicle).session.channel.closed
      = chronicle.session.channel.closed := by
  induction actions generalizing chronicle with
  | nil => rfl
  | cons action rest ih =>
      obtain ⟨first, others⟩ := List.forall_mem_cons.mp onStreams
      rw [List.foldl_cons, ih others, closed_perform first]

/-- Feeders that act until all of them wait take steps one after another. -/
theorem exists_settleWithin (chronicle : Chronicle) (bound : Nat)
    : ∃ taken : List Action,
        (∀ action ∈ taken, action.OnStreams)
        ∧ (taken.foldl perform chronicle).session = chronicle.session.settleWithin bound := by
  induction bound generalizing chronicle with
  | zero => exact ⟨[], by simp, rfl⟩
  | succ bound ih =>
      rw [settleWithin]
      split
      · next next advanced =>
          obtain ⟨action, member, can⟩ := List.exists_of_findSome?_eq_some advanced
          obtain ⟨taken, onStreams, settled⟩ := ih (chronicle.perform action)
          refine ⟨action :: taken, ?_, ?_⟩
          · exact List.forall_mem_cons.mpr ⟨onStreams_of_mem_attempts member, onStreams⟩
          · rw [List.foldl_cons, settled, session_perform, can]
            rfl
      · exact ⟨[], by simp, rfl⟩

/-- Actions after which the feeders act are the beginning of a run. -/
theorem exists_actAll (chronicle : Chronicle) (actions : List Action)
    : ∃ taken : List Action,
        (∀ action ∈ taken, action.OnStreams)
        ∧ ((actions ++ taken).foldl perform chronicle).session
          = chronicle.session.actAll actions := by
  obtain ⟨taken, onStreams, settled⟩ := exists_settleWithin (actions.foldl perform chronicle) _
  refine ⟨taken, onStreams, ?_⟩
  rw [List.foldl_append, settled, session_foldl_perform]
  rfl

end Chronicle

namespace Monitored

/-- What concerns the streams happens as it would without a monitor. -/
theorem foldl_perform_onStreams {actions : List Session.Action}
    (onStreams : ∀ action ∈ actions, action.OnStreams) (monitored : Monitored)
    : (actions.map .act).foldl perform monitored
      = { monitored with chronicle := actions.foldl Chronicle.perform monitored.chronicle } := by
  induction actions generalizing monitored with
  | nil => rfl
  | cons action rest ih =>
      obtain ⟨first, others⟩ := List.forall_mem_cons.mp onStreams
      rw [List.map_cons, List.foldl_cons, ih others, perform_silent first.1]
      rfl

/-- The probes of some devices, which stand from a position on in their roster. -/
def probes (answer : Int64 → Bool) (devices : List Device) (position : Nat) : List Action :=
  (devices.zipIdx position).map fun entry => .probe entry.2 (answer entry.1.uuid)

/-- Probing devices one after another, and sending each event at once, comes to the same as
when they are all probed before the events are sent.
-/
theorem foldl_perform_probes (answer : Int64 → Bool) {before devices : List Device}
    {monitored : Monitored}
    (known : monitored.chronicle.session.roster.devices = before ++ devices)
    (accepted : monitored.chronicle.session.channel.closed = false)
    : (probes answer devices before.length).foldl perform monitored
      = let polled := monitored.monitor.poll
          (devices.map fun device => (device.id, answer device.uuid))
        { chronicle := (polled.1.map .send).foldl Chronicle.perform monitored.chronicle
          monitor := polled.2 } := by
  induction devices generalizing before monitored with
  | nil => rfl
  | cons device rest ih =>
      have found : monitored.chronicle.session.roster.devices[before.length]? = some device := by
        simp [known]
      let observed := monitored.monitor.observe device.id (.ofProbe (answer device.uuid))
      have first : monitored.perform (.probe before.length (answer device.uuid))
          = { chronicle :=
                (observed.1.toList.map .send).foldl Chronicle.perform monitored.chronicle
              monitor := observed.2 } := by
        simp [perform, found, accepted, observed]
      obtain ⟨_, roster, stays⟩ := foldl_send accepted observed.1.toList
      have split : (before ++ [device]).length = before.length + 1 := by simp
      have later := @ih (before ++ [device]) {
          chronicle := (observed.1.toList.map .send).foldl Chronicle.perform monitored.chronicle
          monitor := observed.2
        } (by rw [roster, known, List.append_assoc]; rfl) stays
      rw [split] at later
      rw [probes, List.zipIdx_cons, List.map_cons, List.foldl_cons, first]
      refine later.trans ?_
      simp only [List.map_cons, Monitor.poll, List.map_append, List.foldl_append]
      rfl

end Monitored

end Session

namespace Plugin.Running

open Session

variable {roster : Roster} {running : Running}

/-- The session and the monitor are what a run comes to in which events can be sent. -/
def IsRun (roster : Roster) (running : Running) : Prop :=
  ∃ actions,
    (Monitored.run roster actions).chronicle.session = running.session
    ∧ running.monitor = some (Monitored.run roster actions).monitor
    ∧ running.session.channel.closed = false

/-- A session that has just begun is the empty run. -/
theorem isRun_of_fresh (session : running.session = { roster })
    (monitor : running.monitor = some (.ofRoster roster))
    : running.IsRun roster :=
  ⟨[], session.symm, monitor, by rw [session]⟩

/-- Whatever happens to the streams goes on with the run, and so do the feeders. -/
theorem IsRun.act (h : running.IsRun roster) {action : Session.Action}
    (onStreams : action.OnStreams)
    : IsRun roster { running with session := running.session.act action } := by
  obtain ⟨actions, session, monitor, accepted⟩ := h
  let monitored := Monitored.run roster actions
  obtain ⟨taken, settling, acted⟩ := monitored.chronicle.exists_actAll [action]
  have all : ∀ other ∈ [action] ++ taken, other.OnStreams :=
    List.forall_mem_append.mpr ⟨List.forall_mem_singleton.mpr onStreams, settling⟩
  have followed := Monitored.foldl_perform_onStreams all monitored
  refine ⟨actions ++ ([action] ++ taken).map .act, ?_, ?_, ?_⟩
  · rw [Monitored.run_append, followed, acted, session]
    rfl
  · rw [Monitored.run_append, followed]
    exact monitor
  · have closed := Chronicle.closed_foldl_perform all monitored.chronicle
    rw [acted, session] at closed
    exact closed.trans accepted

/-- A poll goes on with the run: one probe after another, and then the feeders. -/
theorem IsRun.poll (h : running.IsRun roster) (answer : Int64 → Bool)
    : IsRun roster (running.poll answer).2 := by
  obtain ⟨actions, session, monitor, accepted⟩ := h
  unfold Running.poll
  rw [monitor]
  dsimp only
  split
  · exact ⟨actions, session, monitor, accepted⟩
  · rw [← session] at accepted ⊢
    let monitored := Monitored.run roster actions
    let devices := monitored.chronicle.session.roster.devices
    let polled := monitored.monitor.poll
      (devices.map fun device => (device.id, answer device.uuid))
    let sends := polled.1.map Session.Action.send
    obtain ⟨taken, onStreams, acted⟩ := monitored.chronicle.exists_actAll sends
    let later := Monitored.probes answer devices 0 ++ taken.map .act
    have followed : Monitored.run roster (actions ++ later)
          = { chronicle := (sends ++ taken).foldl Chronicle.perform monitored.chronicle
              monitor := polled.2 } := by
      have probed := @Monitored.foldl_perform_probes answer [] devices monitored rfl accepted
      rw [Monitored.run_append, List.foldl_append, List.foldl_append]
      refine (congrArg (fun reached =>
        (taken.map .act).foldl Monitored.perform reached) probed).trans ?_
      exact Monitored.foldl_perform_onStreams onStreams _
    refine ⟨actions ++ later, ?_, ?_, ?_⟩
    · exact (congrArg (·.chronicle.session) followed).trans acted
    · exact congrArg some (congrArg Monitored.monitor followed).symm
    · have closed := Chronicle.closed_foldl_perform onStreams
        (sends.foldl Chronicle.perform monitored.chronicle)
      rw [← List.foldl_append, acted] at closed
      exact closed.trans (Monitored.foldl_send accepted polled.1).2.2

end Plugin.Running

-----------------------------------------------------------------------------------------
-- The session that a plugin holds
-----------------------------------------------------------------------------------------

namespace Plugin

variable {σ : Type} {plugin : Plugin}

/-- If the session that the plugin holds is monitored, it is a run of a list of devices. -/
def HoldsRun (plugin : Plugin) : Prop :=
  ∀ running,
    plugin.current = some running
    → running.monitor.isSome
    → ∃ devices, running.IsRun (.ofList devices)

theorem HoldsRun.of_none (none : plugin.current = none) : plugin.HoldsRun := by
  intro running held
  cases none.symm.trans held

theorem HoldsRun.act (h : plugin.HoldsRun) {action : Session.Action}
    (onStreams : action.OnStreams)
    : (plugin.act action).HoldsRun := by
  intro running held monitored
  obtain ⟨before, known, rfl⟩ := Option.map_eq_some_iff.mp held
  obtain ⟨devices, isRun⟩ := h before known monitored
  exact ⟨devices, isRun.act onStreams⟩

theorem HoldsRun.poll (h : plugin.HoldsRun) (answer : Int64 → Bool)
    : (plugin.poll answer).HoldsRun := by
  intro running held monitored
  obtain ⟨before, known, rfl⟩ := Option.map_eq_some_iff.mp held
  have watched : before.monitor.isSome := by
    cases none : before.monitor with
    | none => simp [Running.poll, none] at monitored
    | some monitor => rfl
  obtain ⟨devices, isRun⟩ := h before known watched
  exact ⟨devices, isRun.poll answer⟩

/-- A session that came up has just the devices that were listed for it. -/
theorem Attempt.session_eq {settings : Settings} {roster : Roster} {new : List Deed}
    {running : Running} (attempt : Attempt settings roster new (.ok ()) running)
    : running.session = { roster } := by
  cases attempt
  rfl

/-- Its monitor begins with the health that its devices have. -/
theorem Attempt.monitor_eq {settings : Settings} {roster : Roster} {new : List Deed}
    {running : Running} (attempt : Attempt settings roster new (.ok ()) running)
    : running.monitor = if settings.healthCheck then some (.ofRoster roster) else none := by
  cases attempt
  rfl

/-- A session that is held after a start has just the devices that were listed, at whatever
time.
-/
theorem session_of_start {host : Host σ} {world : σ} {running : Running}
    (held : (plugin.start host world).2.1.current = some running)
    : ∃ listing, running.session = { roster := .ofList (plugin.settings.listed host listing) } := by
  obtain ⟨listing, _, attempt⟩ := attempt_of_start held
  exact ⟨listing, attempt.session_eq⟩

theorem monitor_of_start {host : Host σ} {world : σ} {running : Running}
    (held : (plugin.start host world).2.1.current = some running)
    : running.monitor
      = if plugin.settings.healthCheck then some (.ofRoster running.session.roster)
        else .none := by
  obtain ⟨_, _, attempt⟩ := attempt_of_start held
  rw [attempt.session_eq]
  exact attempt.monitor_eq

/-- A session that is held after a start is the empty run of the devices that were listed. -/
theorem start_holdsRun (host : Host σ) (plugin : Plugin) (world : σ)
    : (plugin.start host world).2.1.HoldsRun := by
  intro running held monitored
  obtain ⟨listing, _, attempt⟩ := attempt_of_start held
  rw [attempt.monitor_eq, Option.isSome_ite] at monitored
  refine ⟨plugin.settings.listed host listing, ?_⟩
  exact Running.isRun_of_fresh attempt.session_eq (attempt.monitor_eq.trans (if_pos monitored))

theorem stop_holdsRun (host : Host σ) (plugin : Plugin) (world : σ)
    : (plugin.stop host world).2.1.HoldsRun := by
  unfold stop
  split
  · next none => exact .of_none none
  · exact .of_none rfl

end Plugin

end NodeDevices
