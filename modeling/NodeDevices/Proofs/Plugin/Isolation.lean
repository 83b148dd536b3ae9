import NodeDevices.Allocation
import NodeDevices.Proofs.Inventory.Listing
import NodeDevices.Proofs.Plugin.Attempt
import NodeDevices.Proofs.Plugin.Sessions
import NodeDevices.Proofs.Plugin.Store

/-! A plugin whose sessions share a heap. What once worked for the sessions before the one that is
held goes on there and takes steps at any time. To the plugin and to the session that it holds it
is as if they did not.
-/

namespace NodeDevices.Plugin

open Health (Monitor)
open Session (Monitored)

variable {σ : Type} {host : Host σ} {settings : Settings}

-----------------------------------------------------------------------------------------
-- What a call comes to
-----------------------------------------------------------------------------------------

/-- A session of a list of devices in which nothing has happened, but that it may be stopped. -/
structure Running.IsNew (running : Running) (devices : List Device) (stopped : Bool) : Prop where
  session : running.session = { roster := .ofList devices, stopped }
  monitor : ∀ monitor, running.monitor = some monitor → monitor = .ofRoster (.ofList devices)

/-- A session as it is after its monitor and its streams went on. -/
def Running.resume (running : Running) (monitored : Monitored) : Running :=
  { running with
    session := monitored.chronicle.session
    monitor := running.monitor.map fun _ => monitored.monitor }

theorem Running.resume_resume (running : Running) (first second : Monitored)
    : (running.resume first).resume second = running.resume second := by
  rw [resume, resume, resume, Option.map_map]
  rfl

/-- A session as it begins, with its monitor. -/
def Running.opening (running : Running) : Monitored where
  chronicle := { session := running.session }
  monitor := .ofRoster running.session.roster

namespace Running.IsNew

variable {running : Running} {devices : List Device} {stopped : Bool}

theorem distinct (h : running.IsNew devices stopped) : running.session.roster.ids.Nodup := by
  rw [h.session]
  exact Roster.nodup_ids_ofList devices

/-- A session that is new and not stopped is the empty run of its devices. -/
theorem opening_eq_run (h : running.IsNew devices false)
    : running.opening = Monitored.run (.ofList devices) [] := by
  rw [opening, h.session]
  rfl

theorem resume_opening (h : running.IsNew devices stopped)
    : running.resume running.opening = running := by
  cases watched : running.monitor with
  | none => rw [resume, opening, watched, Option.map_none, ← watched]
  | some monitor =>
      have seeded := h.monitor monitor watched
      rw [resume, opening, watched, Option.map_some, h.session, ← seeded, ← h.session,
        ← watched]

end Running.IsNew

/-- What a call comes to: the phase, a session that was begun, and whether it is held. -/
structure Turn (σ : Type) where
  phase : Phase
  begun : Option Running
  holds : Bool
  world : σ

namespace Turn

/-- The plugin after a call and its world, given the sessions that it had before. -/
def after (turn : Turn σ) (settings : Settings) (past : List Running) : Plugin × σ :=
  ({
    settings
    phase := turn.phase
    current := if turn.holds then turn.begun else none
    past := if turn.holds then past else past ++ turn.begun.toList
  }, turn.world)

theorem sessions_after (turn : Turn σ) (settings : Settings) (past : List Running)
    : (turn.after settings past).1.sessions = past ++ turn.begun.toList := by
  cases holds : turn.holds <;> simp [after, sessions, holds]

/-- What is begun is a session of the devices that were listed, which is told to stop if it is not
held.
-/
def Begins (turn : Turn σ) (host : Host σ) (settings : Settings) : Prop :=
  ∀ running,
    turn.begun = some running
    → ∃ listing,
        running.IsNew (host.listDevices settings.node settings.cls.deviceType listing).1
          (!turn.holds)

end Turn

/-- An attempt leaves a session in which nothing has happened, but that it is told to stop when it
did not come up.
-/
theorem Attempt.isNew {devices : List Device} {new : List Deed}
    {result : Except PluginError Unit} {running : Running}
    (attempt : Attempt settings (.ofList devices) new result running)
    : running.IsNew devices (!result.toBool) := by
  cases attempt with
  | blocked => exact ⟨rfl, nofun⟩
  | unbound => exact ⟨rfl, nofun⟩
  | silent => exact ⟨rfl, nofun⟩
  | refused => exact ⟨rfl, nofun⟩
  | accepted =>
      refine ⟨rfl, fun monitor held => ?_⟩
      obtain ⟨-, seeded⟩ := Option.ite_none_right_eq_some.mp held
      exact (Option.some.inj seeded).symm

/-- How a session begins does not depend on those that the plugin had before. -/
theorem exists_begin (host : Host σ) (settings : Settings) (world : σ)
    : ∃ turn : Turn σ,
        turn.Begins host settings
        ∧ ∀ phase past,
            (begin host { settings, phase, past } world).2 = turn.after settings past := by
  obtain ⟨_, result, running, left, attempt, plain, -⟩ := exists_attempt host settings world
  refine ⟨⟨if result.toBool then .serving else .idle, some running, result.toBool, left⟩, ?_, ?_⟩
  · rintro _ ⟨⟩
    exact ⟨world, attempt.isNew⟩
  · intro phase past
    rw [plain]
    cases result <;> rfl

/-- A call tears down the session that is held, and what else it does depends on no session. -/
theorem exists_turn (host : Host σ) (settings : Settings) (phase : Phase)
    (current : Option Running) (world : σ) (next : Call)
    : ∃ turn : Turn σ,
        turn.Begins host settings
        ∧ ∀ past,
            call host ({ settings, phase, current, past }, world) next
              = turn.after settings (past ++ (current.map Running.halt).toList) := by
  have idle (phase : Phase) (left : σ)
      : (⟨phase, none, false, left⟩ : Turn σ).Begins host settings :=
    nofun
  cases current with
  | none =>
      cases next with
      | start =>
          obtain ⟨turn, begins, begun⟩ := exists_begin host settings world
          exact ⟨turn, begins, fun past => by simpa [call, start] using begun phase past⟩
      | stop =>
          refine ⟨⟨phase, none, false, world⟩, idle _ _, ?_⟩
          simp [call, stop, Turn.after]
  | some held =>
      rcases removal : host.removeSocket settings.socketPath world with ⟨removed, left⟩
      cases next with
      | start =>
          cases removed with
          | false =>
              refine ⟨⟨phase, none, false, left⟩, idle _ _, ?_⟩
              simp [call, start, tearDown, removal, Turn.after]
          | true =>
              obtain ⟨turn, begins, begun⟩ := exists_begin host settings left
              refine ⟨turn, begins, fun past => ?_⟩
              simpa [call, start, tearDown, removal] using begun phase (past ++ [held.halt])
      | stop =>
          refine ⟨⟨.stopped, none, false, left⟩, idle _ _, ?_⟩
          simp [call, stop, tearDown, removal, Turn.after]

-----------------------------------------------------------------------------------------
-- Plugins whose sessions share a heap
-----------------------------------------------------------------------------------------

/-- A plugin in its world, with all sessions that it had in one heap. -/
structure Shared (σ : Type) where
  plugin : Plugin
  world : σ
  store : Store

/-- What happens in the session with a number. -/
abbrev Deal := Nat × Monitored.Action

/-- A step of a plugin or of what works for a session, or once did. -/
inductive Step where
  /-- A call to the plugin, with what happens in sessions while it is under way. -/
  | call (next : Call) (meanwhile : List Deal)
  | work (deal : Deal)

namespace Shared

/-- A new plugin. -/
def new (settings : Settings) (world : σ) : Shared σ where
  plugin := { settings }
  world
  store := {}

/-- The monitored session that the plugin holds, as it is in the heap. -/
def now (shared : Shared σ) : Option Monitored :=
  shared.plugin.current.bind fun _ => shared.store.monitored? shared.plugin.past.length

/-- The plugin finds its sessions as they are in the heap, whichever of them changed. -/
def reread (shared : Shared σ) : Shared σ :=
  let found (number : Nat) (running : Running) : Running :=
    ((shared.store.monitored? number).map running.resume).getD running
  { shared with
    plugin := { shared.plugin with
      past := shared.plugin.past.mapIdx found
      current := shared.plugin.current.map (found shared.plugin.past.length) } }

/-- Something happens in a session. -/
def work (shared : Shared σ) (deal : Deal) : Shared σ :=
  { shared with store := shared.store.work deal.1 deal.2 }.reread

/-- The sessions while a call is under way: first the one that the plugin holds is told to stop. -/
def interim (shared : Shared σ) (meanwhile : List Deal) : Store :=
  let stopped :=
    if shared.plugin.current.isSome then
      shared.store.work shared.plugin.past.length (.act .stop)
    else shared.store
  meanwhile.foldl (fun store deal => store.work deal.1 deal.2) stopped

/-- Makes room for a session beside others. -/
def allot (store : Store) (running : Running) : Store :=
  store.allot running.session.roster running.session.stopped

/-- A call to the plugin. Room is made for a session that it begins. -/
def call (host : Host σ) (shared : Shared σ) (next : Call) (meanwhile : List Deal) : Shared σ :=
  let (plugin, world) := Plugin.call host (shared.plugin, shared.world) next
  let begun := plugin.sessions.drop shared.plugin.sessions.length
  { plugin, world, store := begun.foldl allot (shared.interim meanwhile) : Shared σ }.reread

/-- Takes a step. -/
def step (host : Host σ) (shared : Shared σ) : Step → Shared σ
  | .call next meanwhile => shared.call host next meanwhile
  | .work deal => shared.work deal

/-- A new plugin after some steps. -/
def run (host : Host σ) (settings : Settings) (world : σ) (steps : List Step) : Shared σ :=
  steps.foldl (step host) (new settings world)

/-- The step is taken, at least in part, for sessions that the plugin no longer holds. -/
def IsLeftover (shared : Shared σ) : Step → Prop
  | .call _ meanwhile => meanwhile ≠ []
  | .work (number, _) => number < shared.plugin.past.length

/-- What a step is without what is done for sessions that the plugin no longer holds. -/
def kept? (shared : Shared σ) : Step → Option Step
  | .call next _ => some (.call next [])
  | .work (number, action) =>
      if number < shared.plugin.past.length then none else some (.work (number, action))

/-- The steps without what is done for sessions that the plugin no longer holds. -/
def withoutLeftovers (host : Host σ) : Shared σ → List Step → List Step
  | _, [] => []
  | shared, step :: rest =>
      (shared.kept? step).toList ++ withoutLeftovers host (shared.step host step) rest

/-- The sessions in the heap that were not there before. -/
def begun (before after : Shared σ) : List Monitored :=
  (after.store.services.drop before.store.services.length).map (·.monitored after.store.heap)

-----------------------------------------------------------------------------------------
-- What the plugin finds in the heap
-----------------------------------------------------------------------------------------

variable {shared : Shared σ}

theorem now_of_held {running : Running} (held : shared.plugin.current = some running)
    : shared.now = shared.store.monitored? shared.plugin.past.length := by
  rw [now, held]
  rfl

theorem length_past_reread (shared : Shared σ)
    : shared.reread.plugin.past.length = shared.plugin.past.length :=
  List.length_mapIdx

theorem current_reread (shared : Shared σ)
    : shared.reread.plugin.current
      = shared.plugin.current.map fun running => (shared.now.map running.resume).getD running := by
  cases held : shared.plugin.current with
  | none => simp [reread, held]
  | some running =>
      rw [now_of_held held, reread, held]

theorem now_reread (shared : Shared σ) : shared.reread.now = shared.now := by
  have store : shared.reread.store = shared.store := rfl
  cases held : shared.plugin.current with
  | none => simp [now, reread, held]
  | some running =>
      have found : shared.reread.plugin.current = some _ := congrArg (Option.map _) held
      rw [now_of_held found, now_of_held held, length_past_reread, store]

theorem length_sessions_reread (shared : Shared σ)
    : shared.reread.plugin.sessions.length = shared.plugin.sessions.length := by
  rw [sessions, sessions, List.length_append, List.length_append, length_past_reread,
    current_reread]
  cases shared.plugin.current <;> rfl

/-- Every session has its place in the heap, and the one that is held is what it became of its
own actions.
-/
structure Placed (settings : Settings) (shared : Shared σ) : Prop where
  settled : shared.plugin.settings = settings
  owned : shared.store.Owned
  length : shared.store.services.length = shared.plugin.sessions.length
  ran
    : ∀ running,
        shared.plugin.current = some running
        → ∃ devices actions, shared.now = some (Monitored.run (.ofList devices) actions)

/-- Every session has its place in the heap, and the plugin holds what is there. -/
structure Intact (settings : Settings) (shared : Shared σ) : Prop
    extends Placed settings shared where
  agrees : shared.reread.plugin.current = shared.plugin.current

theorem new_intact (settings : Settings) (world : σ) : (new settings world).Intact settings where
  settled := rfl
  owned := Store.owned_empty
  length := rfl
  ran := nofun
  agrees := rfl

/-- The plugin holds what it has found. -/
theorem Placed.reread (h : shared.Placed settings) : shared.reread.Intact settings where
  settled := h.settled
  owned := h.owned
  length := h.length.trans (length_sessions_reread shared).symm
  ran running held := by
    rw [current_reread] at held
    obtain ⟨before, known, _⟩ := Option.map_eq_some_iff.mp held
    rw [now_reread]
    exact h.ran before known
  agrees := by
    rw [current_reread shared.reread, now_reread, current_reread, Option.map_map]
    apply Option.map_congr
    intro running _
    cases shared.now with
    | none => rfl
    | some monitored => exact running.resume_resume monitored monitored

-----------------------------------------------------------------------------------------
-- What happens in sessions
-----------------------------------------------------------------------------------------

/-- The session that is held goes on by itself. -/
theorem now_work (owned : shared.store.Owned) (deal : Deal)
    : (shared.work deal).now
      = if deal.1 = shared.plugin.past.length then shared.now.map (·.perform deal.2)
        else shared.now := by
  have monitored := owned.monitored?_work deal.1 deal.2 shared.plugin.past.length
  rw [work, now_reread]
  cases held : shared.plugin.current with
  | none => simp [now, held]
  | some running =>
      simp only [now, held, Option.bind_some]
      simpa only [eq_comm] using monitored

theorem Intact.work (h : shared.Intact settings) (deal : Deal)
    : (shared.work deal).Intact settings := by
  apply Placed.reread
  refine {
    settled := h.settled
    owned := h.owned.work deal.1 deal.2
    length := (Store.length_work deal.1 deal.2).trans h.length
    ran := ?_
  }
  intro running held
  obtain ⟨devices, actions, ran⟩ := h.ran running held
  rw [← now_reread]
  have now := now_work h.owned deal
  rw [ran] at now
  split at now
  · refine ⟨devices, actions ++ [deal.2], now.trans ?_⟩
    rw [Monitored.run_append]
    rfl
  · exact ⟨devices, actions, now⟩

/-- While a call is under way, all sessions keep their places. -/
theorem Placed.interim (h : shared.Placed settings) (meanwhile : List Deal)
    : (shared.interim meanwhile).Owned
      ∧ (shared.interim meanwhile).services.length = shared.plugin.sessions.length := by
  have goesOn (store : Store) (owned : store.Owned)
      (length : store.services.length = shared.plugin.sessions.length)
      : (meanwhile.foldl (fun store deal => store.work deal.1 deal.2) store).Owned
        ∧ (meanwhile.foldl (fun store deal => store.work deal.1 deal.2) store).services.length
          = shared.plugin.sessions.length := by
    induction meanwhile generalizing store with
    | nil => exact ⟨owned, length⟩
    | cons deal rest ih =>
        exact ih _ (owned.work deal.1 deal.2) ((Store.length_work _ _).trans length)
  unfold Shared.interim
  dsimp only
  split
  · exact goesOn _ (h.owned.work _ _) ((Store.length_work _ _).trans h.length)
  · exact goesOn _ h.owned h.length

-----------------------------------------------------------------------------------------
-- What a call leaves
-----------------------------------------------------------------------------------------

/-- The sessions that a plugin no longer holds after a call. -/
def former (shared : Shared σ) : List Running :=
  shared.plugin.past ++ (shared.plugin.current.map Running.halt).toList

theorem length_former : shared.former.length = shared.plugin.sessions.length := by
  rw [former, sessions, List.length_append, List.length_append]
  cases shared.plugin.current <;> rfl

/-- What a plugin whose sessions share a heap comes to by a call. -/
def turned (shared : Shared σ) (turn : Turn σ) (meanwhile : List Deal) : Shared σ where
  plugin := (turn.after shared.plugin.settings shared.former).1
  world := turn.world
  store := turn.begun.elim (shared.interim meanwhile) (allot (shared.interim meanwhile))

variable {turn : Turn σ} {meanwhile : List Deal}

/-- A call to the plugin begins its session in the heap. -/
theorem call_of_turn {next : Call}
    (calls
      : Plugin.call host (shared.plugin, shared.world) next
        = turn.after shared.plugin.settings shared.former)
    : shared.call host next meanwhile = (shared.turned turn meanwhile).reread := by
  have sessions := turn.sessions_after shared.plugin.settings shared.former
  rw [call, calls, turned]
  dsimp only
  rw [sessions, ← length_former, List.drop_left]
  cases turn.begun <;> rfl

theorem current_turned
    : (shared.turned turn meanwhile).plugin.current
      = if turn.holds then turn.begun else none :=
  rfl

theorem past_turned
    : (shared.turned turn meanwhile).plugin.past
      = if turn.holds then shared.former else shared.former ++ turn.begun.toList :=
  rfl

/-- A session that is begun is in the heap as it begins. -/
theorem Placed.opened (h : shared.Placed settings) (begins : turn.Begins host settings)
    (meanwhile : List Deal) {running : Running} (opens : turn.begun = some running)
    : (shared.turned turn meanwhile).store.monitored? shared.plugin.sessions.length
      = some running.opening := by
  obtain ⟨owned, length⟩ := h.interim meanwhile
  obtain ⟨listing, new⟩ := begins running opens
  rw [turned, opens, Option.elim_some, allot, owned.monitored?_allot, if_pos length.symm,
    Running.opening, new.session]

/-- A session that is held after a call is held as it begins. -/
theorem Placed.now_turned (h : shared.Placed settings) (begins : turn.Begins host settings)
    (meanwhile : List Deal)
    : (shared.turned turn meanwhile).now
      = if turn.holds then turn.begun.map Running.opening else none := by
  cases holds : turn.holds with
  | false => simp [now, current_turned, holds]
  | true =>
      cases opens : turn.begun with
      | none => simp [now, current_turned, opens]
      | some running =>
          have current : (shared.turned turn meanwhile).plugin.current = some running := by
            rw [current_turned, holds, if_pos rfl, opens]
          rw [now_of_held current, past_turned, holds, if_pos rfl, length_former]
          exact h.opened begins meanwhile opens

/-- A call begins in the heap what it begins. -/
theorem Placed.begun_turned (h : shared.Placed settings) (begins : turn.Begins host settings)
    : shared.begun (shared.turned turn meanwhile) = turn.begun.toList.map Running.opening := by
  have length := (h.interim meanwhile).2.trans h.length.symm
  cases opens : turn.begun with
  | none =>
      have services : (shared.turned turn meanwhile).store.services
          = (shared.interim meanwhile).services := by
        rw [turned, opens, Option.elim_none]
      rw [begun, services, ← length, List.drop_length]
      rfl
  | some running =>
      have services : (shared.turned turn meanwhile).store.services
          = (shared.interim meanwhile).services
            ++ [(shared.interim meanwhile).newcomer running.session.roster] := by
        rw [turned, opens, Option.elim_some]
        rfl
      have opened := h.opened begins meanwhile opens
      rw [Store.monitored?, services, ← (h.interim meanwhile).2, List.getElem?_concat_length]
        at opened
      rw [begun, services, ← length, List.drop_left]
      exact congrArg Option.toList opened

theorem Placed.turned (h : shared.Placed settings) (begins : turn.Begins host settings)
    (meanwhile : List Deal)
    : (shared.turned turn meanwhile).Placed settings := by
  obtain ⟨owned, length⟩ := h.interim meanwhile
  have all : (shared.turned turn meanwhile).plugin.sessions
      = shared.former ++ turn.begun.toList :=
    turn.sessions_after _ _
  have ran (running : Running)
      (holds : (shared.turned turn meanwhile).plugin.current = some running)
      : ∃ devices actions,
          (shared.turned turn meanwhile).now
            = some (Monitored.run (.ofList devices) actions) := by
    have now := h.now_turned begins meanwhile
    rw [current_turned] at holds
    split at holds
    · next holding =>
        obtain ⟨listing, new⟩ := begins running holds
        rw [holding] at new
        rw [if_pos holding, holds, Option.map_some, new.opening_eq_run] at now
        exact ⟨_, [], now⟩
    · cases holds
  cases opens : turn.begun with
  | none =>
      have store : (shared.turned turn meanwhile).store = shared.interim meanwhile := by
        rw [Shared.turned, opens, Option.elim_none]
      refine { settled := h.settled, owned := store ▸ owned, length := ?_, ran }
      rw [store, all, opens, length, ← length_former]
      simp
  | some running =>
      obtain ⟨listing, new⟩ := begins running opens
      have store : (shared.turned turn meanwhile).store
          = allot (shared.interim meanwhile) running := by
        rw [Shared.turned, opens, Option.elim_some]
      refine { settled := h.settled, owned := ?_, length := ?_, ran }
      · rw [store]
        exact owned.allot new.distinct _
      · rw [store, all, opens, allot, Store.length_allot, length, ← length_former]
        simp

/-- What the plugin finds after a call is what the call left. -/
theorem Placed.current_call (h : shared.Placed settings) (begins : turn.Begins host settings)
    : (shared.turned turn meanwhile).reread.plugin.current
      = (shared.turned turn meanwhile).plugin.current := by
  rw [current_reread, h.now_turned begins, current_turned]
  split
  · cases opens : turn.begun with
    | none => rfl
    | some running =>
        obtain ⟨listing, new⟩ := begins running opens
        exact congrArg some new.resume_opening
  · rfl

-----------------------------------------------------------------------------------------
-- Runs with and without leftovers
-----------------------------------------------------------------------------------------

/-- Two plugins that differ at most in the sessions that they no longer hold. -/
structure Alike (first second : Shared σ) : Prop where
  world : first.world = second.world
  phase : first.plugin.phase = second.plugin.phase
  current : first.plugin.current = second.plugin.current
  past : first.plugin.past.length = second.plugin.past.length
  now : first.now = second.now

variable {first second : Shared σ}

theorem Alike.refl (shared : Shared σ) : shared.Alike shared :=
  ⟨rfl, rfl, rfl, rfl, rfl⟩

theorem Alike.reread (h : first.Alike second) : first.reread.Alike second.reread where
  world := h.world
  phase := h.phase
  current := by rw [current_reread, current_reread, h.current, h.now]
  past := by rw [length_past_reread, length_past_reread, h.past]
  now := by rw [now_reread, now_reread, h.now]

/-- Of what happens in a session that is not held nothing is seen. -/
theorem Alike.work_leftover (h : first.Alike second) (intact : first.Intact settings)
    {deal : Deal} (leftover : deal.1 < first.plugin.past.length)
    : (first.work deal).Alike second := by
  have now : (first.work deal).now = first.now := by
    rw [now_work intact.owned, if_neg leftover.ne]
  -- the plugin held what it finds, and it finds what it found
  have current : (first.work deal).plugin.current = first.plugin.current := by
    rw [← intact.agrees, current_reread, ← now]
    rw [work, current_reread, now_reread]
  exact {
    world := h.world
    phase := h.phase
    current := current.trans h.current
    past := (length_past_reread _).trans h.past
    now := now.trans h.now
  }

/-- What happens in the session that is held comes to the same. -/
theorem Alike.work (h : first.Alike second) (intact : first.Intact settings)
    (other : second.Intact settings) (deal : Deal)
    : (first.work deal).Alike (second.work deal) := by
  have now : (first.work deal).now = (second.work deal).now := by
    rw [now_work intact.owned, now_work other.owned, h.now, h.past]
  rw [Shared.work, Shared.work, now_reread, now_reread] at now
  exact Alike.reread ⟨h.world, h.phase, h.current, h.past, now⟩

/-- Every call comes to a turn, which does not depend on what happens in the meantime. -/
theorem Intact.exists_turned (h : shared.Intact settings) (host : Host σ) (next : Call)
    : ∃ turn,
        turn.Begins host settings
        ∧ (Plugin.call host (shared.plugin, shared.world) next).1.current
          = (if turn.holds then turn.begun else none)
        ∧ ∀ (other : Shared σ) meanwhile,
            other.Intact settings
            → shared.Alike other
            → other.call host next meanwhile = (other.turned turn meanwhile).reread := by
  obtain ⟨turn, begins, calls⟩ :=
    exists_turn host settings shared.plugin.phase shared.plugin.current shared.world next
  refine ⟨turn, begins, ?_, ?_⟩
  · have called := calls shared.plugin.past
    rw [← h.settled] at called
    exact congrArg (·.1.current) called
  · intro other meanwhile intact alike
    have called := calls other.plugin.past
    rw [alike.phase, alike.current, alike.world, ← intact.settled] at called
    exact call_of_turn called

/-- A call comes to the same, whatever happens meanwhile in sessions that are not held. -/
theorem Alike.call (h : first.Alike second) (intact : first.Intact settings)
    (other : second.Intact settings) (host : Host σ) (next : Call)
    (meanwhile otherwise : List Deal)
    : (first.call host next meanwhile).Alike (second.call host next otherwise) := by
  obtain ⟨turn, begins, _, turned⟩ := intact.exists_turned host next
  rw [turned first meanwhile intact (.refl first), turned second otherwise other h]
  have length : first.former.length = second.former.length := by
    rw [former, former, List.length_append, List.length_append, h.past, h.current]
  apply Alike.reread
  refine { world := rfl, phase := rfl, current := rfl, past := ?_, now := ?_ }
  · rw [past_turned, past_turned]
    split
    · exact length
    · rw [List.length_append, List.length_append, length]
  · rw [intact.now_turned begins, other.now_turned begins]

theorem Intact.step (h : shared.Intact settings) (host : Host σ) (step : Step)
    : (shared.step host step).Intact settings := by
  cases step with
  | work deal => exact h.work deal
  | call next meanwhile =>
      obtain ⟨turn, begins, _, turned⟩ := h.exists_turned host next
      rw [Shared.step, turned shared meanwhile h (.refl shared)]
      exact (h.turned begins meanwhile).reread

/-- The session that is held is what it became of its own actions. -/
theorem Intact.held (h : shared.Intact settings) {running : Running}
    (held : shared.plugin.current = some running)
    : ∃ devices actions,
        let monitored := Monitored.run (.ofList devices) actions
        shared.now = some monitored ∧ running.resume monitored = running := by
  obtain ⟨devices, actions, ran⟩ := h.ran running held
  refine ⟨devices, actions, ran, ?_⟩
  have agrees := h.agrees
  rw [current_reread, ran, held] at agrees
  exact Option.some.inj agrees

theorem Intact.foldl_step (h : shared.Intact settings) (host : Host σ) (steps : List Step)
    : (steps.foldl (Shared.step host) shared).Intact settings := by
  induction steps generalizing shared with
  | nil => exact h
  | cons step rest ih => exact ih (h.step host step)

/-- What is left out of a step makes no difference. -/
theorem Alike.step (h : first.Alike second) (intact : first.Intact settings)
    (other : second.Intact settings) (host : Host σ) (step : Step)
    : (first.step host step).Alike
        ((first.kept? step).toList.foldl (Shared.step host) second) := by
  cases step with
  | call next meanwhile => exact h.call intact other host next meanwhile []
  | work deal =>
      simp only [kept?]
      split
      · next leftover => exact h.work_leftover intact leftover
      · exact h.work intact other deal

/-- What is done for sessions that are not held makes no difference. -/
theorem Alike.withoutLeftovers (h : first.Alike second) (intact : first.Intact settings)
    (other : second.Intact settings) (host : Host σ) (steps : List Step)
    : (steps.foldl (Shared.step host) first).Alike
        ((first.withoutLeftovers host steps).foldl (Shared.step host) second) := by
  induction steps generalizing first second with
  | nil => exact h
  | cons step rest ih =>
      rw [Shared.withoutLeftovers, List.foldl_cons, List.foldl_append]
      exact ih (h.step intact other host step) (intact.step host step)
        (other.foldl_step host _)

theorem not_isLeftover_of_kept? {step kept : Step} (keeps : first.kept? step = some kept)
    (past : first.plugin.past.length = second.plugin.past.length)
    : ¬ second.IsLeftover kept := by
  cases step with
  | call next meanwhile =>
      cases keeps
      simp [IsLeftover]
  | work deal =>
      simp only [kept?] at keeps
      split at keeps
      · cases keeps
      · next current =>
          cases keeps
          simpa [IsLeftover, ← past] using current

/-- Of the steps that are kept none is taken for a session that is not held. -/
theorem Alike.not_isLeftover (h : first.Alike second) (intact : first.Intact settings)
    (other : second.Intact settings) (host : Host σ) {steps before after : List Step}
    {step : Step} (split : first.withoutLeftovers host steps = before ++ step :: after)
    : ¬ (before.foldl (Shared.step host) second).IsLeftover step := by
  induction steps generalizing first second before with
  | nil => simp [Shared.withoutLeftovers] at split
  | cons head rest ih =>
      have follows := h.step intact other host head
      have intact := intact.step host head
      rw [Shared.withoutLeftovers] at split
      cases keeps : first.kept? head with
      | none =>
          rw [keeps] at split follows
          exact ih follows intact other split
      | some kept =>
          rw [keeps] at split follows
          cases before with
          | nil =>
              obtain ⟨rfl, _⟩ := List.cons.inj split
              exact not_isLeftover_of_kept? keeps h.past
          | cons earlier before =>
              obtain ⟨rfl, later⟩ := List.cons.inj split
              exact ih follows intact (other.step host kept) later

-----------------------------------------------------------------------------------------
-- How sessions begin
-----------------------------------------------------------------------------------------

/-- What a call begins are sessions of devices that were listed, in which nothing has happened. A
session that is held after the call is one of them.
-/
theorem Intact.call_begins (h : shared.Intact settings) (host : Host σ) (next : Call)
    (meanwhile : List Deal)
    : let after := shared.call host next meanwhile
      after.plugin.current = (Plugin.call host (shared.plugin, shared.world) next).1.current
      ∧ (∀ monitored ∈ shared.begun after,
          ∃ listing stopped,
            let roster :=
              Roster.ofList (host.listDevices settings.node settings.cls.deviceType listing).1
            monitored = {
              chronicle := { session := { roster, stopped } }
              monitor := .ofRoster roster })
      ∧ ∀ monitored, after.now = some monitored → monitored ∈ shared.begun after := by
  intro after
  obtain ⟨turn, begins, current, turned⟩ := h.exists_turned host next
  have same : after = (shared.turned turn meanwhile).reread :=
    turned shared meanwhile h (.refl shared)
  have begun : shared.begun after = turn.begun.toList.map Running.opening :=
    same ▸ h.begun_turned begins
  rw [begun, same, now_reread, h.now_turned begins, h.current_call begins, current]
  refine ⟨rfl, ?_, ?_⟩
  · intro monitored member
    obtain ⟨running, opens, rfl⟩ := List.mem_map.mp member
    obtain ⟨listing, new⟩ := begins running (Option.mem_toList.mp opens)
    refine ⟨listing, !turn.holds, ?_⟩
    rw [Running.opening, new.session]
  · intro monitored held
    split at held
    · obtain ⟨running, opens, rfl⟩ := Option.map_eq_some_iff.mp held
      exact List.mem_map_of_mem (Option.mem_toList.mpr opens)
    · cases held

end Shared

/-- A host whose devices are those that a client lists over a network. -/
def Host.listedBy (host : Host σ) (client : Inventory.Client)
    (network : σ → Http.Transport × σ)
    : Host σ :=
  { host with
    listDevices := fun node deviceType world =>
      (client.listDevices (network world).1 node deviceType, (network world).2) }

/-- A plugin and the session that it holds go on as if nothing worked any more for the sessions
before, whatever their devices are called: the devices have the same health, the same lists were
pushed, and every allocation comes to the same. Each session begins with no event in its channel,
and with all its devices healthy if they were listed by a client.
-/
theorem run_isolatesSessions (host : Host σ) (settings : Settings) (world : σ)
    (steps : List Step)
    : let full := Shared.run host settings world steps
      let kept := (Shared.new settings world).withoutLeftovers host steps
      let alone := Shared.run host settings world kept
      (∀ before step after,
        kept = before ++ step :: after
        → ¬ (Shared.run host settings world before).IsLeftover step)
      ∧ alone.world = full.world
      ∧ alone.plugin.phase = full.plugin.phase
      ∧ alone.plugin.current = full.plugin.current
      ∧ alone.now = full.now
      ∧ (∀ cls lookup? requests,
          alone.plugin.roster?.map (Allocation.allocate cls · lookup? requests)
          = full.plugin.roster?.map (Allocation.allocate cls · lookup? requests))
      ∧ (∀ running,
          full.plugin.current = some running
          → ∃ devices actions,
              let monitored := Monitored.run (.ofList devices) actions
              full.now = some monitored ∧ running.session = monitored.chronicle.session)
      ∧ (∀ next meanwhile,
          let after := full.call host next meanwhile
          after.plugin.current = (call host (full.plugin, full.world) next).1.current
          ∧ (∀ monitored ∈ full.begun after,
            monitored.chronicle.session.channel = {} ∧ monitored.chronicle.history = {})
          ∧ ∀ monitored, after.now = some monitored → monitored ∈ full.begun after)
      ∧ ∀ client network,
          let listed := host.listedBy client network
          let full := Shared.run listed settings world steps
          ∀ next meanwhile, ∀ monitored ∈ full.begun (full.call listed next meanwhile),
            ∀ device ∈ monitored.chronicle.session.roster.devices,
              device.health = .healthy := by
  intro full kept alone
  have fresh := Shared.new_intact settings world
  have same := Shared.Alike.refl (Shared.new settings world)
  have intact : full.Intact settings := fresh.foldl_step host steps
  have alike : full.Alike alone := same.withoutLeftovers fresh fresh host steps
  refine ⟨?_, alike.world.symm, alike.phase.symm, alike.current.symm, alike.now.symm, ?_, ?_, ?_,
    ?_⟩
  · intro before step after split
    exact same.not_isLeftover fresh fresh host split
  · intro cls lookup? requests
    rw [roster?, roster?, alike.current]
  · intro running held
    obtain ⟨devices, actions, now, resumed⟩ := intact.held held
    exact ⟨devices, actions, now, congrArg Running.session resumed.symm⟩
  · intro next meanwhile after
    obtain ⟨current, begins, held⟩ := intact.call_begins host next meanwhile
    refine ⟨current, ?_, held⟩
    intro monitored member
    obtain ⟨listing, stopped, rfl⟩ := begins monitored member
    exact ⟨rfl, rfl⟩
  · intro client network listed full next meanwhile monitored member device among
    have intact : full.Intact settings := fresh.foldl_step listed steps
    obtain ⟨_, begins, _⟩ := intact.call_begins listed next meanwhile
    obtain ⟨listing, stopped, rfl⟩ := begins monitored member
    exact client.health_of_mem_listDevices _ (Roster.mem_of_mem_ofList among)

/-- An event in the hand of a feeder of the session before makes its device ill there, but not the
one with the same id that is held.
-/
example
    : let settings : Settings := {
        cls := { vendor := "x", deviceType := "y", addressing := .none }
        directory := "", kubeletSocket := "", node := "", healthCheck := true }
      let host : Host Unit := {
        listDevices := fun _ _ world => ([{ id := "a", uuid := 1 }], world)
        removeSocket := fun _ world => (true, world)
        bind := fun _ world => (true, world)
        dial := fun _ world => (true, world)
        register := fun _ _ world => (.ok (), world)
      }
      let full := Shared.run host settings () [
        .call .start [], .work (0, .probe 0 false), .work (0, .act .watch),
        .work (0, .act (.look 0)), .work (0, .act (.begin 0)), .work (0, .act (.take 0)),
        .work (0, .act (.receive 0)), .call .start [], .work (0, .act (.store 0))]
      let view (monitored : Monitored) := monitored.chronicle.session.roster.healthView
      (full.store.monitored? 0).map view = some [("a", .unhealthy)]
      ∧ full.now.map view = some [("a", .healthy)] := by
  decide +kernel

end NodeDevices.Plugin
