import NodeDevices.Daemon
import NodeDevices.Proofs.Path
import NodeDevices.Proofs.Supervision.Intake

/-! What the watch on the kubelet's socket notices. The paths of changes start at the root, so the
socket is noticed by its name when its own path does, however that is spelled, and never when it
does not.
-/

namespace NodeDevices

/-- A queue with one more event at its end. -/
def Supervision.Intake.queued {σ : Type} (intake : Intake σ) (event : Event) : Intake σ :=
  { intake with
    work := { intake.work with
      run := { intake.work.run with queue := intake.work.run.queue ++ [event] } } }

namespace Kubelet

/-- The name that a change is about. -/
def Change.name : Change → String
  | .created _ name | .modified _ name | .removed _ name => name

namespace SocketWatch

variable {files : Files} {workingDirectory socket name : String} {file : Nat} {watch : SocketWatch}

/-- A watch begins when there is a directory for the socket. -/
theorem start_of_find
    (found : files.find (Path.absolute workingDirectory (Path.directory socket)) = .ok file)
    : start files workingDirectory socket
      = .ok {
          file
          path := Path.absolute workingDirectory (Path.directory socket)
          socket
        } := by
  unfold start
  dsimp only
  rw [found]

-----------------------------------------------------------------------------------------
-- Changes that are noticed
-----------------------------------------------------------------------------------------

/-- Of a socket whose path does not start at the root, nothing is noticed. -/
theorem notices_of_relative (rooted : Path.isAbsolute watch.path = true)
    (relative : Path.isAbsolute watch.socket = false) (change : Change)
    : watch.notices change = false := by
  cases change with
  | created directory name =>
      refine Bool.and_eq_false_iff.mpr (Or.inr (decide_eq_false fun same => ?_))
      apply Path.root_notMem_components relative
      rw [← same, Path.components_of_isAbsolute (Path.isAbsolute_join rooted name)]
      exact List.mem_cons_self
  | modified | removed => rfl

/-- A name in the socket's directory makes the socket's path if it is the one that this ends in. -/
theorem same_join_directory_iff (rooted : Path.isAbsolute socket = true)
    (named : Path.fileName? socket = some name) {other : String} (plain : '/' ∉ other.toList)
    : Path.same (Path.join (Path.directory socket) other) socket = true ↔ other = name := by
  obtain ⟨above, steps⟩ := Path.components_directory rooted named
  rw [Path.same, decide_eq_true_iff, Path.components_join above plain, steps,
    List.append_cancel_left_eq]
  constructor
  · intro same
    unfold Path.Component.ofSegment? at same
    split at same
    · cases same
    · split at same
      · cases same
      · rw [String.ofList_toList] at same
        cases same
        rfl
  · rintro rfl
    obtain ⟨_, _, stands⟩ := Path.of_fileName? named
    rw [stands]
    rfl

/-- Of a socket whose path starts at the root, only its creation is noticed. -/
theorem notices_iff_of_isAbsolute (rooted : Path.isAbsolute watch.socket = true)
    (named : Path.fileName? watch.socket = some name)
    (beside : watch.path = Path.directory watch.socket) {change : Change}
    (plain : '/' ∉ change.name.toList)
    : watch.notices change = true ↔ change = .created watch.file name := by
  cases change with
  | created directory other =>
      have unslashed : '/' ∉ other.toList := plain
      rw [notices, beside, Bool.and_eq_true, same_join_directory_iff rooted named unslashed,
        decide_eq_true_iff, Change.created.injEq]
  | modified | removed => simp [notices]

/-- A watch that has begun notices the creation of its socket, if the socket's path starts at the
root, and nothing else.
-/
theorem notices_iff_of_start (rooted : Path.isAbsolute workingDirectory = true)
    (named : Path.fileName? socket = some name)
    (started : start files workingDirectory socket = .ok watch) {change : Change}
    (plain : '/' ∉ change.name.toList)
    : watch.notices change = true
      ↔ Path.isAbsolute socket = true ∧ change = .created watch.file name := by
  have parts : watch.path = Path.absolute workingDirectory (Path.directory socket)
      ∧ watch.socket = socket := by
    unfold start at started
    dsimp only at started
    split at started
    · cases started
      exact ⟨rfl, rfl⟩
    · cases started
  obtain ⟨above, rfl⟩ := parts
  cases absolute : Path.isAbsolute watch.socket with
  | true =>
      have beside : watch.path = Path.directory watch.socket := by
        rw [above, Path.absolute, if_pos (Path.components_directory absolute named).1]
      rw [notices_iff_of_isAbsolute absolute named beside plain, eq_self_iff_true, true_and]
  | false =>
      have root : Path.isAbsolute watch.path = true := by
        rw [above, Path.absolute]
        split
        · assumption
        · exact Path.isAbsolute_join rooted _
      simp [notices_of_relative root absolute change]

end SocketWatch

-----------------------------------------------------------------------------------------
-- What comes into the queue
-----------------------------------------------------------------------------------------

/-- A change that is noticed comes into the queue, if there is room for it. -/
theorem notice_of_notices {daemon : Daemon} {change : Change}
    (noticed : daemon.watch.notices change = true) (lasts : daemon.run.done = false)
    (reads : daemon.run.closed = false)
    (room : daemon.intake.taken < Supervision.queueCapacity)
    : daemon.notice change
      = { daemon with
          intake := (daemon.intake.queued .kubeletRestarted).settle daemon.fleet
            Supervision.defaultBackoff } := by
  have free : daemon.run.queue.length < Supervision.queueCapacity :=
    Nat.lt_of_le_of_lt (Nat.le_add_right _ _) room
  have sent : (daemon.intake.send .kubeletRestarted).2
      = daemon.intake.queued .kubeletRestarted := by
    have left : (daemon.intake.send .kubeletRestarted).2
        = { daemon.intake with
            work := { daemon.intake.work with
              run := (daemon.run.send .kubeletRestarted).2 } } := rfl
    rw [left, Supervision.Intake.send_of_room lasts reads free]
    rfl
  rw [Daemon.notice, if_pos noticed, Daemon.act]
  simp only [List.foldl_cons, List.foldl_nil, Supervision.Intake.perform,
    Supervision.Intake.step?, if_pos room, sent, Option.getD_some]

/-- A watch begins for every path that ends in a name and has a directory. Of all changes in that
directory it notices one: that a file of that name is created, and this only if the path starts
at the root. Then the event comes into the queue of a daemon, if there is room; at every other
change nothing happens.
-/
theorem start_noticesIffRooted {files : Files} {workingDirectory socket name : String} {file : Nat}
    (rooted : Path.isAbsolute workingDirectory = true)
    (named : Path.fileName? socket = some name)
    (found : files.find (Path.absolute workingDirectory (Path.directory socket)) = .ok file)
    : ∃ watch,
        SocketWatch.start files workingDirectory socket = .ok watch
        ∧ watch.file = file
        ∧ (∀ change : Change,
            '/' ∉ change.name.toList
            → (watch.notices change = true
              ↔ Path.isAbsolute socket = true ∧ change = .created file name))
        ∧ ∀ daemon : Daemon,
            daemon.watch = watch
            → (Path.isAbsolute socket = true
                → daemon.run.done = false
                → daemon.run.closed = false
                → daemon.intake.taken < Supervision.queueCapacity
                → daemon.notice (.created file name)
                  = { daemon with
                      intake := (daemon.intake.queued .kubeletRestarted).settle daemon.fleet
                        Supervision.defaultBackoff })
              ∧ ∀ change : Change,
                  '/' ∉ change.name.toList
                  → ¬ (Path.isAbsolute socket = true ∧ change = .created file name)
                  → daemon.notice change = daemon := by
  have started := SocketWatch.start_of_find found
  have law {change : Change} (plain : '/' ∉ change.name.toList) :=
    SocketWatch.notices_iff_of_start rooted named started plain
  refine ⟨_, started, rfl, fun _ => law, ?_⟩
  rintro daemon watched
  constructor
  · intro absolute lasts reads room
    have plain : '/' ∉ (Change.created file name).name.toList :=
      Path.slash_notMem_of_fileName? named
    apply notice_of_notices _ lasts reads room
    rw [watched]
    exact (law plain).mpr ⟨absolute, rfl⟩
  · intro change plain other
    rw [Daemon.notice, watched, if_neg (mt (law plain).mp other)]

/-- In the directory `/d`, a socket is noticed by a path from the root, with whatever idle steps,
but not by its path from the working directory `/`.
-/
theorem start_noticesIffRooted_of_directory
    : let files : Files := { kinds := [.directory, .directory], entries := [⟨0, "d", 1⟩] }
      let found (socket : String) : Prop :=
        files.find (Path.absolute "/" (Path.directory socket)) = .ok 1
      (Path.isAbsolute "/" = true
        ∧ Path.fileName? "//d/./k.sock/" = some "k.sock" ∧ found "//d/./k.sock/"
        ∧ Path.fileName? "d/k.sock" = some "k.sock" ∧ found "d/k.sock")
      ∧ (∃ watch,
          SocketWatch.start files "/" "//d/./k.sock/" = .ok watch
          ∧ watch.notices (.created 1 "k.sock") = true
          ∧ watch.notices (.removed 1 "k.sock") = false)
      ∧ ∃ watch,
          SocketWatch.start files "/" "d/k.sock" = .ok watch
          ∧ watch.notices (.created 1 "k.sock") = false := by
  intro files found
  have plain : '/' ∉ "k.sock".toList := by decide
  have given : Path.isAbsolute "/" = true
      ∧ Path.fileName? "//d/./k.sock/" = some "k.sock" ∧ found "//d/./k.sock/"
      ∧ Path.fileName? "d/k.sock" = some "k.sock" ∧ found "d/k.sock" := by
    refine ⟨rfl, ?_, ?_, ?_, ?_⟩ <;> decide +kernel
  obtain ⟨root, named, there, named', there'⟩ := given
  obtain ⟨watch, started, _, law, _⟩ := start_noticesIffRooted root named there
  obtain ⟨other, started', _, law', _⟩ := start_noticesIffRooted root named' there'
  refine ⟨⟨root, named, there, named', there'⟩, ⟨watch, started, ?_, ?_⟩, other, started', ?_⟩
  · exact (law (.created 1 "k.sock") plain).mpr ⟨by decide, rfl⟩
  · rw [Bool.eq_false_iff]
    exact fun noticed => nomatch ((law (.removed 1 "k.sock") plain).mp noticed).2
  · rw [Bool.eq_false_iff]
    exact fun noticed => absurd ((law' (.created 1 "k.sock") plain).mp noticed).1 (by decide)

end Kubelet

end NodeDevices
