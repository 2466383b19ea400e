import Dockertest.Container

/-!
# Handling a container's logs

`src/container.rs`, `CleanupContainer::handle_log` and `handle_log_line`.  The log stream of a
container is read frame by frame; each frame of standard output or standard error is written
where the `LogAction` says, and the first failure, of a read or of a write, ends the handling.
For `ForwardToFile` the file `path/name` is created before the first frame is read.

What the daemon streams and what the process and the file system answer to each write are a
`LogHost`.  The second half says what `handle_log` is for: `route` sends each frame to its
place, `attemptAll` makes the writes in order up to the first that fails, and `streamEnd` is how
the stream ends.  `handleLog_eq_spec` says that `handle_log` is exactly this, and from it:

* `handleLog_writes`: every write is the place `route` gives a frame read, in the order read;
* `handleLog_ok_iff`: handling succeeds iff the file is created, the stream ends without an
  error and every write succeeds, each answered at its position among the writes;
* `handleLog_error`: every error names its failure: the log file, a read, or a write with
  the place written to;
* `handleLog_ne_fileNone`: the branch "log file should not be None" is never taken.
-/

namespace Dockertest

/-- bollard's `LogOutput`: one frame of a log stream. -/
inductive LogOutput where
  | stdErr (message : String)
  | stdOut (message : String)
  | stdIn (message : String)
  | console (message : String)
deriving Repr, DecidableEq

/-- A write of a log line: to the process's standard output or error, or to a log file. -/
inductive LogWrite where
  | stdout (message : String)
  | stderr (message : String)
  | file (path message : String)
deriving Repr, DecidableEq

/-- Everything outside `handle_log` that it reads. -/
structure LogHost where
  /-- The frames of `client.logs(name, options)` with the options `stdout` and `stderr`, in
  this order: a frame, or an error, which ends the stream. -/
  logs : String → Bool → Bool → List (Except String LogOutput)
  /-- The answer to `File::create(filepath)`, as the text of its error. -/
  createFile : String → Except String Unit
  /-- The answer to the `n`-th write of the handling, counted from `0`, as the text of its
  error: two equal lines may be answered differently. -/
  write : Nat → LogWrite → Except String Unit

namespace CleanupContainer

def writeLine (host : LogHost) (n : Nat) (w : LogWrite) (msg : String → String) :
    List LogWrite × Except DockerTestError Unit :=
  ([w], (host.write n w).mapError fun e => .logWriteError (msg e))

/-- `handle_log_line`: the writes it makes and its result; `file` is the path of the log file,
when one is open, and `n` the number of writes made before. -/
def handleLogLine (host : LogHost) (action : LogAction) (output : LogOutput)
    (file : Option String) (n : Nat) : List LogWrite × Except DockerTestError Unit :=
  match action, output with
  | .forward, .stdOut message => writeLine host n (.stdout message) ("stdout: " ++ ·)
  | .forward, .stdErr message => writeLine host n (.stderr message) ("stderr: " ++ ·)
  | .forwardToStdErr, .stdOut message | .forwardToStdErr, .stdErr message =>
    writeLine host n (.stderr message) ("stderr: " ++ ·)
  | .forwardToStdOut, .stdOut message | .forwardToStdOut, .stdErr message =>
    writeLine host n (.stdout message) ("stdout: " ++ ·)
  | .forwardToFile _, .stdOut message | .forwardToFile _, .stdErr message =>
    match file with
    | some path => writeLine host n (.file path message) ("unable to write to log file: " ++ ·)
    | none => ([], .error (.logWriteError "log file should not be None"))
  | _, _ => ([], .ok ())

/-- The `while let` loop of `handle_log` over the frames still to come, after `n` writes. -/
def readLog (host : LogHost) (action : LogAction) (file : Option String) :
    Nat → List (Except String LogOutput) → List LogWrite × Except DockerTestError Unit
  | _, [] => ([], .ok ())
  | _, .error e :: _ => ([], .error (.logWriteError ("unable to read docker log: " ++ e)))
  | n, .ok output :: rest =>
    let line := handleLogLine host action output file n
    match line.2 with
    | .error e => (line.1, .error e)
    | .ok () =>
      let more := readLog host action file (n + line.1.length) rest
      (line.1 ++ more.1, more.2)

/-- `handle_log`: the log file is created first, for `ForwardToFile`, then the stream is read. -/
def handleLog (c : CleanupContainer) (host : LogHost) (action : LogAction)
    (shouldLogStderr shouldLogStdout : Bool) : List LogWrite × Except DockerTestError Unit :=
  let frames := host.logs c.name shouldLogStdout shouldLogStderr
  match action with
  | .forwardToFile path =>
    let filepath := path ++ "/" ++ c.name
    match host.createFile filepath with
    | .error e => ([], .error (.logWriteError ("unable to create log file: " ++ e)))
    | .ok () => readLog host action (some filepath) 0 frames
  | _ => readLog host action none 0 frames

/-! ### What handling the logs is for -/

def logFile (name : String) : LogAction → Option String
  | .forwardToFile path => some (path ++ "/" ++ name)
  | _ => none

/-- Where a frame goes: standard output and error where they came from, both to standard
error, both to standard output, or both to the log file; other frames nowhere. -/
def route (name : String) (action : LogAction) : LogOutput → Option LogWrite
  | .stdOut m => some (match action with
    | .forward | .forwardToStdOut => .stdout m
    | .forwardToStdErr => .stderr m
    | .forwardToFile path => .file (path ++ "/" ++ name) m)
  | .stdErr m => some (match action with
    | .forward | .forwardToStdErr => .stderr m
    | .forwardToStdOut => .stdout m
    | .forwardToFile path => .file (path ++ "/" ++ name) m)
  | _ => none

def writeFailure : LogWrite → String → String
  | .stdout _, e => "stdout: " ++ e
  | .stderr _, e => "stderr: " ++ e
  | .file _ _, e => "unable to write to log file: " ++ e

/-- The writes made in order, after `n` others; the first that fails ends them with its
error. -/
def attemptAll (host : LogHost) : Nat → List LogWrite → List LogWrite × Except DockerTestError Unit
  | _, [] => ([], .ok ())
  | n, w :: ws =>
    match host.write n w with
    | .error e => ([w], .error (.logWriteError (writeFailure w e)))
    | .ok () =>
      let r := attemptAll host (n + 1) ws
      (w :: r.1, r.2)

def readFrames : List (Except String LogOutput) → List LogOutput
  | [] => []
  | .error _ :: _ => []
  | .ok o :: rest => o :: readFrames rest

def streamEnd : List (Except String LogOutput) → Except DockerTestError Unit
  | [] => .ok ()
  | .error e :: _ => .error (.logWriteError ("unable to read docker log: " ++ e))
  | .ok _ :: rest => streamEnd rest

/-- Handling the logs by its purpose: create the log file if there is one, then make the
writes of the frames read, and report how the stream ended if they all succeed. -/
def handleLogSpec (host : LogHost) (name : String) (action : LogAction)
    (frames : List (Except String LogOutput)) : List LogWrite × Except DockerTestError Unit :=
  let writes := attemptAll host 0 ((readFrames frames).filterMap (route name action))
  let run := (writes.1, writes.2.bind fun () => streamEnd frames)
  match logFile name action with
  | none => run
  | some file =>
    match host.createFile file with
    | .error e => ([], .error (.logWriteError ("unable to create log file: " ++ e)))
    | .ok () => run

/-! ### `handle_log` meets its purpose -/

variable {host : LogHost} {name : String} {action : LogAction}

theorem handleLogLine_logFile (output : LogOutput) (n : Nat) :
    handleLogLine host action output (logFile name action) n =
      match route name action output with
      | none => ([], .ok ())
      | some w => ([w], (host.write n w).mapError fun e => .logWriteError (writeFailure w e)) := by
  cases action <;> cases output <;> rfl

/-- **The loop meets its purpose**: it makes the writes of the frames read up to the first
failure. -/
theorem readLog_eq : ∀ (n : Nat) (frames : List (Except String LogOutput)),
    readLog host action (logFile name action) n frames =
      let writes := attemptAll host n ((readFrames frames).filterMap (route name action))
      (writes.1, writes.2.bind fun () => streamEnd frames)
  | _, [] => rfl
  | _, .error _ :: _ => rfl
  | n, .ok output :: rest => by
    simp only [readLog, handleLogLine_logFile, readFrames, List.filterMap_cons]
    cases route name action output with
    | none => simpa using readLog_eq n rest
    | some w =>
      cases hw : host.write n w with
      | error e => simp [attemptAll, hw, Except.mapError, Except.bind]
      | ok u => simp [attemptAll, hw, Except.mapError, streamEnd, readLog_eq (n + 1) rest]

/-- **`handle_log` meets its purpose.** -/
theorem handleLog_eq_spec (c : CleanupContainer) (shouldLogStderr shouldLogStdout : Bool) :
    c.handleLog host action shouldLogStderr shouldLogStdout =
      handleLogSpec host c.name action (host.logs c.name shouldLogStdout shouldLogStderr) := by
  cases action with
  | forwardToFile path =>
    simp only [handleLog, handleLogSpec, logFile]
    cases host.createFile (path ++ "/" ++ c.name) with
    | error e => rfl
    | ok u => exact @readLog_eq host c.name (.forwardToFile path) 0 _
  | forward | forwardToStdErr | forwardToStdOut => exact readLog_eq 0 _

/-- Forwarded to standard error, both streams go there, and the frame of standard input
nowhere. -/
example : (CleanupContainer.handleLog ⟨"id", false, "c", none⟩
    ⟨fun _ _ _ => [.ok (.stdOut "a"), .ok (.stdIn "x"), .ok (.stdErr "b")], fun _ => .ok (),
      fun _ _ => .ok ()⟩ .forwardToStdErr true true).1 = [.stderr "a", .stderr "b"] := rfl

/-! ### Consequences -/

theorem attemptAll_isPrefix : ∀ (n : Nat) (ws : List LogWrite), (attemptAll host n ws).1 <+: ws
  | _, [] => List.nil_prefix
  | n, w :: ws => by
    unfold attemptAll
    split
    · exact List.prefix_cons_inj _ |>.2 List.nil_prefix
    · exact (List.prefix_cons_inj w).2 (attemptAll_isPrefix (n + 1) ws)

theorem attemptAll_ok_iff : ∀ (n : Nat) (ws : List LogWrite),
    (attemptAll host n ws).2 = .ok () ↔ ∀ x ∈ ws.enumFrom n, host.write x.1 x.2 = .ok ()
  | _, [] => by simp [attemptAll]
  | n, w :: ws => by
    unfold attemptAll
    split <;> simp_all [attemptAll_ok_iff (n + 1) ws]

theorem streamEnd_ok_iff : ∀ frames : List (Except String LogOutput),
    streamEnd frames = .ok () ↔ ∀ e, Except.error e ∉ frames
  | [] => by simp [streamEnd]
  | .error e :: _ => iff_of_false (by simp [streamEnd]) fun h => h e (.head _)
  | .ok _ :: rest => by simp [streamEnd, streamEnd_ok_iff rest]

theorem handleLogSpec_writes_isPrefix (frames : List (Except String LogOutput)) :
    (handleLogSpec host name action frames).1 <+: (readFrames frames).filterMap (route name action) := by
  unfold handleLogSpec
  split
  · exact attemptAll_isPrefix 0 _
  · split
    · exact List.nil_prefix
    · exact attemptAll_isPrefix 0 _

/-- **Every write is where `route` sends a frame read**, in the order read: the writes are a
prefix of the routed frames. -/
theorem handleLog_writes (c : CleanupContainer) (shouldLogStderr shouldLogStdout : Bool) :
    (c.handleLog host action shouldLogStderr shouldLogStdout).1 <+:
      (readFrames (host.logs c.name shouldLogStdout shouldLogStderr)).filterMap
        (route c.name action) := by
  rw [handleLog_eq_spec]
  exact handleLogSpec_writes_isPrefix _

theorem handleLogSpec_ok_iff (frames : List (Except String LogOutput)) :
    (handleLogSpec host name action frames).2 = .ok () ↔
      (∀ file, logFile name action = some file → host.createFile file = .ok ()) ∧
      (∀ e, Except.error e ∉ frames) ∧
      ∀ x ∈ ((readFrames frames).filterMap (route name action)).enum, host.write x.1 x.2 = .ok () := by
  have hrun : ((attemptAll host 0 ((readFrames frames).filterMap (route name action))).2.bind
        fun () => streamEnd frames) = .ok () ↔
      (∀ e, Except.error e ∉ frames) ∧
        ∀ x ∈ ((readFrames frames).filterMap (route name action)).enum,
          host.write x.1 x.2 = .ok () := by
    rw [List.enum, ← attemptAll_ok_iff, ← streamEnd_ok_iff]
    cases (attemptAll host 0 _).2 <;> simp [Except.bind, and_comm]
  unfold handleLogSpec
  split
  · rename_i hf
    simpa [hf] using hrun
  · rename_i file hf
    cases hc : host.createFile file <;> simp [hf, hc, hrun]

/-- **Handling succeeds iff nothing fails**: the log file, if any, is created, the stream ends
without an error, and every write of a frame succeeds, at its position among the writes. -/
theorem handleLog_ok_iff (c : CleanupContainer) (shouldLogStderr shouldLogStdout : Bool) :
    (c.handleLog host action shouldLogStderr shouldLogStdout).2 = .ok () ↔
      (∀ file, logFile c.name action = some file → host.createFile file = .ok ()) ∧
      (∀ e, Except.error e ∉ host.logs c.name shouldLogStdout shouldLogStderr) ∧
      ∀ x ∈ ((readFrames (host.logs c.name shouldLogStdout shouldLogStderr)).filterMap
        (route c.name action)).enum, host.write x.1 x.2 = .ok () := by
  rw [handleLog_eq_spec]
  exact handleLogSpec_ok_iff _

theorem attemptAll_error {e : DockerTestError} : ∀ (n : Nat) (ws : List LogWrite),
    (attemptAll host n ws).2 = .error e →
      ∃ i w t, host.write i w = .error t ∧ e = .logWriteError (writeFailure w t)
  | _, [], h => by cases h
  | n, w :: ws, h => by
    unfold attemptAll at h
    split at h
    · rename_i t hw
      cases h
      exact ⟨n, w, t, hw, rfl⟩
    · exact attemptAll_error (n + 1) ws h

theorem streamEnd_error {e : DockerTestError} : ∀ frames : List (Except String LogOutput),
    streamEnd frames = .error e →
      ∃ t, Except.error t ∈ frames ∧ e = .logWriteError ("unable to read docker log: " ++ t)
  | [], h => by cases h
  | .error t :: _, h => by cases h; exact ⟨t, .head _, rfl⟩
  | .ok _ :: rest, h => by
    obtain ⟨t, ht, rfl⟩ := streamEnd_error rest h
    exact ⟨t, .tail _ ht, rfl⟩

/-- **Every error names its failure**: the creation of the log file, a read of the stream, or
a write, with the place written to. -/
theorem handleLog_error (c : CleanupContainer) (shouldLogStderr shouldLogStdout : Bool)
    {e : DockerTestError} (h : (c.handleLog host action shouldLogStderr shouldLogStdout).2 = .error e) :
    (∃ file t, logFile c.name action = some file ∧ host.createFile file = .error t ∧
      e = .logWriteError ("unable to create log file: " ++ t)) ∨
    (∃ t, Except.error t ∈ host.logs c.name shouldLogStdout shouldLogStderr ∧
      e = .logWriteError ("unable to read docker log: " ++ t)) ∨
    (∃ i w t, host.write i w = .error t ∧ e = .logWriteError (writeFailure w t)) := by
  have hrun : ∀ frames : List (Except String LogOutput),
      ((attemptAll host 0 ((readFrames frames).filterMap (route c.name action))).2.bind
        fun () => streamEnd frames) = .error e →
      (∃ t, Except.error t ∈ frames ∧ e = .logWriteError ("unable to read docker log: " ++ t)) ∨
        ∃ i w t, host.write i w = .error t ∧ e = .logWriteError (writeFailure w t) := by
    intro frames h
    cases hw : (attemptAll host 0 _).2 with
    | error e' =>
      rw [hw] at h
      cases h
      exact .inr (attemptAll_error 0 _ hw)
    | ok u => rw [hw] at h; exact .inl (streamEnd_error frames h)
  rw [handleLog_eq_spec] at h
  unfold handleLogSpec at h
  split at h
  · exact .inr (hrun _ h)
  · rename_i file hf
    split at h
    · rename_i t ht
      cases h
      exact .inl ⟨file, t, hf, ht, rfl⟩
    · exact .inr (hrun _ h)

theorem append_ne_fileNone {p : String} {c : Char} (t : String) (hp : p.data.head? = some c)
    (hc : c ≠ 'l') : p ++ t ≠ "log file should not be None" := by
  intro h
  have hhead : (p ++ t).data.head? = some c := by
    rw [String.data_append, List.head?_append, hp]; rfl
  rw [h] at hhead
  exact hc (Option.some.inj hhead).symm

/-- **The branch "log file should not be None" is never taken**: the log file is opened
before any frame is written to it. -/
theorem handleLog_ne_fileNone (c : CleanupContainer) (shouldLogStderr shouldLogStdout : Bool) :
    (c.handleLog host action shouldLogStderr shouldLogStdout).2 ≠
      .error (.logWriteError "log file should not be None") := by
  intro h
  obtain ⟨-, t, -, -, h⟩ | ⟨t, -, h⟩ | ⟨-, w, t, -, h⟩ := handleLog_error c _ _ h <;> injection h with h
  · exact append_ne_fileNone (p := "unable to create log file: ") t rfl (by decide) h.symm
  · exact append_ne_fileNone (p := "unable to read docker log: ") t rfl (by decide) h.symm
  · cases w
    · exact append_ne_fileNone (p := "stdout: ") t rfl (by decide) h.symm
    · exact append_ne_fileNone (p := "stderr: ") t rfl (by decide) h.symm
    · exact append_ne_fileNone (p := "unable to write to log file: ") t rfl (by decide) h.symm

end CleanupContainer

end Dockertest
