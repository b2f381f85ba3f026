import ScriptHost.Engine.Execution
import ScriptHost.Engine.Lifetime
import ScriptHost.Engine.Reserve
import ScriptHost.Host.Step
import ScriptHost.Log
import ScriptHost.Source.Script
import ScriptHost.TaskQueue.Drain

/- The host: an engine, the files, and what the process has handed out and written.
   Every engine call goes through `call` or `perform`, which log a failure under the
   operation's name; a failure of the script's category takes the pending exception
   with it. -/
namespace ScriptHost

/-- The state of the host. `sourceContexts` and `hooks` count how many were handed out. -/
structure Host where
  engine : Engine := .initial
  files : FileSystem
  sourceContexts : Nat := 0
  hooks : Nat := 0
  messages : List Message := []

abbrev HostStep (α : Type) := Step Host HostError α

namespace Host

/-- The host with one more line for standard error. -/
def say (h : Host) (m : Message) : Host :=
  { h with messages := h.messages ++ [m] }

def note (h : Host) (text : String) : Host :=
  h.say (.log .debug text)

def debug (text : String) : HostStep Unit :=
  .change (·.note text)

/-- The error an engine's code stands for, and the host after the failure was logged. -/
def failure (h : Host) (op : Operation) (code : ErrorCode) : HostError × Host :=
  let h' := h.note s!"{op.name} failed. JsErrorCode={code.render}"
  if code.isScriptError then
    let taken := h'.engine.takeException
    (.script op code taken.1, { h' with engine := taken.2 })
  else (.engine op code, h')

def call {α : Type} (op : Operation) (f : Engine → Except ErrorCode α × Engine) :
    HostStep α := fun h =>
  let (answer, engine) := f h.engine
  let h' := { h with engine := engine }
  match answer with
  | .ok a => (.ok a, h')
  | .error code => let (e, h'') := h'.failure op code; (.error e, h'')

def onFiles {α : Type} (f : FileSystem → Except HostError α × FileSystem) : HostStep α := fun h =>
  let (answer, files) := f h.files
  (.ofExcept answer, { h with files := files })

/-- What an executing call through the host leaves. -/
structure Performed where
  ending : Ending HostError Unit
  signals : List Signal
  host : Host

/-- Makes an executing call of the engine. -/
def perform (h : Host) (op : Operation) (f : Engine → Execution) : Performed :=
  let x := f h.engine
  let h' := { h with engine := x.engine }
  match x.ending with
  | .ok () => ⟨.ok (), x.signals, h'⟩
  | .error code => let (e, h'') := h'.failure op code; ⟨.error e, x.signals, h''⟩
  | .fault payload => ⟨.fault payload, x.signals, h'⟩

/-- Makes an executing call whose failure is handed on as a value, with the hooks it called. -/
def performStep (op : Operation) (f : Engine → Execution) :
    HostStep (Except HostError Unit × List Signal) := fun h =>
  let p := h.perform op f
  match p.ending with
  | .ok () => (.ok (.ok (), p.signals), p.host)
  | .error e => (.ok (.error e, p.signals), p.host)
  | .fault payload => (.fault payload, p.host)

/-- The next source context. Each is handed out once. -/
def nextSourceContext : HostStep SourceContext := fun h =>
  (.ok ⟨h.sourceContexts⟩, { h with sourceContexts := h.sourceContexts + 1 })

/-- A hook for a new task queue. Each is handed out once. -/
def newHook : HostStep Hook := fun h =>
  (.ok ⟨h.hooks⟩, { h with hooks := h.hooks + 1 })

theorem reserve_failure (h : Host) (op : Operation) (code : ErrorCode) :
    (h.failure op code).2.engine.reserve = h.engine.reserve := by
  unfold failure
  split <;> rfl

theorem reserve_perform (h : Host) (op : Operation) (f : Engine → Execution) :
    (h.perform op f).host.engine.reserve = (f h.engine).engine.reserve := by
  cases hx : (f h.engine).ending with
  | ok a => simp [perform, hx]
  | error code => simp [perform, hx, reserve_failure]
  | fault payload => simp [perform, hx]

theorem signals_perform (h : Host) (op : Operation) (f : Engine → Execution) :
    (h.perform op f).signals = (f h.engine).signals := by
  cases hx : (f h.engine).ending <;> simp [perform, hx]

end Host

/-- The pushes that deliver a hook's share of signals. -/
def Hook.moves (hook : Hook) (signals : List Signal) : List Move :=
  (signals.filter (·.hook = hook)).map fun s => .push s.task

theorem Hook.pushes_moves_le (hook : Hook) (signals : List Signal) :
    Move.pushes (hook.moves signals) ≤ signals.length := by
  refine Nat.le_trans (List.countP_le_length) ?_
  simpa [Hook.moves] using List.length_filter_le _ _

theorem TaskQueue.receive_eq_moveAll (q : TaskQueue) (hook : Hook) (signals : List Signal) :
    q.receive hook signals = q.moveAll (hook.moves signals) := by
  rw [receive, moveAll, Hook.moves, List.foldl_map]
  rfl

/-- The callback that calls each task through the host and feeds the queue of a hook. -/
def Host.taskCallback (hook : Hook) : Callback HostError Host where
  react h t :=
    let p := h.perform .callTask (·.callTask t.callback)
    (⟨hook.moves p.signals, p.ending⟩, p.host)
  reserve h := h.engine.reserve
  reserve_le h t := by
    have hpush := hook.pushes_moves_le (h.perform .callTask (·.callTask t.callback)).signals
    have hcall := h.engine.callTask_reserve_le t.callback
    have hs := h.signals_perform .callTask (·.callTask t.callback)
    have hr := h.reserve_perform .callTask (·.callTask t.callback)
    simp only [hs] at hpush
    simp only [hr]
    rw [hs]
    omega

end ScriptHost
