import ScriptHost.Proofs.Host.Attempt

/- The run of a supervisor, with the log of what it attempts. Each function is written
   again over steps that keep a log, in the order of the original, and its step is
   proved to be the original: the log is added, nothing else changes.

   What is proved: `execute_step`, from `openContext_step`, `twoPhases_step`,
   `runScript_step` and `dispatch_step`. -/
namespace ScriptHost.Traced

/-! The host. -/

def debug (text : String) : Traced Host Unit :=
  quiet (Host.debug text) (fun _ => rfl) fun _ => rfl

def createRuntime (attributes : Attributes) : Traced Host RuntimeGuard := do
  let runtime ← call (.createRuntime attributes) .createRuntime (·.createRuntime attributes)
    ⟨rfl, _, rfl, fun _ => ⟨rfl, rfl⟩⟩
  debug s!"created {runtime.render} with attributes 0x{Text.hex attributes.bits.toNat}"
  return ⟨runtime⟩

def createContext (g : RuntimeGuard) : Traced Host ContextId :=
  call (.createContext g) .createContext (·.createContext g.runtime)
    ⟨rfl, _, rfl, fun _ => ⟨rfl, rfl⟩⟩

def enter (g : RuntimeGuard) (context : ContextId) : Traced Host ContextScope := do
  let previous ← call .getCurrentContext .getCurrentContext (·.getCurrentContext)
    ⟨rfl, _, rfl, fun _ => ⟨rfl, rfl⟩⟩
  call (.enter g context) .setCurrentContext (·.setCurrentContext (some context))
    ⟨rfl, _, rfl, fun _ => ⟨rfl, rfl⟩⟩
  debug s!"entered {context.render}, previous {ContextId.debugOption previous}"
  return ⟨context, previous⟩

def enterNew (g : RuntimeGuard) : Traced Host ContextScope :=
  orDrop (createContext g >>= enter g) g

def openContext (attributes : Attributes) : Traced Host ActiveContext := do
  let runtime ← createRuntime attributes
  let scope ← enterNew runtime
  return ⟨scope, runtime⟩

def exit (g : ContextScope) : Traced Host Unit := do
  debug s!"leaving {g.context.render}, restoring {ContextId.debugOption g.previous}"
  call (.exit g) .setCurrentContext (·.setCurrentContext g.previous)
    ⟨rfl, _, rfl, fun _ => ⟨rfl, rfl⟩⟩

def dispose (g : RuntimeGuard) : Traced Host Unit := do
  debug s!"disposing {g.runtime.render}"
  call (.dispose g) .disposeRuntime (·.disposeRuntime g.runtime)
    ⟨rfl, _, rfl, fun _ => ⟨rfl, rfl⟩⟩

def close (g : ActiveContext) : Traced Host Unit := do
  let exited ← (exit g.scope).attempt
  let disposed ← (dispose g.runtime).attempt
  settle (firstFailure exited disposed)

theorem openContext_step (attributes : Attributes) :
    (openContext attributes).step = Host.openContext attributes := rfl

theorem close_step (g : ActiveContext) : (close g).step = g.close := rfl

/-- The call that fills a buffer, with the buffer beside its answer. -/
def filling (source : String) (buffer : List UInt8) (e : Engine) :
    Except ErrorCode (Nat × List UInt8) × Engine :=
  let (answer, filled, e') := e.serializeInto source buffer
  (answer.map (·, filled), e')

theorem calls_filling (source : String) (buffer : List UInt8) :
    (Act.serializeInto source buffer).Calls .serializeScript
      (fun e => .unit (filling source buffer e).1) fun e => (filling source buffer e).2 := by
  refine ⟨rfl, _, rfl, fun e => ?_⟩
  show Ending.unit (e.serializeInto source buffer).1 = .unit (filling source buffer e).1 ∧
    (e.serializeInto source buffer).2.2 = (filling source buffer e).2
  unfold filling
  generalize e.serializeInto source buffer = r
  rcases r with ⟨code | n, filled, e'⟩
  · exact ⟨rfl, rfl⟩
  · exact ⟨rfl, rfl⟩

/-- The call that tells the size of a source's byte code. -/
def serializedSize (source : String) : Traced Host Nat :=
  call (.serializedSize source) .serializeScript (·.serializedSize source)
    ⟨rfl, _, rfl, fun _ => ⟨rfl, rfl⟩⟩

def serializeInto (source : String) (buffer : List UInt8) : Traced Host (Nat × List UInt8) :=
  call (.serializeInto source buffer) .serializeScript (filling source buffer)
    (calls_filling source buffer)

/-- Both calls, with what is checked of their answers. -/
def twoPhases (source : String) : Traced Host (List UInt8) := do
  let required ← serializedSize source
  if required = 0 then
    debug s!"{Operation.serializeScript.name} reported a zero-length buffer"
    fail (.invariant "serialized buffer size should not be zero")
  else
    let (filled, buffer) ← serializeInto source (List.replicate required 0)
    if filled ≠ required then
      debug
        s!"{Operation.serializeScript.name} filled {filled} bytes after reporting {required}"
      fail (.invariant
        s!"serialized buffer size changed between size query ({required}) and fill ({filled})")
    else
      debug s!"serialized {required} bytes of byte code"
      return buffer

theorem ite_step {σ α : Type} [HasEngine σ] {c : Prop} [Decidable c] (m n : Traced σ α) :
    (if c then m else n).step = if c then m.step else n.step :=
  apply_ite step c m n

theorem bind_step {σ α β : Type} [HasEngine σ] (m : Traced σ α) (next : α → Traced σ β) :
    (m >>= next).step = m.step >>= fun a => (next a).step := rfl

theorem twoPhases_step (source : String) : (twoPhases source).step = Host.serialize source := by
  rw [twoPhases, bind_step, Host.serialize]
  congr 1
  funext required
  rw [ite_step, bind_step, bind_step]
  congr 2
  funext answer
  exact ite_step _ _

def serialize (source : String) : Traced Host (List UInt8) :=
  logging (Host.serialize source) (twoPhases source) (twoPhases_step source)

def writeFile (output : Path) (content : List UInt8) : Traced Host Unit :=
  onFiles (Host.writing output content)

def readBytecode (path : Path) : Traced Host (List UInt8) :=
  onFiles (Host.reading path)

def emitHeader (script : Script) (output : Path) (symbol : String) : Traced Host Unit := do
  ofExcept (Host.checkSymbol symbol)
  let bytecode ← serialize script.text
  writeFile output (Header.render bytecode script.raw symbol)
  debug
    s!"wrote header for {symbol} ({bytecode.length} bytes of byte code) to {output.display}"

def emitBytecode (source : String) (output : Path) : Traced Host Unit := do
  let bytecode ← serialize source
  writeFile output bytecode
  debug s!"wrote {bytecode.length} bytes of byte code to {output.display}"

/-! The drain of a queue. -/

/-- The callback that calls each task through the host, and logs it. -/
def loggedCallback (hook : Hook) : Callback HostError (Host × Log) where
  react p t :=
    let r := (Host.taskCallback hook).react p.1 t
    (r.1, r.2, p.2 ++ [⟨p.1.engine, .callTask t.callback⟩])
  reserve p := (Host.taskCallback hook).reserve p.1
  reserve_le p t := (Host.taskCallback hook).reserve_le p.1 t

/-- A hook's queue drained until it settles, with the calls logged. -/
def loggedDrain (hook : Hook) (queue : TaskQueue) (h : Host) : Settled HostError (Host × Log) :=
  queue.settle (loggedCallback hook) (h, [])

theorem loggedDrain_fst (hook : Hook) (queue : TaskQueue) (h : Host) :
    queue.settle (Host.taskCallback hook) h = (loggedDrain hook queue h).mapState Prod.fst :=
  TaskQueue.settle_map (f := Prod.fst) (fun _ _ => rfl) queue (h, [])

theorem calls_callTask (task : TaskId) :
    (Act.callTask task).Calls .callTask (fun e => (e.callTask task).ending)
      fun e => (e.callTask task).engine :=
  ⟨rfl, _, rfl, fun _ => ⟨rfl, rfl⟩⟩

/-- The calls of a drain account for what it does to the engine. -/
theorem accounts_loggedDrain (hook : Hook) (queue : TaskQueue) (h : Host) :
    Accounts h.engine (loggedDrain hook queue h).state.2 (loggedDrain hook queue h).ending.fault?
      (loggedDrain hook queue h).state.1.engine := by
  have hdrain := TaskQueue.settle_rule (loggedCallback hook)
    (P := fun p => Accounts h.engine p.2 none p.1.engine)
    (R := fun _ p => Accounts h.engine p.2 none p.1.engine)
    (F := fun code p => Accounts h.engine p.2 (some code) p.1.engine)
    (fun p t hp => Ending.leaves_iff_fault?
      (Q := fun f => Accounts h.engine (p.2 ++ [⟨p.1.engine, .callTask t.callback⟩]) f _).2
        (hp.append ((calls_callTask t.callback).accounts_perform p.1)))
    queue (h, []) (.nil _)
  exact Ending.leaves_iff_fault?
    (Q := fun f => Accounts h.engine (loggedDrain hook queue h).state.2 f _).1 hdrain

def drain (hook : Hook) (queue : TaskQueue) :
    Traced Supervised (Except HostError Unit × TaskQueue) where
  step := Supervised.drain hook queue
  log s := ⟨s.host.engine, .drain⟩ :: (loggedDrain hook queue s.host).state.2
  accounts s := by
    have hcalls := accounts_loggedDrain hook queue s.host
    refine .cons rfl rfl ?_
    show Accounts s.host.engine _ _ (Supervised.drain hook queue s).2.host.engine
    unfold Supervised.drain
    rw [loggedDrain_fst]
    generalize loggedDrain hook queue s.host = d at hcalls
    obtain ⟨passes, succeeded, ending, queue', h, l⟩ := d
    cases ending <;> exact hcalls

/-! The supervisor. -/

theorem engine_changeHost {f : Host → Host} (hf : ∀ h, (f h).engine = h.engine) (s : Supervised) :
    HasEngine.engine (Supervised.changeHost f s) = HasEngine.engine s := hf s.host

def transition (next : SupervisorState) : Traced Supervised Unit :=
  change (Supervised.moved next) fun _ => rfl

def noteFailure (front : String) (r : Except HostError Unit) : Traced Supervised Unit :=
  quiet (Supervised.noteFailure front r) (fun _ => by cases r <;> rfl) fun _ => by cases r <;> rfl

/-- Removes the hook and notes what a drain left behind. -/
def clearHook (queue : TaskQueue) : Traced Supervised Unit where
  step := .change (Supervised.changeHost fun h =>
    Supervised.noteUndrained queue (Supervised.clearHook h))
  log s := [⟨s.host.engine, .clearHook⟩]
  accounts s := by
    refine .single rfl (Ending.fault?_unit _) ?_
    show (s.host.engine.setHook none).2 =
      (Supervised.noteUndrained queue (Supervised.clearHook s.host)).engine
    have hnote : ∀ h, (Supervised.noteUndrained queue h).engine = h.engine := by
      intro h
      unfold Supervised.noteUndrained
      split <;> rfl
    rw [hnote, Supervised.clearHook]
    rcases s.host.engine.setHook none with ⟨code | u, e⟩ <;> rfl

theorem calls_runScript (source : String) (tag : SourceContext) :
    (Act.runScript source tag).Calls .runScript (fun e => (e.runScript source tag).ending)
      fun e => (e.runScript source tag).engine :=
  ⟨rfl, _, rfl, fun _ => ⟨rfl, rfl⟩⟩

theorem calls_runSerialized (bytecode : List UInt8) (tag : SourceContext) :
    (Act.runSerialized bytecode tag).Calls .runSerializedScript
      (fun e => (e.runSerialized bytecode tag).ending)
      fun e => (e.runSerialized bytecode tag).engine :=
  ⟨rfl, _, rfl, fun _ => ⟨rfl, rfl⟩⟩

def runCall (script : Script) (bytecode : Option (List UInt8)) (tag : SourceContext) :
    Traced Host (Except HostError Unit × List Signal) :=
  match bytecode with
  | some bytes => perform (.runSerialized bytes tag) .runSerializedScript
      (·.runSerialized bytes tag) (calls_runSerialized bytes tag)
  | none => perform (.runScript script.text tag) .runScript (·.runScript script.text tag)
      (calls_runScript script.text tag)

def newHook : Traced Host Hook := quiet Host.newHook (fun _ => rfl) fun _ => rfl

def nextSourceContext : Traced Host SourceContext :=
  quiet Host.nextSourceContext (fun _ => rfl) fun _ => rfl

/-- Runs a script that a hook is installed for, and drains what the hook is told of. -/
def runThenDrain (script : Script) (bytecode : Option (List UInt8)) (hook : Hook)
    (tag : SourceContext) : Traced Supervised Unit := do
  let (ran, signals) ← onHost (runCall script bytecode tag)
  noteFailure s!"{script.displayName}: " ran
  transition .draining
  let (drained, queue) ← drain hook (TaskQueue.empty.receive hook signals)
  noteFailure s!"{script.displayName}: draining stopped: " drained
  clearHook queue
  settle (firstFailure ran drained)

def runScript (script : Script) (bytecode : Option (List UInt8)) : Traced Supervised Unit := do
  let hook ← onHost newHook
  onHost (call (.installHook hook) .setContinuationCallback (·.setHook (some hook))
    ⟨rfl, _, rfl, fun _ => ⟨rfl, rfl⟩⟩)
  transition .running
  let tag ← onHost nextSourceContext
  runThenDrain script bytecode hook tag

def runInFreshRuntime (script : Script) (bytecode : List UInt8) : Traced Supervised Unit := do
  let s ← state
  let active ← onHost (openContext s.supervisor.mode.attributes)
  onHost (debug
    s!"running serialized byte code in {active.runtime.runtime.render} / {active.scope.context.render}")
  let ran ← ((runScript script (some bytecode)).onFault
    (Supervised.changeHost active.abandon) (engine_changeHost fun _ => rfl)).attempt
  let closed ← onHost (close active).attempt
  settle (firstFailure ran closed)

def dispatch (script : Script) : Traced Supervised Unit := do
  let s ← state
  let _ ← ofExcept (script.fullPath s.host.files.workingDirectory)
  match s.supervisor.mode with
  | .source => runScript script none
  | .preSerialized path => do
    ofExcept (script.checkUtf8 "Pre-serialized byte code")
    let bytecode ← onHost (readBytecode path)
    runScript script (some bytecode)
  | .serialized => do
    ofExcept (script.checkUtf8 "Serialized flag")
    transition .compiling
    let bytecode ← onHost (serialize script.text)
    runInFreshRuntime script bytecode
  | .emitHeader output => do
    ofExcept (script.checkUtf8 "GenerateLibraryByteCodeHeader flag")
    let symbol ← ofExcept script.symbol
    transition .compiling
    onHost (emitHeader script output symbol)
  | .emitBytecode output => do
    ofExcept (script.checkUtf8 "Byte code emission")
    transition .compiling
    onHost (emitBytecode script.text output)

def execute (script : Script) : Traced Supervised Unit := do
  let s ← state
  let runtime ← onHost (createRuntime s.supervisor.mode.attributes)
  transition .runtimeReady
  let scope ← onHost (enterNew runtime)
  transition .contextEntered
  let ran ← ((dispatch script).onFault
    (Supervised.changeHost fun h => runtime.abandon (scope.abandon h))
    (engine_changeHost fun _ => rfl)).attempt
  let exited ← onHost (exit scope).attempt
  let disposed ← onHost (dispose runtime).attempt
  settle (firstFailure (firstFailure ran exited) disposed)

theorem runCall_step (script : Script) (bytecode : Option (List UInt8)) (tag : SourceContext) :
    (runCall script bytecode tag).step = Supervised.runCall script bytecode tag := by
  cases bytecode <;> rfl

theorem runScript_step (script : Script) (bytecode : Option (List UInt8)) :
    (runScript script bytecode).step = Supervised.runScript script bytecode := by
  cases bytecode <;> rfl

theorem attempt_step {σ α : Type} [HasEngine σ] (m : Traced σ α) :
    m.attempt.step = m.step.attempt := rfl

theorem onFault_step {σ α : Type} [HasEngine σ] (m : Traced σ α) (f : σ → σ)
    (hf : ∀ s, HasEngine.engine (f s) = HasEngine.engine s) :
    (m.onFault f hf).step = m.step.onFault f := rfl

theorem onHost_step {α : Type} (m : Traced Host α) :
    (onHost m).step = Supervised.onHost m.step := rfl

theorem runInFreshRuntime_step (script : Script) (bytecode : List UInt8) :
    (runInFreshRuntime script bytecode).step = Supervised.runInFreshRuntime script bytecode := by
  rw [runInFreshRuntime, Supervised.runInFreshRuntime]
  simp only [bind_step, attempt_step, onFault_step, onHost_step, runScript_step, openContext_step,
    close_step]
  rfl

theorem dispatch_step (script : Script) :
    (dispatch script).step = Supervised.dispatch script := by
  rw [dispatch, bind_step, Supervised.dispatch]
  congr 1
  funext s
  rw [bind_step]
  congr 1
  funext path
  cases s.supervisor.mode with
  | source => exact runScript_step script none
  | preSerialized path =>
    simp only [bind_step, onHost_step, runScript_step]
    rfl
  | serialized =>
    simp only [bind_step, onHost_step, runInFreshRuntime_step]
    rfl
  | emitHeader output => rfl
  | emitBytecode output => rfl

/-- The log is all that is added to a run. -/
theorem execute_step (script : Script) : (execute script).step = Supervised.execute script := by
  rw [execute, Supervised.execute]
  simp only [bind_step, attempt_step, onFault_step, onHost_step, dispatch_step]
  rfl

end ScriptHost.Traced
