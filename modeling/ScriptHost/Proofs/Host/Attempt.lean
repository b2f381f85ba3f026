import ScriptHost.Proofs.Engine.Statements
import ScriptHost.Proofs.Host.Keeps
import ScriptHost.Proofs.TaskQueue.Rules

/- Steps that keep a log of what they attempt. An attempt is a call of the engine, with
   the engine it was made of, or a step of the host's own that can fail, a request to the
   files among them. Whether a call failed, and what it left of the engine, is not logged
   but told by the engine that is.

   A log accounts for the engine: each attempt is made of the engine that the one before
   it left, and none follows one that faulted. `Traced` is a step whose log accounts for
   what the step does to the engine and for how it faults, so whatever is put together
   from such steps does too. -/
namespace ScriptHost

def Ending.fault? {ε α : Type} : Ending ε α → Option Payload
  | .fault payload => some payload
  | _ => none

/-- What only depends on the fault does not ask how else a call ended. -/
theorem Ending.leaves_iff_fault? {ε α : Type} {x : Ending ε α} {Q : Option Payload → Prop} :
    x.Leaves (fun _ => Q none) (fun _ => Q none) (fun payload => Q (some payload)) ↔
      Q x.fault? := by
  cases x <;> exact Iff.rfl

/-- An ending without the value, as a result; a fault has none and counts as none. -/
def Ending.result {ε α : Type} : Ending ε α → Except ε Unit
  | .error e => .error e
  | _ => .ok ()

/-- A result without the value, as an ending. -/
def Ending.unit {ε α : Type} : Except ε α → Ending ε Unit
  | .ok _ => .ok ()
  | .error e => .error e

/-- How a call of the engine ends, but for the value it returns. -/
def Engine.ends (e : Engine) : EngineCall → Ending ErrorCode Unit
  | .createRuntime attributes => .unit (e.createRuntime attributes).1
  | .disposeRuntime runtime => .unit (e.disposeRuntime runtime).1
  | .createContext runtime => .unit (e.createContext runtime).1
  | .getCurrentContext => .unit e.getCurrentContext.1
  | .setCurrentContext context => .unit (e.setCurrentContext context).1
  | .serializedSize source => .unit (e.serializedSize source).1
  | .serializeInto source buffer => .unit (e.serializeInto source buffer).1
  | .runScript source tag => (e.runScript source tag).ending
  | .runSerialized bytecode tag => (e.runSerialized bytecode tag).ending
  | .setHook hook => .unit (e.setHook hook).1
  | .callTask task => (e.callTask task).ending
  | .takeException => .ok ()
  | .injectFailure _ _ => .ok ()
  | .setSizes _ => .ok ()

/-! Attempts. -/

/-- What is attempted: a call of the engine by what it is for, a step of the host's own or a
    request to the files with how it went, or the drain of a queue, which is calls in turn. -/
inductive Act where
  | createRuntime (attributes : Attributes)
  | createContext (guard : RuntimeGuard)
  | getCurrentContext
  | enter (guard : RuntimeGuard) (context : ContextId)
  | exit (scope : ContextScope)
  | dispose (guard : RuntimeGuard)
  | drop (guard : RuntimeGuard)
  | installHook (hook : Hook)
  | clearHook
  | serializedSize (source : String)
  | serializeInto (source : String) (buffer : List UInt8)
  | runScript (source : String) (tag : SourceContext)
  | runSerialized (bytecode : List UInt8) (tag : SourceContext)
  | drain
  | callTask (task : TaskId)
  | host (result : Except HostError Unit)
  | files (result : Except HostError Unit)

namespace Act

/-- The call of the engine, and the operation its failure is reported against. -/
def call? : Act → Option (Operation × EngineCall)
  | createRuntime attributes => some (.createRuntime, .createRuntime attributes)
  | createContext guard => some (.createContext, .createContext guard.runtime)
  | getCurrentContext => some (.getCurrentContext, .getCurrentContext)
  | enter _ context => some (.setCurrentContext, .setCurrentContext (some context))
  | exit scope => some (.setCurrentContext, .setCurrentContext scope.previous)
  | dispose guard => some (.disposeRuntime, .disposeRuntime guard.runtime)
  | drop guard => some (.disposeRuntime, .disposeRuntime guard.runtime)
  | installHook hook => some (.setContinuationCallback, .setHook (some hook))
  | clearHook => some (.setContinuationCallback, .setHook none)
  | serializedSize source => some (.serializeScript, .serializedSize source)
  | serializeInto source buffer => some (.serializeScript, .serializeInto source buffer)
  | runScript source tag => some (.runScript, .runScript source tag)
  | runSerialized bytecode tag => some (.runSerializedScript, .runSerialized bytecode tag)
  | drain => none
  | callTask task => some (.callTask, .callTask task)
  | host _ => none
  | files _ => none

/-- Whether a failure is only noted. Of any other the host takes the exception. -/
def noted : Act → Bool
  | drop _ => true
  | clearHook => true
  | _ => false

/-- Whether it runs a script. -/
def IsRun : Act → Prop
  | runScript _ _ => True
  | runSerialized _ _ => True
  | _ => False

/-- What an attempt is for. -/
inductive Kind where
  | opens
  | closes
  | compiles
  | runs
  | other
  deriving DecidableEq

def kind : Act → Kind
  | createRuntime _ => .opens
  | createContext _ => .opens
  | getCurrentContext => .opens
  | enter _ _ => .opens
  | exit _ => .closes
  | dispose _ => .closes
  | drop _ => .closes
  | serializedSize _ => .compiles
  | serializeInto _ _ => .compiles
  | runScript _ _ => .runs
  | runSerialized _ _ => .runs
  | installHook _ => .other
  | clearHook => .other
  | drain => .other
  | callTask _ => .other
  | host _ => .other
  | files _ => .other

end Act

structure Attempt where
  engine : Engine
  act : Act

/-- Attempts in the order in which they were made. -/
abbrev Log := List Attempt

/-- Why an attempt failed: the engine returned a code, or the host could not go on. -/
inductive Failure where
  | call (op : Operation) (code : ErrorCode)
  | host (e : HostError)

namespace Attempt

variable (a : Attempt)

/-- How the call of the engine ended, if there was one. -/
def ending : Ending ErrorCode Unit :=
  match a.act.call? with
  | some (_, call) => a.engine.ends call
  | none => .ok ()

def fault? : Option Payload := a.ending.fault?

def failure? : Option Failure :=
  match a.act with
  | .host (.error e) => some (.host e)
  | .host (.ok _) => none
  | .files (.error e) => some (.host e)
  | .files (.ok _) => none
  | act => act.call?.bind fun (op, call) => (a.engine.ends call).error?.map (.call op)

/-- The engine once the attempt was made and its failure handled. -/
def after : Engine :=
  match a.act.call? with
  | some (_, call) =>
    if a.act.noted then a.engine.after call
    else (a.engine.after call).handled a.ending.error?
  | none => a.engine

def executed : List Executed :=
  match a.act.call? with
  | some (_, call) => a.engine.statements call
  | none => []

end Attempt

/-- From one engine to another a log accounts for everything done, and for the fault that
    ended it, if there was one. -/
inductive Accounts : Engine → Log → Option Payload → Engine → Prop where
  | nil (e : Engine) : Accounts e [] none e
  | cons {e e' : Engine} {a : Attempt} {l : Log} {fault : Option Payload} (hengine : a.engine = e)
      (hgoes : a.fault? = none) (hrest : Accounts a.after l fault e') :
      Accounts e (a :: l) fault e'
  | fault {e : Engine} {a : Attempt} {payload : Payload} (hengine : a.engine = e)
      (hfault : a.fault? = some payload) : Accounts e [a] (some payload) a.after

namespace Accounts

variable {e e' e'' : Engine} {a : Attempt} {l l' : Log} {fault : Option Payload}

theorem single (hengine : a.engine = e) (hgoes : a.fault? = none) (hafter : a.after = e') :
    Accounts e [a] none e' := by
  subst hafter
  exact .cons hengine hgoes (.nil _)

theorem append (h : Accounts e l none e') (h' : Accounts e' l' fault e'') :
    Accounts e (l ++ l') fault e'' := by
  generalize hnone : (none : Option Payload) = goes at h
  induction h with
  | nil => exact h'
  | cons hengine hgoes _ ih => exact .cons hengine hgoes (ih h' hnone)
  | fault => cases hnone

end Accounts

/-! Steps with a log. -/

/-- A state with an engine in it. -/
class HasEngine (σ : Type) where
  engine : σ → Engine

instance : HasEngine Host := ⟨Host.engine⟩

instance : HasEngine Supervised := ⟨fun s => s.host.engine⟩

open HasEngine (engine)

/-- A step, with the log that accounts for what it does to the engine. -/
structure Traced (σ : Type) [HasEngine σ] (α : Type) where
  step : Step σ HostError α
  log : σ → Log
  accounts : ∀ s, Accounts (engine s) (log s) (step s).1.fault? (engine (step s).2)

theorem Host.fault?_call {α : Type} (op : Operation) (f : Engine → Except ErrorCode α × Engine)
    (h : Host) : (call op f h).1.fault? = none := by
  unfold call
  rcases f h.engine with ⟨code | a, e⟩ <;> rfl

theorem Host.fault?_onFiles {α : Type} (f : FileSystem → Except HostError α × FileSystem)
    (h : Host) : (onFiles f h).1.fault? = none := by
  unfold onFiles
  rcases f h.files with ⟨e | a, files⟩ <;> rfl

namespace Traced

variable {σ α β : Type} [HasEngine σ]

/-- A step that leaves the engine alone, cannot fault and logs nothing. -/
def quiet (m : Step σ HostError α) (hfault : ∀ s, (m s).1.fault? = none)
    (hengine : ∀ s, engine (m s).2 = engine s) : Traced σ α where
  step := m
  log _ := []
  accounts s := by
    rw [hfault, hengine]
    exact .nil _

/-- What is logged of a step that is followed by another: the other begins after a value. -/
def logThen (m : Traced σ α) (next : α → Traced σ β) (s : σ) : Log :=
  match m.step s with
  | (.ok a, s') => m.log s ++ (next a).log s'
  | _ => m.log s

def andThen (m : Traced σ α) (next : α → Traced σ β) : Traced σ β where
  step := m.step >>= fun a => (next a).step
  log := m.logThen next
  accounts s := by
    have hm := m.accounts s
    rw [Step.bind_apply, logThen]
    rcases hstep : m.step s with ⟨a | e | payload, s'⟩
    · rw [hstep] at hm
      exact hm.append ((next a).accounts s')
    · rwa [hstep] at hm
    · rwa [hstep] at hm

instance : Monad (Traced σ) where
  pure a := quiet (pure a) (fun _ => rfl) fun _ => rfl
  bind := andThen

def state : Traced σ σ :=
  quiet Step.state (fun _ => rfl) fun _ => rfl

def change (f : σ → σ) (hf : ∀ s, engine (f s) = engine s) : Traced σ Unit :=
  quiet (Step.change f) (fun _ => rfl) hf

/-- Ends as a result that was logged before says. -/
def settle (r : Except HostError α) : Traced σ α :=
  quiet (Step.ofExcept r) (fun _ => by cases r <;> rfl) fun _ => rfl

/-- A step of the host's own, which leaves the engine alone and does not fault. -/
def own (m : Step σ HostError α) (hfault : ∀ s, (m s).1.fault? = none)
    (hengine : ∀ s, engine (m s).2 = engine s) : Traced σ α where
  step := m
  log s := [⟨engine s, .host (m s).1.result⟩]
  accounts s := by
    rw [hfault, hengine]
    exact .single rfl rfl rfl

/-- Ends as a result says, which is logged. -/
def ofExcept (r : Except HostError α) : Traced σ α :=
  own (Step.ofExcept r) (fun _ => by cases r <;> rfl) fun _ => rfl

def fail (e : HostError) : Traced σ α :=
  own (Step.fail e) (fun _ => rfl) fun _ => rfl

def attempt (m : Traced σ α) : Traced σ (Except HostError α) where
  step := m.step.attempt
  log := m.log
  accounts s := by
    have hm := m.accounts s
    rw [Step.attempt]
    rcases hstep : m.step s with ⟨a | e | payload, s'⟩ <;> rwa [hstep] at hm

/-- A change of state when a fault passes; the engine is left alone. -/
def onFault (m : Traced σ α) (f : σ → σ) (hf : ∀ s, engine (f s) = engine s) : Traced σ α where
  step := m.step.onFault f
  log := m.log
  accounts s := by
    have hm := m.accounts s
    rw [Step.onFault]
    rcases hstep : m.step s with ⟨a | e | payload, s'⟩ <;> rw [hstep] at hm
    · exact hm
    · exact hm
    · rw [hf]
      exact hm

/-- The same log, for a step that is written in another way. -/
def logging (step : Step σ HostError α) (m : Traced σ α) (h : m.step = step) : Traced σ α where
  step := step
  log := m.log
  accounts s := h ▸ m.accounts s

theorem logging_eq {step : Step σ HostError α} (m : Traced σ α) (h : m.step = step) :
    logging step m h = m := by
  subst h
  rfl

def onFiles (f : FileSystem → Except HostError α × FileSystem) : Traced Host α where
  step := Host.onFiles f
  log h := [⟨h.engine, .files (Ending.ofExcept (f h.files).1).result⟩]
  accounts h := by
    rw [Host.fault?_onFiles]
    exact .single rfl rfl rfl

/-- A step of the host, under a supervisor. -/
def onHost (m : Traced Host α) : Traced Supervised α where
  step := Supervised.onHost m.step
  log s := m.log s.host
  accounts s := m.accounts s.host

end Traced

/-! Calls of the engine. -/

/-- What is attempted is a call, made through the host, that ends and does as said. -/
def Act.Calls (act : Act) (op : Operation) (ends : Engine → Ending ErrorCode Unit)
    (after : Engine → Engine) : Prop :=
  act.noted = false ∧
    ∃ call, act.call? = some (op, call) ∧ ∀ e, e.ends call = ends e ∧ e.after call = after e

namespace Act.Calls

variable {act : Act} {op : Operation} {ends : Engine → Ending ErrorCode Unit}
  {after : Engine → Engine}

theorem ending (h : act.Calls op ends after) (e : Engine) :
    Attempt.ending ⟨e, act⟩ = ends e := by
  obtain ⟨-, call, hcall, hends⟩ := h
  rw [Attempt.ending, hcall]
  exact (hends e).1

theorem failure? (h : act.Calls op ends after) (e : Engine) :
    Attempt.failure? ⟨e, act⟩ = (ends e).error?.map (.call op) := by
  obtain ⟨-, call, hcall, hends⟩ := h
  unfold Attempt.failure?
  dsimp only
  split
  · cases hcall
  · cases hcall
  · cases hcall
  · cases hcall
  · rw [hcall, ← (hends e).1]
    rfl

theorem attempt_after (h : act.Calls op ends after) (e : Engine) :
    Attempt.after ⟨e, act⟩ = (after e).handled (ends e).error? := by
  have hending := h.ending e
  obtain ⟨hasked, call, hcall, hends⟩ := h
  rw [Attempt.after, hcall, hending]
  dsimp only
  rw [hasked, (hends e).2]
  rfl

end Act.Calls

theorem Act.Calls.accounts_perform {act : Act} {op : Operation} {f : Engine → Execution}
    (h : act.Calls op (fun e => (f e).ending) fun e => (f e).engine) (s : Host) :
    Accounts s.engine [⟨s.engine, act⟩] (s.perform op f).ending.fault?
      (s.perform op f).host.engine := by
  have hafter : Attempt.after ⟨s.engine, act⟩ = (s.perform op f).host.engine := by
    rw [h.attempt_after, Host.engine_perform]
  have hending := h.ending s.engine
  rw [← hafter, Host.perform]
  generalize f s.engine = x at hending
  rcases x with ⟨⟨⟩ | code | payload, e, signals⟩
  · exact .single rfl (congrArg Ending.fault? hending) rfl
  · exact .single rfl (congrArg Ending.fault? hending) rfl
  · exact .fault rfl (congrArg Ending.fault? hending)

theorem Ending.error?_unit {ε α : Type} (r : Except ε α) :
    (Ending.unit r).error? = errorOf r := by
  cases r <;> rfl

theorem Ending.fault?_unit {ε α : Type} (r : Except ε α) : (Ending.unit r).fault? = none := by
  cases r <;> rfl

namespace Traced

def call {α : Type} (act : Act) (op : Operation) (f : Engine → Except ErrorCode α × Engine)
    (h : act.Calls op (fun e => .unit (f e).1) fun e => (f e).2) : Traced Host α where
  step := Host.call op f
  log s := [⟨s.engine, act⟩]
  accounts s := by
    rw [Host.fault?_call]
    refine .single rfl ?_ ?_
    · rw [Attempt.fault?, h.ending, Ending.fault?_unit]
    · rw [h.attempt_after, Ending.error?_unit]
      exact (Host.engine_call op f s).symm

/-- Makes an executing call whose failure is handed on as a value. -/
def perform (act : Act) (op : Operation) (f : Engine → Execution)
    (h : act.Calls op (fun e => (f e).ending) fun e => (f e).engine) :
    Traced Host (Except HostError Unit × List Signal) where
  step := Host.performStep op f
  log s := [⟨s.engine, act⟩]
  accounts s := by
    have hperform := h.accounts_perform s
    have hfault : (Host.performStep op f s).1.fault? = (s.perform op f).ending.fault? := by
      unfold Host.performStep
      generalize s.perform op f = p
      obtain ⟨ending, signals, s'⟩ := p
      cases ending <;> rfl
    rw [hfault]
    show Accounts _ _ _ (Host.performStep op f s).2.engine
    rwa [Host.snd_performStep]

/-- The guard is dropped when an error passes, and the error goes on. -/
def orDrop {α : Type} (m : Traced Host α) (g : RuntimeGuard) : Traced Host α where
  step := m.step.onError g.drop
  log h :=
    match m.step h with
    | (.error _, h') => m.log h ++ [⟨h'.engine, .drop g⟩]
    | _ => m.log h
  accounts h := by
    have hm := m.accounts h
    rw [Step.onError]
    rcases hstep : m.step h with ⟨a | e | payload, h'⟩ <;> rw [hstep] at hm
    · exact hm
    · refine hm.append (.single rfl (Ending.fault?_unit _) ?_)
      show (h'.engine.disposeRuntime g.runtime).2 = (g.drop h').engine
      unfold RuntimeGuard.drop
      rcases h'.engine.disposeRuntime g.runtime with ⟨code | u, e⟩ <;> rfl
    · exact hm

theorem log_orDrop_of_ok {α : Type} {m : Traced Host α} {g : RuntimeGuard} {h h' : Host} {a : α}
    (hm : m.step h = (.ok a, h')) : (m.orDrop g).log h = m.log h := by
  simp only [orDrop, hm]

theorem log_orDrop_of_error {α : Type} {m : Traced Host α} {g : RuntimeGuard} {h h' : Host}
    {e : HostError} (hm : m.step h = (.error e, h')) :
    (m.orDrop g).log h = m.log h ++ [⟨h'.engine, .drop g⟩] := by
  simp only [orDrop, hm]

end Traced
end ScriptHost
