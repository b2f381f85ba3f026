import ScriptHost.Proofs.Engine.Pending
import ScriptHost.Proofs.Engine.Signals

/- Calls that fail. Most fail before they have done anything. A run may fail when it is in the
   journal already, because its source does not compile, its byte code does not decode or an
   exception is pending; and a statement that throws fails a call in the middle of its program,
   with what was executed before the throw done. `Fails` has a constructor for each of these
   ways, and no call fails in any other.

   What is proved:
     1. `exists_throw_of_executeAll` — a program that fails in a context fails at a `throw`.
     2. `fails_of_error?` — how a call fails, one case for each call.
     3. `failed_call_atomic` — what a call that fails has changed. -/
namespace ScriptHost

namespace EngineCall

/-- The operation that a failure of the call is asked for under. -/
def operation? : EngineCall → Option Operation
  | .createRuntime _ => some .createRuntime
  | .disposeRuntime _ => some .disposeRuntime
  | .createContext _ => some .createContext
  | .getCurrentContext => some .getCurrentContext
  | .setCurrentContext _ => some .setCurrentContext
  | .serializedSize _ => some .serializeScript
  | .serializeInto _ _ => some .serializeScript
  | .runScript _ _ => some .runScript
  | .runSerialized _ _ => some .runSerializedScript
  | .setHook _ => some .setContinuationCallback
  | .callTask _ => some .callTask
  | .takeException => none
  | .injectFailure _ _ => none
  | .setSizes _ => none

def source? : EngineCall → Option String
  | .serializedSize source => some source
  | .serializeInto source _ => some source
  | .runScript source _ => some source
  | _ => none

def buffer? : EngineCall → Option (List UInt8)
  | .serializeInto _ buffer => some buffer
  | _ => none

/-- The entry that the call begins a run with. -/
def runEntry? : EngineCall → Option JournalEntry
  | .runScript _ tag => some (.runScript tag)
  | .runSerialized _ tag => some (.runSerializedScript tag)
  | _ => none

end EngineCall

namespace Engine

/-- The buffer that was handed to a call, as the call leaves it. -/
def bufferAfter? (e : Engine) : EngineCall → Option (List UInt8)
  | .serializeInto source buffer => some (e.serializeInto source buffer).2.1
  | _ => none

/-- No failure of the call was asked for, so that an error is the call's own. -/
def Genuine (e : Engine) (call : EngineCall) : Prop :=
  ∀ op, call.operation? = some op → e.injected op = none

/-- The engine in which a call executes its first statement: a run is in the journal, and a
    task that is called is pending no longer. -/
def begun (e : Engine) : EngineCall → Engine
  | .runScript _ tag => e.record (.runScript tag)
  | .runSerialized _ tag => e.record (.runSerializedScript tag)
  | .callTask task => e.withoutTask task
  | _ => e

def thrown (line column : UInt32) (message : String) : ScriptException :=
  ScriptException.located ⟨message, none, none⟩ line column

/-- The call executes the instructions of `done`, which end well, and then a `throw`. -/
structure Throws (e : Engine) (call : EngineCall) (done : Program) (line column : UInt32)
    (message : String) : Prop where
  program : ∃ rest, e.program? call =
    some (e.begun call, done ++ ⟨line, .act column (.throw message)⟩ :: rest)
  ending : ((e.begun call).executeAll done).ending = .ok ()

/-- The call comes to compiling its source, which does not compile. -/
structure Uncompiled (e : Engine) (call : EngineCall) (err : CompileError) : Prop where
  genuine : e.Genuine call
  current : e.currentContext?.isSome
  source : ∃ source, call.source? = some source ∧ Program.parse source = .error err

/-- The exception that describes why a call fails with an error of the script. -/
inductive Describes (e : Engine) (call : EngineCall) : ErrorCode → ScriptException → Prop where
  | compile {err : CompileError} (h : e.Uncompiled call err) :
      Describes e call .scriptCompile err.toException
  | throw {done : Program} {line column : UInt32} {message : String}
      (h : e.Throws call done line column message) :
      Describes e call .scriptException (thrown line column message)

/-- How a call fails, and the engine that it leaves. -/
inductive Fails (e : Engine) (call : EngineCall) : ErrorCode → Engine → Prop where
  | injected {op : Operation} {code : ErrorCode} (hop : call.operation? = some op)
      (h : e.injected op = some code) : Fails e call code e
  | refused {code : ErrorCode} (h : e.Genuine call) (hcode : code.isScriptError = false) :
      Fails e call code e
  | unexecuted {code : ErrorCode} {entry : JournalEntry} (h : e.Genuine call)
      (hcode : code.isScriptError = false) (hentry : call.runEntry? = some entry) :
      Fails e call code (e.record entry)
  | uncompiled {err : CompileError} (h : e.Uncompiled call err) :
      Fails e call .scriptCompile { e.begun call with exception := some err.toException }
  | threw {done : Program} {line column : UInt32} {message : String} (h : e.Genuine call)
      (hthrows : e.Throws call done line column message) :
      Fails e call .scriptException { ((e.begun call).executeAll done).engine with
        exception := some (thrown line column message) }

/-- The engines are the same but for the journal and the pending exception. -/
def SameButNotes (e e' : Engine) : Prop :=
  e' = { e with journal := e'.journal, exception := e'.exception }

variable {e e' : Engine} {call : EngineCall} {code : ErrorCode}

theorem genuine_of {op : Operation} (hop : call.operation? = some op)
    (h : e.injected op = none) : e.Genuine call := by
  intro op' hop'
  cases hop.symm.trans hop'
  exact h

/-! Statements that throw. -/

theorem isSome_currentContext?_execute (e : Engine) (line : UInt32) (s : Statement) :
    (e.execute line s).engine.currentContext?.isSome = e.currentContext?.isSome := by
  have hentered := congrArg Scene.entered (scene_execute e line s)
  simp only [scene] at hentered
  rw [← Option.isSome_map, hentered, Option.isSome_map]

/-- In a context a statement that fails is a `throw`: a `defer` has somewhere to go. -/
theorem throw_of_execute {line : UInt32} {s : Statement} (hcurrent : e.currentContext?.isSome)
    (h : (e.execute line s).ending = .error code) :
    code = .scriptException ∧ ∃ column message, s = .act column (.throw message) ∧
      (e.execute line s).engine = { e with exception := some (thrown line column message) } := by
  cases s with
  | act column action =>
    cases action with
    | print text => cases h
    | throw message =>
      cases h
      exact ⟨rfl, column, message, rfl, rfl⟩
    | fault code => cases h
  | defer column inner =>
    obtain ⟨⟨id, c⟩, hc⟩ := Option.isSome_iff_exists.1 hcurrent
    have hending : (e.schedule line inner).ending = .error code := h
    rw [schedule, hc] at hending
    cases hending

/-- A program that fails does so at a `throw`, and what was executed before it is done. -/
theorem exists_throw_of_executeAll {p : Program} (hcurrent : e.currentContext?.isSome)
    (h : (e.executeAll p).ending = .error code) :
    code = .scriptException ∧ ∃ done line column message rest,
      p = done ++ ⟨line, .act column (.throw message)⟩ :: rest ∧
      (e.executeAll done).ending = .ok () ∧
      (e.executeAll p).engine =
        { (e.executeAll done).engine with exception := some (thrown line column message) } := by
  -- along the program: a context stays current through every statement
  induction p generalizing e with
  | nil => cases h
  | cons i rest ih =>
    by_cases hok : (e.execute i.line i.statement).ending = .ok ()
    · obtain ⟨hending, hengine, -⟩ := executeAll_of_ok hok rest
      rw [hending] at h
      have hcurrent' : (e.execute i.line i.statement).engine.currentContext?.isSome := by
        rw [isSome_currentContext?_execute]
        exact hcurrent
      obtain ⟨rfl, done, line, column, message, rest', hrest, hdone, hafter⟩ := ih hcurrent' h
      obtain ⟨hending', hengine', -⟩ := executeAll_of_ok hok done
      refine ⟨rfl, i :: done, line, column, message, rest', ?_, ?_, ?_⟩
      · rw [hrest, List.cons_append]
      · rw [hending', hdone]
      · rw [hengine, hafter, hengine']
    · -- the first that fails is the throw itself, with nothing executed before it
      obtain ⟨hexecute, -⟩ := executeAll_of_not_ok hok rest
      rw [hexecute] at h ⊢
      obtain ⟨rfl, column, message, hs, hafter⟩ := throw_of_execute hcurrent h
      refine ⟨rfl, [], i.line, column, message, rest, ?_, rfl, hafter⟩
      rw [List.nil_append, ← hs]

theorem executes_of_program? {e' : Engine} {p : Program} (h : e.program? call = some (e', p)) :
    e.error? call = (e'.executeAll p).ending.error? ∧
      e.after call = (e'.executeAll p).engine := by
  -- what stands in the way of the call stands in the way of the program, check by check
  cases call with
  | runScript source tag =>
    simp only [program?, error?, after, runScript, whenCurrent, executeProgram] at h ⊢
    cases hop : e.injected .runScript with
    | some asked => simp [hop] at h
    | none =>
      cases hnone : e.currentContext?.isNone with
      | true => simp [hop, hnone] at h
      | false =>
        cases hparse : Program.parse source with
        | error err => simp [hop, hnone, compile, hparse] at h
        | ok q =>
          simp only [hop, hnone, compile, hparse, Bool.false_eq_true, if_false,
            Option.ite_none_left_eq_some, Option.some.injEq, Prod.mk.injEq] at h ⊢
          obtain ⟨hx, rfl, rfl⟩ := h
          rw [if_neg hx]
          exact ⟨rfl, rfl⟩
  | runSerialized bytecode tag =>
    simp only [program?, error?, after, runSerialized, whenCurrent, executeProgram] at h ⊢
    cases hop : e.injected .runSerializedScript with
    | some asked => simp [hop] at h
    | none =>
      cases hnone : e.currentContext?.isNone with
      | true => simp [hop, hnone] at h
      | false =>
        cases hdecode : Bytecode.decode bytecode with
        | none => simp [hop, hnone, hdecode] at h
        | some q =>
          simp only [hop, hnone, hdecode, Bool.false_eq_true, if_false,
            Option.ite_none_left_eq_some, Option.some.injEq, Prod.mk.injEq] at h ⊢
          obtain ⟨hx, rfl, rfl⟩ := h
          rw [if_neg hx]
          exact ⟨rfl, rfl⟩
  | callTask task =>
    cases hop : e.injected .callTask with
    | some asked => simp [program?, hop] at h
    | none =>
      cases hx : e.exception with
      | some x => simp [program?, hx] at h
      | none =>
        cases hc : e.currentContext? with
        | none => simp [program?, hop, hx, hc] at h
        | some entry =>
          obtain ⟨id, c⟩ := entry
          cases hget : c.tasks.get? task with
          | none => simp [program?, hop, hx, hc, hget] at h
          | some pending =>
            simp only [program?, hop, hx, hc, hget, Option.isSome_none, Bool.false_eq_true,
              or_false, if_false, Option.map_some, Option.some.injEq, Prod.mk.injEq] at h
            obtain ⟨rfl, rfl⟩ := h
            simp only [error?, after, callTask, hop, hx, hc, hget, Option.isSome_none,
              Bool.false_eq_true, if_false, executeAll_singleton, and_self]
  | _ => cases h

/-- What a call fails with that executes a program is what the program fails with. -/
theorem fails_of_executeAll {p : Program} (hgenuine : e.Genuine call)
    (hprogram : e.program? call = some (e.begun call, p))
    (hcurrent : (e.begun call).currentContext?.isSome)
    (h : ((e.begun call).executeAll p).ending.error? = some code) :
    Fails e call code ((e.begun call).executeAll p).engine := by
  have hending : ((e.begun call).executeAll p).ending = .error code := by
    generalize ((e.begun call).executeAll p).ending = ending at h
    cases ending with
    | ok => cases h
    | error => exact congrArg Ending.error (Option.some.inj h)
    | fault => cases h
  obtain ⟨rfl, done, line, column, message, rest, rfl, hdone, hafter⟩ :=
    exists_throw_of_executeAll hcurrent hending
  rw [hafter]
  exact .threw hgenuine ⟨⟨rest, hprogram⟩, hdone⟩

/-! One call after the other. -/

/-- A call that needs a context fails as was asked for, for want of a context, or as its attempt
    does. The result is read through what it tells of the error and of the engine left. -/
theorem fails_whenCurrent {α : Type} {op : Operation} {fail : ErrorCode → α} {attempt : α}
    (error : α → Option ErrorCode) (left : α → Engine) (hop : call.operation? = some op)
    (hfail : ∀ c, error (fail c) = some c ∧ left (fail c) = e)
    (hattempt : e.injected op = none → e.currentContext?.isSome → error attempt = some code →
      Fails e call code (left attempt))
    (h : error (e.whenCurrent op fail attempt) = some code) :
    Fails e call code (left (e.whenCurrent op fail attempt)) := by
  unfold whenCurrent at h ⊢
  cases hinjected : e.injected op with
  | some asked =>
    simp only [hinjected, hfail, Option.some.injEq] at h ⊢
    subst h
    exact .injected hop hinjected
  | none =>
    simp only [hinjected] at h ⊢
    cases hnone : e.currentContext?.isNone with
    | true =>
      simp only [hnone, if_true, hfail, Option.some.injEq] at h ⊢
      subst h
      exact .refused (genuine_of hop hinjected) rfl
    | false =>
      simp only [hnone, Bool.false_eq_true, if_false] at h ⊢
      exact hattempt hinjected (isSome_of_isNone_eq hnone) h

theorem fails_unlessInjected {α : Type} {op : Operation} {attempt : Except ErrorCode α × Engine}
    (hop : call.operation? = some op)
    (hattempt : errorOf attempt.1 = some code → attempt.2 = e ∧ code.isScriptError = false)
    (h : errorOf (e.unlessInjected op attempt).1 = some code) :
    Fails e call code (e.unlessInjected op attempt).2 := by
  unfold unlessInjected at h ⊢
  cases hinjected : e.injected op with
  | some asked =>
    rw [hinjected] at h
    cases h
    exact .injected hop hinjected
  | none =>
    rw [hinjected] at h
    obtain ⟨hsame, hcode⟩ := hattempt h
    dsimp only
    rw [hsame]
    exact .refused (genuine_of hop hinjected) hcode

theorem refused_ite {α : Type} {refuse : Prop} [Decidable refuse] {refusal : ErrorCode}
    {attempt : Except ErrorCode α × Engine} (hrefusal : refusal.isScriptError = false)
    (hattempt : errorOf attempt.1 = some code → attempt.2 = e ∧ code.isScriptError = false)
    (h : errorOf (if refuse then (.error refusal, e) else attempt).1 = some code) :
    (if refuse then (.error refusal, e) else attempt).2 = e ∧ code.isScriptError = false := by
  by_cases hrefuse : refuse
  · rw [if_pos hrefuse] at h ⊢
    cases h
    exact ⟨rfl, hrefusal⟩
  · rw [if_neg hrefuse] at h ⊢
    exact hattempt h

theorem fails_executeProgram {p : Program} {entry : JournalEntry} (hgenuine : e.Genuine call)
    (hentry : call.runEntry? = some entry) (hbegun : e.begun call = e.record entry)
    (hcurrent : e.currentContext?.isSome)
    (hprogram : e.exception.isSome = false → e.program? call = some (e.record entry, p))
    (h : ((e.record entry).executeProgram p).ending.error? = some code) :
    Fails e call code ((e.record entry).executeProgram p).engine := by
  unfold executeProgram at h ⊢
  cases hx : (e.record entry).exception.isSome with
  | true =>
    simp only [hx, if_true] at h ⊢
    cases h
    exact .unexecuted hgenuine rfl hentry
  | false =>
    simp only [hx, Bool.false_eq_true, if_false] at h ⊢
    rw [← hbegun] at h ⊢
    refine fails_of_executeAll hgenuine ?_ ?_ h
    · rw [hbegun]
      exact hprogram hx
    · rw [hbegun]
      exact hcurrent

theorem fails_runScript {source : String} {tag : SourceContext}
    (h : (e.runScript source tag).ending.error? = some code) :
    Fails e (.runScript source tag) code (e.runScript source tag).engine := by
  refine fails_whenCurrent (fun x : Execution => x.ending.error?) Execution.engine rfl
    (fun _ => ⟨rfl, rfl⟩) ?_ h
  intro hfree hcurrent
  have hgenuine : e.Genuine (.runScript source tag) := genuine_of rfl hfree
  cases hparse : Program.parse source with
  | error err =>
    rw [compile, hparse]
    intro h
    cases h
    exact .uncompiled ⟨hgenuine, hcurrent, source, rfl, hparse⟩
  | ok p =>
    rw [compile, hparse]
    refine fails_executeProgram hgenuine rfl rfl hcurrent fun hx => ?_
    have hnone : e.currentContext?.isNone = false := by simpa using hcurrent
    have hx' : (e.record (.runScript tag)).exception.isSome = false := hx
    simp only [program?, whenCurrent, hfree, hnone, compile, hparse, hx', Bool.false_eq_true,
      if_false]

theorem fails_runSerialized {bytecode : List UInt8} {tag : SourceContext}
    (h : (e.runSerialized bytecode tag).ending.error? = some code) :
    Fails e (.runSerialized bytecode tag) code (e.runSerialized bytecode tag).engine := by
  refine fails_whenCurrent (fun x : Execution => x.ending.error?) Execution.engine rfl
    (fun _ => ⟨rfl, rfl⟩) ?_ h
  intro hfree hcurrent
  have hgenuine : e.Genuine (.runSerialized bytecode tag) := genuine_of rfl hfree
  cases hdecode : Bytecode.decode bytecode with
  | none =>
    intro h
    cases h
    exact .unexecuted hgenuine rfl rfl
  | some p =>
    refine fails_executeProgram hgenuine rfl rfl hcurrent fun hx => ?_
    have hnone : e.currentContext?.isNone = false := by simpa using hcurrent
    have hx' : (e.record (.runSerializedScript tag)).exception.isSome = false := hx
    simp only [program?, whenCurrent, hfree, hnone, hdecode, hx', Bool.false_eq_true, if_false]

theorem fails_serializedSize {source : String}
    (h : errorOf (e.serializedSize source).1 = some code) :
    Fails e (.serializedSize source) code (e.serializedSize source).2 := by
  refine fails_whenCurrent (fun x : Except ErrorCode Nat × Engine => errorOf x.1) Prod.snd rfl
    (fun _ => ⟨rfl, rfl⟩) ?_ h
  intro hfree hcurrent
  cases hparse : Program.parse source with
  | error err =>
    rw [compile, hparse]
    intro h
    cases h
    exact .uncompiled ⟨genuine_of rfl hfree, hcurrent, source, rfl, hparse⟩
  | ok p =>
    rw [compile, hparse]
    intro h
    cases h

theorem fails_serializeInto {source : String} {buffer : List UInt8}
    (h : errorOf (e.serializeInto source buffer).1 = some code) :
    Fails e (.serializeInto source buffer) code (e.serializeInto source buffer).2.2 := by
  refine fails_whenCurrent (fun x : Except ErrorCode Nat × List UInt8 × Engine => errorOf x.1)
    (fun x => x.2.2) rfl (fun _ => ⟨rfl, rfl⟩) ?_ h
  intro hfree hcurrent
  cases hparse : Program.parse source with
  | error err =>
    rw [compile, hparse]
    intro h
    cases h
    exact .uncompiled ⟨genuine_of rfl hfree, hcurrent, source, rfl, hparse⟩
  | ok p =>
    rw [compile, hparse]
    dsimp only
    split
    · intro h
      cases h
      exact .refused (genuine_of rfl hfree) rfl
    · intro h
      cases h

theorem fails_callTask {task : TaskId} (h : (e.callTask task).ending.error? = some code) :
    Fails e (.callTask task) code (e.callTask task).engine := by
  cases hop : e.injected .callTask with
  | some asked =>
    simp only [callTask, hop] at h ⊢
    cases h
    exact .injected rfl hop
  | none =>
    have hgenuine : e.Genuine (.callTask task) := genuine_of rfl hop
    cases hx : e.exception.isSome with
    | true =>
      simp only [callTask, hop, hx, if_true] at h ⊢
      cases h
      exact .refused hgenuine rfl
    | false =>
      cases hc : e.currentContext? with
      | none =>
        simp only [callTask, hop, hx, hc, Bool.false_eq_true, if_false] at h ⊢
        cases h
        exact .refused hgenuine rfl
      | some entry =>
        obtain ⟨id, c⟩ := entry
        cases hget : c.tasks.get? task with
        | none =>
          simp only [callTask, hop, hx, hc, hget, Bool.false_eq_true, if_false] at h ⊢
          cases h
          exact .refused hgenuine rfl
        | some pending =>
          have hbegun : e.begun (.callTask task) = _ := withoutTask_of_current hc task
          have hprogram : e.program? (.callTask task) =
              some (e.begun (.callTask task), [⟨pending.line, pending.statement⟩]) := by
            rw [hbegun]
            simp [program?, hop, hx, hc, hget]
          have hcurrent : (e.begun (.callTask task)).currentContext?.isSome := by
            rw [hbegun, currentContext?_insert hc _ e.issued]
            rfl
          obtain ⟨herror, hengine⟩ := executes_of_program? hprogram
          have hengine' : (e.callTask task).engine = _ := hengine
          rw [hengine']
          exact fails_of_executeAll hgenuine hprogram hcurrent (herror.symm.trans h)

/-- Every call that fails does so in one of the ways that `Fails` knows. -/
theorem fails_of_error? (h : e.error? call = some code) : Fails e call code (e.after call) := by
  cases call with
  | createRuntime attributes => exact fails_unlessInjected rfl nofun h
  | disposeRuntime runtime =>
    exact fails_unlessInjected rfl (refused_ite rfl (refused_ite rfl nofun)) h
  | createContext runtime => exact fails_unlessInjected rfl (refused_ite rfl nofun) h
  | getCurrentContext => exact fails_unlessInjected rfl nofun h
  | setCurrentContext context => exact fails_unlessInjected rfl (refused_ite rfl nofun) h
  | serializedSize source => exact fails_serializedSize h
  | serializeInto source buffer => exact fails_serializeInto h
  | runScript source tag => exact fails_runScript h
  | runSerialized bytecode tag => exact fails_runSerialized h
  | setHook hook =>
    refine fails_unlessInjected rfl ?_ h
    split
    · intro hcode
      cases hcode
      exact ⟨rfl, rfl⟩
    · nofun
  | callTask task => exact fails_callTask h
  | takeException => cases h
  | injectFailure op code => cases h
  | setSizes sizes => cases h

/-! What a call that fails has changed. -/

theorem executeAll_append {done : Program} (hdone : (e.executeAll done).ending = .ok ())
    (rest : Program) :
    (e.executeAll (done ++ rest)).ending =
        ((e.executeAll done).engine.executeAll rest).ending ∧
      (e.executeAll (done ++ rest)).engine =
        ((e.executeAll done).engine.executeAll rest).engine := by
  induction done generalizing e with
  | nil => exact ⟨rfl, rfl⟩
  | cons i done ih =>
    by_cases hok : (e.execute i.line i.statement).ending = .ok ()
    · obtain ⟨hending, hengine, -⟩ := executeAll_of_ok hok done
      obtain ⟨hending', hengine', -⟩ := executeAll_of_ok hok (done ++ rest)
      rw [hending] at hdone
      rw [List.cons_append, hending', hengine', hengine]
      exact ih hdone
    · rw [(executeAll_of_not_ok hok done).1] at hdone
      exact absurd hdone hok

theorem Throws.outcome {done : Program} {line column : UInt32} {message : String}
    (h : e.Throws call done line column message) :
    e.error? call = some .scriptException ∧
      e.after call = { ((e.begun call).executeAll done).engine with
        exception := some (thrown line column message) } := by
  obtain ⟨rest, hprogram⟩ := h.program
  obtain ⟨herror, hafter⟩ := executes_of_program? hprogram
  obtain ⟨hending, hengine⟩ :=
    executeAll_append h.ending (⟨line, .act column (.throw message)⟩ :: rest)
  rw [herror, hafter, hending, hengine]
  exact ⟨rfl, rfl⟩

theorem SameButNotes.withException (h : SameButNotes e e') (x : Option ScriptException) :
    SameButNotes e { e' with exception := x } :=
  congrArg (fun e'' : Engine => ({ e'' with exception := x } : Engine)) h

/-- A source is compiled before anything but the journal is touched. -/
theorem sameButNotes_begun {source : String} (h : call.source? = some source) :
    SameButNotes e (e.begun call) := by
  cases call with
  | serializedSize source => exact rfl
  | serializeInto source buffer => exact rfl
  | runScript source tag => exact rfl
  | _ => cases h

theorem journal_begun (e : Engine) (call : EngineCall) :
    (e.begun call).journal = e.journal ∨
      ∃ entry, call.runEntry? = some entry ∧ (e.begun call).journal = e.journal ++ [entry] := by
  cases call with
  | runScript source tag => exact .inr ⟨_, rfl, rfl⟩
  | runSerialized bytecode tag => exact .inr ⟨_, rfl, rfl⟩
  | callTask task =>
    left
    rw [begun, withoutTask]
    split <;> rfl
  | _ => exact .inl rfl

theorem journal_executeAll (e : Engine) (p : Program) :
    (e.executeAll p).engine.journal = e.journal :=
  congrArg Scene.journal (scene_executeAll e p)

theorem buffer_of_error? (h : e.error? call = some code) : e.bufferAfter? call = call.buffer? := by
  cases call with
  | serializeInto source buffer =>
    simp only [error?, bufferAfter?, EngineCall.buffer?, serializeInto, whenCurrent] at h ⊢
    split
    · rfl
    split
    · rfl
    split
    · rfl
    split
    · rfl
    · -- what was filled was filled without an error
      simp_all [errorOf]
  | _ => rfl

namespace Fails

variable (h : Fails e call code e')
include h

theorem sameButNotes
    (hnone : ∀ done line column message, ¬ e.Throws call done line column message) :
    SameButNotes e e' := by
  cases h with
  | injected => exact rfl
  | refused => exact rfl
  | unexecuted => exact rfl
  | uncompiled huncompiled =>
    obtain ⟨source, hsource, -⟩ := huncompiled.source
    exact (sameButNotes_begun hsource).withException _
  | threw _ hthrows => exact absurd hthrows (hnone _ _ _ _)

theorem exception :
    (e.Genuine call ∧ ∃ x, e.Describes call code x ∧ e'.exception = some x) ∨
      (e.Genuine call → code.isScriptError = false) ∧ e'.exception = e.exception := by
  cases h with
  | injected hop hasked =>
    refine .inr ⟨fun hgenuine => ?_, rfl⟩
    cases (hgenuine _ hop).symm.trans hasked
  | refused _ hcode => exact .inr ⟨fun _ => hcode, rfl⟩
  | unexecuted _ hcode => exact .inr ⟨fun _ => hcode, rfl⟩
  | uncompiled h => exact .inl ⟨h.genuine, _, .compile h, rfl⟩
  | threw hgenuine hthrows => exact .inl ⟨hgenuine, _, .throw hthrows, rfl⟩

theorem journal :
    e'.journal = e.journal ∨
      ∃ entry, call.runEntry? = some entry ∧ e'.journal = e.journal ++ [entry] := by
  cases h with
  | injected => exact .inl rfl
  | refused => exact .inl rfl
  | unexecuted _ _ hentry => exact .inr ⟨_, hentry, rfl⟩
  | uncompiled => exact journal_begun e call
  | @threw done _ _ _ _ _ =>
    simp only [journal_executeAll (e.begun call) done]
    exact journal_begun e call

end Fails

/-- A call that fails leaves all but the journal and the pending exception as it was, and the
    buffer that it was handed; only where a statement throws, what was executed before it is done.
    The pending exception is another one only if the error is of the script and nobody asked for
    it, and then it describes it; the journal has at most the run that was begun more. -/
theorem failed_call_atomic (herror : e.error? call = some code) :
    ((∀ done line column message, ¬ e.Throws call done line column message) →
      SameButNotes e (e.after call)) ∧
    (∀ done line column message, e.Throws call done line column message →
      code = .scriptException ∧
        SameButNotes ((e.begun call).executeAll done).engine (e.after call)) ∧
    e.bufferAfter? call = call.buffer? ∧
    ((e.Genuine call ∧ ∃ x, e.Describes call code x ∧ (e.after call).exception = some x) ∨
      (e.Genuine call → code.isScriptError = false) ∧ (e.after call).exception = e.exception) ∧
    ((e.after call).journal = e.journal ∨
      ∃ entry, call.runEntry? = some entry ∧ (e.after call).journal = e.journal ++ [entry]) := by
  have hfails : Fails e call code (e.after call) := fails_of_error? herror
  have hthrows : ∀ done line column message, e.Throws call done line column message →
      code = .scriptException ∧
        SameButNotes ((e.begun call).executeAll done).engine (e.after call) := by
    intro done line column message h
    obtain ⟨hscript, hafter⟩ := h.outcome
    rw [hafter]
    exact ⟨Option.some.inj (herror.symm.trans hscript), rfl⟩
  exact ⟨hfails.sameButNotes, hthrows, buffer_of_error? herror, hfails.exception, hfails.journal⟩

/-- A script that defers, throws and would then print: the task it deferred stays pending, and
    the exception tells of the throw. -/
theorem failed_call_atomic_throw :
    let e := initial.afterAll
      [.createRuntime .none, .createContext ⟨1⟩, .setCurrentContext (some ⟨2⟩)]
    let call : EngineCall := .runScript "defer print a\nthrow boom\nprint b" ⟨0⟩
    let done : Program := [⟨1, .defer 1 (.act 7 (.print "a"))⟩]
    e.error? call = some .scriptException ∧ e.Throws call done 2 1 "boom" ∧
      SameButNotes ((e.begun call).executeAll done).engine (e.after call) ∧
      e.bufferAfter? call = none ∧
      (e.after call).exception = some (thrown 2 1 "boom") := by
  intro e call done
  have herror : e.error? call = some .scriptException := by decide +kernel
  have hparse : Program.parse "defer print a\nthrow boom\nprint b" =
      .ok (done ++ ⟨2, .act 1 (.throw "boom")⟩ :: [⟨3, .act 1 (.print "b")⟩]) := by
    decide +kernel
  have hthrows : e.Throws call done 2 1 "boom" := by
    refine ⟨⟨[⟨3, .act 1 (.print "b")⟩], ?_⟩, rfl⟩
    simp only [call, program?, whenCurrent, compile, hparse]
    rfl
  obtain ⟨-, hkept, hbuffer, -, -⟩ := failed_call_atomic herror
  exact ⟨herror, hthrows, (hkept _ _ _ _ hthrows).2, hbuffer, by decide +kernel⟩

end Engine
end ScriptHost
