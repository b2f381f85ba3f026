import ScriptHost.Proofs.Host.Bracket

/- How guards are ended, from the side of who holds them. A guard is asked for its end or
   dropped; either way the engine is called once for what the guard stands for, and only
   what is told of a refusal differs.

   What is proved: `endBy_apply` for each kind of guard. With no failure injected, the
   end of a guard is one call of the engine for a runtime or a scope and two for both,
   and whether it went well is whether the engine refused none of them. -/
namespace ScriptHost

/-- The ways in which a guard is ended by who holds it. -/
inductive GuardEnd where
  | asked
  | dropped
  deriving DecidableEq, Repr

/-- Ends the guard, and tells whether the engine disposed of the runtime. -/
def RuntimeGuard.endBy (g : RuntimeGuard) : GuardEnd → HostStep Bool
  | .asked => do
    let disposed ← g.dispose.attempt
    return disposed.isOk
  | .dropped => fun h => (.ok (h.engine.disposeRuntime g.runtime).1.isOk, g.drop h)

/-- Ends the scope, and tells whether the engine restored what was current before. -/
def ContextScope.endBy (g : ContextScope) : GuardEnd → HostStep Bool
  | .asked => do
    let exited ← g.exit.attempt
    return exited.isOk
  | .dropped => fun h => (.ok (h.engine.setCurrentContext g.previous).1.isOk, g.drop h)

/-- Ends both, and tells whether the engine did what each of them asks of it. -/
def ActiveContext.endBy (g : ActiveContext) : GuardEnd → HostStep Bool
  | .asked => do
    let closed ← g.close.attempt
    return closed.isOk
  | .dropped => fun h =>
    let exited := h.engine.setCurrentContext g.scope.previous
    (.ok (exited.1.isOk && (exited.2.disposeRuntime g.runtime.runtime).1.isOk), g.drop h)

namespace Engine

theorem disposeRuntime_error_code {e e' : Engine} {r : RuntimeId} {code : ErrorCode}
    (hfree : e.injected .disposeRuntime = none) (h : e.disposeRuntime r = (.error code, e')) :
    code.isScriptError = false := by
  rw [disposeRuntime, unlessInjected_of_none _ hfree] at h
  split at h
  · cases h
    decide
  split at h
  · cases h
    decide
  · cases h

theorem setCurrentContext_error_code {e e' : Engine} {context : Option ContextId}
    {code : ErrorCode} (hfree : e.injected .setCurrentContext = none)
    (h : e.setCurrentContext context = (.error code, e')) : code.isScriptError = false := by
  rw [setCurrentContext, unlessInjected_of_none _ hfree] at h
  split at h
  · cases h
    decide
  · cases h

theorem injected_setCurrentContext (e : Engine) (context : Option ContextId) :
    (e.setCurrentContext context).2.injected = e.injected := by
  rcases e.setCurrentContext_cases context with ⟨code, heq⟩ | ⟨-, -, heq⟩
  · rw [heq]
  · rw [heq]
    rfl

end Engine

theorem Step.attempt_apply_of_except {σ ε δ α : Type} {m : Step σ ε α} {s s' : σ}
    {r : Except ε α} (h : m s = (.ofExcept r, s')) :
    (m.attempt : Step σ δ (Except ε α)) s = (.ok r, s') := by
  rw [attempt, h]
  cases r <;> rfl

theorem isOk_firstFailure {ε : Type} (first second : Except ε Unit) :
    (firstFailure first second).isOk = (first.isOk && second.isOk) := by
  cases first <;> rfl

namespace Host

theorem announced_call_apply {α : Type} (text : String) (op : Operation)
    (f : Engine → Except ErrorCode α × Engine) {h : Host}
    (hcode : ∀ code e, f h.engine = (.error code, e) → code.isScriptError = false) :
    ∃ r h', (debug text >>= fun _ => call op f) h = (.ofExcept r, h') ∧
      r.isOk = (f h.engine).1.isOk ∧ h'.engine = (f h.engine).2 := by
  have hdebug : debug text h = (.ok (), h.note text) := rfl
  rw [Step.bind_apply_of_ok _ hdebug]
  rcases hf : f h.engine with ⟨code | a, e⟩
  · let failed := { h.note text with engine := e }.failure op code
    have hkept : failed.2.engine = e := by
      rw [engine_failure, Engine.handled, hcode code e hf]
      rfl
    exact ⟨.error failed.1, failed.2, call_of_error op (h := h.note text) hf, rfl, hkept⟩
  · exact ⟨.ok a, _, call_of_ok op (h := h.note text) hf, rfl, rfl⟩

theorem dispose_ends (g : RuntimeGuard) {h : Host}
    (hfree : h.engine.injected .disposeRuntime = none) :
    ∃ r h', g.dispose h = (.ofExcept r, h') ∧
      r.isOk = (h.engine.disposeRuntime g.runtime).1.isOk ∧
      h'.engine = (h.engine.disposeRuntime g.runtime).2 :=
  announced_call_apply _ .disposeRuntime (·.disposeRuntime g.runtime)
    fun _ _ => Engine.disposeRuntime_error_code hfree

theorem exit_ends (g : ContextScope) {h : Host}
    (hfree : h.engine.injected .setCurrentContext = none) :
    ∃ r h', g.exit h = (.ofExcept r, h') ∧
      r.isOk = (h.engine.setCurrentContext g.previous).1.isOk ∧
      h'.engine = (h.engine.setCurrentContext g.previous).2 :=
  announced_call_apply _ .setCurrentContext (·.setCurrentContext g.previous)
    fun _ _ => Engine.setCurrentContext_error_code hfree

end Host

/-! Dropping. -/

theorem RuntimeGuard.engine_drop (g : RuntimeGuard) (h : Host) :
    (g.drop h).engine = (h.engine.disposeRuntime g.runtime).2 := by
  unfold drop
  rcases h.engine.disposeRuntime g.runtime with ⟨code | _, e⟩ <;> rfl

theorem ContextScope.engine_drop (g : ContextScope) (h : Host) :
    (g.drop h).engine = (h.engine.setCurrentContext g.previous).2 := by
  unfold drop
  rcases h.engine.setCurrentContext g.previous with ⟨code | _, e⟩ <;> rfl

/-! Ending. -/

theorem RuntimeGuard.endBy_apply (g : RuntimeGuard) (ending : GuardEnd) {h : Host}
    (hfree : h.engine.injected .disposeRuntime = none) :
    ∃ h', g.endBy ending h = (.ok (h.engine.disposeRuntime g.runtime).1.isOk, h') ∧
      h'.engine = (h.engine.disposeRuntime g.runtime).2 := by
  cases ending with
  | asked =>
    obtain ⟨r, h', hdispose, hok, hengine⟩ := Host.dispose_ends g hfree
    refine ⟨h', ?_, hengine⟩
    rw [endBy, Step.bind_apply_of_ok _ (Step.attempt_apply_of_except hdispose), hok]
    rfl
  | dropped => exact ⟨_, rfl, g.engine_drop h⟩

theorem ContextScope.endBy_apply (g : ContextScope) (ending : GuardEnd) {h : Host}
    (hfree : h.engine.injected .setCurrentContext = none) :
    ∃ h', g.endBy ending h = (.ok (h.engine.setCurrentContext g.previous).1.isOk, h') ∧
      h'.engine = (h.engine.setCurrentContext g.previous).2 := by
  cases ending with
  | asked =>
    obtain ⟨r, h', hexit, hok, hengine⟩ := Host.exit_ends g hfree
    refine ⟨h', ?_, hengine⟩
    rw [endBy, Step.bind_apply_of_ok _ (Step.attempt_apply_of_except hexit), hok]
    rfl
  | dropped => exact ⟨_, rfl, g.engine_drop h⟩

theorem ActiveContext.endBy_apply (g : ActiveContext) (ending : GuardEnd) {h : Host}
    (hfree : ∀ op, h.engine.injected op = none) :
    let exited := h.engine.setCurrentContext g.scope.previous
    let disposed := exited.2.disposeRuntime g.runtime.runtime
    ∃ h', g.endBy ending h = (.ok (exited.1.isOk && disposed.1.isOk), h') ∧
      h'.engine = disposed.2 := by
  intro exited disposed
  cases ending with
  | asked =>
    obtain ⟨r, h₁, hexit, hok, hengine⟩ := Host.exit_ends g.scope (hfree _)
    have hfree₁ : h₁.engine.injected .disposeRuntime = none := by
      rw [hengine, Engine.injected_setCurrentContext, hfree]
    obtain ⟨r', h₂, hdispose, hok', hengine'⟩ := Host.dispose_ends g.runtime hfree₁
    rw [hengine] at hok' hengine'
    refine ⟨h₂, ?_, hengine'⟩
    have hclose : g.close h = (.ofExcept (firstFailure r r'), h₂) := by
      rw [close, Step.bind_apply_of_ok _ (Step.attempt_apply_of_except hexit),
        Step.bind_apply_of_ok _ (Step.attempt_apply_of_except hdispose)]
      rfl
    rw [endBy, Step.bind_apply_of_ok _ (Step.attempt_apply_of_except hclose),
      isOk_firstFailure, hok, hok']
    rfl
  | dropped =>
    refine ⟨_, rfl, ?_⟩
    rw [drop, RuntimeGuard.engine_drop, ContextScope.engine_drop]

end ScriptHost
