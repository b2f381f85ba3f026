import ScriptHost.Proofs.Engine.Reachable

/- The pending exception. A call that leaves an exception pending where none was
   returns an error of the script's category, and whoever handles such an error
   takes the exception. So with every error handled, no exception stays pending.

   What is proved: for each call that can raise one, `Inside` relates the engine
   before the call to the engine after it with its error handled: only effects in
   the current context happened, and an exception is pending only if one was. -/
namespace ScriptHost

namespace Engine

/-- The engine once the error of a call is handled: one of the script's category takes
    the pending exception with it. -/
def handled (e : Engine) : Option ErrorCode → Engine
  | some code => if code.isScriptError then e.takeException.2 else e
  | none => e

/-- No exception comes to be pending without an error that announces it. -/
def Announced (e : Engine) (error : Option ErrorCode) (e' : Engine) : Prop :=
  e.exception = none →
    e'.exception = none ∨ ∃ code, error = some code ∧ code.isScriptError = true

/-- What happens inside the current context when every error is handled. -/
structure Inside (e e' : Engine) : Prop where
  effects : Effects e e'
  quiet : e.exception = none → e'.exception = none

theorem Inside.refl (e : Engine) : Inside e e := ⟨.refl, id⟩

theorem Inside.trans {e e' e'' : Engine} (h : Inside e e') (h' : Inside e' e'') : Inside e e'' :=
  ⟨h.effects.trans h'.effects, fun hquiet => h'.quiet (h.quiet hquiet)⟩

theorem Inside.handled {e e' : Engine} (h : Inside e e') (error : Option ErrorCode) :
    Inside e (e'.handled error) := by
  unfold Engine.handled
  split
  · split
    · exact ⟨h.effects.trans (effects_takeException e'), fun _ => rfl⟩
    · exact h
  · exact h

/-- Handling the error that announces an exception leaves none pending. -/
theorem inside_handled {e e' : Engine} {error : Option ErrorCode} (heff : Effects e e')
    (hann : Announced e error e') : Inside e (e'.handled error) := by
  by_cases hquiet : e.exception = none
  · rcases hann hquiet with h | ⟨code, rfl, hcode⟩
    · exact Inside.handled ⟨heff, fun _ => h⟩ error
    · rw [Engine.handled, if_pos hcode]
      exact ⟨heff.trans (effects_takeException e'), fun _ => rfl⟩
  · exact Inside.handled ⟨heff, fun h => absurd h hquiet⟩ error

theorem announced_of_eq {e e' : Engine} {error : Option ErrorCode}
    (h : e'.exception = e.exception) : Announced e error e' := fun hquiet => .inl (h.trans hquiet)

/-! Who raises what. -/

theorem announced_compile (e : Engine) (source : String) :
    Announced e (errorOf (e.compile source).1) (e.compile source).2 := by
  unfold compile
  split
  · exact announced_of_eq rfl
  · exact fun _ => .inr ⟨.scriptCompile, rfl, by decide⟩

theorem announced_execute (e : Engine) (line : UInt32) (s : Statement) :
    Announced e (e.execute line s).ending.error? (e.execute line s).engine := by
  cases s with
  | act column action =>
    cases action with
    | print text => exact announced_of_eq rfl
    | throw message => exact fun _ => .inr ⟨.scriptException, rfl, by decide⟩
    | fault code => exact announced_of_eq rfl
  | defer column inner =>
    show Announced e (e.schedule line inner).ending.error? (e.schedule line inner).engine
    unfold schedule
    split <;> exact announced_of_eq rfl

theorem announced_executeAll (e : Engine) (p : Program) :
    Announced e (e.executeAll p).ending.error? (e.executeAll p).engine := by
  induction p generalizing e with
  | nil => exact announced_of_eq rfl
  | cons i rest ih =>
    have hfirst := announced_execute e i.line i.statement
    rw [executeAll, Execution.andThen]
    split
    · rename_i hok
      intro hquiet
      -- a statement that ended well announced nothing
      have hnone : (e.execute i.line i.statement).engine.exception = none := by
        rcases hfirst hquiet with h | ⟨code, hcode, -⟩
        · exact h
        · rw [hok] at hcode
          cases hcode
      exact ih _ hnone
    · exact hfirst
    · exact hfirst

theorem announced_executeProgram (e : Engine) (p : Program) :
    Announced e (e.executeProgram p).ending.error? (e.executeProgram p).engine := by
  unfold executeProgram
  split
  · exact announced_of_eq rfl
  · exact announced_executeAll e p

/-! The calls, with their errors handled. -/

theorem inside_serializedSize (e : Engine) (source : String) :
    Inside e ((e.serializedSize source).2.handled (errorOf (e.serializedSize source).1)) := by
  refine inside_handled (effects_serializedSize e source) ?_
  have h := announced_compile e source
  unfold serializedSize whenCurrent
  split
  · exact announced_of_eq rfl
  split
  · exact announced_of_eq rfl
  split <;> rename_i heq <;> rwa [heq] at h

theorem inside_serializeInto (e : Engine) (source : String) (buffer : List UInt8) :
    Inside e ((e.serializeInto source buffer).2.2.handled
      (errorOf (e.serializeInto source buffer).1)) := by
  refine inside_handled (effects_serializeInto e source buffer) ?_
  have h := announced_compile e source
  unfold serializeInto whenCurrent
  split
  · exact announced_of_eq rfl
  split
  · exact announced_of_eq rfl
  split
  · rename_i heq
    rwa [heq] at h
  · rename_i heq
    rw [heq] at h
    have hquiet : e.exception = none → _ := fun hq => (h hq).resolve_right (by rintro ⟨_, ⟨⟩, _⟩)
    dsimp only
    split <;> exact fun hq => .inl (hquiet hq)

theorem inside_runScript (e : Engine) (source : String) (tag : SourceContext) :
    Inside e ((e.runScript source tag).engine.handled (e.runScript source tag).ending.error?) := by
  refine inside_handled (effects_runScript e source tag) ?_
  have h := announced_compile (e.record (.runScript tag)) source
  unfold runScript whenCurrent
  split
  · exact announced_of_eq rfl
  split
  · exact announced_of_eq rfl
  split
  · rename_i heq
    rwa [heq] at h
  · rename_i p e' heq
    rw [heq] at h
    intro hq
    exact announced_executeProgram e' p ((h hq).resolve_right (by rintro ⟨_, ⟨⟩, _⟩))

theorem inside_runSerialized (e : Engine) (bytecode : List UInt8) (tag : SourceContext) :
    Inside e ((e.runSerialized bytecode tag).engine.handled
      (e.runSerialized bytecode tag).ending.error?) := by
  refine inside_handled (effects_runSerialized e bytecode tag) ?_
  unfold runSerialized whenCurrent
  split
  · exact announced_of_eq rfl
  split
  · exact announced_of_eq rfl
  dsimp only
  split
  · exact announced_of_eq rfl
  · rename_i p _
    intro hq
    exact announced_executeProgram (e.record (.runSerializedScript tag)) p hq

theorem inside_callTask (e : Engine) (task : TaskId) :
    Inside e ((e.callTask task).engine.handled (e.callTask task).ending.error?) := by
  refine inside_handled (effects_callTask e task) ?_
  unfold callTask
  split
  · exact announced_of_eq rfl
  split
  · exact announced_of_eq rfl
  split
  · exact announced_of_eq rfl
  split
  · exact announced_of_eq rfl
  · intro hq
    refine announced_execute _ _ _ ?_
    exact hq

theorem inside_setHook (e : Engine) (hook : Option Hook) : Inside e (e.setHook hook).2 := by
  refine ⟨effects_setHook e hook, fun hquiet => ?_⟩
  unfold setHook unlessInjected
  split
  · exact hquiet
  split <;> exact hquiet

end Engine
end ScriptHost
