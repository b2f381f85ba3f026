import ScriptHost.Proofs.Engine.Opened
import ScriptHost.Proofs.Host.Attempt

/- The statements that are executed while a run goes through its log. What is printed is
   what they print, and a run faults when one of them does, in the engine that one met:
   `Shows` says this of one thing done to the engine, and it composes along a log.

   What is proved: `Accounts.shows`, from `Engine.shows_call` with one case for each call. -/
namespace ScriptHost

namespace Engine

/-- What was done from one engine to another shows in the statements that were executed: its
    output is what they print, and it faulted exactly if one of them did, where that one began. -/
structure Shows (e : Engine) (ss : List Executed) (fault : Option Payload) (e' : Engine) :
    Prop where
  output : e'.output = e.output ++ ss.filterMap (·.printed?)
  fault_of_mem : ∀ {x : Executed} {code : UInt32}, x ∈ ss → x.fault? = some code →
    fault = some (.structured code) ∧ e' = x.engine
  exists_fault : ∀ {payload : Payload}, fault = some payload →
    ∃ x ∈ ss, ∃ code, payload = .structured code ∧ x.fault? = some code

namespace Shows

variable {e e' e'' : Engine} {ss ss' : List Executed} {fault : Option Payload}

theorem silent (houtput : e'.output = e.output) : Shows e [] none e' where
  output := houtput.trans (List.append_nil _).symm
  fault_of_mem := fun hx => nomatch hx
  exists_fault := fun h => nomatch h

theorem answered {α : Type} (r : Except ErrorCode α) (houtput : e'.output = e.output) :
    Shows e [] (Ending.unit r).fault? e' := by
  rw [Ending.fault?_unit]
  exact .silent houtput

theorem trans (h : Shows e ss none e') (h' : Shows e' ss' fault e'') :
    Shows e (ss ++ ss') fault e'' where
  output := by rw [h'.output, h.output, List.filterMap_append, List.append_assoc]
  fault_of_mem := by
    intro x code hx hfault
    rcases List.mem_append.1 hx with hx | hx
    · obtain ⟨hnone, -⟩ := h.fault_of_mem hx hfault
      cases hnone
    · exact h'.fault_of_mem hx hfault
  exists_fault := by
    intro payload hpayload
    obtain ⟨x, hx, hfault⟩ := h'.exists_fault hpayload
    exact ⟨x, List.mem_append_right _ hx, hfault⟩

theorem of_performs {begun : List JournalEntry} {x : Execution} (h : Performs e begun x ss) :
    Shows e ss x.ending.fault? x.engine where
  output := h.output
  fault_of_mem := by
    intro s code hs hfault
    obtain ⟨hending, hengine⟩ := h.fault_of_mem hs hfault
    exact ⟨by rw [hending]; rfl, hengine⟩
  exists_fault := by
    intro payload hpayload
    rcases hending : x.ending with u | error | raised <;> rw [hending] at hpayload <;>
      cases hpayload
    exact h.exists_fault hending

/-- The error of what did not fault can be handled: that prints nothing. -/
theorem handled (h : Shows e ss none e') (error : Option ErrorCode) :
    Shows e ss none (e'.handled error) := by
  obtain ⟨x, heq, -⟩ := handled_eq e' error
  rw [heq, ← List.append_nil ss]
  exact h.trans (.silent rfl)

end Shows

/-! The calls. -/

theorem output_after (e : Engine) {call : EngineCall} (hcall : ¬ call.Executes) :
    (e.after call).output = e.output := by
  have hdoes := e.does call
  generalize e.after call = e' at hdoes ⊢
  cases hdoes with
  | runScript | runSerialized | callTask => exact absurd trivial hcall
  | _ => rfl

/-- A call that executes shows in its statements, and any other prints nothing. -/
theorem shows_call (e : Engine) (call : EngineCall) :
    Shows e (e.statements call) (e.ends call).fault? (e.after call) := by
  cases call with
  | runScript source tag => exact .of_performs (performs_runScript e source tag)
  | runSerialized bytecode tag => exact .of_performs (performs_runSerialized e bytecode tag)
  | callTask task => exact .of_performs (performs_callTask e task)
  | takeException | injectFailure | setSizes => exact .silent rfl
  | _ => exact .answered _ (e.output_after id)

end Engine

/-! Attempts and logs. -/

theorem Attempt.shows (a : Attempt) : Engine.Shows a.engine a.executed a.fault? a.after := by
  unfold Attempt.executed Attempt.fault? Attempt.after Attempt.ending
  cases a.act.call? with
  | none => exact .silent rfl
  | some entry =>
    obtain ⟨op, call⟩ := entry
    have hcall := a.engine.shows_call call
    dsimp only
    split
    · exact hcall
    · rcases hending : a.engine.ends call with u | error | payload <;> rw [hending] at hcall
      · exact hcall
      · exact hcall.handled _
      · exact hcall

/-- What a log accounts for shows in the statements that were executed. -/
theorem Accounts.shows {e e' : Engine} {l : Log} {fault : Option Payload}
    (h : Accounts e l fault e') : Engine.Shows e (l.flatMap (·.executed)) fault e' := by
  induction h with
  | nil e => exact .silent rfl
  | @cons e e' a l fault hengine hgoes _ ih =>
    subst hengine
    have hfirst := a.shows
    rw [hgoes] at hfirst
    exact hfirst.trans ih
  | @fault e a payload hengine hfault =>
    subst hengine
    have hlast := a.shows
    rw [hfault] at hlast
    rw [List.flatMap_singleton]
    exact hlast

end ScriptHost
