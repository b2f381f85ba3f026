import ScriptHost.Host.Worker
import ScriptHost.Proofs.Host.Messages
import ScriptHost.Proofs.Host.Modes

/- What becomes of a run at the boundary of its worker. A worker that the system starts hands
   on how the run ends: what it wrote before is not heard by the run, of a fault that is
   contained the code is left, and the engine is not touched.

   What is proved: `contain_structured` for the boundary, and `Worker.run_of_started`. -/
namespace ScriptHost

/-- What a worker hands on of a run, by the way the run ends. -/
def FaultPolicy.handsOn (policy : FaultPolicy) : Ending Empty Outcome → WorkerResult
  | .ok outcome => .outcome outcome
  | .fault payload =>
    match policy with
    | .terminate => .terminated payload.code
    | .report => .outcome (.fault payload.code)
    | .propagate => .propagated payload

namespace Supervised

variable {α : Type} {m : Step Supervised Empty α} {s s' : Supervised}

theorem contain_structured {code : UInt32} (h : m s = (.fault (.structured code), s')) :
    contain m s = (.error code, s') := by
  rw [contain, h]
  rfl

/-- Whatever is noted of what was raised, the engine is left alone. -/
theorem engine_contain (m : Step Supervised Empty α) (s : Supervised) :
    (contain m s).2.host.engine = (m s).2.host.engine := by
  unfold contain
  rcases m s with ⟨a | e | ⟨code | message | _⟩, s'⟩
  · rfl
  · cases e
  · rfl
  · rfl
  · rfl

/-- What was written before does not change how a run ends. -/
theorem ending_unheard (script : Script) (mode : Mode) (h : Host) (messages : List Message) :
    (run script (({ h with messages := messages } : Host).under mode)).1 =
      (run script (h.under mode)).1 :=
  (run_unheard script messages (h.under mode)).1

end Supervised

namespace Worker

/-- With any policy the boundary hands on the ending, and leaves the engine of the run. -/
theorem guarded_of_run (policy : FaultPolicy) (script : Script) (s : Supervised) :
    (guarded policy script s).1 = policy.handsOn (Supervised.run script s).1 ∧
      (guarded policy script s).2.engine = (Supervised.run script s).2.host.engine := by
  have hengine := Supervised.engine_contain (Supervised.run script) s
  rcases hrun : Supervised.run script s with ⟨outcome | e | payload, s'⟩
  · cases policy <;> simp only [guarded, Supervised.contain, hrun, FaultPolicy.handsOn, and_self]
  · cases e
  · have hcontain : (Supervised.contain (Supervised.run script) s).1 = .error payload.code := by
      rw [Supervised.contain, hrun]
    rw [hrun] at hengine
    cases policy with
    | propagate =>
      rw [guarded, hrun]
      exact ⟨rfl, rfl⟩
    | terminate | report =>
      rcases hcontained : Supervised.contain (Supervised.run script) s with ⟨r, t⟩
      rw [hcontained] at hcontain hengine
      cases hcontain
      simp only [guarded, hcontained]
      exact ⟨rfl, hengine⟩

/-- **A worker hands on the run that it is started for.** -/
theorem run_of_started {refusal : ThreadRefusal} {options : WorkerOptions}
    (hstarts : refusal options.stackSize = none) (script : Script) (mode : Mode) (h : Host) :
    (run refusal script mode options h).1 =
        options.faultPolicy.handsOn (Supervised.run script (h.under mode)).1 ∧
      (run refusal script mode options h).2.engine =
        (Supervised.run script (h.under mode)).2.host.engine := by
  let started := h.note s!"starting {workerName} for {script.displayName} in {mode.name} mode"
  -- the host of the worker has a message more, which the run does not hear
  obtain ⟨hending, hengine⟩ := Supervised.run_unheard script started.messages (h.under mode)
  obtain ⟨hresult, hleft⟩ := guarded_of_run options.faultPolicy script (started.under mode)
  have hrun : run refusal script mode options h =
      guarded options.faultPolicy script (started.under mode) := by
    rw [run, hstarts]
    rfl
  rw [hrun]
  exact ⟨hresult.trans (congrArg _ hending), hleft.trans hengine⟩

end Worker
end ScriptHost
