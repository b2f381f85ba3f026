import ScriptHost.Proofs.Host.History

/- Calls made of a supervisor once a fault was recorded. The supervisor does not execute
   again: every run is refused, and nothing but messages comes of it. What is not kept is
   the state: a run records its outcome whatever the state before, so the refusal of a run
   leads out of `faulted`, and only that does.

   What is proved:
     1. `after_of_left` — where one call leads, once `idle` was left.
     2. `history_afterAll` — what any calls add to the history.
     3. `fault_left_by_runs` — the calls that keep a recorded fault, and those that do not. -/
namespace ScriptHost

/-- A call that is made of a supervisor, on any host. -/
inductive SupervisorCall where
  | run (script : Script) (h : Host)
  | recordFault (code : UInt32) (h : Host)

namespace SupervisorCall

def IsRun : SupervisorCall → Prop
  | run _ _ => True
  | recordFault _ _ => False

/-- The state in which a call leaves a supervisor that has left `idle`. -/
def leaves : SupervisorCall → SupervisorState
  | run _ _ => .finished .hostError
  | recordFault _ _ => .faulted

theorem leaves_eq_faulted_iff {call : SupervisorCall} : call.leaves = .faulted ↔ ¬ call.IsRun := by
  cases call with
  | run script h => exact iff_of_false nofun (· trivial)
  | recordFault code h => exact iff_of_true rfl id

theorem leaves_ne_idle (call : SupervisorCall) : call.leaves ≠ .idle := by
  cases call <;> nofun

end SupervisorCall

namespace Supervisor

variable {u : Supervisor}

/-- The supervisor after a call. -/
def after (u : Supervisor) : SupervisorCall → Supervisor
  | .run script h => (Supervised.run script ⟨h, u⟩).2.supervisor
  | .recordFault code h => (Supervised.recordFault code ⟨h, u⟩).2.supervisor

def afterAll (u : Supervisor) (calls : List SupervisorCall) : Supervisor :=
  calls.foldl after u

theorem since_afterAll {first : Supervisor} (h : Supervised.Since first u)
    (calls : List SupervisorCall) : Supervised.Since first (u.afterAll calls) := by
  induction calls generalizing u with
  | nil => exact h
  | cons call rest ih =>
    cases call with
    | run script host => exact ih (h.run script host)
    | recordFault code host => exact ih (h.recordFault code host)

/-- A call is one transition, a run that is refused no less than the record of a fault. -/
theorem after_of_left (h : u.state ≠ .idle) (call : SupervisorCall) :
    u.after call = u.moveTo call.leaves := by
  cases call with
  | run script host =>
    rw [after, Supervised.run_of_left h]
    rfl
  | recordFault code host => rfl

theorem history_afterAll (h : u.state ≠ .idle) (calls : List SupervisorCall) :
    (u.afterAll calls).history = u.history ++ calls.map (·.leaves) := by
  induction calls generalizing u with
  | nil => exact (List.append_nil _).symm
  | cons call rest ih =>
    have hleft : (u.moveTo call.leaves).state ≠ .idle := call.leaves_ne_idle
    show ((u.after call).afterAll rest).history = _
    rw [after_of_left h, ih hleft, history_moveTo, List.append_assoc]
    rfl

theorem state_afterAll_of_faulted (h : u.state = .faulted) {calls : List SupervisorCall}
    (hcalls : ∀ call ∈ calls, ¬ call.IsRun) : (u.afterAll calls).state = .faulted := by
  induction calls generalizing u with
  | nil => exact h
  | cons call rest ih =>
    have hcall := SupervisorCall.leaves_eq_faulted_iff.2 (hcalls call (List.mem_cons_self ..))
    have hafter : (u.after call).state = .faulted := by
      rw [after_of_left (by rw [h]; nofun)]
      exact hcall
    exact ih hafter fun later hlater => hcalls later (List.mem_cons_of_mem _ hlater)

end Supervisor

namespace Supervised

/-- **A recorded fault is left by runs, and by nothing else.** Whatever is called of a supervisor
    after a fault was recorded, on any hosts: the history grows by one state a call, an error of
    the host for each run and the fault for each record; every run is refused with what comes of it
    confined to messages; and the state is `faulted` all along exactly if no call is a run. -/
theorem fault_left_by_runs (code : UInt32) (s : Supervised) (calls : List SupervisorCall) :
    let faulted := (recordFault code s).2.supervisor
    (faulted.afterAll calls).history =
        s.supervisor.history ++ .faulted :: calls.map (·.leaves) ∧
    (∀ (script : Script) (h : Host), ∃ s',
      run script ⟨h, faulted.afterAll calls⟩ = (.ok (.hostError (.invariant
          s!"supervisor started from {(faulted.afterAll calls).state.name}")), s') ∧
        s'.host = { h with messages := s'.host.messages }) ∧
    ((∀ made, made <+: calls → (faulted.afterAll made).state = .faulted) ↔
      ∀ call ∈ calls, ¬ call.IsRun) := by
  intro faulted
  have hstate : faulted.state = .faulted := rfl
  have hleft : faulted.state ≠ .idle := nofun
  have hhistory : faulted.history = s.supervisor.history ++ [.faulted] :=
    Supervisor.history_moveTo _ _
  have hlast : ∀ made, (faulted.afterAll made).state =
      (made.map (·.leaves)).getLast?.getD .faulted := fun made =>
    Supervisor.state_of_history (Supervisor.history_afterAll hleft made)
  refine ⟨?_, fun script h => ?_, fun hkept call hcall hrun => ?_, fun hcalls made hmade => ?_⟩
  · rw [Supervisor.history_afterAll hleft, hhistory, List.append_assoc]
    rfl
  · have hagain := (Supervisor.since_afterAll .refl calls).state_ne_idle hleft
    exact ⟨_, run_of_left (s := ⟨h, faulted.afterAll calls⟩) hagain script, rfl⟩
  · -- the state right after the run is not `faulted`
    obtain ⟨before, later, rfl⟩ := List.append_of_mem hcall
    have hthen := hkept (before ++ [call]) ⟨later, by simp⟩
    rw [hlast, List.map_append, List.map_singleton, List.getLast?_concat] at hthen
    exact SupervisorCall.leaves_eq_faulted_iff.1 hthen hrun
  · exact Supervisor.state_afterAll_of_faulted hstate fun call hcall =>
      hcalls call (hmade.subset hcall)

def faulting : Script :=
  .ofText (.ofText "/a.js") "fault 2a"

/-- The fault is recorded, the supervisor is asked to run again, and the fault is left. -/
theorem faulted_not_terminal :
    ∃ s, run faulting (emptyHost.under .source) = (.fault (.structured 0x2a), s) ∧
      let faulted := (recordFault 0x2a s).2.supervisor
      faulted.state = .faulted ∧
      (faulted.after (.run faulting s.host)).state = .finished .hostError ∧
      (faulted.after (.run faulting s.host)).history =
        [.idle, .runtimeReady, .contextEntered, .running, .faulted, .finished .hostError] := by
  have hending : (run faulting (emptyHost.under .source)).1 = .fault (.structured 0x2a) := by
    decide +kernel
  have hhistory : (run faulting (emptyHost.under .source)).2.supervisor.history =
      [.idle, .runtimeReady, .contextEntered, .running] := by decide +kernel
  rcases hrun : run faulting (emptyHost.under .source) with ⟨ending, s⟩
  rw [hrun] at hending hhistory
  cases hending
  have hleft : (recordFault 0x2a s).2.supervisor.state ≠ .idle := nofun
  have hrecorded : (recordFault 0x2a s).2.supervisor.history =
      s.supervisor.history ++ [.faulted] := Supervisor.history_moveTo _ _
  have hbefore : s.supervisor.history = [.idle, .runtimeReady, .contextEntered, .running] :=
    hhistory
  refine ⟨s, rfl, rfl, ?_, ?_⟩
  · rw [Supervisor.after_of_left hleft]
    rfl
  · rw [Supervisor.after_of_left hleft, Supervisor.history_moveTo, hrecorded, hbefore]
    rfl

end Supervised
end ScriptHost
