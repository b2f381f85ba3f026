import ScriptHost.Proofs.Host.Bracket

/- A run from source, from the engine it begins with to the outcome. The runtime and
   the context are new, so nothing but the program is executed; and closing neither
   prints nor fails.

   What is proved: `run_source`, that a run prints `Program.output` and ends as
   `Program.ending` says, from every reachable engine that is quiet and has nothing
   made to fail. -/
namespace ScriptHost

namespace Program

theorem outcomeOf_runEnding (op : Operation) (p : Program) :
    outcomeOf (runEnding (stopEnding op p.main?) (stopEnding .callTask (stop? p.deferred))) =
      p.ending op := by
  unfold ending
  rcases p.main? with _ | ⟨line, column, _ | _ | _⟩ <;>
    rcases stop? p.deferred with _ | ⟨line', column', _ | _ | _⟩ <;> rfl

theorem runOutput_eq (op : Operation) (p : Program) :
    runOutput (stopEnding op p.main?) (p.immediate.filterMap (·.printed?)) (printed p.deferred) =
      p.output := by
  unfold output
  rcases p.main? with _ | ⟨line, column, _ | _ | _⟩ <;> rfl

end Program

namespace Supervised

theorem runScript_opened {script : Script} {p : Program} {bytecode : Option (List UInt8)}
    {op : Operation} (hruns : Runs script p bytecode op) {s : Supervised} {e : Engine}
    {a : Attributes} (hs : s.host.engine = e.opened a) (hquiet : e.exception = none)
    (hfree : ∀ op, e.injected op = none) :
    outcomeOf (runScript script bytecode s).1 = p.ending op ∧
      (runScript script bytecode s).2.host.engine.output = e.output ++ p.output := by
  obtain ⟨hran, hprinted⟩ := runScript_program hruns (s := s)
    (by rw [hs]; exact Engine.currentContext?_opened _ _) (by rw [hs]; exact hquiet)
    (by rw [hs]; exact hfree)
  rw [hran, hprinted, Program.outcomeOf_runEnding, Program.runOutput_eq, hs]
  exact ⟨rfl, rfl⟩

theorem dispatch_source {s : Supervised} {script : Script} (hmode : s.supervisor.mode = .source)
    (hpath : script.path.isEmpty = false) : dispatch script s = runScript script none s := by
  obtain ⟨path, hfull⟩ := fullPath_of_not_isEmpty hpath s.host.files.workingDirectory
  rw [dispatch, Step.bind_state_apply, Step.bind_ofExcept_apply _ hfull, hmode]

theorem source_apply {s : Supervised} {script : Script} {p : Program}
    (hbase : s.host.engine.WellFormed) (hquiet : s.host.engine.exception = none)
    (hfree : ∀ op, s.host.engine.injected op = none) (hidle : s.supervisor.state = .idle)
    (hmode : s.supervisor.mode = .source) (hpath : script.path.isEmpty = false)
    (hparse : Program.parse script.text = .ok p) :
    (run script s).1 = p.ending .runScript ∧
      (run script s).2.host.engine.output = s.host.engine.output ++ p.output := by
  obtain ⟨s₁, he₁, -, hm₁, hending, hsame⟩ := run_of_dispatch script hbase hfree hidle
  rw [dispatch_source (hm₁.trans hmode) hpath] at hending hsame
  rw [hending, hsame.output]
  exact runScript_opened (.source hparse) he₁ hquiet hfree

/-- **A run from source prints and ends as its program says.** The main program executes in
    program order up to its first throw or fault; unless it faulted, what it deferred
    executes by depth and then in program order, up to the first throw or fault; and of two
    failures the main program's is the one returned. -/
theorem run_source {s : Supervised} {script : Script} {p : Program}
    (hreach : s.host.engine.Reachable) (hquiet : s.host.engine.exception = none)
    (hfree : ∀ op, s.host.engine.injected op = none) (hidle : s.supervisor.state = .idle)
    (hmode : s.supervisor.mode = .source) (hpath : script.path.isEmpty = false)
    (hparse : Program.parse script.text = .ok p) :
    (run script s).1 = p.ending .runScript ∧
      (run script s).2.host.engine.output = s.host.engine.output ++ p.output :=
  source_apply (Engine.wellFormed_of_reachable hreach) hquiet hfree hidle hmode hpath hparse

/-- A script that throws after it deferred. -/
def throwing : Script :=
  .ofText (.ofText "a.js") "defer defer print c\ndefer print b\nprint a\nthrow boom"

def throwingProgram : Program :=
  [⟨1, .defer 1 (.defer 7 (.act 13 (.print "c")))⟩, ⟨2, .defer 1 (.act 7 (.print "b"))⟩,
    ⟨3, .act 1 (.print "a")⟩, ⟨4, .act 1 (.throw "boom")⟩]

/-- What stands under two `defer`s comes after what stands under one. -/
theorem deferred_throwingProgram :
    throwingProgram.deferred = [⟨2, 7, .print "b"⟩, ⟨1, 13, .print "c"⟩] := by
  have hwork : throwingProgram.work = [(1, ⟨1, 13, .print "c"⟩), (0, ⟨2, 7, .print "b"⟩)] := by
    decide +kernel
  rw [Program.deferred_eq_schedule, hwork, schedule_put_back, List.singleton_append, schedule_ready,
    schedule_ready, schedule_nil]

/-- The deferred leaves still execute, the shallower first, and the exception of the main
    program is the one returned. -/
theorem run_source_throwing :
    (run throwing (occupied .source)).1 =
      .ok (.scriptError .runScript .scriptException (some ⟨"boom", some 4, some 1⟩)) ∧
    (run throwing (occupied .source)).2.host.engine.output = ["a", "b", "c"] := by
  have hparse : Program.parse throwing.text = .ok throwingProgram := by decide +kernel
  have hpath : throwing.path.isEmpty = false := by decide +kernel
  obtain ⟨hending, houtput⟩ :=
    run_source (reachable_occupied .source) rfl (fun _ => rfl) rfl rfl hpath hparse
  rw [hending, houtput, Program.ending, Program.output, deferred_throwingProgram]
  exact ⟨by decide +kernel, by decide +kernel⟩

end Supervised
end ScriptHost
