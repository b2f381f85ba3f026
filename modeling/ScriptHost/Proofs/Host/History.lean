import ScriptHost.Proofs.Host.Freeze

/- The history of a supervisor. A mode lays out a path, and a run goes along it: to the end
   if it succeeds, and otherwise as far as the failure let it. Where it can stop is a matter
   of what can happen in each state. Only the call that runs a script and the tasks drained
   after it can fault, and neither fails as a step: what they return is handed on, and the
   supervisor goes from `running` to `draining` all the same. So an error never stops a
   run in `running`, and a fault stops it nowhere else than there or in `draining`.

   What is proved:
     1. The rules for `Travels`, one for each way in which the steps of a run are put together.
     2. `travels_execute` — a run goes along the path of its mode.
     3. `run_history` — the history of a first run, and what every further one comes to. -/
namespace ScriptHost

open Step (Returns)

/-- The states that the work of a mode goes through. -/
def Mode.work : Mode → List SupervisorState
  | .source => [.running, .draining]
  | .preSerialized _ => [.running, .draining]
  | .serialized => [.compiling, .running, .draining]
  | .emitHeader _ => [.compiling]
  | .emitBytecode _ => [.compiling]

/-- The states that a run in a mode goes through between its first and its last. -/
def Mode.path (mode : Mode) : List SupervisorState :=
  .runtimeReady :: .contextEntered :: mode.work

/-- Whether a mode writes a file in place of running the script. -/
def Mode.emits : Mode → Bool
  | .emitHeader _ => true
  | .emitBytecode _ => true
  | _ => false

theorem Ending.Leaves.imp {ε α : Type} {x : Ending ε α} {v v' : α → Prop} {e e' : ε → Prop}
    {f f' : Payload → Prop} (h : x.Leaves v e f) (hv : ∀ a, v a → v' a) (he : ∀ r, e r → e' r)
    (hf : ∀ payload, f payload → f' payload) : x.Leaves v' e' f' := by
  cases x with
  | ok a => exact hv a h
  | error r => exact he r h
  | fault payload => exact hf payload h

theorem Supervisor.state_of_history {s s' : Supervisor} {visited : List SupervisorState}
    (h : s'.history = s.history ++ visited) : s'.state = visited.getLast?.getD s.state := by
  have hlast : s'.history.getLast? = (s.history ++ visited).getLast? := by rw [h]
  simp only [history, List.getLast?_append, List.getLast?_singleton, Option.some_or] at hlast
  cases hvisited : visited.getLast? with
  | none =>
    rw [hvisited] at hlast
    exact Option.some.inj hlast
  | some x =>
    rw [hvisited] at hlast
    exact Option.some.inj hlast

namespace Supervised

variable {ε α β : Type} {mode : Mode} {here : SupervisorState} {path : List SupervisorState}

/-- What a step leaves that went along a path as far as `visited`. Beside a value that is the whole
    path; an error does not stop in `running`, and a fault stops there or in `draining`. -/
structure Travelled (mode : Mode) (path visited : List SupervisorState) (s : Supervised)
    (r : Ending ε α × Supervised) : Prop where
  part : visited <+: path
  mode : r.2.supervisor.mode = mode
  history : r.2.supervisor.history = s.supervisor.history ++ visited
  ending : r.1.Leaves (fun _ => visited = path) (fun _ => r.2.supervisor.state ≠ .running)
    (fun _ => r.2.supervisor.state = .running ∨ r.2.supervisor.state = .draining)

/-- Begun in `here`, the step goes along the path. -/
def Travels (mode : Mode) (here : SupervisorState) (path : List SupervisorState)
    (m : Step Supervised ε α) : Prop :=
  ∀ s, s.supervisor.mode = mode → s.supervisor.state = here →
    ∃ visited, Travelled mode path visited s (m s)

/-! Steps that leave the supervisor where it is. -/

/-- The step leaves the supervisor alone. -/
def Still (m : Step Supervised ε α) : Prop :=
  ∀ s, (m s).2.supervisor.mode = s.supervisor.mode ∧
    (m s).2.supervisor.history = s.supervisor.history

namespace Still

theorem onHost (m : Step Host ε α) : Still (onHost m) := fun _ => ⟨rfl, rfl⟩

theorem change (f : Host → Host) : Still (Step.change (changeHost f) : Step Supervised ε Unit) :=
  fun _ => ⟨rfl, rfl⟩

theorem ofExcept (r : Except ε α) : Still (Step.ofExcept r) := fun _ => ⟨rfl, rfl⟩

theorem noteFailure (front : String) (r : Except HostError Unit) :
    Still (noteFailure front r) := by
  intro s
  cases r with
  | ok => exact ⟨rfl, rfl⟩
  | error e => exact ⟨rfl, rfl⟩

theorem drain (hook : Hook) (queue : TaskQueue) : Still (drain hook queue) := by
  intro s
  unfold Supervised.drain
  dsimp only
  split <;> exact ⟨rfl, rfl⟩

theorem bind {m : Step Supervised ε α} {next : α → Step Supervised ε β} (hm : Still m)
    (hnext : ∀ a, Still (next a)) : Still (m >>= next) := by
  intro s
  have hs := hm s
  rw [Step.bind_apply]
  rcases hstep : m s with ⟨a | e | payload, s'⟩
  · rw [hstep] at hs
    obtain ⟨hmode, hhistory⟩ := hnext a s'
    exact ⟨hmode.trans hs.1, hhistory.trans hs.2⟩
  · rw [hstep] at hs
    exact hs
  · rw [hstep] at hs
    exact hs

theorem state_eq {m : Step Supervised ε α} (hm : Still m) (s : Supervised) :
    (m s).2.supervisor.state = s.supervisor.state := by
  have hhistory : (m s).2.supervisor.history = s.supervisor.history ++ [] := by
    rw [List.append_nil, (hm s).2]
  exact Supervisor.state_of_history hhistory

/-- Outside of `running`, a step that never faults may fail. -/
theorem travels {m : Step Supervised ε α} (hm : Still m) (hreturns : Returns m)
    (hhere : here ≠ .running) : Travels mode here [] m := by
  intro s hmode hstate
  refine ⟨[], List.nil_prefix, (hm s).1.trans hmode, ?_, ?_⟩
  · rw [List.append_nil, (hm s).2]
  · rw [hm.state_eq, hstate]
    have hnone := hreturns s
    generalize (m s).1 = x at hnone
    cases x with
    | ok a => exact rfl
    | error e => exact hhere
    | fault payload => cases hnone

/-- In `running` and in `draining`, a step that never fails may fault. -/
theorem travels_of_ne_error {m : Step Supervised ε α} (hm : Still m)
    (hvalue : ∀ s e s', m s ≠ (.error e, s')) (hhere : here = .running ∨ here = .draining) :
    Travels mode here [] m := by
  intro s hmode hstate
  refine ⟨[], List.nil_prefix, (hm s).1.trans hmode, ?_, ?_⟩
  · rw [List.append_nil, (hm s).2]
  · rw [hm.state_eq, hstate]
    rcases hstep : m s with ⟨a | e | payload, s'⟩
    · exact rfl
    · exact absurd hstep (hvalue s e s')
    · exact hhere

end Still

/-! Steps that take it further. -/

namespace Travels

theorem stay {m : Step Supervised ε α} {next : α → Step Supervised ε β}
    (hm : Travels mode here [] m) (hnext : ∀ a, Travels mode here path (next a)) :
    Travels mode here path (m >>= next) := by
  intro s hmode hstate
  obtain ⟨visited, hfirst⟩ := hm s hmode hstate
  cases List.prefix_nil.1 hfirst.part
  rw [Step.bind_apply]
  rcases hstep : m s with ⟨a | e | payload, s'⟩
  · rw [hstep] at hfirst
    have hstate' : s'.supervisor.state = here :=
      (Supervisor.state_of_history hfirst.history).trans hstate
    obtain ⟨visited, hrest⟩ := hnext a s' hfirst.mode hstate'
    have hhistory : s'.supervisor.history = s.supervisor.history := by
      rw [hfirst.history, List.append_nil]
    exact ⟨visited, hrest.part, hrest.mode, hhistory ▸ hrest.history, hrest.ending⟩
  · rw [hstep] at hfirst
    exact ⟨[], List.nil_prefix, hfirst.mode, hfirst.history, hfirst.ending⟩
  · rw [hstep] at hfirst
    exact ⟨[], List.nil_prefix, hfirst.mode, hfirst.history, hfirst.ending⟩

theorem go {next : SupervisorState} {m : SupervisedStep α} (hm : Travels mode next path m) :
    Travels mode here (next :: path) (transition next >>= fun _ => m) := by
  intro s hmode hstate
  obtain ⟨visited, hrest⟩ := hm (moved next s) hmode rfl
  refine ⟨next :: visited, List.cons_prefix_cons.2 ⟨rfl, hrest.part⟩, hrest.mode, ?_, ?_⟩
  · have hmoved : (moved next s).supervisor.history = s.supervisor.history ++ [next] :=
      Supervisor.history_moveTo _ _
    have hhistory := hrest.history
    rw [hmoved, List.append_assoc] at hhistory
    exact hhistory
  · exact hrest.ending.imp (fun _ h => h ▸ rfl) (fun _ h => h) (fun _ h => h)

theorem onFault {m : Step Supervised ε α} (hm : Travels mode here path m) (f : Host → Host) :
    Travels mode here path (m.onFault (changeHost f)) := by
  intro s hmode hstate
  obtain ⟨visited, htravelled⟩ := hm s hmode hstate
  refine ⟨visited, ?_⟩
  unfold Step.onFault
  rcases hstep : m s with ⟨a | e | payload, s'⟩
  · rw [hstep] at htravelled
    exact htravelled
  · rw [hstep] at htravelled
    exact htravelled
  · rw [hstep] at htravelled
    exact ⟨htravelled.part, htravelled.mode, htravelled.history, htravelled.ending⟩

/-- What was opened is closed whether or not the path was gone to its end. The closing stays, and
    it does not make up for a failure. -/
theorem bracket {m : SupervisedStep α} {next : Except HostError α → SupervisedStep β}
    (hm : Travels mode here path m) (hlast : path.getLast?.getD here ≠ .running)
    (hstill : ∀ r, Still (next r)) (hreturns : ∀ r, Returns (next r))
    (hfails : ∀ e s, ((next (.error e)) s).1.isOk = false) :
    Travels mode here path (m.attempt >>= next) := by
  intro s hmode hstate
  obtain ⟨visited, htravelled⟩ := hm s hmode hstate
  -- what the closing leaves, from where the path was left
  have hclose : ∀ r s', s'.supervisor.mode = mode →
      s'.supervisor.history = s.supervisor.history ++ visited → s'.supervisor.state ≠ .running →
      ((next r s').1.isOk = true → visited = path) → Travelled mode path visited s (next r s') := by
    intro r s' hmode' hhistory hstate' hok
    refine ⟨htravelled.part, ?_, ?_, ?_⟩
    · exact (hstill r s').1.trans hmode'
    · exact (hstill r s').2.trans hhistory
    · rw [(hstill r).state_eq]
      have hnone := hreturns r s'
      generalize (next r s').1 = x at hnone hok
      cases x with
      | ok a => exact hok rfl
      | error e => exact hstate'
      | fault payload => cases hnone
  refine ⟨visited, ?_⟩
  rw [Step.bind_apply, Step.attempt]
  rcases hstep : m s with ⟨a | e | payload, s'⟩
  · rw [hstep] at htravelled
    have hwhole : visited = path := htravelled.ending
    have hend : s'.supervisor.state ≠ .running := by
      rw [Supervisor.state_of_history htravelled.history, hwhole, hstate]
      exact hlast
    exact hclose (.ok a) s' htravelled.mode htravelled.history hend fun _ => hwhole
  · rw [hstep] at htravelled
    refine hclose (.error e) s' htravelled.mode htravelled.history htravelled.ending ?_
    intro hok
    exact absurd hok (by rw [hfails e s']; exact Bool.false_ne_true)
  · rw [hstep] at htravelled
    exact ⟨htravelled.part, htravelled.mode, htravelled.history, htravelled.ending⟩

end Travels
/-! The run. -/

theorem performStep_ne_error {op : Operation} {f : Engine → Execution} {h h' : Host}
    {e : HostError} : Host.performStep op f h ≠ (.error e, h') := by
  unfold Host.performStep
  rcases h.perform op f with ⟨⟨⟩ | e | payload, signals, h₁⟩ <;> nofun

theorem drain_ne_error {hook : Hook} {queue : TaskQueue} {s s' : Supervised} {e : HostError} :
    drain hook queue s ≠ (.error e, s') := by
  unfold drain
  dsimp only
  split <;> nofun

/-- The call of the script is made in `running`, whatever it comes to is told in `draining`. -/
theorem travels_runScript (script : Script) (bytecode : Option (List UInt8))
    (hhere : here ≠ .running) :
    Travels mode here [.running, .draining] (runScript script bytecode) := by
  have hrunning : SupervisorState.draining ≠ .running := by decide
  refine .stay ((Still.onHost _).travels (fun _ => rfl) hhere) fun hook => ?_
  refine .stay ((Still.onHost _).travels (returns_onHost (Host.fault?_call _ _)) hhere) fun _ => ?_
  refine .go ?_
  refine .stay ((Still.onHost _).travels_of_ne_error (fun _ _ _ => nofun) (.inl rfl)) fun tag => ?_
  refine .stay ((Still.onHost _).travels_of_ne_error ?_ (.inl rfl)) fun ran => ?_
  · intro s e s' hstep
    obtain ⟨op, f, run, heq, -⟩ := runCall_performs script bytecode tag
    exact performStep_ne_error (heq ▸ (onHost_eq hstep).1)
  refine .stay ((Still.noteFailure _ _).travels_of_ne_error ?_ (.inl rfl)) fun _ => ?_
  · intro s e s'
    cases ran.1 <;> nofun
  refine .go ?_
  refine .stay ((Still.drain hook _).travels_of_ne_error (fun _ _ _ => drain_ne_error)
    (.inr rfl)) fun drained => ?_
  refine .stay ((Still.noteFailure _ _).travels (returns_noteFailure _ _) hrunning) fun _ => ?_
  refine .stay ((Still.change _).travels (fun _ => rfl) hrunning) fun _ => ?_
  exact (Still.ofExcept _).travels (.ofExcept _) hrunning

theorem isOk_bind {m : SupervisedStep α} {next : α → SupervisedStep β}
    (h : ∀ a s, (next a s).1.isOk = false) (s : Supervised) : ((m >>= next) s).1.isOk = false := by
  rw [Step.bind_apply]
  rcases m s with ⟨a | e | payload, s'⟩
  · exact h a s'
  · rfl
  · rfl

theorem travels_runInFreshRuntime (script : Script) (bytecode : List UInt8)
    (hhere : here ≠ .running) :
    Travels mode here [.running, .draining] (runInFreshRuntime script bytecode) := by
  intro s
  refine Travels.stay ((Still.onHost _).travels
    (returns_onHost (Traced.returns_opening.openContext _)) hhere)
    (fun active => ?_) s
  refine .stay ((Still.onHost _).travels (fun _ => rfl) hhere) fun _ => ?_
  refine .bracket (.onFault (travels_runScript script _ hhere) _) nofun ?_ ?_ ?_
  · intro ran
    exact .bind (.onHost _) fun _ => .ofExcept _
  · intro ran
    exact .bind (returns_onHost (.attempt (Traced.returns_opening.close active))) fun _ =>
      .ofExcept _
  · intro e
    exact isOk_bind fun _ _ => rfl

theorem travels_dispatch (script : Script) :
    Travels mode .contextEntered mode.work (dispatch script) := by
  -- where a step stays decides how it can end: a fault is for `running` and `draining` alone
  have hentered : SupervisorState.contextEntered ≠ .running := by decide
  have hcompiling : SupervisorState.compiling ≠ .running := by decide
  have hcheck : ∀ {α : Type} (r : Except HostError α),
      Travels mode .contextEntered [] (Step.ofExcept r) := by
    intro α r
    exact (Still.ofExcept r).travels (.ofExcept r) hentered
  intro s hmode
  refine Travels.stay (hcheck (script.fullPath s.host.files.workingDirectory)) (fun _ => ?_) s hmode
  rw [hmode]
  cases mode with
  | source => exact travels_runScript script none hentered
  | preSerialized input =>
    refine .stay (hcheck _) fun _ => ?_
    refine .stay ((Still.onHost _).travels
      (returns_onHost (Traced.returns_emitting.readBytecode input)) hentered) fun bytecode => ?_
    exact travels_runScript script _ hentered
  | serialized =>
    refine .stay (hcheck _) fun _ => .go ?_
    refine .stay ((Still.onHost _).travels
      (returns_onHost (Traced.returns_emitting.serialize script.text)) hcompiling) fun bytecode => ?_
    exact travels_runInFreshRuntime script bytecode hcompiling
  | emitHeader output =>
    refine .stay (hcheck _) fun _ => .stay (hcheck _) fun symbol => .go ?_
    exact (Still.onHost _).travels
      (returns_onHost (Traced.returns_emitting.emitHeader script output symbol)) hcompiling
  | emitBytecode output =>
    refine .stay (hcheck _) fun _ => .go ?_
    exact (Still.onHost _).travels
      (returns_onHost (Traced.returns_emitting.emitBytecode script.text output)) hcompiling

/-- A run goes along the path of its mode. -/
theorem travels_execute (mode : Mode) (script : Script) :
    Travels mode .idle mode.path (execute script) := by
  intro s
  refine Travels.stay ((Still.onHost _).travels
    (returns_onHost (Traced.returns_opening.createRuntime _))
    (by decide)) (fun runtime => .go ?_) s
  refine .stay ((Still.onHost _).travels (returns_onHost (Traced.returns_opening.enterNew runtime))
    (by decide)) fun scope => .go ?_
  refine .bracket (.onFault (travels_dispatch script) _) ?_ ?_ ?_ ?_
  · cases mode <;> nofun
  · intro ran
    exact .bind (.onHost _) fun _ => .bind (.onHost _) fun _ => .ofExcept _
  · intro ran
    exact .bind (returns_onHost (.attempt (Traced.returns_opening.exit scope))) fun _ =>
      .bind (returns_onHost (.attempt (Traced.returns_opening.dispose runtime))) fun _ =>
        .ofExcept _
  · intro e
    exact isOk_bind fun _ => isOk_bind fun _ _ => rfl

/-! The history. -/

/-- What a first run records, by the way it ends: a part of the mode's path that stops where that
    ending can, and then the outcome if there is one. -/
inductive Recorded (mode : Mode) : Ending Empty Outcome → List SupervisorState → Prop where
  | returned {outcome : Outcome} {visited : List SupervisorState} (part : visited <+: mode.path)
      (stop : visited.getLast? ≠ some .running)
      (whole : outcome.kind = .success → visited = mode.path) :
      Recorded mode (.ok outcome) (.idle :: visited ++ [.finished outcome.kind])
  | faulted {payload : Payload} {visited : List SupervisorState} (part : visited <+: mode.path)
      (stop : visited.getLast? = some .running ∨ visited.getLast? = some .draining) :
      Recorded mode (.fault payload) (.idle :: visited)

/-- What becomes of a supervisor as it is run again and its faults are recorded, on any hosts. -/
inductive Since (first : Supervisor) : Supervisor → Prop where
  | refl : Since first first
  | run {u : Supervisor} (before : Since first u) (script : Script) (h : Host) :
      Since first (run script ⟨h, u⟩).2.supervisor
  | recordFault {u : Supervisor} (before : Since first u) (code : UInt32) (h : Host) :
      Since first (recordFault code ⟨h, u⟩).2.supervisor

theorem kind_ofError_ne (e : HostError) : (Outcome.ofError e).kind ≠ .success := by
  cases e <;> nofun

/-- A first run is an execution, with its outcome recorded at the end. -/
theorem run_of_idle {s : Supervised} (h : s.supervisor.state = .idle) (script : Script) :
    run script s = match execute script s with
      | (.ok (), s') => (.ok .success, finish script .success s')
      | (.error e, s') => (.ok (Outcome.ofError e), finish script (Outcome.ofError e) s')
      | (.fault payload, s') => (.fault payload, s') := by
  unfold run
  rw [Step.bind_apply, result, if_pos h, Step.attempt]
  rcases execute script s with ⟨⟨⟩ | e | payload, s'⟩ <;> rfl

/-- A supervisor that has left `idle` refuses, and nothing but messages comes of it. -/
theorem run_of_left {s : Supervised} (h : s.supervisor.state ≠ .idle) (script : Script) :
    run script s =
      (.ok (.hostError (.invariant s!"supervisor started from {s.supervisor.state.name}")),
        finish script
          (.hostError (.invariant s!"supervisor started from {s.supervisor.state.name}")) s) := by
  unfold run
  rw [Step.bind_apply, result, if_neg h]
  rfl

theorem history_finish (script : Script) (outcome : Outcome) (s : Supervised) :
    (finish script outcome s).supervisor.history =
      s.supervisor.history ++ [.finished outcome.kind] :=
  Supervisor.history_moveTo _ _

theorem Travelled.getLast? {s : Supervised} {r : Ending ε α × Supervised}
    {visited : List SupervisorState} (h : Travelled mode path visited s r)
    (hidle : s.supervisor.state = .idle) (state : SupervisorState) (hstate : state ≠ .idle) :
    visited.getLast? = some state ↔ r.2.supervisor.state = state := by
  rw [Supervisor.state_of_history h.history, hidle]
  cases visited.getLast? with
  | none =>
    constructor
    · nofun
    · intro hsame
      exact absurd hsame.symm hstate
  | some x =>
    constructor
    · intro hsame
      exact Option.some.inj hsame
    · intro hsame
      exact congrArg some hsame

theorem recorded_run (script : Script) (mode : Mode) (h : Host) :
    Recorded mode (run script (h.under mode)).1
      (run script (h.under mode)).2.supervisor.history := by
  obtain ⟨visited, htravelled⟩ := travels_execute mode script (h.under mode) rfl rfl
  have hrunning := htravelled.getLast? rfl .running nofun
  have hdraining := htravelled.getLast? rfl .draining nofun
  have hhistory := htravelled.history
  have hending := htravelled.ending
  rw [run_of_idle rfl]
  rcases hstep : execute script (h.under mode) with ⟨⟨⟩ | e | payload, s'⟩ <;>
    rw [hstep] at hrunning hdraining hhistory hending
  · have hwhole : visited = mode.path := hending
    have hstop : visited.getLast? ≠ some .running := by
      rw [hwhole]
      cases mode <;> nofun
    dsimp only
    rw [history_finish, hhistory]
    exact .returned htravelled.part hstop fun _ => hwhole
  · dsimp only
    rw [history_finish, hhistory]
    refine .returned htravelled.part ?_ fun hkind => absurd hkind (kind_ofError_ne e)
    intro hlast
    exact hending (hrunning.1 hlast)
  · dsimp only
    rw [hhistory]
    have hstop : s'.supervisor.state = .running ∨ s'.supervisor.state = .draining := hending
    exact .faulted htravelled.part (hstop.imp hrunning.2 hdraining.2)

/-- In a mode that writes a file nothing is run and nothing drained. -/
theorem Recorded.fault?_of_emits {x : Ending Empty Outcome} {history : List SupervisorState}
    (h : Recorded mode x history) (hemits : mode.emits = true) : x.fault? = none := by
  cases h with
  | returned part stop whole => rfl
  | @faulted payload visited part stop =>
    have hpath : .running ∉ mode.path ∧ .draining ∉ mode.path := by
      cases mode with
      | source => cases hemits
      | preSerialized input => cases hemits
      | serialized => cases hemits
      | emitHeader output => simp [Mode.path, Mode.work]
      | emitBytecode output => simp [Mode.path, Mode.work]
    cases stop with
    | inl hlast => exact absurd (part.subset (List.mem_of_getLast? hlast)) hpath.1
    | inr hlast => exact absurd (part.subset (List.mem_of_getLast? hlast)) hpath.2

theorem Recorded.state_ne_idle {x : Ending Empty Outcome} {u : Supervisor}
    (h : Recorded mode x u.history) : u.state ≠ .idle := by
  intro hidle
  have hlast : u.history.getLast? = some .idle := by
    simp [Supervisor.history, hidle]
  generalize u.history = history at h hlast
  cases h with
  | @returned outcome visited part stop whole =>
    rw [List.getLast?_concat] at hlast
    cases hlast
  | @faulted payload visited part stop =>
    rw [List.getLast?_cons] at hlast
    cases stop with
    | inl hstop =>
      rw [hstop] at hlast
      cases hlast
    | inr hstop =>
      rw [hstop] at hlast
      cases hlast

theorem Since.state_ne_idle {first u : Supervisor} (h : Since first u)
    (hfirst : first.state ≠ .idle) : u.state ≠ .idle := by
  induction h with
  | refl => exact hfirst
  | run before script h ih =>
    rw [run_of_left ih]
    nofun
  | recordFault before code h ih => nofun

/-- **The history of a supervisor.** Whatever the mode, the script and the host, which holds the
    engine with its failures and the files: a first run records a part of the path of its mode,
    which stops as its ending asks for; it does not fault in a mode that writes a file; and
    every further run of that supervisor, on any host, refuses and changes nothing there except
    that it writes messages. -/
theorem run_history (script : Script) (mode : Mode) (h : Host) :
    Recorded mode (run script (h.under mode)).1
        (run script (h.under mode)).2.supervisor.history ∧
      (mode.emits = true → (run script (h.under mode)).1.fault? = none) ∧
      ∀ u, Since (run script (h.under mode)).2.supervisor u → ∀ (script' : Script) (h' : Host),
        ∃ s', run script' ⟨h', u⟩ =
            (.ok (.hostError (.invariant s!"supervisor started from {u.state.name}")), s') ∧
          s'.host = { h' with messages := s'.host.messages } := by
  have hrecorded := recorded_run script mode h
  refine ⟨hrecorded, hrecorded.fault?_of_emits, ?_⟩
  intro u hsince script' h'
  have hleft := hsince.state_ne_idle hrecorded.state_ne_idle
  exact ⟨_, run_of_left (s := ⟨h', u⟩) hleft script', rfl⟩

/-- A script that would throw is written as byte code, and the supervisor is not used again. -/
theorem run_history_boom :
    (run boom (emptyHost.under (.emitBytecode (.ofText "a.bc")))).2.supervisor.history =
        [.idle, .runtimeReady, .contextEntered, .compiling, .finished .success] ∧
      (run boom (emptyHost.under (.emitBytecode (.ofText "a.bc")))).1.fault? = none ∧
      ∃ s', run boom
            ⟨emptyHost, (run boom (emptyHost.under (.emitBytecode (.ofText "a.bc")))).2.supervisor⟩ =
          (.ok (.hostError (.invariant "supervisor started from Finished(Success)")), s') ∧
        s'.host = { emptyHost with messages := s'.host.messages } := by
  obtain ⟨-, hemits, hfurther⟩ := run_history boom (.emitBytecode (.ofText "a.bc")) emptyHost
  have hagain := hfurther _ .refl boom emptyHost
  have hstate : (run boom (emptyHost.under (.emitBytecode (.ofText "a.bc")))).2.supervisor.state =
      .finished .success := by decide +kernel
  rw [hstate] at hagain
  exact ⟨by decide +kernel, hemits rfl, hagain⟩

end Supervised
end ScriptHost
