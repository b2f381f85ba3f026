import ScriptHost.Proofs.Host.Bracket
import ScriptHost.Proofs.Host.Verdict

/- First failure wins, and later steps still run. Every step of a run returns the first
   failure of its log, and where two results are put together the log of the second
   comes after that of the first. A failure that is only noted is never the first: a
   guard is dropped because something failed, and a hook that was installed can be
   removed.

   What is proved: `first_failure_decides`, for every host, mode and script. -/
namespace ScriptHost

open Supervised (Having)

namespace Traced

/-! Steps of the host's own. -/

theorem sound_writeFile (output : Path) (content : List UInt8) :
    Sound (fun _ => True) (writeFile output content) :=
  .onFiles fun {files _ _} hrequest => by
    have hwritten := Host.written_writing output content files
    rw [hrequest] at hwritten
    cases hwritten <;> rfl

theorem sound_readBytecode (path : Path) : Sound (fun _ => True) (readBytecode path) :=
  .onFiles fun hrequest => by
    unfold Host.reading at hrequest
    split at hrequest <;> cases hrequest
    rfl

section
variable {σ : Type} [HasEngine σ] {P : σ → Prop}

theorem sound_checkSymbol (symbol : String) :
    Sound P (ofExcept (Host.checkSymbol symbol) : Traced σ Unit) := by
  refine .ofExcept fun e he => ?_
  unfold Host.checkSymbol at he
  split at he <;> cases he
  rfl

theorem sound_fullPath (script : Script) (workingDirectory : Location) :
    Sound P (ofExcept (script.fullPath workingDirectory) : Traced σ Path) := by
  refine .ofExcept fun e he => ?_
  unfold Script.fullPath at he
  split at he <;> cases he
  rfl

theorem sound_checkUtf8 (script : Script) (feature : String) :
    Sound P (ofExcept (script.checkUtf8 feature) : Traced σ Unit) := by
  refine .ofExcept fun e he => ?_
  unfold Script.checkUtf8 at he
  split at he <;> cases he
  rfl

theorem sound_symbol (script : Script) : Sound P (ofExcept script.symbol : Traced σ String) := by
  refine .ofExcept fun e he => ?_
  unfold Script.symbol at he
  split at he <;> cases he
  rfl

end

/-! Byte code. -/

theorem sound_debug {P : Host → Prop} (text : String) : Sound P (debug text) :=
  .of_nil (fun _ => rfl) fun _ _ _ h => by cases h

theorem judgement_sound : Judgement fun m => Sound (fun _ => True) m where
  pure := .pure
  bind := .then_
  debug := sound_debug

theorem sound_serialize (source : String) : Sound (fun _ => True) (serialize source) :=
  judgement_sound.serialize (.call trivial) (fun _ => .call trivial)
    fun hbroken => .fail (by cases hbroken <;> rfl)

theorem sound_emitHeader (script : Script) (output : Path) (symbol : String) :
    Sound (fun _ => True) (emitHeader script output symbol) :=
  judgement_sound.emitHeader (sound_checkSymbol _) (sound_serialize _) (sound_writeFile _)

theorem sound_emitBytecode (source : String) (output : Path) :
    Sound (fun _ => True) (emitBytecode source output) :=
  judgement_sound.emitBytecode (sound_serialize _) (sound_writeFile _)

/-! Opening and closing. -/

theorem sound_createRuntime {P : Host → Prop} (a : Attributes) : Sound P (createRuntime a) :=
  .then_ (.call trivial) fun _ => .then_ (sound_debug _) fun _ => .pure _

theorem failure?_of_verdict {a : Attempt} (h : Verdict [a] (.ok ())) : a.failure? = none := by
  have hnone : [a].findSome? (·.failure?) = none := h
  rw [List.findSome?_cons] at hnone
  split at hnone
  · cases hnone
  · assumption

/-- A log whose last attempt entered a context. -/
def Entering (g : RuntimeGuard) (context : ContextId) (l : Log) : Prop :=
  ∃ before enter, l = before ++ [enter] ∧ Told before (.ok ()) ∧
    enter.act = .enter g context ∧ enter.failure? = none

theorem Entering.after {g : RuntimeGuard} {context : ContextId} {l l' : Log}
    (h : Entering g context l') (hl : Told l (.ok ())) : Entering g context (l ++ l') := by
  obtain ⟨before, enter, rfl, hbefore, hact, hgoes⟩ := h
  exact ⟨l ++ before, enter, (List.append_assoc _ _ _).symm, hl.append hbefore, hact, hgoes⟩

/-- The log of an opening tells of its failure, or ends with the entering. -/
structure Opens (g : RuntimeGuard) (m : Traced Host ContextScope) : Prop where
  value : ∀ {h h' : Host} {scope : ContextScope}, m.step h = (.ok scope, h') →
    Entering g scope.context (m.log h)
  error : ∀ {h h' : Host} {e : HostError}, m.step h = (.error e, h') → Told (m.log h) (.error e)

theorem Opens.bind {α : Type} {g : RuntimeGuard} {m : Traced Host α}
    {next : α → Traced Host ContextScope} (hm : Sound (fun _ => True) m)
    (hnext : ∀ a, Opens g (next a)) : Opens g (m >>= next) where
  value {h h' scope} hstep := by
    obtain ⟨a, t, ha, hscope, hlog⟩ := bind_ok hstep
    rw [hlog]
    exact ((hnext a).value hscope).after (hm.told (r := .ok a) trivial ha)
  error {h h' e} hstep := by
    rcases bind_error hstep with ⟨he, hlog⟩ | ⟨a, t, ha, he, hlog⟩
    · rw [hlog]
      exact hm.told (r := .error e) trivial he
    · rw [hlog]
      exact (hm.told (r := .ok a) trivial ha).append ((hnext a).error he)

theorem opens_setCurrent {g : RuntimeGuard} {id : ContextId} {previous : Option ContextId}
    (hact : (Act.enter g id).Calls .setCurrentContext
      (fun e => .unit (e.setCurrentContext (some id)).1) fun e => (e.setCurrentContext (some id)).2)
    (text : String) :
    Opens g (do
      call (.enter g id) .setCurrentContext (·.setCurrentContext (some id)) hact
      debug text
      return ⟨id, previous⟩) where
  value {h h' scope} hstep := by
    obtain ⟨u, h₁, hset, hdone, hlog⟩ := bind_ok hstep
    have hentered : Verdict [⟨h.engine, .enter g id⟩] (.ok ()) := verdict_call (r := .ok u) hset
    cases hdone
    rw [hlog]
    exact ⟨[], _, rfl, .nil, rfl, failure?_of_verdict hentered⟩
  error {h h' e} hstep := by
    rcases bind_error hstep with ⟨hset, hlog⟩ | ⟨u, h₁, -, hdone, -⟩
    · rw [hlog]
      exact .refused (fun hrun => hrun) (verdict_call (r := .error e) hset)
    · cases hdone

theorem opens_enter (g : RuntimeGuard) (id : ContextId) : Opens g (enter g id) :=
  .bind (.call trivial) fun _ => opens_setCurrent _ _

theorem exists_verdict_drop (h : Host) (g : RuntimeGuard) :
    ∃ r, Verdict [⟨h.engine, .drop g⟩] r := by
  have hfailure : Attempt.failure? ⟨h.engine, .drop g⟩ =
      (h.engine.ends (.disposeRuntime g.runtime)).error?.map (.call .disposeRuntime) := rfl
  cases hcode : (h.engine.ends (.disposeRuntime g.runtime)).error? with
  | none =>
    rw [hcode] at hfailure
    exact ⟨_, verdict_ok hfailure⟩
  | some code =>
    rw [hcode] at hfailure
    exact ⟨_, verdict_error hfailure (h.reported_failure .disposeRuntime code)⟩

/-- The guard is dropped after the failure that it is dropped for. -/
theorem Opens.orDrop {g : RuntimeGuard} {m : Traced Host ContextScope} (hm : Opens g m) :
    Opens g (m.orDrop g) where
  value {h h' scope} hstep := by
    have honError : m.step.onError g.drop h = (.ok scope, h') := hstep
    unfold Step.onError at honError
    rcases hx : m.step h with ⟨scope' | e | payload, h₁⟩ <;> rw [hx] at honError <;> cases honError
    rw [log_orDrop_of_ok hx]
    exact hm.value hx
  error {h h' e} hstep := by
    have honError : m.step.onError g.drop h = (.error e, h') := hstep
    unfold Step.onError at honError
    rcases hx : m.step h with ⟨scope' | e' | payload, h₁⟩ <;> rw [hx] at honError <;> cases honError
    obtain ⟨dropped, hdropped⟩ := exists_verdict_drop h₁ g
    rw [log_orDrop_of_error hx]
    exact (hm.error hx).append (.single trivial hdropped)

theorem opens_enterNew (g : RuntimeGuard) : Opens g (enterNew g) :=
  .orDrop (.bind (.call trivial) (opens_enter g))

/-- A context is opened by entering it, in a runtime created before. -/
theorem openContext_ok {a : Attributes} {h h' : Host} {active : ActiveContext}
    (hstep : (openContext a).step h = (.ok active, h')) :
    Entering active.runtime active.scope.context ((openContext a).log h) := by
  obtain ⟨g, h₁, hcreate, hrest, hlog⟩ := bind_ok hstep
  obtain ⟨scope, h₂, henter, hdone, hlog'⟩ := bind_ok hrest
  cases hdone
  have hpure : (pure ⟨scope, g⟩ : Traced Host ActiveContext).log h' = [] := rfl
  rw [openContext, hlog, hlog', hpure, List.append_nil]
  exact ((opens_enterNew g).value henter).after
    ((sound_createRuntime a).told (P := fun _ => True) (r := .ok g) trivial hcreate)

theorem openContext_error {a : Attributes} {h h' : Host} {e : HostError}
    (hstep : (openContext a).step h = (.error e, h')) :
    Told ((openContext a).log h) (.error e) := by
  have hcreated := sound_createRuntime (P := fun _ => True) a
  rcases bind_error hstep with ⟨hcreate, hlog⟩ | ⟨g, h₁, hcreate, hrest, hlog⟩
  · rw [openContext, hlog]
    exact hcreated.told (r := .error e) trivial hcreate
  · rcases bind_error hrest with ⟨henter, hlog'⟩ | ⟨scope, h₂, -, hdone, -⟩
    · rw [openContext, hlog, hlog']
      exact (hcreated.told (r := .ok g) trivial hcreate).append ((opens_enterNew g).error henter)
    · cases hdone

theorem debug_call_returns {act : Act} {op : Operation}
    {f : Engine → Except ErrorCode Unit × Engine}
    {hact : act.Calls op (fun e => .unit (f e).1) fun e => (f e).2} {text : String} {h h' : Host}
    {r : Except HostError Unit}
    (hstep : (debug text >>= fun _ => call act op f hact).step h = (.ofExcept r, h')) :
    (debug text >>= fun _ => call act op f hact).log h = [⟨h.engine, act⟩] ∧
      Verdict [⟨h.engine, act⟩] r := by
  obtain ⟨u, h₁, hnote, hcall, hlog⟩ := value_bind_returns (fun e t ht => by cases ht) hstep
  cases hnote
  refine ⟨hlog, ?_⟩
  have hverdict := verdict_call hcall
  cases r <;> exact hverdict

theorem exit_returns {scope : ContextScope} {h h' : Host} {r : Except HostError Unit}
    (hstep : (exit scope).step h = (.ofExcept r, h')) :
    ∃ a, (exit scope).log h = [a] ∧ a.act = .exit scope ∧ Verdict [a] r := by
  obtain ⟨hlog, hverdict⟩ := debug_call_returns hstep
  exact ⟨_, hlog, rfl, hverdict⟩

theorem dispose_returns {g : RuntimeGuard} {h h' : Host} {r : Except HostError Unit}
    (hstep : (dispose g).step h = (.ofExcept r, h')) :
    ∃ a, (dispose g).log h = [a] ∧ a.act = .dispose g ∧ Verdict [a] r := by
  obtain ⟨hlog, hverdict⟩ := debug_call_returns hstep
  exact ⟨_, hlog, rfl, hverdict⟩

theorem close_returns {g : ActiveContext} {h h' : Host} {r : Except HostError Unit}
    (hstep : (close g).step h = (.ofExcept r, h')) :
    ∃ exit dispose exited disposed, (close g).log h = [exit, dispose] ∧
      exit.act = .exit g.scope ∧ Verdict [exit] exited ∧ dispose.act = .dispose g.runtime ∧
      Verdict [dispose] disposed ∧ r = firstFailure exited disposed := by
  obtain ⟨exited, h₁, hexit, hrest, hlog⟩ := attempt_bind_returns hstep
  obtain ⟨disposed, h₂, hdispose, hsettle, hlog'⟩ := attempt_bind_returns hrest
  obtain ⟨x, hexitLog, hx, hexited⟩ := exit_returns hexit
  obtain ⟨y, hdisposeLog, hy, hdisposed⟩ := dispose_returns hdispose
  refine ⟨x, y, exited, disposed, ?_, hx, hexited, hy, hdisposed, settle_returns hsettle⟩
  rw [close, hlog, hlog', hexitLog, hdisposeLog]
  rfl

/-! The run of a script. -/

/-- Every call of a drain that returns is logged, and the first that fails is the last. -/
theorem told_loggedDrain (hook : Hook) (queue : TaskQueue) (h : Host) :
    (loggedDrain hook queue h).ending.Leaves
      (fun _ => Told (loggedDrain hook queue h).state.2 (.ok ()))
      (fun e => Told (loggedDrain hook queue h).state.2 (.error e)) (fun _ => True) := by
  refine TaskQueue.settle_rule (loggedCallback hook)
    (P := fun p => Told p.2 (.ok ())) (R := fun e p => Told p.2 (.error e))
    (F := fun _ _ => True) ?_ queue (h, []) .nil
  intro p t hp
  have hcall : ∀ {r : Except HostError Unit},
      (p.1.perform .callTask (·.callTask t.callback)).ending = .ofExcept r →
      Told (p.2 ++ [⟨p.1.engine, .callTask t.callback⟩]) r := fun hr =>
    hp.append (.single trivial (Host.verdict_perform (calls_callTask t.callback) p.1 hr))
  show (p.1.perform .callTask (·.callTask t.callback)).ending.Leaves _ _ _
  cases hx : (p.1.perform .callTask (·.callTask t.callback)).ending with
  | ok u => exact hcall (r := .ok ()) hx
  | error e => exact hcall (r := .error e) hx
  | fault payload => trivial

theorem drain_returns {hook : Hook} {queue : TaskQueue} {s s' : Supervised}
    {r : Except HostError (Except HostError Unit × TaskQueue)}
    (hstep : (drain hook queue).step s = (.ofExcept r, s')) :
    ∃ drained queue' calls, r = .ok (drained, queue') ∧
      (drain hook queue).log s = ⟨s.host.engine, .drain⟩ :: calls ∧ Told calls drained := by
  have htold := told_loggedDrain hook queue s.host
  have hdrain : Supervised.drain hook queue s = (.ofExcept r, s') := hstep
  have hlog : (drain hook queue).log s =
      ⟨s.host.engine, .drain⟩ :: (loggedDrain hook queue s.host).state.2 := rfl
  unfold Supervised.drain at hdrain
  rw [loggedDrain_fst] at hdrain
  rw [hlog]
  generalize loggedDrain hook queue s.host = d at htold hdrain
  obtain ⟨passes, succeeded, ending, queue', h, l⟩ := d
  cases ending with
  | ok u =>
    cases r with
    | error e => cases hdrain
    | ok p =>
      cases hdrain
      exact ⟨_, _, l, rfl, rfl, htold⟩
  | error e =>
    cases r with
    | error e => cases hdrain
    | ok p =>
      cases hdrain
      exact ⟨_, _, l, rfl, rfl, htold⟩
  | fault payload => cases r <;> cases hdrain

theorem perform_returns {act : Act} {op : Operation} {f : Engine → Execution}
    (hact : act.Calls op (fun e => (f e).ending) fun e => (f e).engine) {h h' : Host}
    {r : Except HostError (Except HostError Unit × List Signal)}
    (hstep : (perform act op f hact).step h = (.ofExcept r, h')) :
    ∃ ran signals, r = .ok (ran, signals) ∧ Verdict [⟨h.engine, act⟩] ran := by
  have hperform : Host.performStep op f h = (.ofExcept r, h') := hstep
  have hverdict : ∀ {ran : Except HostError Unit}, (h.perform op f).ending = .ofExcept ran →
      Verdict [⟨h.engine, act⟩] ran := fun hran => Host.verdict_perform hact h hran
  unfold Host.performStep at hperform
  generalize h.perform op f = p at hperform hverdict
  obtain ⟨ending, signals, h₁⟩ := p
  cases r with
  | error e => cases ending <;> cases hperform
  | ok answer =>
    cases ending with
    | ok u =>
      cases hperform
      exact ⟨.ok (), signals, rfl, hverdict rfl⟩
    | error e =>
      cases hperform
      exact ⟨.error e, signals, rfl, hverdict rfl⟩
    | fault payload => cases hperform

theorem runCall_returns {script : Script} {bytecode : Option (List UInt8)} {tag : SourceContext}
    {h h' : Host} {r : Except HostError (Except HostError Unit × List Signal)}
    (hstep : (runCall script bytecode tag).step h = (.ofExcept r, h')) :
    ∃ ran signals a, r = .ok (ran, signals) ∧ (runCall script bytecode tag).log h = [a] ∧
      a.act.IsRun ∧ Verdict [a] ran := by
  cases bytecode with
  | none =>
    obtain ⟨ran, signals, rfl, hverdict⟩ := perform_returns (calls_runScript _ _) hstep
    exact ⟨ran, signals, _, rfl, rfl, trivial, hverdict⟩
  | some bytes =>
    obtain ⟨ran, signals, rfl, hverdict⟩ := perform_returns (calls_runSerialized _ _) hstep
    exact ⟨ran, signals, _, rfl, rfl, trivial, hverdict⟩

/-- A hook can be removed: that is not made to fail, and a context is current. -/
def Unhookable (e : Engine) : Prop :=
  e.injected .setContinuationCallback = none ∧ ∃ id c, e.currentContext? = some (id, c)

theorem Unhookable.inside {e e' : Engine} (h : Unhookable e) (hin : Engine.Inside e e') :
    Unhookable e' := by
  obtain ⟨hfree, id, c, hc⟩ := h
  obtain ⟨-, c', hc', -⟩ := hin.effects.contexts hc
  exact ⟨hin.effects.setting.injected ▸ hfree, id, c', hc'⟩

theorem unhookable_of_setHook {e e' : Engine} {hook : Option Hook}
    (h : e.setHook hook = (.ok (), e')) : Unhookable e' := by
  rcases e.setHook_cases hook with ⟨code, heq⟩ | ⟨hfree, id, c, hc, heq⟩ <;> cases heq.symm.trans h
  exact ⟨hfree, id, _, Engine.currentContext?_insert hc _ _⟩

theorem told_clearHook {queue : TaskQueue} {s : Supervised} (hs : Unhookable s.host.engine) :
    Told ((clearHook queue).log s) (.ok ()) := by
  obtain ⟨hfree, id, c, hc⟩ := hs
  have hset : (s.host.engine.setHook none).1 = .ok () := by
    rw [Engine.setHook, Engine.unlessInjected_of_none _ hfree, hc]
  refine .single trivial (verdict_ok ?_)
  show (Ending.unit (s.host.engine.setHook none).1).error?.map (Failure.call _) = none
  rw [hset]
  rfl

theorem sound_newHook {P : Host → Prop} : Sound P newHook :=
  .of_nil (fun _ => rfl) fun _ _ _ h => by cases h

theorem sound_nextSourceContext {P : Host → Prop} : Sound P nextSourceContext :=
  .of_nil (fun _ => rfl) fun _ _ _ h => by cases h

theorem sound_transition {P : Supervised → Prop} (next : SupervisorState) :
    Sound P (transition next) :=
  .of_nil (fun _ => rfl) fun _ _ _ h => by cases h

theorem installed {hook : Hook} {s t : Supervised}
    {hact : (Act.installHook hook).Calls .setContinuationCallback
      (fun e => .unit (e.setHook (some hook)).1) fun e => (e.setHook (some hook)).2}
    (h : (onHost (call (.installHook hook) .setContinuationCallback (·.setHook (some hook))
      hact)).step s = (.ok (), t)) : Having Unhookable t := by
  have hcall : Host.call .setContinuationCallback (·.setHook (some hook)) s.host =
      (.ok (), t.host) := onHost_returns (r := .ok ()) h
  obtain ⟨e, hset, ht⟩ := Host.call_eq_ok hcall
  show Unhookable t.host.engine
  rw [ht]
  exact unhookable_of_setHook hset

theorem noteFailure_returns {front : String} {result : Except HostError Unit}
    {next : Unit → Traced Supervised Unit} {s s' : Supervised} {r : Except HostError Unit}
    (h : (noteFailure front result >>= next).step s = (.ofExcept r, s')) :
    ∃ t, t.host.engine = s.host.engine ∧ (next ()).step t = (.ofExcept r, s') ∧
      (noteFailure front result >>= next).log s = (next ()).log t := by
  obtain ⟨u, t, hnote, hrest, hlog⟩ := value_bind_returns
    (fun e t hnote => by cases result <;> cases hnote) h
  refine ⟨t, ?_, hrest, hlog⟩
  cases result <;> cases hnote <;> rfl

/-- A run, the drain after it and the removal of the hook, from where the run is called. -/
theorem runThenDrain_returns {script : Script} {bytecode : Option (List UInt8)} {hook : Hook}
    {tag : SourceContext} {s s' : Supervised} {r : Except HostError Unit}
    (hs : Unhookable s.host.engine)
    (h : (runThenDrain script bytecode hook tag).step s = (.ofExcept r, s')) :
    Told ((runThenDrain script bytecode hook tag).log s) r := by
  -- neither the run nor the drain returns an error: each hands its failure on as a value
  rcases bind_returns h with ⟨e, -, hrun, -⟩ | ⟨answer, s₁, hrun, hrest, hlog⟩
  · obtain ⟨ran, signals, a, heq, -⟩ := runCall_returns (onHost_returns (r := .error e) hrun)
    cases heq
  obtain ⟨ran, signals, a, heq, hlogged, hisRun, hran⟩ :=
    runCall_returns (onHost_returns (r := .ok answer) hrun)
  cases heq
  have hs₁ : Having Unhookable s₁ := by
    have hkeeps := keeps_of_inward (.onHost (R := fun _ => True) (logs_runCall script bytecode tag
      fun _ hkind => .of_kind hkind nofun nofun)) Unhookable.inside
    exact hkeeps.value hs hrun
  obtain ⟨s₂, he₂, hrest, hlog₂⟩ := noteFailure_returns hrest
  obtain ⟨u, s₃, hdraining, hrest, hlog₃⟩ := value_bind_returns (fun e t ht => by cases ht) hrest
  cases hdraining
  rcases bind_returns hrest with ⟨e, -, hdrain, -⟩ | ⟨answer, s₄, hdrain, hrest, hlog₄⟩
  · obtain ⟨drained, queue, calls, heq, -⟩ := drain_returns (r := .error e) hdrain
    cases heq
  obtain ⟨drained, queue, calls, heq, hdrainLog, hcalls⟩ := drain_returns (r := .ok answer) hdrain
  cases heq
  have hs₄ : Having Unhookable s₄ := by
    have hs₃ : Having Unhookable (Supervised.moved .draining s₂) := by
      show Unhookable s₂.host.engine
      rw [he₂]
      exact hs₁
    have hkeeps := keeps_of_inward (logs_drain hook (TaskQueue.empty.receive hook signals)
      (fun _ => .of_kind rfl nofun nofun)
      fun _ _ => .of_kind rfl nofun nofun) Unhookable.inside
    exact hkeeps.value hs₃ hdrain
  obtain ⟨s₅, he₅, hrest, hlog₅⟩ := noteFailure_returns hrest
  obtain ⟨u, s₆, hclear, hrest, hlog₆⟩ := value_bind_returns (fun e t ht => by cases ht) hrest
  have hcleared : Told ((clearHook queue).log s₅) (.ok ()) :=
    told_clearHook (by rw [he₅]; exact hs₄)
  -- the hook is still there to be removed, so that adds no failure to those of the drain
  have hdrained : Told (calls ++ (clearHook queue).log s₅) drained := by
    have hboth := hcalls.append hcleared
    cases drained <;> exact hboth
  have hlogs : (runThenDrain script bytecode hook tag).log s =
      a :: ⟨(Supervised.moved .draining s₂).host.engine, .drain⟩ ::
        (calls ++ (clearHook queue).log s₅) := by
    refine hlog.trans ?_
    have hrunLog : (onHost (runCall script bytecode tag)).log s = [a] := hlogged
    have hquiet : (transition .draining).log s₂ = [] := rfl
    have hsettled : (settle (firstFailure ran drained) : Traced Supervised Unit).log s₆ = [] := rfl
    rw [hlog₂, hlog₃, hlog₄, hlog₅, hlog₆, hdrainLog, hrunLog, hquiet, hsettled, List.append_nil]
    rfl
  rw [hlogs, settle_returns hrest]
  exact .run hisRun hran rfl hdrained

theorem sound_runScript (script : Script) (bytecode : Option (List UInt8)) :
    Sound (fun _ => True) (runScript script bytecode) := by
  refine .then_ (.onHost (P := fun _ => True) sound_newHook) fun hook => ?_
  refine .bind (Q := fun _ => Having Unhookable) (.onHost (P := fun _ => True) (.call trivial))
    (fun _ ht => installed ht) fun _ => ?_
  refine .bind (Q := fun _ => Having Unhookable) (sound_transition _)
    (fun hs ht => by cases ht; exact hs) fun _ => ?_
  refine .bind (Q := fun _ => Having Unhookable)
    (.onHost (P := fun h => Unhookable h.engine) sound_nextSourceContext)
    (fun hs ht => by cases ht; exact hs) fun tag => ?_
  exact .of_unit runThenDrain_returns

/-! A whole run. -/

theorem sound_runInFreshRuntime (script : Script) (bytecode : List UInt8) :
    Sound (fun _ => True) (runInFreshRuntime script bytecode) := by
  refine .then_ (.of_nil (fun _ => rfl) fun _ _ _ h => by cases h) fun s₀ => ?_
  refine .of_unit fun {s s' r} _ h => ?_
  rcases bind_returns h with ⟨e, rfl, hopen, hlog⟩ | ⟨active, s₁, hopen, hrest, hlog⟩
  · rw [hlog]
    exact openContext_error (onHost_returns (r := .error e) hopen)
  obtain ⟨before, enter, hopened, hbefore, henter, hgoes⟩ :=
    openContext_ok (onHost_returns (r := .ok active) hopen)
  obtain ⟨u, s₂, -, hrest, hlog₂⟩ := value_bind_returns (fun e t ht => by cases ht) hrest
  obtain ⟨ran, s₃, hran, hrest, hlog₃⟩ := attempt_bind_returns hrest
  obtain ⟨closed, s₄, hclose, hsettle, hlog₄⟩ := onHost_attempt_bind_returns hrest
  obtain ⟨exit, dispose, exited, disposed, hclosed, hexit, hexited, hdispose, hdisposed, rfl⟩ :=
    close_returns hclose
  -- closing is leaving and disposing, so the three results are those of a bracket
  have hinside := (sound_runScript script (some bytecode)).onFault.told_unit trivial hran
  have htold := Told.bracket hbefore henter hgoes hinside hexit hexited hdispose hdisposed
  rw [firstFailure_assoc] at htold
  have hopenLog : (onHost (openContext s₀.supervisor.mode.attributes)).log s =
      before ++ [enter] := hopened
  rw [hlog, hlog₂, hlog₃, hlog₄, hopenLog, hclosed, settle_returns hsettle, List.append_assoc]
  exact htold

/-- Each mode does one thing after another, and returns at the first failure. -/
theorem sound_dispatch (script : Script) : Sound (fun _ => True) (dispatch script) := by
  refine .then_ (.of_nil (fun _ => rfl) fun _ _ _ h => by cases h) fun s => ?_
  refine .then_ (sound_fullPath _ _) fun path => ?_
  cases s.supervisor.mode with
  | source => exact sound_runScript script none
  | preSerialized path =>
    refine .then_ (sound_checkUtf8 _ _) fun _ => ?_
    refine .then_ (.onHost (P := fun _ => True) (sound_readBytecode _)) fun bytecode => ?_
    exact sound_runScript script (some bytecode)
  | serialized =>
    refine .then_ (sound_checkUtf8 _ _) fun _ => .then_ (sound_transition _) fun _ => ?_
    refine .then_ (.onHost (P := fun _ => True) (sound_serialize _)) fun bytecode => ?_
    exact sound_runInFreshRuntime script bytecode
  | emitHeader output =>
    refine .then_ (sound_checkUtf8 _ _) fun _ => .then_ (sound_symbol _) fun symbol => ?_
    refine .then_ (sound_transition _) fun _ => ?_
    exact .onHost (P := fun _ => True) (sound_emitHeader script output symbol)
  | emitBytecode output =>
    refine .then_ (sound_checkUtf8 _ _) fun _ => .then_ (sound_transition _) fun _ => ?_
    exact .onHost (P := fun _ => True) (sound_emitBytecode script.text output)

theorem sound_execute (script : Script) : Sound (fun _ => True) (execute script) := by
  refine .then_ (.of_nil (fun _ => rfl) fun _ _ _ h => by cases h) fun s₀ => ?_
  refine .of_unit fun {s s' r} _ h => ?_
  -- until the context is entered, a failure ends the run at once
  have hcreates := sound_createRuntime (P := fun _ => True) s₀.supervisor.mode.attributes
  rcases bind_returns h with ⟨e, rfl, hcreate, hlog⟩ | ⟨runtime, s₁, hcreate, hrest, hlog⟩
  · rw [hlog]
    exact hcreates.told (r := .error e) trivial (onHost_returns (r := .error e) hcreate)
  have hcreated := hcreates.told (r := .ok runtime) trivial
    (onHost_returns (r := .ok runtime) hcreate)
  obtain ⟨u, s₂, -, hrest, hlog₂⟩ := value_bind_returns (fun e t ht => by cases ht) hrest
  rcases bind_returns hrest with ⟨e, rfl, hopen, hlog₃⟩ | ⟨scope, s₃, hopen, hrest, hlog₃⟩
  · rw [hlog, hlog₂, hlog₃]
    exact hcreated.append ((opens_enterNew runtime).error (onHost_returns (r := .error e) hopen))
  obtain ⟨before, enter, hopened, hbefore, henter, hgoes⟩ :=
    (opens_enterNew runtime).value (onHost_returns (r := .ok scope) hopen)
  -- from here on every failure is kept as a result, and what follows is done all the same
  obtain ⟨u, s₄, -, hrest, hlog₄⟩ := value_bind_returns (fun e t ht => by cases ht) hrest
  obtain ⟨ran, s₅, hran, hrest, hlog₅⟩ := attempt_bind_returns hrest
  obtain ⟨exited, s₆, hexit, hrest, hlog₆⟩ := onHost_attempt_bind_returns hrest
  obtain ⟨disposed, s₇, hdispose, hsettle, hlog₇⟩ := onHost_attempt_bind_returns hrest
  obtain ⟨exit, hexitLog, hexitAct, hexited⟩ := exit_returns hexit
  obtain ⟨dispose, hdisposeLog, hdisposeAct, hdisposed⟩ := dispose_returns hdispose
  have hinside := (sound_dispatch script).onFault.told_unit trivial hran
  have htold := Told.bracket hbefore henter hgoes hinside hexitAct hexited hdisposeAct hdisposed
  have hopenLog : (onHost (enterNew runtime)).log s₂ = before ++ [enter] := hopened
  rw [hlog, hlog₂, hlog₃, hlog₄, hlog₅, hlog₆, hlog₇, hopenLog, hexitLog, hdisposeLog,
    settle_returns hsettle, List.append_assoc]
  exact hcreated.append htold

end Traced

namespace Supervised

def attempts (script : Script) (s : Supervised) : Log :=
  (Traced.execute script).log s

theorem engine_run {s : Supervised} (script : Script) (hidle : s.supervisor.state = .idle) :
    (run script s).2.host.engine = (execute script s).2.host.engine := by
  have hresult : result script s = ((execute script).attempt : Step Supervised Empty _) s := by
    rw [result, if_pos hidle]
  rw [run, Step.bind_apply, hresult, Step.attempt]
  rcases execute script s with ⟨ending, s'⟩
  cases ending <;> rfl

theorem execute_of_run {script : Script} {s s' : Supervised} {outcome : Outcome}
    (hidle : s.supervisor.state = .idle) (hrun : run script s = (.ok outcome, s')) :
    ∃ r s₁, (Traced.execute script).step s = (.ofExcept r, s₁) ∧ outcome = .ofResult r ∧
      s'.host.engine = s₁.host.engine := by
  obtain ⟨hend, -⟩ := run_apply script hidle
  have hengine := engine_run script hidle
  rw [hrun] at hend hengine
  rcases hexecute : execute script s with ⟨ending, s₁⟩
  rw [hexecute] at hend hengine
  obtain ⟨payload, rfl⟩ | ⟨r, rfl⟩ := ending.fault_or_ofExcept
  · cases hend
  · rw [outcomeOf_ofExcept] at hend
    exact ⟨r, s₁, by rw [Traced.execute_step, hexecute], Ending.ok.inj hend, hengine⟩

theorem told_attempts {script : Script} {s s' : Supervised} {outcome : Outcome}
    (hidle : s.supervisor.state = .idle) (hrun : run script s = (.ok outcome, s')) :
    ∃ r, outcome = .ofResult r ∧ Told (attempts script s) r ∧
      Accounts s.host.engine (attempts script s) none s'.host.engine := by
  obtain ⟨r, s₁, hstep, houtcome, hengine⟩ := execute_of_run hidle hrun
  refine ⟨r, houtcome, (Traced.sound_execute script).told_unit trivial hstep, ?_⟩
  have haccounts := (Traced.execute script).accounts s
  have hgoes : (Ending.ofExcept r : Ending HostError Unit).fault? = none := by
    cases r <;> rfl
  rw [hstep, hgoes] at haccounts
  rw [hengine]
  exact haccounts

end Supervised

/-- A log without failures is one of a success. -/
theorem Verdict.success_iff {l : Log} {r : Except HostError Unit} (h : Verdict l r) :
    Outcome.ofResult r = .success ↔ ∀ a ∈ l, a.failure? = none := by
  rw [← List.findSome?_eq_none_iff]
  cases r with
  | ok u => exact iff_of_true rfl h
  | error e =>
    obtain ⟨failure, hfirst, -⟩ := h
    rw [hfirst]
    refine iff_of_false (fun hsuccess => ?_) nofun
    cases e <;> cases hsuccess

/-- The first failure is the one that is reported. -/
theorem Verdict.reported {l : Log} {r : Except HostError Unit} (h : Verdict l r) {failure : Failure}
    (hfirst : l.findSome? (·.failure?) = some failure) :
    ∃ e, r = .error e ∧ failure.Reported e := by
  cases r with
  | ok u =>
    have hnone : l.findSome? (·.failure?) = none := h
    rw [hnone] at hfirst
    cases hfirst
  | error e =>
    obtain ⟨failure', hfirst', hreported⟩ := h
    rw [hfirst'] at hfirst
    cases hfirst
    exact ⟨e, rfl, hreported⟩

namespace Supervised

/-- **The first failure decides the outcome of a run that returns.** It is success exactly when
    nothing failed. The run is followed by the drain, and a context that was entered is left and
    then its runtime disposed, whatever failed before. -/
theorem first_failure_decides {script : Script} {s s' : Supervised} {outcome : Outcome}
    (hidle : s.supervisor.state = .idle) (hrun : run script s = (.ok outcome, s')) :
    Accounts s.host.engine (attempts script s) none s'.host.engine ∧
    (outcome = .success ↔ ∀ a ∈ attempts script s, a.failure? = none) ∧
    (∀ op code, (attempts script s).findSome? (·.failure?) = some (.call op code) →
      if code.isScriptError then ∃ exception, outcome = .scriptError op code exception
      else outcome = .hostError (.engine op code)) ∧
    (∀ e, (attempts script s).findSome? (·.failure?) = some (.host e) → outcome = .hostError e) ∧
    (∀ before a later, attempts script s = before ++ a :: later → a.act.IsRun →
      ∃ drain rest, later = drain :: rest ∧ drain.act = .drain) ∧
    ∀ before a later guard context, attempts script s = before ++ a :: later →
      a.act = .enter guard context → a.failure? = none →
      ∃ inside exit dispose rest previous, later = inside ++ exit :: dispose :: rest ∧
        exit.act = .exit ⟨context, previous⟩ ∧ dispose.act = .dispose guard := by
  obtain ⟨r, rfl, htold, haccounts⟩ := told_attempts hidle hrun
  refine ⟨haccounts, htold.verdict.success_iff, fun op code hfirst => ?_, fun e hfirst => ?_,
    fun before a later hsplit => (htold.orderly.followed hsplit).run,
    fun before a later guard context hsplit => (htold.orderly.followed hsplit).enter guard context⟩
  · obtain ⟨e, rfl, hreported⟩ := htold.verdict.reported hfirst
    unfold Failure.Reported at hreported
    dsimp only at hreported
    split at hreported
    · rename_i hcode
      obtain ⟨exception, rfl⟩ := hreported
      rw [if_pos hcode]
      exact ⟨exception, rfl⟩
    · rename_i hcode
      subst hreported
      rw [if_neg hcode]
      rfl
  · obtain ⟨e', rfl, rfl, hhost⟩ := htold.verdict.reported hfirst
    exact hhost

/-- A script that throws, after it deferred what throws too. -/
def doomed : Script :=
  .ofText (.ofText "a.js") "defer throw later\nthrow boom"

/-- An idle supervisor over an engine that refuses to dispose of a runtime. -/
def undisposing : Supervised where
  host :=
    { engine := Engine.initial.after (.injectFailure .disposeRuntime .runtimeInUse)
      files := { workingDirectory := [] } }
  supervisor := { mode := .source }

/-- The main program fails, then the drain, then the disposal: the main program's failure is the
    outcome, and the drain was attempted after it. -/
theorem first_failure_decides_doomed :
    ∃ s', run doomed undisposing =
        (.ok (.scriptError .runScript .scriptException (some ⟨"boom", some 2, some 1⟩)), s') ∧
      (∃ a ∈ attempts doomed undisposing, a.failure? ≠ none) ∧
      ∀ before a later, attempts doomed undisposing = before ++ a :: later → a.act.IsRun →
        ∃ drain rest, later = drain :: rest ∧ drain.act = .drain := by
  have hending : (run doomed undisposing).1 =
      .ok (.scriptError .runScript .scriptException (some ⟨"boom", some 2, some 1⟩)) := by
    decide +kernel
  generalize hrun : run doomed undisposing = r at hending
  obtain ⟨ending, s'⟩ := r
  cases hending
  obtain ⟨-, hsuccess, -, -, hdrain, -⟩ := first_failure_decides rfl hrun
  refine ⟨s', rfl, ?_, hdrain⟩
  by_contra hnone
  refine absurd (hsuccess.2 fun a ha => ?_) nofun
  by_contra hfailed
  exact hnone ⟨a, ha, hfailed⟩

end Supervised
end ScriptHost
