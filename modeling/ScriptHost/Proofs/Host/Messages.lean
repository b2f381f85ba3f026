import ScriptHost.Proofs.Host.Composition

/- Messages are only written. A host behind messages that were written before does what
   it would have done without them, and they stay in front of what it writes itself. So
   a step commutes with putting messages in front, and so does what is put together from
   such steps.

   What is proved: `commutes_run`, for every script and mode, and from it that two runs
   whose hosts differ in messages end alike, with the same engine (`run_unheard`). -/
namespace ScriptHost

def Host.behind (before : List Message) (h : Host) : Host :=
  { h with messages := before ++ h.messages }

def Supervised.behind (before : List Message) : Supervised → Supervised :=
  changeHost (Host.behind before)

namespace Step

variable {σ ε δ α β : Type} {f : σ → σ}

/-- The step does the same to a changed state, and the change is left to be seen after it. -/
def Commutes (f : σ → σ) (m : Step σ ε α) : Prop :=
  ∀ s, m (f s) = ((m s).1, f (m s).2)

namespace Commutes

theorem pure (a : α) : Commutes f (Pure.pure a : Step σ ε α) := fun _ => rfl

theorem ok (a : α) : Commutes f (Step.ok a : Step σ ε α) := fun _ => rfl

theorem fail (e : ε) : Commutes f (Step.fail e : Step σ ε α) := fun _ => rfl

theorem ofExcept (r : Except ε α) : Commutes f (Step.ofExcept r : Step σ ε α) := fun _ => rfl

theorem change {g : σ → σ} (h : ∀ s, g (f s) = f (g s)) :
    Commutes f (Step.change g : Step σ ε Unit) := fun s => by
  show ((Ending.ok () : Ending ε Unit), g (f s)) = (Ending.ok (), f (g s))
  rw [h]

theorem bind {m : Step σ ε α} {next : α → Step σ ε β} (hm : Commutes f m)
    (hnext : ∀ a, Commutes f (next a)) : Commutes f (m >>= next) := by
  intro s
  rw [bind_apply, bind_apply, hm s]
  rcases m s with ⟨a | e | payload, s'⟩
  · exact hnext a s'
  · rfl
  · rfl

/-- What is read of the state has to be the same in the changed state. -/
theorem bind_state {next : σ → Step σ ε α} (hread : ∀ s, next (f s) = next s)
    (hnext : ∀ s, Commutes f (next s)) : Commutes f (Step.state >>= next) := by
  intro s
  show next (f s) (f s) = _
  rw [hread]
  exact hnext s s

theorem attempt {m : Step σ ε α} (hm : Commutes f m) :
    Commutes f (m.attempt : Step σ δ (Except ε α)) := by
  intro s
  rw [Step.attempt, Step.attempt, hm s]
  rcases m s with ⟨a | e | payload, s'⟩ <;> rfl

theorem onError {m : Step σ ε α} {g : σ → σ} (hm : Commutes f m) (hg : ∀ s, g (f s) = f (g s)) :
    Commutes f (m.onError g) := by
  intro s
  rw [Step.onError, Step.onError, hm s]
  rcases m s with ⟨a | e | payload, s'⟩
  · rfl
  · exact Prod.ext rfl (hg s')
  · rfl

theorem onFault {m : Step σ ε α} {g : σ → σ} (hm : Commutes f m) (hg : ∀ s, g (f s) = f (g s)) :
    Commutes f (m.onFault g) := by
  intro s
  rw [Step.onFault, Step.onFault, hm s]
  rcases m s with ⟨a | e | payload, s'⟩
  · rfl
  · rfl
  · exact Prod.ext rfl (hg s')

end Commutes
end Step

open Step (Commutes)

variable {before : List Message}

/-! The host. -/

namespace Host

theorem behind_say (before : List Message) (h : Host) (m : Message) :
    (h.behind before).say m = (h.say m).behind before := by
  simp [say, behind]

theorem behind_note (before : List Message) (h : Host) (text : String) :
    (h.behind before).note text = (h.note text).behind before :=
  behind_say before h _

theorem behind_failure (before : List Message) (h : Host) (op : Operation) (code : ErrorCode) :
    (h.behind before).failure op code =
      ((h.failure op code).1, (h.failure op code).2.behind before) := by
  unfold failure
  rw [behind_note]
  dsimp only
  split <;> rfl

theorem commutes_debug (text : String) : Commutes (behind before) (debug text) :=
  .change fun h => behind_note before h text

theorem commutes_call {α : Type} (op : Operation) (f : Engine → Except ErrorCode α × Engine) :
    Commutes (behind before) (call op f) := by
  intro h
  show call op f (h.behind before) = _
  unfold call
  have hengine : (h.behind before).engine = h.engine := rfl
  rw [hengine]
  rcases f h.engine with ⟨code | a, e⟩
  · dsimp only
    have hfailure := behind_failure before { h with engine := e } op code
    exact Prod.ext (congrArg (Ending.error ·.1) hfailure) (congrArg (·.2) hfailure)
  · rfl

theorem behind_perform (before : List Message) (h : Host) (op : Operation)
    (f : Engine → Execution) :
    (h.behind before).perform op f =
      { h.perform op f with host := (h.perform op f).host.behind before } := by
  unfold perform
  have hengine : (h.behind before).engine = h.engine := rfl
  rw [hengine]
  rcases f h.engine with ⟨⟨⟩ | code | payload, e, signals⟩
  · rfl
  · dsimp only
    have hfailure := behind_failure before { h with engine := e } op code
    show Performed.mk (.error (Host.failure (Host.behind before { h with engine := e }) op code).1)
      signals (Host.failure (Host.behind before { h with engine := e }) op code).2 = _
    rw [hfailure]
  · rfl

theorem commutes_performStep (op : Operation) (f : Engine → Execution) :
    Commutes (behind before) (performStep op f) := by
  intro h
  unfold performStep
  rw [behind_perform]
  dsimp only
  generalize h.perform op f = p
  obtain ⟨ending, signals, h'⟩ := p
  cases ending <;> rfl

/-! The steps of the host. -/

theorem behind_drop (before : List Message) (g : RuntimeGuard) (h : Host) :
    g.drop (h.behind before) = (g.drop h).behind before := by
  unfold RuntimeGuard.drop
  have hengine : (h.behind before).engine = h.engine := rfl
  rw [hengine]
  rcases h.engine.disposeRuntime g.runtime with ⟨code | u, e⟩
  · exact behind_note before { h with engine := e } _
  · rfl

theorem behind_abandon (before : List Message) (r : RuntimeGuard) (scope : ContextScope)
    (h : Host) :
    r.abandon (scope.abandon (h.behind before)) = (r.abandon (scope.abandon h)).behind before := by
  unfold RuntimeGuard.abandon ContextScope.abandon
  rw [behind_note, behind_note]

end Host

namespace Traced

theorem commutes_calling :
    Calling (fun _ => True) fun m => Commutes (Host.behind before) m.step where
  pure _ := .pure _
  bind hm hnext := .bind hm hnext
  debug text := Host.commutes_debug text
  call {_ _ op f} _ _ := Host.commutes_call op f
  ofExcept r _ := .ofExcept r
  fail e _ := .fail e
  onFiles _ _ := fun _ => rfl
  settle r := .ofExcept r
  attempt hm := .attempt hm
  orDrop {_ _ g} _ hm := .onError hm (Host.behind_drop before g)

theorem commutes_opening : Opening fun m => Commutes (Host.behind before) m.step :=
  commutes_calling.opening (fun _ => trivial) fun _ => trivial

theorem commutes_emitting : Emitting fun m => Commutes (Host.behind before) m.step :=
  commutes_calling.emitting (fun _ => trivial) (fun _ => trivial) fun _ => trivial

end Traced

open Traced (commutes_opening commutes_emitting)

/-! The supervisor. -/

namespace Supervised

theorem commutes_onHost {ε α : Type} {m : Step Host ε α} (hm : Commutes (Host.behind before) m) :
    Commutes (behind before) (onHost m) := by
  intro s
  show ((m (s.host.behind before)).1, { s with host := (m (s.host.behind before)).2 }) = _
  rw [hm s.host]
  rfl

theorem behind_moved (before : List Message) (next : SupervisorState) (s : Supervised) :
    moved next (s.behind before) = (moved next s).behind before := by
  show Supervised.mk ((s.host.behind before).note _) _ = _
  rw [Host.behind_note]
  rfl

theorem commutes_transition (next : SupervisorState) :
    Commutes (behind before) (transition next) :=
  .change (behind_moved before next)

theorem commutes_noteFailure (front : String) (r : Except HostError Unit) :
    Commutes (behind before) (noteFailure front r) := by
  cases r with
  | ok u => exact .ok ()
  | error e => exact commutes_onHost (Host.commutes_debug _)

/-- A queue is drained alike, since its tasks are called alike. -/
theorem commutes_drain (hook : Hook) (queue : TaskQueue) :
    Commutes (behind before) (drain hook queue) := by
  have hreact : ∀ (h : Host) (t : Task), (Host.taskCallback hook).react (h.behind before) t =
      (((Host.taskCallback hook).react h t).1,
        ((Host.taskCallback hook).react h t).2.behind before) := by
    intro h t
    show (Reaction.mk (hook.moves ((h.behind before).perform .callTask _).signals) _, _) = _
    rw [Host.behind_perform]
    rfl
  intro s
  have hsettle := TaskQueue.settle_map hreact queue s.host
  have hhost : (s.behind before).host = s.host.behind before := rfl
  unfold drain
  rw [hhost, hsettle]
  generalize queue.settle (Host.taskCallback hook) s.host = d
  obtain ⟨passes, succeeded, ending, queue', h⟩ := d
  cases ending <;> rfl

theorem behind_clearHook (before : List Message) (queue : TaskQueue) (h : Host) :
    noteUndrained queue (clearHook (h.behind before)) =
      (noteUndrained queue (clearHook h)).behind before := by
  have hclear : clearHook (h.behind before) = (clearHook h).behind before := by
    unfold clearHook
    have hengine : (h.behind before).engine = h.engine := rfl
    rw [hengine]
    rcases h.engine.setHook none with ⟨code | u, e⟩
    · exact Host.behind_note before { h with engine := e } _
    · rfl
  rw [hclear]
  unfold noteUndrained
  split
  · rfl
  · exact Host.behind_note before _ _

theorem commutes_runCall (script : Script) (bytecode : Option (List UInt8)) (tag : SourceContext) :
    Commutes (Host.behind before) (runCall script bytecode tag) := by
  cases bytecode with
  | none => exact Host.commutes_performStep _ _
  | some bytes => exact Host.commutes_performStep _ _

theorem behind_changeHost {g : Host → Host}
    (hg : ∀ h : Host, g (h.behind before) = (g h).behind before) (s : Supervised) :
    changeHost g (s.behind before) = (changeHost g s).behind before := by
  show Supervised.mk (g (s.host.behind before)) s.supervisor = _
  rw [hg]
  rfl

theorem commutes_runScript (script : Script) (bytecode : Option (List UInt8)) :
    Commutes (behind before) (runScript script bytecode) := by
  refine .bind (commutes_onHost fun _ => rfl) fun hook => ?_
  refine .bind (commutes_onHost (Host.commutes_call _ _)) fun _ => ?_
  refine .bind (commutes_transition _) fun _ => .bind (commutes_onHost fun _ => rfl) fun tag => ?_
  refine .bind (commutes_onHost (commutes_runCall script bytecode tag)) fun (ran, signals) => ?_
  refine .bind (commutes_noteFailure _ ran) fun _ => .bind (commutes_transition _) fun _ => ?_
  refine .bind (commutes_drain hook _) fun (drained, queue) => ?_
  refine .bind (commutes_noteFailure _ drained) fun _ => ?_
  exact .bind (.change (behind_changeHost (behind_clearHook before queue))) fun _ => .ofExcept _

theorem commutes_runInFreshRuntime (script : Script) (bytecode : List UInt8) :
    Commutes (behind before) (runInFreshRuntime script bytecode) := by
  refine .bind_state (fun _ => rfl) fun s => ?_
  refine .bind (commutes_onHost (commutes_opening.openContext _)) fun active => ?_
  refine .bind (commutes_onHost (Host.commutes_debug _)) fun _ => ?_
  refine .bind (.attempt (.onFault (commutes_runScript script _) ?_)) fun ran => ?_
  · exact behind_changeHost (Host.behind_abandon before _ _)
  · exact .bind (commutes_onHost (.attempt (commutes_opening.close active))) fun _ => .ofExcept _

theorem commutes_dispatch (script : Script) : Commutes (behind before) (dispatch script) := by
  refine .bind_state (fun _ => rfl) fun s => .bind (.ofExcept _) fun path => ?_
  cases s.supervisor.mode with
  | source => exact commutes_runScript script none
  | preSerialized path =>
    refine .bind (.ofExcept _) fun _ => ?_
    exact .bind (commutes_onHost (commutes_emitting.readBytecode _)) fun _ =>
      commutes_runScript script _
  | serialized =>
    refine .bind (.ofExcept _) fun _ => .bind (commutes_transition _) fun _ => ?_
    exact .bind (commutes_onHost (commutes_emitting.serialize _)) fun _ =>
      commutes_runInFreshRuntime script _
  | emitHeader output =>
    refine .bind (.ofExcept _) fun _ => .bind (.ofExcept _) fun symbol => ?_
    exact .bind (commutes_transition _) fun _ =>
      commutes_onHost (commutes_emitting.emitHeader _ _ _)
  | emitBytecode output =>
    refine .bind (.ofExcept _) fun _ => .bind (commutes_transition _) fun _ => ?_
    exact commutes_onHost (commutes_emitting.emitBytecode _ _)

theorem commutes_execute (script : Script) : Commutes (behind before) (execute script) := by
  refine .bind_state (fun _ => rfl) fun s => ?_
  refine .bind (commutes_onHost (commutes_opening.createRuntime _)) fun runtime => ?_
  refine .bind (commutes_transition _) fun _ => ?_
  refine .bind (commutes_onHost (commutes_opening.enterNew runtime)) fun scope => ?_
  refine .bind (commutes_transition _) fun _ => ?_
  refine .bind (.attempt (.onFault (commutes_dispatch script) ?_)) fun ran => ?_
  · exact behind_changeHost (Host.behind_abandon before _ _)
  refine .bind (commutes_onHost (.attempt (commutes_opening.exit scope))) fun exited => ?_
  exact .bind (commutes_onHost (.attempt (commutes_opening.dispose runtime))) fun _ => .ofExcept _

theorem commutes_run (script : Script) : Commutes (behind before) (run script) := by
  have hresult : Commutes (behind before) (result script) := by
    intro s
    have hstate : (s.behind before).supervisor = s.supervisor := rfl
    unfold result
    rw [hstate]
    split
    · exact Commutes.attempt (commutes_execute script) s
    · rfl
  refine .bind hresult fun r => .bind (.change fun s => ?_) fun _ => .pure _
  unfold finish
  rw [behind_moved]
  exact behind_changeHost (fun h => Host.behind_say before h _) _

/-- With other messages written before, a run ends alike and leaves the same engine. -/
theorem run_unheard (script : Script) (messages : List Message) (s : Supervised) :
    (run script (changeHost (fun h => { h with messages := messages }) s)).1 = (run script s).1 ∧
      (run script (changeHost (fun h => { h with messages := messages }) s)).2.host.engine =
        (run script s).2.host.engine := by
  -- both are runs behind messages of a run with none before it
  let unheard : Supervised := changeHost (fun h => { h with messages := [] }) s
  have hs : s = unheard.behind s.host.messages := by
    simp [unheard, behind, changeHost, Host.behind]
  have hother : changeHost (fun h => { h with messages := messages }) s =
      unheard.behind messages := by
    simp [unheard, behind, changeHost, Host.behind]
  rw [hother, commutes_run script unheard, hs, commutes_run script unheard]
  exact ⟨rfl, rfl⟩

end Supervised
end ScriptHost
