import ScriptHost.Proofs.Engine.GroundExecution
import ScriptHost.Proofs.Host.Composition

/- Steps that do alike from related states. `Step.Mirrors P m n Q R` compares two steps: begun
   in states that are related by `P`, they end alike, in values and states that are related
   by `Q`, or in the same error or the same fault and states that are related by `R`. The
   rules follow the ways in which steps are put together.

   What is proved: the rules; and for a host whose engine stands on ground, that each of
   its steps mirrors the same step of the host without that ground. Messages are left out
   of the comparison, for they name the numbers. -/
namespace ScriptHost

namespace Step

variable {σ τ ε δ α β α' β' : Type}

/-- Results alike: related values, or the same error, or the same fault. -/
inductive Alike (Q : α → β → σ → τ → Prop) (R : σ → τ → Prop) :
    Ending ε α × σ → Ending ε β × τ → Prop where
  | ok {a : α} {b : β} {s : σ} {t : τ} (h : Q a b s t) : Alike Q R (.ok a, s) (.ok b, t)
  | error {e : ε} {s : σ} {t : τ} (h : R s t) : Alike Q R (.error e, s) (.error e, t)
  | fault {payload : Payload} {s : σ} {t : τ} (h : R s t) :
      Alike Q R (.fault payload, s) (.fault payload, t)

/-- From related states the steps end alike. -/
def Mirrors (P : σ → τ → Prop) (m : Step σ ε α) (n : Step τ ε β) (Q : α → β → σ → τ → Prop)
    (R : σ → τ → Prop) : Prop :=
  ∀ s t, P s t → Alike Q R (m s) (n t)

/-- A value that is the other one carried over, and related states. -/
def Via (f : β → α) (P : σ → τ → Prop) (a : α) (b : β) (s : σ) (t : τ) : Prop :=
  a = f b ∧ P s t

abbrev Same (P : σ → τ → Prop) : α → α → σ → τ → Prop :=
  Via id P

theorem Alike.same {P : σ → τ → Prop} {x : Ending ε α × σ} {y : Ending ε α × τ}
    (h : Alike (Same P) P x y) : x.1 = y.1 ∧ P x.2 y.2 := by
  cases h with
  | ok h => exact ⟨congrArg Ending.ok h.1, h.2⟩
  | error h => exact ⟨rfl, h⟩
  | fault h => exact ⟨rfl, h⟩

namespace Mirrors

variable {P : σ → τ → Prop} {Q : α → β → σ → τ → Prop} {R : σ → τ → Prop}
  {m : Step σ ε α} {n : Step τ ε β}

theorem pure {a : α} {b : β} (h : ∀ s t, P s t → Q a b s t) :
    Mirrors P (Pure.pure a : Step σ ε α) (Pure.pure b : Step τ ε β) Q R :=
  fun s t hst => .ok (h s t hst)

theorem fail (e : ε) (h : ∀ s t, P s t → R s t) :
    Mirrors P (Step.fail e : Step σ ε α) (Step.fail e : Step τ ε β) Q R :=
  fun s t hst => .error (h s t hst)

theorem ofExcept (r : Except ε α) (h : ∀ s t, P s t → R s t) :
    Mirrors P (Step.ofExcept r : Step σ ε α) (Step.ofExcept r : Step τ ε α) (Same P) R := by
  intro s t hst
  cases r with
  | ok a => exact .ok ⟨rfl, hst⟩
  | error e => exact .error (h s t hst)

theorem change {f : σ → σ} {g : τ → τ} {P' : σ → τ → Prop} (h : ∀ s t, P s t → P' (f s) (g t)) :
    Mirrors P (Step.change f : Step σ ε Unit) (Step.change g : Step τ ε Unit) (Same P') R :=
  fun s t hst => .ok ⟨rfl, h s t hst⟩

theorem bind {next : α → Step σ ε α'} {next' : β → Step τ ε β'} {Q' : α' → β' → σ → τ → Prop}
    (hm : Mirrors P m n Q R) (hnext : ∀ a b, Mirrors (Q a b) (next a) (next' b) Q' R) :
    Mirrors P (m >>= next) (n >>= next') Q' R := by
  intro s t hst
  have halike := hm s t hst
  rw [bind_apply, bind_apply]
  generalize m s = x at halike
  generalize n t = y at halike
  cases halike with
  | ok h => exact hnext _ _ _ _ h
  | error h => exact .error h
  | fault h => exact .fault h

/-- A step with a value that is carried over, and steps that go on from it. -/
theorem bind_via {f : β → α} {next : α → Step σ ε α'} {next' : β → Step τ ε β'}
    {P' : σ → τ → Prop} {Q' : α' → β' → σ → τ → Prop} (hm : Mirrors P m n (Via f P') R)
    (hnext : ∀ b, Mirrors P' (next (f b)) (next' b) Q' R) :
    Mirrors P (m >>= next) (n >>= next') Q' R := by
  refine bind hm fun a b s t h => ?_
  obtain ⟨rfl, hst⟩ := h
  exact hnext b s t hst

theorem bind_same {m : Step σ ε α} {n : Step τ ε α} {next : α → Step σ ε α'}
    {next' : α → Step τ ε β'} {P' : σ → τ → Prop} {Q' : α' → β' → σ → τ → Prop}
    (hm : Mirrors P m n (Same P') R) (hnext : ∀ a, Mirrors P' (next a) (next' a) Q' R) :
    Mirrors P (m >>= next) (n >>= next') Q' R :=
  bind_via hm hnext

theorem bind_state {next : σ → Step σ ε α} {next' : τ → Step τ ε β}
    (hnext : ∀ s t, P s t → Mirrors P (next s) (next' t) Q R) :
    Mirrors P (Step.state >>= next) (Step.state >>= next') Q R :=
  fun s t hst => hnext s t hst s t hst

theorem weaken {P' : σ → τ → Prop} {Q' : α → β → σ → τ → Prop} (hm : Mirrors P m n Q R)
    (hpre : ∀ s t, P' s t → P s t) (hpost : ∀ a b s t, Q a b s t → Q' a b s t) :
    Mirrors P' m n Q' R := by
  intro s t hst
  have halike := hm s t (hpre s t hst)
  generalize m s = x at halike ⊢
  generalize n t = y at halike ⊢
  cases halike with
  | ok h => exact .ok (hpost _ _ _ _ h)
  | error h => exact .error h
  | fault h => exact .fault h

theorem attempt {m : Step σ ε Unit} {n : Step τ ε Unit} (hm : Mirrors P m n (Same R) R) :
    Mirrors P (m.attempt : Step σ δ (Except ε Unit)) (n.attempt : Step τ δ (Except ε Unit))
      (Same R) R := by
  intro s t hst
  have halike := hm s t hst
  rw [Step.attempt, Step.attempt]
  generalize m s = x at halike
  generalize n t = y at halike
  cases halike with
  | ok h => exact .ok ⟨rfl, h.2⟩
  | error h => exact .ok ⟨rfl, h⟩
  | fault h => exact .fault h

theorem onError {f : σ → σ} {g : τ → τ} (hm : Mirrors P m n Q R)
    (hf : ∀ s t, R s t → R (f s) (g t)) : Mirrors P (m.onError f) (n.onError g) Q R := by
  intro s t hst
  have halike := hm s t hst
  rw [Step.onError, Step.onError]
  generalize m s = x at halike
  generalize n t = y at halike
  cases halike with
  | ok h => exact .ok h
  | error h => exact .error (hf _ _ h)
  | fault h => exact .fault h

theorem onFault {f : σ → σ} {g : τ → τ} (hm : Mirrors P m n Q R)
    (hf : ∀ s t, R s t → R (f s) (g t)) : Mirrors P (m.onFault f) (n.onFault g) Q R := by
  intro s t hst
  have halike := hm s t hst
  rw [Step.onFault, Step.onFault]
  generalize m s = x at halike
  generalize n t = y at halike
  cases halike with
  | ok h => exact .ok h
  | error h => exact .error h
  | fault h => exact .fault (hf _ _ h)

end Mirrors
end Step

open Step (Mirrors Via Same)

/-! The host. -/

/-- The host stands on ground: it is the other one, but that its engine is put on the ground. -/
structure Host.Above (G : Ground) (h h' : Host) : Prop where
  engine : h.engine = h'.engine.atop G
  files : h.files = h'.files
  sourceContexts : h.sourceContexts = G.sourceContexts + h'.sourceContexts
  hooks : h.hooks = G.hooks + h'.hooks

/-- The host stands on ground, and the context that is current is not the ground's. -/
structure Host.Within (G : Ground) (h h' : Host) : Prop extends Host.Above G h h' where
  entered : h'.engine.current.isSome

namespace Host

variable {G : Ground} {h h' : Host}

/-! Messages. -/

theorem Above.say (habove : Above G h h') (m m' : Message) : Above G (h.say m) (h'.say m') :=
  ⟨habove.engine, habove.files, habove.sourceContexts, habove.hooks⟩

theorem Above.note (habove : Above G h h') (text text' : String) :
    Above G (h.note text) (h'.note text') :=
  habove.say _ _

theorem Within.note (hwithin : Within G h h') (text text' : String) :
    Within G (h.note text) (h'.note text') :=
  ⟨hwithin.toAbove.note text text', hwithin.entered⟩

theorem mirrors_debug (G : Ground) (text text' : String) :
    Mirrors (Above G) (debug text) (debug text') (Same (Above G)) (Above G) :=
  .change fun _ _ habove => habove.note text text'

theorem mirrors_debug_within (G : Ground) (text text' : String) :
    Mirrors (Within G) (debug text) (debug text') (Same (Within G)) (Above G) :=
  .change fun _ _ hwithin => hwithin.note text text'

/-! Calls of the engine. -/

theorem Above.engineTo (habove : Above G h h') {e : Engine} :
    Above G { h with engine := e.atop G } { h' with engine := e } :=
  ⟨rfl, habove.files, habove.sourceContexts, habove.hooks⟩

theorem Above.failure (habove : Above G h h') (op : Operation) (code : ErrorCode) :
    (h.failure op code).1 = (h'.failure op code).1 ∧
      Above G (h.failure op code).2 (h'.failure op code).2 := by
  have hexception : h.engine.exception = h'.engine.exception := by rw [habove.engine]; rfl
  unfold Host.failure
  dsimp only
  split
  · refine ⟨?_, ?_, habove.files, habove.sourceContexts, habove.hooks⟩
    · show HostError.script op code h.engine.exception = _
      rw [hexception]
      rfl
    · show { h.engine with exception := none } = _
      rw [habove.engine]
      rfl
  · exact ⟨rfl, habove.note _ _⟩

theorem current_failure (h : Host) (op : Operation) (code : ErrorCode) :
    (h.failure op code).2.engine.current = h.engine.current := by
  unfold Host.failure
  dsimp only
  split <;> rfl

theorem Within.failure (hwithin : Within G h h') (op : Operation) (code : ErrorCode) :
    (h.failure op code).1 = (h'.failure op code).1 ∧
      Within G (h.failure op code).2 (h'.failure op code).2 := by
  obtain ⟨herror, habove⟩ := hwithin.toAbove.failure op code
  refine ⟨herror, habove, ?_⟩
  rw [current_failure]
  exact hwithin.entered

/-- A call of the engine that commutes with the ground where `C` holds. -/
theorem mirrors_call {α β : Type} {C : Engine → Prop} {g : β → α} (op : Operation)
    {f : Engine → Except ErrorCode α × Engine} {f' : Engine → Except ErrorCode β × Engine}
    (hf : ∀ e, C e → f (e.atop G) = ((f' e).1.map g, (f' e).2.atop G)) :
    Mirrors (fun h h' => Above G h h' ∧ C h'.engine) (call op f) (call op f')
      (Via g fun h h' => Above G h h' ∧ ∃ e b, C e ∧ f' e = (.ok b, h'.engine)) (Above G) := by
  rintro h h' ⟨habove, hC⟩
  have heq := hf h'.engine hC
  rw [← habove.engine] at heq
  rcases hf' : f' h'.engine with ⟨code | b, e⟩
  · rw [hf'] at heq
    obtain ⟨herror, hleft⟩ := (habove.engineTo (e := e)).failure op code
    rw [call_of_error op heq, call_of_error op hf', herror]
    exact .error hleft
  · rw [hf'] at heq
    rw [call_of_ok op heq, call_of_ok op hf']
    exact .ok ⟨rfl, habove.engineTo, h'.engine, b, hC, hf'⟩

theorem mirrors_call_above {α β : Type} {g : β → α} (op : Operation)
    {f : Engine → Except ErrorCode α × Engine} {f' : Engine → Except ErrorCode β × Engine}
    (hf : ∀ e, f (e.atop G) = ((f' e).1.map g, (f' e).2.atop G)) :
    Mirrors (Above G) (call op f) (call op f') (Via g (Above G)) (Above G) :=
  (mirrors_call (C := fun _ => True) op fun e _ => hf e).weaken
    (fun _ _ habove => ⟨habove, trivial⟩)
    fun _ _ _ _ h => ⟨h.1, h.2.1⟩

theorem mirrors_call_within {α β : Type} {g : β → α} (op : Operation)
    {f : Engine → Except ErrorCode α × Engine} {f' : Engine → Except ErrorCode β × Engine}
    (hf : ∀ e, e.current.isSome → f (e.atop G) = ((f' e).1.map g, (f' e).2.atop G))
    (hkeeps : ∀ e, (f' e).2.current = e.current) :
    Mirrors (Within G) (call op f) (call op f') (Via g (Within G)) (Above G) := by
  refine (mirrors_call (C := fun e => e.current.isSome) op hf).weaken
    (fun _ _ hwithin => ⟨hwithin.toAbove, hwithin.entered⟩) fun a b h h' hcall => ?_
  obtain ⟨hvalue, habove, e, b', hentered, heq⟩ := hcall
  have hcurrent := hkeeps e
  rw [heq] at hcurrent
  refine ⟨hvalue, habove, ?_⟩
  rw [hcurrent]
  exact hentered

end Host

/-! Guards. -/

namespace Ground

def guard (G : Ground) (g : RuntimeGuard) : RuntimeGuard := ⟨G.runtime g.runtime⟩

def scope (G : Ground) (g : ContextScope) : ContextScope :=
  ⟨G.context g.context, G.entered g.previous⟩

def active (G : Ground) (g : ActiveContext) : ActiveContext := ⟨G.scope g.scope, G.guard g.runtime⟩

end Ground

namespace Host

theorem mirrors_createRuntime (hG : G.engine.WellFormed) (a : Attributes) :
    Mirrors (Above G) (createRuntime a) (createRuntime a) (Via G.guard (Above G)) (Above G) :=
  .bind_via (mirrors_call_above _ fun e => Engine.createRuntime_atop hG e a) fun _ =>
    .bind_same (mirrors_debug G _ _) fun _ => .pure fun _ _ habove => ⟨rfl, habove⟩

theorem mirrors_createContext (hG : G.engine.WellFormed) (g : RuntimeGuard) :
    Mirrors (Above G) (createContext (G.guard g)) (createContext g) (Via G.context (Above G))
      (Above G) :=
  mirrors_call_above _ fun e => Engine.createContext_atop hG e g.runtime

theorem mirrors_setCurrent (hG : G.engine.WellFormed) (context : ContextId) :
    Mirrors (Above G) (call .setCurrentContext (·.setCurrentContext (some (G.context context))))
      (call .setCurrentContext (·.setCurrentContext (some context))) (Same (Within G))
      (Above G) := by
  refine (mirrors_call (C := fun _ => True) _ fun e _ =>
    Engine.setCurrentContext_atop hG e (some context)).weaken
    (fun _ _ habove => ⟨habove, trivial⟩) ?_
  rintro a b h h' ⟨hvalue, habove, e, b', -, heq⟩
  refine ⟨hvalue, habove, ?_⟩
  rcases e.setCurrentContext_cases (some context) with ⟨code, hcall⟩ | ⟨-, -, hcall⟩ <;>
    rw [hcall] at heq
  · cases heq
  · rw [← (Prod.mk.inj heq).2]
    rfl

theorem mirrors_enter (hG : G.engine.WellFormed) (context : ContextId) :
    Mirrors (Above G) (enter (G.context context)) (enter context) (Via G.scope (Within G))
      (Above G) :=
  .bind_via (mirrors_call_above _ (Engine.getCurrentContext_atop G)) fun _ =>
    .bind_via (mirrors_setCurrent hG context) fun _ =>
      .bind_same (mirrors_debug_within G _ _) fun _ => .pure fun _ _ hwithin => ⟨rfl, hwithin⟩

theorem Above.drop (hG : G.engine.WellFormed) (habove : Above G h h') (g : RuntimeGuard) :
    Above G ((G.guard g).drop h) (g.drop h') := by
  have heq : h.engine.disposeRuntime (G.guard g).runtime =
      ((h'.engine.disposeRuntime g.runtime).1.map id,
        (h'.engine.disposeRuntime g.runtime).2.atop G) := by
    rw [habove.engine]
    exact Engine.disposeRuntime_atop hG h'.engine g.runtime
  unfold RuntimeGuard.drop
  rw [heq]
  generalize h'.engine.disposeRuntime g.runtime = r
  obtain ⟨code | u, e⟩ := r
  · exact habove.engineTo.note _ _
  · exact habove.engineTo

theorem mirrors_enterNew (hG : G.engine.WellFormed) (g : RuntimeGuard) :
    Mirrors (Above G) (enterNew (G.guard g)) (enterNew g) (Via G.scope (Within G)) (Above G) :=
  .onError (.bind_via (mirrors_createContext hG g) (mirrors_enter hG))
    fun _ _ habove => habove.drop hG g

theorem mirrors_openContext (hG : G.engine.WellFormed) (a : Attributes) :
    Mirrors (Above G) (openContext a) (openContext a) (Via G.active (Within G)) (Above G) :=
  .bind_via (mirrors_createRuntime hG a) fun g => .bind_via (mirrors_enterNew hG g) fun _ =>
    .pure fun _ _ hwithin => ⟨rfl, hwithin⟩

theorem mirrors_exit (hG : G.engine.WellFormed) (g : ContextScope) :
    Mirrors (Above G) (G.scope g).exit g.exit (Same (Above G)) (Above G) :=
  .bind_same (mirrors_debug G _ _) fun _ =>
    mirrors_call_above _ fun e => Engine.setCurrentContext_atop hG e g.previous

theorem mirrors_dispose (hG : G.engine.WellFormed) (g : RuntimeGuard) :
    Mirrors (Above G) (G.guard g).dispose g.dispose (Same (Above G)) (Above G) :=
  .bind_same (mirrors_debug G _ _) fun _ =>
    mirrors_call_above _ fun e => Engine.disposeRuntime_atop hG e g.runtime

theorem mirrors_close (hG : G.engine.WellFormed) (g : ActiveContext) :
    Mirrors (Above G) (G.active g).close g.close (Same (Above G)) (Above G) :=
  .bind_via (.attempt (mirrors_exit hG g.scope)) fun _ =>
    .bind_via (.attempt (mirrors_dispose hG g.runtime)) fun _ => .ofExcept _ fun _ _ h => h

theorem Above.abandon (habove : Above G h h') (g g' : RuntimeGuard) (scope scope' : ContextScope) :
    Above G (g.abandon (scope.abandon h)) (g'.abandon (scope'.abandon h')) :=
  (habove.note _ _).note _ _

/-! Byte code and files. -/

theorem mirrors_onFiles (G : Ground) {α : Type} (f : FileSystem → Except HostError α × FileSystem) :
    Mirrors (Within G) (onFiles f) (onFiles f) (Same (Within G)) (Above G) := by
  intro h h' hwithin
  unfold onFiles
  rw [hwithin.files]
  rcases f h'.files with ⟨e | a, files⟩
  · exact .error ⟨hwithin.engine, rfl, hwithin.sourceContexts, hwithin.hooks⟩
  · exact .ok ⟨rfl, ⟨hwithin.engine, rfl, hwithin.sourceContexts, hwithin.hooks⟩, hwithin.entered⟩

theorem mirrors_judgement (G : Ground) : Traced.Judgement fun m =>
    Mirrors (Within G) m.step m.step (Same (Within G)) (Above G) where
  pure _ := .pure fun _ _ hwithin => ⟨rfl, hwithin⟩
  bind hm hnext := .bind_same hm hnext
  debug text := mirrors_debug_within G text text

theorem mirrors_serializedSize (G : Ground) (hG : G.engine.WellFormed) (source : String) :
    Mirrors (Within G) (Traced.serializedSize source).step (Traced.serializedSize source).step
      (Same (Within G)) (Above G) := by
  show Mirrors _ (call .serializeScript (·.serializedSize source))
    (call .serializeScript (·.serializedSize source)) _ _
  exact mirrors_call_within _ (fun _ he => Engine.serializedSize_atop hG he source)
    fun e => (Engine.effects_serializedSize e source).setting.current

theorem mirrors_serializeInto (G : Ground) (hG : G.engine.WellFormed) (source : String)
    (buffer : List UInt8) :
    Mirrors (Within G) (Traced.serializeInto source buffer).step
      (Traced.serializeInto source buffer).step (Same (Within G)) (Above G) := by
  show Mirrors _ (call .serializeScript (Traced.filling source buffer))
    (call .serializeScript (Traced.filling source buffer)) _ _
  refine mirrors_call_within _ (fun e he => ?_) fun e => ?_
  · unfold Traced.filling
    rw [Engine.serializeInto_atop hG he]
    generalize e.serializeInto source buffer = r
    obtain ⟨code | n, filled, e'⟩ := r <;> rfl
  · exact (Engine.effects_serializeInto e source buffer).setting.current

theorem mirrors_emitting (hG : G.engine.WellFormed) : Traced.Emitting fun m =>
    Mirrors (Within G) m.step m.step (Same (Within G)) (Above G) := by
  have hJ := mirrors_judgement G
  have hserialize : ∀ source, Mirrors (Within G) (serialize source) (serialize source)
      (Same (Within G)) (Above G) := by
    exact fun source => hJ.serialize (mirrors_serializedSize G hG source)
      (mirrors_serializeInto G hG source) fun _ => .fail _ fun _ _ h => h.toAbove
  have hwrite : ∀ output content, Mirrors (Within G) (writeFile output content)
      (writeFile output content) (Same (Within G)) (Above G) :=
    fun output content => mirrors_onFiles G (writing output content)
  exact ⟨hserialize, fun path => mirrors_onFiles G (reading path),
    fun script output _ => hJ.emitHeader (.ofExcept _ fun _ _ h => h.toAbove)
      (hserialize script.text) (hwrite output),
    fun source output => hJ.emitBytecode (hserialize source) (hwrite output)⟩

/-! Executing calls and tasks. -/

theorem Within.perform (hwithin : Within G h h') (op : Operation) (f f' : Engine → Execution)
    (hf : f (h'.engine.atop G) = (f' h'.engine).atop G)
    (hkeeps : (f' h'.engine).engine.current = h'.engine.current) :
    (h.perform op f).ending = (h'.perform op f').ending ∧
      (h.perform op f).signals = (h'.perform op f').signals.map G.signal ∧
      Within G (h.perform op f).host (h'.perform op f').host := by
  have heq : f h.engine = (f' h'.engine).atop G := by
    rw [hwithin.engine]
    exact hf
  have hentered : (f' h'.engine).engine.current.isSome := by
    rw [hkeeps]
    exact hwithin.entered
  unfold Host.perform
  rw [heq]
  generalize f' h'.engine = x at hentered
  obtain ⟨ending, e, signals⟩ := x
  have hleft : Within G { h with engine := e.atop G } { h' with engine := e } :=
    ⟨hwithin.toAbove.engineTo, hentered⟩
  cases ending with
  | ok => exact ⟨rfl, rfl, hleft⟩
  | error code =>
    obtain ⟨herror, hfailed⟩ := hleft.failure op code
    exact ⟨congrArg Ending.error herror, rfl, hfailed⟩
  | fault payload => exact ⟨rfl, rfl, hleft⟩

theorem mirrors_performStep (op : Operation) {f f' : Engine → Execution}
    (hf : ∀ e, e.current.isSome → f (e.atop G) = (f' e).atop G)
    (hkeeps : ∀ e, (f' e).engine.current = e.current) :
    Mirrors (Within G) (performStep op f) (performStep op f')
      (Via (Prod.map id (List.map G.signal)) (Within G)) (Above G) := by
  intro h h' hwithin
  obtain ⟨hending, hsignals, hhost⟩ :=
    hwithin.perform op f f' (hf h'.engine hwithin.entered) (hkeeps h'.engine)
  unfold performStep
  dsimp only
  rw [hending, hsignals]
  cases (h'.perform op f').ending with
  | ok => exact .ok ⟨rfl, hhost⟩
  | error e => exact .ok ⟨rfl, hhost⟩
  | fault payload => exact .fault hhost.toAbove

theorem mirrors_nextSourceContext (G : Ground) :
    Mirrors (Within G) nextSourceContext nextSourceContext (Via G.source (Within G)) (Above G) := by
  intro h h' hwithin
  have hvalue : (⟨h.sourceContexts⟩ : SourceContext) = G.source ⟨h'.sourceContexts⟩ :=
    congrArg SourceContext.mk hwithin.sourceContexts
  exact .ok ⟨hvalue,
    ⟨hwithin.engine, hwithin.files, congrArg (· + 1) hwithin.sourceContexts, hwithin.hooks⟩,
    hwithin.entered⟩

theorem mirrors_newHook (G : Ground) :
    Mirrors (Within G) newHook newHook (Via G.hook (Within G)) (Above G) := by
  intro h h' hwithin
  have hvalue : (⟨h.hooks⟩ : Hook) = G.hook ⟨h'.hooks⟩ := congrArg Hook.mk hwithin.hooks
  exact .ok ⟨hvalue,
    ⟨hwithin.engine, hwithin.files, hwithin.sourceContexts, congrArg (· + 1) hwithin.hooks⟩,
    hwithin.entered⟩

/-- A hook hears the same signals under the names of the ground. -/
theorem filter_signals (G : Ground) (hook : Hook) (signals : List Signal) :
    (signals.map G.signal).filter (·.hook = G.hook hook) =
      (signals.filter (·.hook = hook)).map G.signal := by
  have hsame : ((fun s : Signal => decide (s.hook = G.hook hook)) ∘ G.signal) =
      fun s => decide (s.hook = hook) := by
    funext s
    simp [Ground.signal, G.hook_injective.eq_iff]
  rw [List.filter_map, hsame]

theorem moves_atop (G : Ground) (hook : Hook) (signals : List Signal) :
    (G.hook hook).moves (signals.map G.signal) = (hook.moves signals).map (Move.carry G.task) := by
  rw [Hook.moves, filter_signals, Hook.moves, List.map_map, List.map_map]
  rfl

/-- The tasks of a drain do on ground what they do without. -/
theorem taskCallback_atop (hG : G.engine.WellFormed) (hook : Hook) (hwithin : Within G h h')
    (task : Task) :
    ((taskCallback (G.hook hook)).react h (task.carry G.task)).1 =
        ((taskCallback hook).react h' task).1.carry G.task ∧
      Within G ((taskCallback (G.hook hook)).react h (task.carry G.task)).2
        ((taskCallback hook).react h' task).2 := by
  have hcurrent := (Engine.effects_callTask h'.engine task.callback).setting.current
  obtain ⟨hending, hsignals, hhost⟩ := hwithin.perform .callTask
    (·.callTask (G.task task.callback)) (·.callTask task.callback)
    (Engine.callTask_atop hG hwithin.entered task.callback) hcurrent
  refine ⟨?_, hhost⟩
  have hmoves := moves_atop G hook (h'.perform .callTask (·.callTask task.callback)).signals
  rw [← hsignals] at hmoves
  exact congr (congrArg Reaction.mk hmoves) hending

end Host
end ScriptHost
