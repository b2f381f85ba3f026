import ScriptHost.Proofs.Host.Composition

/- What steps attempt. Which acts a step can log is told as it is put together (`Traced.Logs`),
   and an attempt that neither opens nor closes anything keeps to the context it finds
   (`Act.Inward`). So what logs such acts only stays inside that context, by induction along
   its log.

   What is proved: the rules for `Logs`; `Accounts.inside` and from it `keeps_of_inward`, what
   is kept by a step that stays inside; and `logs_runScript`, that the run of a script does. -/
namespace ScriptHost

namespace Traced

open HasEngine (engine)

variable {σ α β : Type} [HasEngine σ]

/-- From a state with `P`, each attempt that is logged is one with `A`; `P` is kept, and a
    value is one with `Q`. -/
structure Logs (P : σ → Prop) (A : Attempt → Prop) (m : Traced σ α) (Q : α → Prop) : Prop where
  attempts : ∀ {s}, P s → ∀ a ∈ m.log s, A a
  keeps : ∀ {s}, P s → P (m.step s).2
  value : ∀ {s s' a}, P s → m.step s = (.ok a, s') → Q a

namespace Logs

variable {P : σ → Prop} {A : Attempt → Prop} {m : Traced σ α} {Q : α → Prop}

theorem mono {A' : Attempt → Prop} (h : Logs P A m Q) (hA : ∀ a, A a → A' a) : Logs P A' m Q :=
  ⟨fun hs a ha => hA a (h.attempts hs a ha), h.keeps, h.value⟩

theorem keeping {P : σ → Prop} (h : Logs (fun _ => True) A m Q)
    (hkeeps : ∀ s, P s → P (m.step s).2) : Logs P A m Q :=
  ⟨fun _ => h.attempts trivial, fun {s} => hkeeps s, fun _ => h.value trivial⟩

theorem quiet {step : Step σ HostError α} {hfault : ∀ s, (step s).1.fault? = none}
    {hengine : ∀ s, engine (step s).2 = engine s} (hkeeps : ∀ s, P s → P (step s).2) :
    Logs P A (Traced.quiet step hfault hengine) fun _ => True where
  attempts _ _ ha := nomatch ha
  keeps hs := hkeeps _ hs
  value _ _ := trivial

theorem pure {a : α} (ha : Q a) : Logs P A (Pure.pure a : Traced σ α) Q where
  attempts _ a ha := nomatch ha
  keeps hs := hs
  value _ hm := by cases hm; exact ha

theorem read : Logs P A (Traced.state : Traced σ σ) P where
  attempts _ _ ha := nomatch ha
  keeps hs := hs
  value hs hm := by cases hm; exact hs

theorem settle (r : Except HostError α) : Logs P A (Traced.settle r : Traced σ α) fun _ => True :=
  quiet fun _ hs => hs

theorem change {f : σ → σ} {hf : ∀ s, engine (f s) = engine s} (hkeeps : ∀ s, P s → P (f s)) :
    Logs P A (Traced.change f hf) fun _ => True :=
  quiet hkeeps

theorem bind {next : α → Traced σ β} {Q' : β → Prop} (hm : Logs P A m Q)
    (hnext : ∀ a, Q a → Logs P A (next a) Q') : Logs P A (m >>= next) Q' where
  attempts {s} hs a ha := by
    have hlog : (m >>= next).log s = logThen m next s := rfl
    rw [hlog, logThen] at ha
    have hkeeps := hm.keeps hs
    rcases hstep : m.step s with ⟨b | e | payload, t⟩ <;> rw [hstep] at ha hkeeps
    · rcases List.mem_append.1 ha with ha | ha
      · exact hm.attempts hs a ha
      · exact (hnext b (hm.value hs hstep)).attempts hkeeps a ha
    · exact hm.attempts hs a ha
    · exact hm.attempts hs a ha
  keeps {s} hs := by
    rw [show (m >>= next).step = m.step >>= fun b => (next b).step from rfl, Step.bind_apply]
    have hkeeps := hm.keeps hs
    rcases hstep : m.step s with ⟨b | e | payload, t⟩ <;> rw [hstep] at hkeeps
    · exact (hnext b (hm.value hs hstep)).keeps hkeeps
    · exact hkeeps
    · exact hkeeps
  value {s s' b} hs h := by
    obtain ⟨a, t, ha, hb⟩ := Step.bind_eq_ok h
    have hkeeps := hm.keeps hs
    rw [ha] at hkeeps
    exact (hnext a (hm.value hs ha)).value hkeeps hb

theorem then_ {next : α → Traced σ β} {Q' : β → Prop} (hm : Logs P A m Q)
    (hnext : ∀ a, Logs P A (next a) Q') : Logs P A (m >>= next) Q' :=
  hm.bind fun a _ => hnext a

theorem attempt (h : Logs P A m Q) : Logs P A m.attempt fun _ => True where
  attempts := h.attempts
  keeps {s} hs := by
    have hkeeps := h.keeps hs
    show P (m.step.attempt s).2
    rw [Step.attempt]
    rcases hstep : m.step s with ⟨a | e | payload, t⟩ <;> rwa [hstep] at hkeeps
  value _ _ := trivial

theorem onFault {f : σ → σ} {hf : ∀ s, engine (f s) = engine s} (h : Logs P A m Q)
    (hkeeps : ∀ s, P s → P (f s)) : Logs P A (m.onFault f hf) fun _ => True where
  attempts := h.attempts
  keeps {s} hs := by
    have hstep' := h.keeps hs
    show P (m.step.onFault f s).2
    rw [Step.onFault]
    rcases hstep : m.step s with ⟨a | e | payload, t⟩ <;> rw [hstep] at hstep'
    · exact hstep'
    · exact hstep'
    · exact hkeeps t hstep'
  value _ _ := trivial

theorem call {act : Act} {op : Operation} {f : Engine → Except ErrorCode α × Engine}
    {h : act.Calls op (fun e => .unit (f e).1) fun e => (f e).2} (hact : ∀ e, A ⟨e, act⟩) :
    Logs (fun _ => True) A (Traced.call act op f h) fun _ => True where
  attempts _ a ha := by
    rw [List.mem_singleton.1 ha]
    exact hact _
  keeps _ := trivial
  value _ _ := trivial

theorem own {step : Step σ HostError α} {hfault : ∀ s, (step s).1.fault? = none}
    {hengine : ∀ s, engine (step s).2 = engine s} (hact : ∀ e r, A ⟨e, .host r⟩)
    (hkeeps : ∀ s, P s → P (step s).2) :
    Logs P A (Traced.own step hfault hengine) fun _ => True where
  attempts _ a ha := by
    rw [List.mem_singleton.1 ha]
    exact hact _ _
  keeps hs := hkeeps _ hs
  value _ _ := trivial

theorem onFiles {f : FileSystem → Except HostError α × FileSystem}
    (hact : ∀ e r, A ⟨e, .files r⟩) :
    Logs (fun _ => True) A (Traced.onFiles f) fun _ => True where
  attempts _ a ha := by
    rw [List.mem_singleton.1 ha]
    exact hact _ _
  keeps _ := trivial
  value _ _ := trivial

theorem onHost {R : Supervisor → Prop} {m : Traced Host α} (h : Logs (fun _ => True) A m Q) :
    Logs (fun s : Supervised => R s.supervisor) A (Traced.onHost m) Q where
  attempts _ a ha := h.attempts trivial a ha
  keeps hs := hs
  value {s s' a} _ hm := by
    obtain ⟨hending, -⟩ := Prod.mk.inj hm
    exact h.value (s := s.host) trivial (Prod.ext hending rfl)

theorem orDrop {m : Traced Host α} {A : Attempt → Prop} {g : RuntimeGuard}
    (hdrop : ∀ e, A ⟨e, .drop g⟩) (hm : Logs (fun _ => True) A m fun _ => True) :
    Logs (fun _ => True) A (m.orDrop g) fun _ => True where
  attempts {h} _ a ha := by
    rcases hstep : m.step h with ⟨b | e | payload, h'⟩
    · rw [log_orDrop_of_ok hstep] at ha
      exact hm.attempts trivial a ha
    · rw [log_orDrop_of_error hstep] at ha
      rcases List.mem_append.1 ha with ha | ha
      · exact hm.attempts trivial a ha
      · rw [List.mem_singleton.1 ha]
        exact hdrop _
    · have hlog : (m.orDrop g).log h = m.log h := by simp only [Traced.orDrop, hstep]
      rw [hlog] at ha
      exact hm.attempts trivial a ha
  keeps _ := trivial
  value _ _ := trivial

end Logs

section
variable {A : Attempt → Prop}

theorem logs_calling : Calling (fun act => ∀ e, A ⟨e, act⟩) fun m =>
    Logs (fun _ => True) A m fun _ => True where
  pure _ := .pure trivial
  bind hm hnext := hm.then_ hnext
  debug _ := .quiet fun _ => id
  call _ hact := .call hact
  ofExcept _ hact := .own (fun e r => hact r e) fun _ => id
  fail _ hact := .own (fun e r => hact r e) fun _ => id
  onFiles _ hact := .onFiles fun e r => hact r e
  settle _ := .settle _
  attempt hm := hm.attempt
  orDrop hdrop hm := .orDrop hdrop hm

theorem logs_opening (hopens : ∀ a : Attempt, a.act.kind = .opens → A a)
    (hcloses : ∀ a : Attempt, a.act.kind = .closes → A a) :
    Opening fun m => Logs (fun _ => True) A m fun _ => True :=
  logs_calling.opening (fun hkind e => hopens ⟨e, _⟩ hkind) fun hkind e => hcloses ⟨e, _⟩ hkind

theorem logs_emitting (hcompiles : ∀ a : Attempt, a.act.kind = .compiles → A a)
    (hhost : ∀ e r, A ⟨e, .host r⟩) (hfiles : ∀ e r, A ⟨e, .files r⟩) :
    Emitting fun m => Logs (fun _ => True) A m fun _ => True :=
  logs_calling.emitting (fun hkind e => hcompiles ⟨e, _⟩ hkind) (fun r e => hhost e r)
    fun r e => hfiles e r

end

end Traced

/-! What is attempted inside a context. -/

open Engine (Inside)

namespace Act

/-- Neither opens nor closes anything. -/
def Inward (act : Act) : Prop := act.kind ≠ .opens ∧ act.kind ≠ .closes

theorem Inward.of_kind {act : Act} {kind : Kind} (h : act.kind = kind) (hopens : kind ≠ .opens)
    (hcloses : kind ≠ .closes) : act.Inward := by
  rw [Inward, h]
  exact ⟨hopens, hcloses⟩

end Act

/-- What is attempted inside a context stays inside it. -/
theorem Attempt.within {a : Attempt} (hact : a.act.Inward) : Inside a.engine a.after := by
  obtain ⟨e, act⟩ := a
  cases act with
  | installHook hook => exact (e.inside_setHook (some hook)).handled _
  | clearHook => exact e.inside_setHook none
  | serializedSize source =>
    have h := e.inside_serializedSize source
    rw [← Ending.error?_unit] at h
    exact h
  | serializeInto source buffer =>
    have h := e.inside_serializeInto source buffer
    rw [← Ending.error?_unit] at h
    exact h
  | runScript source tag => exact e.inside_runScript source tag
  | runSerialized bytecode tag => exact e.inside_runSerialized bytecode tag
  | callTask task => exact e.inside_callTask task
  | drain | host | files => exact .refl e
  | createRuntime | createContext | getCurrentContext | enter => exact absurd rfl hact.1
  | exit | dispose | drop => exact absurd rfl hact.2

theorem Accounts.inside {e e' : Engine} {l : Log} {fault : Option Payload}
    (h : Accounts e l fault e') (hacts : ∀ a ∈ l, a.act.Inward) : Inside e e' := by
  induction h with
  | nil e => exact .refl e
  | @cons e e' a l fault hengine hgoes _ ih =>
    subst hengine
    obtain ⟨hact, hrest⟩ := List.forall_mem_cons.1 hacts
    exact (a.within hact).trans (ih hrest)
  | @fault e a payload hengine hfault =>
    subst hengine
    exact a.within (hacts a (List.mem_singleton_self _))

namespace Traced

open HasEngine (engine)

/-- A step that stays inside a context keeps what is kept inside it. -/
theorem keeps_of_inward {σ α : Type} [HasEngine σ] {m : Traced σ α} {Q : α → Prop}
    {P : Engine → Prop} (hm : Logs (fun _ => True) (·.act.Inward) m Q)
    (hP : ∀ {e e'}, P e → Inside e e' → P e') : Step.Keeps (fun s => P (engine s)) m.step :=
  .of_snd fun s hs => hP hs ((m.accounts s).inside (hm.attempts trivial))

theorem inward_emitting :
    Emitting fun m => Logs (fun _ => True) (fun a => a.act.Inward) m fun _ => True :=
  logs_emitting (fun _ hkind => .of_kind hkind nofun nofun) (fun _ _ => ⟨nofun, nofun⟩)
    fun _ _ => ⟨nofun, nofun⟩

theorem acts_loggedDrain (hook : Hook) (q : TaskQueue) (h : Host) :
    ∀ a ∈ (loggedDrain hook q h).state.2, ∃ task, a.act = .callTask task :=
  TaskQueue.settle_keeps (P := fun p : Host × Log => ∀ a ∈ p.2, ∃ task, a.act = .callTask task)
    (fun _ t hp => List.forall_mem_append.2 ⟨hp, List.forall_mem_singleton.2 ⟨t.callback, rfl⟩⟩)
    q (h, []) (List.forall_mem_nil _)

section
variable {A : Attempt → Prop}

theorem logs_drain (hook : Hook) (queue : TaskQueue) (hdrain : ∀ e, A ⟨e, .drain⟩)
    (hcall : ∀ e task, A ⟨e, .callTask task⟩) :
    Logs (fun _ => True) A (drain hook queue) fun _ => True where
  attempts {s} _ a ha := by
    rcases List.mem_cons.1 ha with rfl | ha
    · exact hdrain _
    · obtain ⟨e, act⟩ := a
      obtain ⟨task, rfl⟩ := acts_loggedDrain hook queue s.host _ ha
      exact hcall e task
  keeps _ := trivial
  value _ _ := trivial

theorem logs_clearHook (queue : TaskQueue) (hclear : ∀ e, A ⟨e, .clearHook⟩) :
    Logs (fun _ => True) A (clearHook queue) fun _ => True where
  attempts _ a ha := by
    rw [List.mem_singleton.1 ha]
    exact hclear _
  keeps _ := trivial
  value _ _ := trivial

theorem logs_runCall (script : Script) (bytecode : Option (List UInt8)) (tag : SourceContext)
    (hrun : ∀ a : Attempt, a.act.kind = .runs → A a) :
    Logs (fun _ => True) A (runCall script bytecode tag) fun _ => True where
  attempts _ a ha := by
    cases bytecode <;> rw [List.mem_singleton.1 ha] <;> exact hrun _ rfl
  keeps _ := trivial
  value _ _ := trivial

theorem logs_runScript (script : Script) (bytecode : Option (List UInt8)) :
    Logs (fun _ => True) (·.act.Inward) (runScript script bytecode) fun _ => True := by
  have hother : ∀ a : Attempt, a.act.kind = .other → a.act.Inward :=
    fun _ hkind => .of_kind hkind nofun nofun
  refine .then_ (.onHost (R := fun _ => True) (.quiet fun _ => id)) fun hook => ?_
  refine .then_ (.onHost (R := fun _ => True) (.call fun _ => hother _ rfl)) fun _ => ?_
  refine .then_ (.change fun _ => id) fun _ => ?_
  refine .then_ (.onHost (R := fun _ => True) (.quiet fun _ => id)) fun tag => ?_
  refine .then_ (.onHost (R := fun _ => True) (logs_runCall script bytecode tag
    fun _ hkind => .of_kind hkind nofun nofun)) fun (ran, signals) => ?_
  refine .then_ (.quiet fun _ => id) fun _ => .then_ (.change fun _ => id) fun _ => ?_
  refine .then_ (logs_drain hook _ (fun _ => hother _ rfl) fun _ _ => hother _ rfl)
    fun (drained, queue) => ?_
  refine .then_ (.quiet fun _ => id) fun _ => ?_
  exact .then_ (logs_clearHook queue fun _ => hother _ rfl) fun _ => .settle _

end

end Traced

theorem Supervised.keeps_runScript {P : Engine → Prop}
    (hP : ∀ {e e'}, P e → Inside e e' → P e') (script : Script) (bytecode : Option (List UInt8)) :
    Step.Keeps (Having P) (runScript script bytecode) := by
  rw [← Traced.runScript_step]
  exact Traced.keeps_of_inward (Traced.logs_runScript script bytecode) hP

end ScriptHost
