import ScriptHost.Proofs.Engine.Failing
import ScriptHost.Proofs.Engine.Serializing

/- The engine while an exception is pending. Nothing of a script is executed until the
   exception is taken: runs are refused, and a task that is called stays pending. The exception
   itself is safe from every call but one kind. A source is compiled before it is looked whether
   an exception is pending, and the error of a source that does not compile takes the place of
   the exception that was.

   What is proved:
     1. `idle_of_pending`, `exception_of_pending` — what one call does.
     2. `pending_of_calls` — what calls do until one takes the exception.
     3. `call_while_pending` — both for one call, and that the exception is another one exactly
        where a source was compiled and did not compile. -/
namespace ScriptHost.Engine

variable {e e' : Engine} {call : EngineCall} {x : ScriptException}

/-- Nothing of a script is executed between the engines: what was printed is the same, and the
    contexts have the tasks that they had. Tasks go with the runtime of their context only, and
    a new context has none. -/
structure Idle (e : Engine) (call : EngineCall) (e' : Engine) : Prop where
  output : e'.output = e.output
  kept : ∀ id c, e.contexts.get? id = some c →
    (∃ c', e'.contexts.get? id = some c' ∧ c'.tasks = c.tasks) ∨ call = .disposeRuntime c.runtime
  held : ∀ id c', e'.contexts.get? id = some c' →
    (∃ c, e.contexts.get? id = some c ∧ c'.tasks = c.tasks) ∨
      e.contexts.get? id = none ∧ c'.tasks = {}

theorem Idle.of_contexts (houtput : e'.output = e.output) (hcontexts : e'.contexts = e.contexts) :
    Idle e call e' where
  output := houtput
  kept := fun _ c hc => .inl ⟨c, hcontexts ▸ hc, rfl⟩
  held := fun _ c hc => .inl ⟨c, hcontexts ▸ hc, rfl⟩

theorem idle_of_sameButNotes (h : SameButNotes e e') : Idle e call e' :=
  .of_contexts (congrArg (·.output) h) (congrArg (·.contexts) h)

theorem idle_withoutRuntime (h : e.WellFormed) (r : RuntimeId) :
    Idle e (.disposeRuntime r) (e.withoutRuntime r) where
  output := rfl
  kept := by
    intro id c hc
    by_cases hr : c.runtime = r
    · exact .inr (by rw [hr])
    · refine .inl ⟨c, ?_, rfl⟩
      have hmem : (id, c) ∈ (e.contextsOutside r).entries :=
        List.mem_filter.2 ⟨Table.mem_entries_of_get? hc, by simpa using hr⟩
      exact Table.get?_of_mem_entries
        (h.nodup_contexts.sublist (Table.keys_filter_sublist _ _)) hmem
  held := fun _ c hc => .inl ⟨c, Table.get?_of_get?_filter h.nodup_contexts hc, rfl⟩

/-- The number of a new context is that of no context before. -/
theorem idle_withContext (h : e.WellFormed) (r : RuntimeId) :
    Idle e call (e.withContext r) := by
  have hnew : e.contexts.get? ⟨e.issued + 1⟩ = none :=
    Table.get?_eq_none_iff.2 (h.not_mem_contexts (Nat.lt_succ_self _))
  refine ⟨rfl, fun id c hc => .inl ⟨c, ?_, rfl⟩, fun id c hc => ?_⟩
  · have hne : id ≠ ⟨e.issued + 1⟩ := by
      rintro rfl
      cases hnew.symm.trans hc
    exact (Table.get?_insert_of_ne _ _ hne).trans hc
  · by_cases hid : id = ⟨e.issued + 1⟩
    · subst hid
      cases (Table.get?_insert_self _ _ _).symm.trans hc
      exact .inr ⟨hnew, rfl⟩
    · exact .inl ⟨c, (Table.get?_insert_of_ne _ _ hid).symm.trans hc, rfl⟩

theorem idle_withHook {id : ContextId} {c : Context} (hc : e.currentContext? = some (id, c))
    (hook : Option Hook) :
    Idle e call { e with contexts := e.contexts.insert id { c with hook := hook } } := by
  have hold := get?_of_currentContext? hc
  refine ⟨rfl, fun id' c' hc' => .inl ?_, fun id' c' hc' => .inl ?_⟩
  · by_cases hid : id' = id
    · subst hid
      cases hold.symm.trans hc'
      exact ⟨_, Table.get?_insert_self _ _ _, rfl⟩
    · exact ⟨c', (Table.get?_insert_of_ne _ _ hid).trans hc', rfl⟩
  · by_cases hid : id' = id
    · subst hid
      cases (Table.get?_insert_self _ _ _).symm.trans hc'
      exact ⟨c, hold, rfl⟩
    · exact ⟨c', (Table.get?_insert_of_ne _ _ hid).symm.trans hc', rfl⟩

/-! One call. -/

theorem program?_of_pending (hx : e.exception = some x) (call : EngineCall) :
    e.program? call = none := by
  cases call with
  | runScript source tag =>
    have hpending : (e.record (.runScript tag)).exception = some x := hx
    simp only [program?, whenCurrent, compile]
    cases e.injected .runScript <;> cases Program.parse source <;> simp [hpending]
  | runSerialized bytecode tag =>
    have hpending : (e.record (.runSerializedScript tag)).exception = some x := hx
    simp only [program?, whenCurrent]
    cases e.injected .runSerializedScript <;> cases Bytecode.decode bytecode <;> simp [hpending]
  | callTask task => simp [program?, hx]
  | _ => rfl

theorem not_throws_of_pending (hx : e.exception = some x) {done : Program} {line column : UInt32}
    {message : String} : ¬ e.Throws call done line column message := by
  intro h
  obtain ⟨rest, hprogram⟩ := h.program
  cases (program?_of_pending hx call).symm.trans hprogram

theorem error?_of_pending (hx : e.exception = some x)
    (hcall : call.runEntry?.isSome ∨ ∃ task, call = .callTask task) : e.error? call ≠ none := by
  rcases hcall with hrun | ⟨task, rfl⟩
  · cases call with
    | runScript source tag =>
      have hpending : (e.record (.runScript tag)).exception = some x := hx
      simp only [error?, runScript, whenCurrent, compile, executeProgram]
      cases e.injected .runScript <;> cases e.currentContext?.isNone <;>
        cases Program.parse source <;> simp [hpending, Ending.error?]
    | runSerialized bytecode tag =>
      have hpending : (e.record (.runSerializedScript tag)).exception = some x := hx
      simp only [error?, runSerialized, whenCurrent, executeProgram]
      cases e.injected .runSerializedScript <;> cases e.currentContext?.isNone <;>
        cases Bytecode.decode bytecode <;> simp [hpending, Ending.error?]
    | _ => cases hrun
  · simp only [error?, callTask, hx]
    cases e.injected .callTask <;> simp [Ending.error?]

/-- What a call does that returns no error while an exception is pending. -/
theorem idle_of_success (hwell : e.WellFormed) (hx : e.exception = some x)
    (hcall : call ≠ .takeException) (hok : e.error? call = none) :
    Idle e call (e.after call) ∧ (e.after call).exception = some x := by
  have hdoes := e.does call
  generalize e.after call = e' at hdoes ⊢
  cases hdoes with
  | refused _ hcode => cases hok.symm.trans hcode
  | createRuntime | setCurrentContext => exact ⟨.of_contexts rfl rfl, hx⟩
  | disposeRuntime => exact ⟨idle_withoutRuntime hwell _, hx⟩
  | createContext => exact ⟨idle_withContext hwell _, hx⟩
  | getCurrentContext | serializedSize | serializeInto => exact ⟨.of_contexts rfl rfl, hx⟩
  | runScript | runSerialized => exact absurd hok (error?_of_pending hx (.inl rfl))
  | setHook hook hc => exact ⟨idle_withHook hc hook, hx⟩
  | callTask => exact absurd hok (error?_of_pending hx (.inr ⟨_, rfl⟩))
  | takeException => exact absurd rfl hcall
  | injectFailure | setSizes => exact ⟨.of_contexts rfl rfl, hx⟩

theorem idle_of_pending (hwell : e.WellFormed) (hx : e.exception = some x)
    (hcall : call ≠ .takeException) : Idle e call (e.after call) := by
  cases herror : e.error? call with
  | none => exact (idle_of_success hwell hx hcall herror).1
  | some code =>
    exact idle_of_sameButNotes
      ((fails_of_error? herror).sameButNotes fun _ _ _ _ => not_throws_of_pending hx)

theorem Uncompiled.after {err : CompileError} (h : e.Uncompiled call err) :
    (e.after call).exception = some err.toException := by
  obtain ⟨source, hsource, hparse⟩ := h.source
  cases call with
  | serializedSize source' =>
    cases hsource
    have hserves : e.Serves := ⟨h.current, h.genuine _ rfl⟩
    rw [Engine.after, hserves.serializedSize_error hparse]
  | serializeInto source' buffer =>
    cases hsource
    have hserves : e.Serves := ⟨h.current, h.genuine _ rfl⟩
    rw [Engine.after, hserves.serializeInto_error hparse]
  | runScript source' tag =>
    cases hsource
    have hfree := h.genuine _ rfl
    have hnone : e.currentContext?.isNone = false := by simpa using h.current
    simp only [Engine.after, runScript, whenCurrent, hfree, hnone, compile, hparse,
      Bool.false_eq_true, if_false]
  | _ => cases hsource

/-- A pending exception gives way to the error of a source that does not compile only. -/
theorem exception_of_pending (hwell : e.WellFormed) (hx : e.exception = some x)
    (hcall : call ≠ .takeException) :
    (∃ err, e.Uncompiled call err ∧ (e.after call).exception = some err.toException) ∨
      (∀ err, ¬ e.Uncompiled call err) ∧ (e.after call).exception = some x := by
  by_cases h : ∃ err, e.Uncompiled call err
  · obtain ⟨err, herr⟩ := h
    exact .inl ⟨err, herr, herr.after⟩
  refine .inr ⟨fun err herr => h ⟨err, herr⟩, ?_⟩
  cases herror : e.error? call with
  | none => exact (idle_of_success hwell hx hcall herror).2
  | some code =>
    rcases (fails_of_error? herror).exception with ⟨-, y, hdescribes, -⟩ | ⟨-, hsame⟩
    · cases hdescribes with
      | compile herr => exact absurd ⟨_, herr⟩ h
      | throw hthrows => exact absurd hthrows (not_throws_of_pending hx)
    · rw [hsame, hx]

/-! Calls that do not take the exception. -/

/-- Until the exception is taken there is one, and nothing more is printed. -/
theorem pending_of_calls (hreach : Reachable e) (hx : e.exception.isSome)
    {calls : List EngineCall} (hcalls : ∀ call ∈ calls, call ≠ .takeException) :
    (e.afterAll calls).exception.isSome ∧ (e.afterAll calls).output = e.output := by
  induction calls generalizing e with
  | nil => exact ⟨hx, rfl⟩
  | cons call rest ih =>
    obtain ⟨x, hx⟩ := Option.isSome_iff_exists.1 hx
    have hwell := wellFormed_of_reachable hreach
    have hcall := hcalls call List.mem_cons_self
    have hidle := idle_of_pending hwell hx hcall
    have hpending : (e.after call).exception.isSome := by
      rcases exception_of_pending hwell hx hcall with ⟨err, -, h⟩ | ⟨-, h⟩ <;> rw [h] <;> rfl
    obtain ⟨hlater, houtput⟩ :=
      ih (hreach.next call) hpending fun c hc => hcalls c (List.mem_cons_of_mem _ hc)
    exact ⟨hlater, houtput.trans hidle.output⟩

/-- Whatever is called while an exception is pending, no statement is executed: nothing is printed
    and no task comes or goes. The exception stays, but that a source which the call compiles, and
    which does not compile, leaves its own error in its place. -/
theorem call_while_pending (hreach : Reachable e) (hx : e.exception = some x)
    (hcall : call ≠ .takeException) :
    e.statements call = [] ∧ Idle e call (e.after call) ∧
      (∀ err, e.Uncompiled call err → (e.after call).exception = some err.toException) ∧
      ((∀ err, ¬ e.Uncompiled call err) → (e.after call).exception = some x) := by
  have hwell := wellFormed_of_reachable hreach
  refine ⟨?_, idle_of_pending hwell hx hcall, fun err herr => herr.after, fun hnone => ?_⟩
  · rw [statements, program?_of_pending hx call]
  · rcases exception_of_pending hwell hx hcall with ⟨err, herr, -⟩ | ⟨-, h⟩
    · exact absurd herr (hnone err)
    · exact h

/-- The calls after which the exception of a `throw` is pending. -/
def threwFirst : List EngineCall :=
  [.createRuntime .none, .createContext ⟨1⟩, .setCurrentContext (some ⟨2⟩),
    .runScript "throw first" ⟨1⟩]

/-- A run that is refused keeps the exception that is pending. -/
theorem call_while_pending_refused :
    (initial.afterAll threwFirst).exception = some (thrown 1 1 "first") ∧
    ((initial.afterAll threwFirst).after (.runScript "print x" ⟨2⟩)).exception =
      some (thrown 1 1 "first") := by
  have hx : (initial.afterAll threwFirst).exception = some (thrown 1 1 "first") := by
    decide +kernel
  have hreach : Reachable (initial.afterAll threwFirst) :=
    reachable_iff_exists_calls.2 ⟨threwFirst, rfl⟩
  have hcall : EngineCall.runScript "print x" ⟨2⟩ ≠ .takeException := nofun
  obtain ⟨-, -, -, hkept⟩ := call_while_pending hreach hx hcall
  refine ⟨hx, hkept ?_⟩
  rintro err ⟨-, -, source, hsource, hparse⟩
  cases hsource
  have hok : (Program.parse "print x").isOk = true := by decide +kernel
  rw [hparse] at hok
  cases hok

/-- A run of a source that does not compile does not: the exception that was is lost. -/
theorem pending_exception_replaced :
    Reachable (initial.afterAll threwFirst) ∧
    (initial.afterAll threwFirst).exception = some (thrown 1 1 "first") ∧
    ((initial.afterAll threwFirst).after (.runScript "shout no" ⟨2⟩)).exception =
      some (thrown 1 1 "unknown statement 'shout'") :=
  ⟨reachable_iff_exists_calls.2 ⟨threwFirst, rfl⟩, by decide +kernel, by decide +kernel⟩

end ScriptHost.Engine
