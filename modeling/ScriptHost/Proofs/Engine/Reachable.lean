import Mathlib.Data.List.Flatten
import Mathlib.Data.List.Nodup
import ScriptHost.Proofs.Engine.Effect

/- The engines that calls can lead to. `Reachable` closes the initial engine under
   every call with any arguments, whether the call succeeds, fails or faults. The
   invariant behind what is proved about runs is `WellFormed`: runtimes, contexts and
   pending tasks carry distinct numbers that were all handed out, every context
   belongs to a live runtime, and the current context is one of the contexts.

   Disposing a runtime is where the last two meet: it takes the runtime's contexts
   with it, and it is refused while one of them is current.

   What a call can do is said once, in `Does`, and whatever is proved of every call is a case
   analysis of it.

   What is proved: `does`, and from it `wellFormed_of_reachable`. -/
namespace ScriptHost

/-- A call of the engine, with its arguments. -/
inductive EngineCall where
  | createRuntime (attributes : Attributes)
  | disposeRuntime (runtime : RuntimeId)
  | createContext (runtime : RuntimeId)
  | getCurrentContext
  | setCurrentContext (context : Option ContextId)
  | serializedSize (source : String)
  | serializeInto (source : String) (buffer : List UInt8)
  | runScript (source : String) (tag : SourceContext)
  | runSerialized (bytecode : List UInt8) (tag : SourceContext)
  | setHook (hook : Option Hook)
  | callTask (task : TaskId)
  | takeException
  | injectFailure (op : Operation) (code : ErrorCode)
  | setSizes (sizes : SizeReport)

/-- Whether a call executes statements when nothing refuses it. -/
def EngineCall.Executes : EngineCall → Prop
  | .runScript _ _ => True
  | .runSerialized _ _ => True
  | .callTask _ => True
  | _ => False

def Ending.error? {ε α : Type} : Ending ε α → Option ε
  | .error e => some e
  | _ => none

def errorOf {ε α : Type} : Except ε α → Option ε
  | .error e => some e
  | .ok _ => none

namespace Engine

/-- The engine a call leaves behind, however it ends. -/
def after (e : Engine) : EngineCall → Engine
  | .createRuntime attributes => (e.createRuntime attributes).2
  | .disposeRuntime runtime => (e.disposeRuntime runtime).2
  | .createContext runtime => (e.createContext runtime).2
  | .getCurrentContext => e.getCurrentContext.2
  | .setCurrentContext context => (e.setCurrentContext context).2
  | .serializedSize source => (e.serializedSize source).2
  | .serializeInto source buffer => (e.serializeInto source buffer).2.2
  | .runScript source tag => (e.runScript source tag).engine
  | .runSerialized bytecode tag => (e.runSerialized bytecode tag).engine
  | .setHook hook => (e.setHook hook).2
  | .callTask task => (e.callTask task).engine
  | .takeException => e.takeException.2
  | .injectFailure op code => e.injectFailure op code
  | .setSizes sizes => e.setSizes sizes

/-- The error that a call returns, if it does. -/
def error? (e : Engine) : EngineCall → Option ErrorCode
  | .createRuntime attributes => errorOf (e.createRuntime attributes).1
  | .disposeRuntime runtime => errorOf (e.disposeRuntime runtime).1
  | .createContext runtime => errorOf (e.createContext runtime).1
  | .getCurrentContext => errorOf e.getCurrentContext.1
  | .setCurrentContext context => errorOf (e.setCurrentContext context).1
  | .serializedSize source => errorOf (e.serializedSize source).1
  | .serializeInto source buffer => errorOf (e.serializeInto source buffer).1
  | .runScript source tag => (e.runScript source tag).ending.error?
  | .runSerialized bytecode tag => (e.runSerialized bytecode tag).ending.error?
  | .setHook hook => errorOf (e.setHook hook).1
  | .callTask task => (e.callTask task).ending.error?
  | .takeException => none
  | .injectFailure _ _ => none
  | .setSizes _ => none

/-- The engines that calls lead to from the initial one. -/
inductive Reachable : Engine → Prop where
  | initial : Reachable .initial
  | next {e : Engine} (h : Reachable e) (call : EngineCall) : Reachable (e.after call)

/-! What a call does when it is not refused, and that it does next to nothing when it is. -/

def withRuntime (e : Engine) (a : Attributes) : Engine :=
  { e with
    issued := e.issued + 1
    runtimes := e.runtimes.insert ⟨e.issued + 1⟩ a
    journal := e.journal ++ [.createRuntime ⟨e.issued + 1⟩ a] }

/-- The engine without a runtime and its contexts. -/
def withoutRuntime (e : Engine) (r : RuntimeId) : Engine :=
  { e with
    runtimes := e.runtimes.erase r
    contexts := e.contextsOutside r
    journal := e.journal ++ [.disposeRuntime r] }

def withContext (e : Engine) (r : RuntimeId) : Engine :=
  { e with
    issued := e.issued + 1
    contexts := e.contexts.insert ⟨e.issued + 1⟩ { runtime := r }
    journal := e.journal ++ [.createContext ⟨e.issued + 1⟩] }

def withCurrent (e : Engine) (context : Option ContextId) : Engine :=
  { e with
    current := context
    journal := e.journal ++ [.setCurrentContext context] }

theorem createRuntime_of_free {e : Engine} (h : e.injected .createRuntime = none)
    (a : Attributes) : e.createRuntime a = (.ok ⟨e.issued + 1⟩, e.withRuntime a) :=
  unlessInjected_of_none _ h

theorem createRuntime_of_injected {e : Engine} {code : ErrorCode}
    (h : e.injected .createRuntime = some code) (a : Attributes) :
    e.createRuntime a = (.error code, e) := by
  simp [createRuntime, unlessInjected, h]

/-- A disposal is refused without effect, or takes a runtime none of whose contexts is current. -/
theorem disposeRuntime_cases (e : Engine) (r : RuntimeId) :
    (∃ code, e.disposeRuntime r = (.error code, e)) ∨
    (e.currentIsOf r = false ∧ e.disposeRuntime r = (.ok (), e.withoutRuntime r)) := by
  unfold disposeRuntime unlessInjected
  split
  · exact .inl ⟨_, rfl⟩
  split
  · exact .inl ⟨_, rfl⟩
  split
  · exact .inl ⟨_, rfl⟩
  · rename_i hcurrent
    exact .inr ⟨by simpa using hcurrent, rfl⟩

theorem disposeRuntime_of_free {e : Engine} {r : RuntimeId}
    (h : e.injected .disposeRuntime = none) (hr : r ∈ e.runtimes.keys)
    (hcurrent : e.currentIsOf r = false) :
    e.disposeRuntime r = (.ok (), e.withoutRuntime r) := by
  rw [disposeRuntime, unlessInjected_of_none _ h, Table.has_iff.2 hr, hcurrent]
  rfl

theorem createContext_cases (e : Engine) (r : RuntimeId) :
    (∃ code, e.createContext r = (.error code, e)) ∨
    (r ∈ e.runtimes.keys ∧ e.createContext r = (.ok ⟨e.issued + 1⟩, e.withContext r)) := by
  unfold createContext unlessInjected
  split
  · exact .inl ⟨_, rfl⟩
  split
  · exact .inl ⟨_, rfl⟩
  · rename_i hr
    exact .inr ⟨Table.has_iff.1 (by simpa using hr), rfl⟩

theorem createContext_of_free {e : Engine} {r : RuntimeId}
    (h : e.injected .createContext = none) (hr : r ∈ e.runtimes.keys) :
    e.createContext r = (.ok ⟨e.issued + 1⟩, e.withContext r) := by
  rw [createContext, unlessInjected_of_none _ h, Table.has_iff.2 hr]
  rfl

theorem getCurrentContext_cases (e : Engine) :
    (∃ code, e.getCurrentContext = (.error code, e)) ∨
    e.getCurrentContext = (.ok e.current, e) := by
  unfold getCurrentContext unlessInjected
  split
  · exact .inl ⟨_, rfl⟩
  · exact .inr rfl

theorem setCurrentContext_cases (e : Engine) (context : Option ContextId) :
    (∃ code, e.setCurrentContext context = (.error code, e)) ∨
    (e.injected .setCurrentContext = none ∧ (∀ id, context = some id → id ∈ e.contexts.keys) ∧
      e.setCurrentContext context = (.ok (), e.withCurrent context)) := by
  unfold setCurrentContext unlessInjected
  split
  · exact .inl ⟨_, rfl⟩
  rename_i hfree
  split
  · exact .inl ⟨_, rfl⟩
  · rename_i hid
    refine .inr ⟨hfree, ?_, rfl⟩
    rintro id rfl
    exact Table.has_iff.1 (by simpa using hid)

theorem setCurrentContext_of_free {e : Engine} {context : Option ContextId}
    (h : e.injected .setCurrentContext = none)
    (hid : ∀ id, context = some id → id ∈ e.contexts.keys) :
    e.setCurrentContext context = (.ok (), e.withCurrent context) := by
  rw [setCurrentContext, unlessInjected_of_none _ h, if_neg]
  · rfl
  · cases context with
    | none => simp
    | some id => simpa using Table.has_iff.2 (hid id rfl)

theorem setHook_cases (e : Engine) (hook : Option Hook) :
    (∃ code, e.setHook hook = (.error code, e)) ∨
    (e.injected .setContinuationCallback = none ∧ ∃ id c, e.currentContext? = some (id, c) ∧
      e.setHook hook =
        (.ok (), { e with contexts := e.contexts.insert id { c with hook := hook } })) := by
  unfold setHook unlessInjected
  split
  · exact .inl ⟨_, rfl⟩
  rename_i hfree
  split
  · exact .inl ⟨_, rfl⟩
  · rename_i id c hc
    exact .inr ⟨hfree, id, c, hc, rfl⟩

theorem serializedSize_cases (e : Engine) (source : String) :
    (∃ code x, e.serializedSize source = (.error code, { e with exception := x })) ∨
    ∃ n, e.serializedSize source = (.ok n, e) := by
  unfold serializedSize whenCurrent compile
  cases e.injected .serializeScript with
  | some code => exact .inl ⟨code, e.exception, rfl⟩
  | none =>
    cases e.currentContext?.isNone with
    | true => exact .inl ⟨_, e.exception, rfl⟩
    | false =>
      cases Program.parse source with
      | error err => exact .inl ⟨_, _, rfl⟩
      | ok p => exact .inr ⟨_, rfl⟩

theorem serializeInto_cases (e : Engine) (source : String) (buffer : List UInt8) :
    (∃ code x, e.serializeInto source buffer = (.error code, buffer, { e with exception := x })) ∨
    ∃ n filled, e.serializeInto source buffer = (.ok n, filled, e) := by
  unfold serializeInto whenCurrent compile
  cases e.injected .serializeScript with
  | some code => exact .inl ⟨code, e.exception, rfl⟩
  | none =>
    cases e.currentContext?.isNone with
    | true => exact .inl ⟨_, e.exception, rfl⟩
    | false =>
      cases Program.parse source with
      | error err => exact .inl ⟨_, _, rfl⟩
      | ok p =>
        by_cases hsize : buffer.length < (Bytecode.encode p).length
        · exact .inl ⟨.invalidArgument, e.exception, by simp [hsize]⟩
        · exact .inr ⟨_, _, by simp only [hsize]; rfl⟩

/-- What a call does to an engine. A call that does not execute is refused, and leaves at most
    another exception pending; or it tells something of the engine; or it does what it is for. -/
inductive Does (e : Engine) : EngineCall → Engine → Prop where
  | refused {call : EngineCall} {code : ErrorCode} (hcall : ¬ call.Executes)
      (hcode : e.error? call = some code) (x : Option ScriptException) :
      Does e call { e with exception := x }
  | createRuntime {a : Attributes}
      (hcall : e.createRuntime a = (.ok ⟨e.issued + 1⟩, e.withRuntime a)) :
      Does e (.createRuntime a) (e.withRuntime a)
  | disposeRuntime {r : RuntimeId} (hcurrent : e.currentIsOf r = false) :
      Does e (.disposeRuntime r) (e.withoutRuntime r)
  | createContext {r : RuntimeId} (hr : r ∈ e.runtimes.keys)
      (hcall : e.createContext r = (.ok ⟨e.issued + 1⟩, e.withContext r)) :
      Does e (.createContext r) (e.withContext r)
  | getCurrentContext : Does e .getCurrentContext e
  | setCurrentContext {context : Option ContextId}
      (hid : ∀ id, context = some id → id ∈ e.contexts.keys) :
      Does e (.setCurrentContext context) (e.withCurrent context)
  | serializedSize {source : String} : Does e (.serializedSize source) e
  | serializeInto {source : String} {buffer : List UInt8} :
      Does e (.serializeInto source buffer) e
  | runScript {source : String} {tag : SourceContext} :
      Does e (.runScript source tag) (e.runScript source tag).engine
  | runSerialized {bytecode : List UInt8} {tag : SourceContext} :
      Does e (.runSerialized bytecode tag) (e.runSerialized bytecode tag).engine
  | setHook {id : ContextId} {c : Context} (hook : Option Hook)
      (hc : e.currentContext? = some (id, c)) :
      Does e (.setHook hook)
        { e with contexts := e.contexts.insert id { c with hook := hook } }
  | callTask {task : TaskId} : Does e (.callTask task) (e.callTask task).engine
  | takeException : Does e .takeException { e with exception := none }
  | injectFailure (op : Operation) (code : ErrorCode) :
      Does e (.injectFailure op code) (e.injectFailure op code)
  | setSizes (sizes : SizeReport) : Does e (.setSizes sizes) (e.setSizes sizes)

theorem does_of_error {e e' : Engine} {call : EngineCall} {code : ErrorCode}
    (hcall : ¬ call.Executes) (hcode : e.error? call = some code)
    (h : ∃ x, e' = { e with exception := x }) : e.Does call e' := by
  obtain ⟨x, rfl⟩ := h
  exact .refused hcall hcode x

/-- **Every call does one of the things that `Does` knows.** -/
theorem does (e : Engine) (call : EngineCall) : e.Does call (e.after call) := by
  cases call with
  | createRuntime a =>
    cases hop : e.injected .createRuntime with
    | none =>
      have heq := createRuntime_of_free hop a
      rw [after, heq]
      exact .createRuntime heq
    | some code =>
      have heq := createRuntime_of_injected hop a
      exact does_of_error id (by rw [error?, heq, errorOf]) ⟨e.exception, by rw [after, heq]⟩
  | disposeRuntime r =>
    rcases e.disposeRuntime_cases r with ⟨code, heq⟩ | ⟨hcurrent, heq⟩
    · exact does_of_error id (by rw [error?, heq, errorOf]) ⟨e.exception, by rw [after, heq]⟩
    · rw [after, heq]
      exact .disposeRuntime hcurrent
  | createContext r =>
    rcases e.createContext_cases r with ⟨code, heq⟩ | ⟨hr, heq⟩
    · exact does_of_error id (by rw [error?, heq, errorOf]) ⟨e.exception, by rw [after, heq]⟩
    · rw [after, heq]
      exact .createContext hr heq
  | getCurrentContext =>
    rcases e.getCurrentContext_cases with ⟨code, heq⟩ | heq
    · exact does_of_error id (by rw [error?, heq, errorOf]) ⟨e.exception, by rw [after, heq]⟩
    · rw [after, heq]
      exact .getCurrentContext
  | setCurrentContext context =>
    rcases e.setCurrentContext_cases context with ⟨code, heq⟩ | ⟨-, hid, heq⟩
    · exact does_of_error id (by rw [error?, heq, errorOf]) ⟨e.exception, by rw [after, heq]⟩
    · rw [after, heq]
      exact .setCurrentContext hid
  | serializedSize source =>
    rcases e.serializedSize_cases source with ⟨code, x, heq⟩ | ⟨n, heq⟩
    · exact does_of_error id (by rw [error?, heq, errorOf]) ⟨x, by rw [after, heq]⟩
    · rw [after, heq]
      exact .serializedSize
  | serializeInto source buffer =>
    rcases e.serializeInto_cases source buffer with ⟨code, x, heq⟩ | ⟨n, filled, heq⟩
    · exact does_of_error id (by rw [error?, heq, errorOf]) ⟨x, by rw [after, heq]⟩
    · rw [after, heq]
      exact .serializeInto
  | runScript source tag => exact .runScript
  | runSerialized bytecode tag => exact .runSerialized
  | setHook hook =>
    rcases e.setHook_cases hook with ⟨code, heq⟩ | ⟨-, id, c, hc, heq⟩
    · exact does_of_error id (by rw [error?, heq, errorOf]) ⟨e.exception, by rw [after, heq]⟩
    · rw [after, heq]
      exact .setHook hook hc
  | callTask task => exact .callTask
  | takeException => exact .takeException
  | injectFailure op code => exact .injectFailure op code
  | setSizes sizes => exact .setSizes sizes

/-! Numbers. -/

/-- The numbers a context and its pending tasks carry. -/
def contextIds (entry : ContextId × Context) : List Nat :=
  entry.1.value :: entry.2.tasks.keys.map (·.value)

/-- The numbers in use: of live runtimes, of contexts and of pending tasks. -/
def ids (e : Engine) : List Nat :=
  e.runtimes.keys.map (·.value) ++ e.contexts.entries.flatMap contextIds

/-- Numbers in use are distinct and were handed out; contexts belong to live runtimes;
    the current context exists. -/
structure WellFormed (e : Engine) : Prop where
  distinct : e.ids.Nodup
  numbered : ∀ n ∈ e.ids, 0 < n ∧ n ≤ e.issued
  owned : ∀ entry ∈ e.contexts.entries, entry.2.runtime ∈ e.runtimes.keys
  current : ∀ id, e.current = some id → id ∈ e.contexts.keys

/-- Numbers stay distinct and handed out when all that is new among them is new to the counter. -/
theorem numbering_of_count_le {ids : List Nat} (ids' fresh : List Nat) {n n' : Nat}
    (hdistinct : ids.Nodup) (hnumbered : ∀ i ∈ ids, 0 < i ∧ i ≤ n) (hle : n ≤ n')
    (hfresh : fresh.Nodup) (hnew : ∀ i ∈ fresh, n < i ∧ i ≤ n')
    (hcount : ∀ i, ids'.count i ≤ (ids ++ fresh).count i) :
    ids'.Nodup ∧ ∀ i ∈ ids', 0 < i ∧ i ≤ n' := by
  have hboth : (ids ++ fresh).Nodup := by
    refine List.nodup_append.2 ⟨hdistinct, hfresh, fun i hi j hj hij => ?_⟩
    have hold := hnumbered i hi
    have hnext := hnew j hj
    omega
  -- both are about counts: distinct is at most one of each, handed out is more than none
  refine ⟨List.nodup_iff_count.2 fun i => ?_, fun i hi => ?_⟩
  · exact Nat.le_trans (hcount i) (List.nodup_iff_count.1 hboth i)
  · have hpos := Nat.lt_of_lt_of_le (List.count_pos_iff.2 hi) (hcount i)
    rcases List.mem_append.1 (List.count_pos_iff.1 hpos) with h | h
    · have hold := hnumbered i h
      omega
    · have hnext := hnew i h
      omega

/-- A changed record trades its numbers for those it had. -/
theorem count_ids_insert {e : Engine} {id : ContextId} {c : Context}
    (hc : e.contexts.get? id = some c) (c' : Context) (n i : Nat) :
    { e with issued := n, contexts := e.contexts.insert id c' }.ids.count i +
        (c.tasks.keys.map (·.value)).count i =
      e.ids.count i + (c'.tasks.keys.map (·.value)).count i := by
  obtain ⟨before, after, hes, hnew⟩ := Table.exists_split_of_get? hc
  simp only [ids, hes, hnew c', List.flatMap_append, List.flatMap_cons, contextIds,
    List.count_append, List.count_cons]
  omega

theorem count_keys_insert_le (tasks : Table TaskId PendingTask) (n i : Nat) (task : PendingTask) :
    ((tasks.insert ⟨n⟩ task).keys.map (·.value)).count i ≤
      (tasks.keys.map (·.value)).count i + [n].count i := by
  cases h : tasks.get? ⟨n⟩ with
  | none =>
    have hkeys : (tasks.insert ⟨n⟩ task).keys = tasks.keys ++ [⟨n⟩] := by
      rw [Table.keys, Table.entries_insert_of_not_mem task (Table.get?_eq_none_iff.1 h),
        List.map_append]
      rfl
    rw [hkeys, List.map_append, List.count_append]
    exact Nat.le_refl _
  | some old =>
    rw [Table.keys_insert_of_get? task h]
    exact Nat.le_add_right _ _

theorem mem_contexts_keys_iff {e : Engine} {id : ContextId} :
    id ∈ e.contexts.keys ↔ ∃ c, e.contexts.get? id = some c := by
  rw [← Option.isSome_iff_exists, ← Table.has_iff]
  rfl

theorem WellFormed.le_of_mem_runtimes {e : Engine} (h : e.WellFormed) {r : RuntimeId}
    (hr : r ∈ e.runtimes.keys) : r.value ≤ e.issued :=
  (h.numbered _ (List.mem_append_left _ (List.mem_map_of_mem hr))).2

theorem WellFormed.le_of_mem_contexts {e : Engine} (h : e.WellFormed) {id : ContextId}
    (hid : id ∈ e.contexts.keys) : id.value ≤ e.issued := by
  obtain ⟨c, hc⟩ := Table.mem_keys_iff.1 hid
  refine (h.numbered _ (List.mem_append_right _ (List.mem_flatMap.2 ⟨_, hc, ?_⟩))).2
  exact List.mem_cons_self

theorem WellFormed.nodup_contexts {e : Engine} (h : e.WellFormed) : e.contexts.keys.Nodup := by
  have hsub : (e.contexts.keys.map (·.value)).Sublist e.ids := by
    refine .trans ?_ (List.sublist_append_right _ _)
    rw [Table.keys]
    induction e.contexts.entries with
    | nil => exact .slnil
    | cons entry rest ih => exact .cons_cons _ (ih.trans (List.sublist_append_right _ _))
  exact (h.distinct.sublist hsub).of_map _

theorem WellFormed.not_mem_runtimes {e : Engine} (h : e.WellFormed) {n : Nat} (hn : e.issued < n) :
    (⟨n⟩ : RuntimeId) ∉ e.runtimes.keys := fun hr =>
  Nat.not_le.2 hn (h.le_of_mem_runtimes hr)

theorem WellFormed.not_mem_contexts {e : Engine} (h : e.WellFormed) {n : Nat} (hn : e.issued < n) :
    (⟨n⟩ : ContextId) ∉ e.contexts.keys := fun hid =>
  Nat.not_le.2 hn (h.le_of_mem_contexts hid)

/-! Every call keeps the invariant. -/

theorem wellFormed_initial : initial.WellFormed where
  distinct := List.nodup_nil
  numbered := fun _ h => by cases h
  owned := fun _ h => by cases h
  current := fun _ h => by cases h

/-- A change of the current context's record and of the counter may only bring in new numbers. -/
theorem WellFormed.of_record {e : Engine} (h : e.WellFormed) {id : ContextId} {c : Context}
    (hc : e.contexts.get? id = some c) (c' : Context) (hr : c'.runtime = c.runtime) {n : Nat}
    (fresh : List Nat) (hle : e.issued ≤ n) (hfresh : fresh.Nodup)
    (hnew : ∀ i ∈ fresh, e.issued < i ∧ i ≤ n)
    (hcount : ∀ i, (c'.tasks.keys.map (·.value)).count i ≤
      (c.tasks.keys.map (·.value)).count i + fresh.count i) :
    { e with issued := n, contexts := e.contexts.insert id c' }.WellFormed := by
  obtain ⟨hdistinct, hnumbered⟩ := numbering_of_count_le
    { e with issued := n, contexts := e.contexts.insert id c' }.ids fresh
    h.distinct h.numbered hle hfresh hnew (fun i => by
      have htrade := count_ids_insert hc c' n i
      have hi := hcount i
      rw [List.count_append]
      omega)
  refine ⟨hdistinct, hnumbered, fun entry hentry => ?_, fun id' hid => ?_⟩
  · rcases Table.mem_entries_insert hentry with rfl | hentry
    · have hmem := h.owned _ (Table.mem_entries_of_get? hc)
      rwa [← hr] at hmem
    · exact h.owned entry hentry
  · show id' ∈ (e.contexts.insert id c').keys
    rw [Table.keys_insert_of_get? c' hc]
    exact h.current id' hid

theorem Effect.wellFormed {e e' : Engine} (heff : Effect e e') (h : e.WellFormed) :
    e'.WellFormed := by
  cases heff with
  | print => exact ⟨h.distinct, h.numbered, h.owned, h.current⟩
  | pend => exact ⟨h.distinct, h.numbered, h.owned, h.current⟩
  | begin => exact ⟨h.distinct, h.numbered, h.owned, h.current⟩
  | spend =>
    refine ⟨h.distinct, fun n hn => ?_, h.owned, h.current⟩
    have hold := h.numbered n hn
    exact ⟨hold.1, Nat.le_succ_of_le hold.2⟩
  | @schedule id c task hc =>
    refine h.of_record (get?_of_currentContext? hc)
      { c with tasks := c.tasks.insert ⟨e.issued + 1⟩ task } rfl [e.issued + 1]
      (Nat.le_succ _) (List.nodup_singleton _) (fun i hi => ?_)
      (fun i => count_keys_insert_le _ _ _ _)
    rw [List.mem_singleton.1 hi]
    exact ⟨Nat.lt_succ_self _, Nat.le_refl _⟩
  | @consume id c task hc =>
    refine h.of_record (get?_of_currentContext? hc) { c with tasks := c.tasks.erase task } rfl []
      (Nat.le_refl e.issued) List.nodup_nil (fun i hi => by cases hi) (fun i => ?_)
    exact ((Table.keys_erase_sublist _ _).map _).count_le i
  | @hook id c hook hc =>
    exact h.of_record (get?_of_currentContext? hc) { c with hook := hook } rfl []
      (Nat.le_refl e.issued) List.nodup_nil (fun i hi => by cases hi) (fun i => Nat.le_refl _)

theorem Effects.wellFormed {e e' : Engine} (heff : Effects e e') (h : e.WellFormed) :
    e'.WellFormed := by
  induction heff with
  | refl => exact h
  | tail _ hstep ih => exact hstep.wellFormed ih

theorem WellFormed.withRuntime {e : Engine} (h : e.WellFormed) (a : Attributes) :
    (e.withRuntime a).WellFormed := by
  have hkey := h.not_mem_runtimes (Nat.lt_succ_self e.issued)
  have hkeys : (e.withRuntime a).runtimes.keys = e.runtimes.keys ++ [⟨e.issued + 1⟩] := by
    rw [Table.keys, Engine.withRuntime, Table.entries_insert_of_not_mem a hkey, List.map_append]
    rfl
  obtain ⟨hdistinct, hnumbered⟩ := numbering_of_count_le (e.withRuntime a).ids [e.issued + 1]
    h.distinct h.numbered (Nat.le_succ _) (List.nodup_singleton _)
    (fun i hi => by rw [List.mem_singleton.1 hi]; exact ⟨Nat.lt_succ_self _, Nat.le_refl _⟩)
    (fun i => by
      rw [ids, hkeys, ids, List.map_append]
      simp only [Engine.withRuntime, List.map_cons, List.map_nil, List.count_append]
      omega)
  refine ⟨hdistinct, hnumbered, fun entry hentry => ?_, h.current⟩
  rw [hkeys]
  exact List.mem_append_left _ (h.owned entry hentry)

theorem WellFormed.withContext {e : Engine} (h : e.WellFormed) {r : RuntimeId}
    (hr : r ∈ e.runtimes.keys) : (e.withContext r).WellFormed := by
  have hkey := h.not_mem_contexts (Nat.lt_succ_self e.issued)
  have hentries : (e.withContext r).contexts.entries =
      e.contexts.entries ++ [(⟨e.issued + 1⟩, { runtime := r })] :=
    Table.entries_insert_of_not_mem _ hkey
  obtain ⟨hdistinct, hnumbered⟩ := numbering_of_count_le (e.withContext r).ids [e.issued + 1]
    h.distinct h.numbered (Nat.le_succ _) (List.nodup_singleton _)
    (fun i hi => by rw [List.mem_singleton.1 hi]; exact ⟨Nat.lt_succ_self _, Nat.le_refl _⟩)
    (fun i => by
      rw [ids, hentries, ids, List.flatMap_append, ← List.append_assoc]
      exact Nat.le_refl _)
  refine ⟨hdistinct, hnumbered, fun entry hentry => ?_, fun id hid => ?_⟩
  · rw [hentries, List.mem_append, List.mem_singleton] at hentry
    rcases hentry with hentry | rfl
    · exact h.owned entry hentry
    · exact hr
  · rw [Table.keys, hentries, List.map_append]
    exact List.mem_append_left _ (h.current id hid)

theorem WellFormed.withCurrent {e : Engine} (h : e.WellFormed) {context : Option ContextId}
    (hid : ∀ id, context = some id → id ∈ e.contexts.keys) :
    (e.withCurrent context).WellFormed :=
  ⟨h.distinct, h.numbered, h.owned, hid⟩

theorem mem_contextsOutside_iff {e : Engine} {r : RuntimeId} {entry : ContextId × Context} :
    entry ∈ (e.contextsOutside r).entries ↔
      entry ∈ e.contexts.entries ∧ entry.2.runtime ≠ r := by
  simp [contextsOutside, Table.filter]

theorem WellFormed.withoutRuntime {e : Engine} (h : e.WellFormed) {r : RuntimeId}
    (hcurrent : e.currentIsOf r = false) : (e.withoutRuntime r).WellFormed := by
  have hsub : (e.withoutRuntime r).ids.Sublist e.ids :=
    ((Table.keys_erase_sublist _ _).map _).append (List.filter_sublist.flatMap contextIds)
  refine ⟨h.distinct.sublist hsub, fun n hn => h.numbered n (hsub.subset hn),
    fun entry hentry => ?_, fun id hid => ?_⟩
  · obtain ⟨hmem, hne⟩ := mem_contextsOutside_iff.1 hentry
    obtain ⟨v, hv⟩ := Table.mem_keys_iff.1 (h.owned entry hmem)
    exact Table.mem_keys_iff.2 ⟨v, List.mem_filter.2 ⟨hv, by simpa using hne⟩⟩
  · -- none of the runtime's contexts is current, so the current one stays
    obtain ⟨c, hc⟩ := mem_contexts_keys_iff.1 (h.current id hid)
    refine Table.mem_keys_iff.2 ⟨c, mem_contextsOutside_iff.2 ⟨Table.mem_entries_of_get? hc, ?_⟩⟩
    have hnot : e.currentIsOf r = decide (c.runtime = r) := by
      have hid' : e.current = some id := hid
      simp [currentIsOf, currentContext?, hid', hc]
    simpa [hnot] using hcurrent

theorem WellFormed.after {e : Engine} (h : e.WellFormed) (call : EngineCall) :
    (e.after call).WellFormed := by
  have hdoes := e.does call
  generalize e.after call = e' at hdoes ⊢
  cases hdoes with
  | refused _ _ x => exact (Effect.pend x).wellFormed h
  | createRuntime => exact h.withRuntime _
  | disposeRuntime hcurrent => exact h.withoutRuntime hcurrent
  | createContext hr => exact h.withContext hr
  | getCurrentContext | serializedSize | serializeInto => exact h
  | setCurrentContext hid => exact h.withCurrent hid
  | runScript => exact (e.effects_runScript _ _).wellFormed h
  | runSerialized => exact (e.effects_runSerialized _ _).wellFormed h
  | setHook hook hc => exact (Effect.hook hook hc).wellFormed h
  | callTask => exact (e.effects_callTask _).wellFormed h
  | takeException => exact (Effect.pend none).wellFormed h
  | injectFailure | setSizes => exact ⟨h.distinct, h.numbered, h.owned, h.current⟩

/-- Every engine that calls lead to is well-formed. -/
theorem wellFormed_of_reachable {e : Engine} (h : Reachable e) : e.WellFormed := by
  induction h with
  | initial => exact wellFormed_initial
  | next _ call ih => exact ih.after call

end Engine
end ScriptHost
