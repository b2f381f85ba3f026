import ScriptHost.Proofs.Host.DrainOnce
import ScriptHost.Proofs.Host.Inward

/- What a run adds to the journal. A runtime and its context are opened and closed in one
   order, around what is done inside the context. This bracket is the same for the run's own
   runtime and for the second one of serialized mode, whose base is the first.

   What is proved:
     1. `Recorded.bracket`, a runtime from its creation to its disposal;
     2. `records_dispatch`, what the journal gets of each mode;
     3. `teardown_ordered`, the journal of a whole run, with each attempt in its place. -/
namespace ScriptHost

open Engine (Entered Ready)

/-! What is recorded. -/

/-- An attempt in its place: compiling in one runtime, running in one, and a runtime disposed of
    only once none of its contexts is entered. -/
structure Attempt.Placed (compiler runner : RuntimeId) (a : Attempt) : Prop where
  compiles : a.act.kind = .compiles → a.engine.currentRuntime? = some compiler
  runs : a.act.kind = .runs → a.engine.currentRuntime? = some runner
  disposes : ∀ g, a.act = .dispose g ∨ a.act = .drop g →
    a.ending = .ok () ∧ a.engine.currentRuntime? ≠ some g.runtime

/-- From one engine to another every attempt is in its place, and the journal gets the entries. -/
structure Recorded (compiler runner : RuntimeId) (e : Engine) (l : Log)
    (added : List JournalEntry) (e' : Engine) : Prop where
  placed : ∀ a ∈ l, a.Placed compiler runner
  journal : e'.journal = e.journal ++ added

/-- The journal of a runtime, from its creation to its disposal, around what is done in a context
    of it. -/
def JournalEntry.bracket (r : RuntimeId) (a : Attributes) (c : ContextId)
    (previous : Option ContextId) (body : List JournalEntry) : List JournalEntry :=
  [.createRuntime r a, .createContext c, .setCurrentContext (some c)] ++ body ++
    [.setCurrentContext previous, .disposeRuntime r]

/-- The journal of a mode, between entering its context and leaving it: nothing, or the run of
    its script; in serialized mode that is within the bracket of a second runtime. -/
inductive Mode.Body (c₁ : ContextId) (r₂ : RuntimeId) (c₂ : ContextId) :
    Mode → List JournalEntry → Prop where
  | nothing (mode : Mode) : Body c₁ r₂ c₂ mode []
  | source (tag : SourceContext) : Body c₁ r₂ c₂ .source [.runScript tag]
  | preSerialized (path : Path) (tag : SourceContext) :
    Body c₁ r₂ c₂ (.preSerialized path) [.runSerializedScript tag]
  | serialized (tag : SourceContext) : Body c₁ r₂ c₂ .serialized
    (JournalEntry.bracket r₂ Mode.serialized.attributes c₂ (some c₁) [.runSerializedScript tag])

/-- A runtime that a run creates is disposed of once. -/
theorem Mode.Body.disposed_once {r₁ r₂ : RuntimeId} {c₁ c₂ : ContextId} {mode : Mode}
    {body : List JournalEntry} (h : mode.Body c₁ r₂ c₂ body) (hne : r₁ ≠ r₂) (a : Attributes)
    (previous : Option ContextId) {r : RuntimeId} {a' : Attributes}
    (hmem : .createRuntime r a' ∈ JournalEntry.bracket r₁ a c₁ previous body) :
    (JournalEntry.bracket r₁ a c₁ previous body).count (.disposeRuntime r) = 1 := by
  cases h with
  | nothing | source | preSerialized =>
    obtain ⟨rfl, -⟩ : r = r₁ ∧ a' = a := by
      simpa [JournalEntry.bracket] using hmem
    simp [JournalEntry.bracket]
  | serialized =>
    have hcreated : (r = r₁ ∧ a' = a) ∨ (r = r₂ ∧ a' = Mode.serialized.attributes) := by
      simpa [JournalEntry.bracket] using hmem
    rcases hcreated with ⟨rfl, -⟩ | ⟨rfl, -⟩
    · simp [JournalEntry.bracket, hne.symm]
    · simp [JournalEntry.bracket, hne]

/-- The runtime that a mode runs its script in. -/
def Mode.runner (r₁ r₂ : RuntimeId) : Mode → RuntimeId
  | .serialized => r₂
  | _ => r₁

/-- What is attempted when what was opened over a base is closed again. -/
def closing (base e : Engine) : Log :=
  [⟨e, .exit ⟨⟨base.issued + 2⟩, base.current⟩⟩,
    ⟨e.withCurrent base.current, .dispose ⟨⟨base.issued + 1⟩⟩⟩]

/-- The engine after that. -/
def Engine.closed (base e : Engine) : Engine :=
  (e.withCurrent base.current).withoutRuntime ⟨base.issued + 1⟩

variable {q r : RuntimeId}

theorem Attempt.Placed.of_kind {a : Attempt} {kind : Act.Kind} (h : a.act.kind = kind)
    (hcompiles : kind = .compiles → a.engine.currentRuntime? = some q)
    (hruns : kind = .runs → a.engine.currentRuntime? = some r) (hcloses : kind ≠ .closes) :
    a.Placed q r where
  compiles heq := hcompiles (h.symm.trans heq)
  runs heq := hruns (h.symm.trans heq)
  disposes g hact := by
    refine absurd (h.symm.trans ?_) hcloses
    rcases hact with hact | hact <;> rw [hact] <;> rfl

theorem Attempt.Placed.of_opens {a : Attempt} (h : a.act.kind = .opens) : a.Placed q r :=
  .of_kind h (fun hkind => absurd hkind (by decide)) (fun hkind => absurd hkind (by decide))
    (by decide)

theorem Attempt.Placed.of_closes {a : Attempt} (h : a.act.kind = .closes)
    (hdisposes : ∀ g, a.act = .dispose g ∨ a.act = .drop g →
      a.ending = .ok () ∧ a.engine.currentRuntime? ≠ some g.runtime) : a.Placed q r where
  compiles hkind := absurd (h.symm.trans hkind) (by decide)
  runs hkind := absurd (h.symm.trans hkind) (by decide)
  disposes := hdisposes

namespace Recorded

variable {e e' e'' : Engine} {l l' : Log} {added added' : List JournalEntry}

theorem append (h : Recorded q r e l added e') (h' : Recorded q r e' l' added' e'') :
    Recorded q r e (l ++ l') (added ++ added') e'' where
  placed := List.forall_mem_append.2 ⟨h.placed, h'.placed⟩
  journal := by rw [h'.journal, h.journal, List.append_assoc]

/-- A runtime is opened, something is done in its context, and it is closed again. -/
theorem bracket {base : Engine} {a : Attributes} {opening : Log} (hbase : base.WellFormed)
    (hfree : base.injected .disposeRuntime = none)
    (hopening : ∀ b ∈ opening, b.act.kind = .opens)
    (hinner : Recorded q r (base.opened a) l added e)
    (hentered : Entered base ⟨base.issued + 1⟩ ⟨base.issued + 2⟩ e) :
    Recorded q r base (opening ++ (l ++ closing base e))
      (JournalEntry.bracket ⟨base.issued + 1⟩ a ⟨base.issued + 2⟩ base.current added)
      (base.closed e) := by
  obtain ⟨-, hcreated⟩ := hentered.leave hbase
  have hopened : Recorded q r base opening
      [.createRuntime ⟨base.issued + 1⟩ a, .createContext ⟨base.issued + 2⟩,
        .setCurrentContext (some ⟨base.issued + 2⟩)] (base.opened a) := by
    refine ⟨fun b hb => .of_opens (hopening b hb), ?_⟩
    simp [Engine.opened, Engine.withRuntime, Engine.withContext, Engine.withCurrent]
  -- each end of the guard is an attempt of its own, and only the disposal says which runtime goes
  have hexit : Attempt.Placed q r ⟨e, .exit ⟨⟨base.issued + 2⟩, base.current⟩⟩ := by
    refine .of_closes rfl fun g hact => ?_
    rcases hact with hact | hact <;> cases hact
  have hdispose : Attempt.Placed q r
      ⟨e.withCurrent base.current, .dispose ⟨⟨base.issued + 1⟩⟩⟩ := by
    refine .of_closes rfl fun g hact => ?_
    obtain rfl : (⟨⟨base.issued + 1⟩⟩ : RuntimeGuard) = g := by
      rcases hact with hact | hact <;> cases hact
      rfl
    refine ⟨?_, Engine.currentIsOf_eq_false_iff.1 (hcreated.not_current hbase hcreated.current)⟩
    show Ending.unit ((e.withCurrent base.current).disposeRuntime ⟨base.issued + 1⟩).1 = _
    rw [hcreated.disposeRuntime hbase hfree]
    rfl
  have hclosed : Recorded q r e (closing base e)
      [.setCurrentContext base.current, .disposeRuntime ⟨base.issued + 1⟩] (base.closed e) := by
    refine ⟨List.forall_mem_cons.2 ⟨hexit, List.forall_mem_singleton.2 hdispose⟩, ?_⟩
    exact List.append_assoc ..
  have hall := hopened.append (hinner.append hclosed)
  rw [← List.append_assoc _ added] at hall
  exact hall

end Recorded

/-! Steps, when they return. -/

namespace Traced

variable {α β : Type} {m : Traced Supervised α} {next : α → Traced Supervised β}
  {s : Supervised} {J : List JournalEntry → Prop}

/-- When the step returns, every attempt is in its place, and what the journal gets has `J`. -/
def Records (q r : RuntimeId) (J : List JournalEntry → Prop) (s : Supervised)
    (m : Traced Supervised α) : Prop :=
  ∀ result s', m.step s = (.ofExcept result, s') →
    ∃ added, J added ∧ Recorded q r s.host.engine (m.log s) added s'.host.engine

theorem Records.imp {J' : List JournalEntry → Prop} (h : Records q r J s m)
    (himp : ∀ added, J added → J' added) : Records q r J' s m := by
  intro result s' hstep
  obtain ⟨added, hadded, hrecorded⟩ := h result s' hstep
  exact ⟨added, himp added hadded, hrecorded⟩

theorem Records.bind (hm : Records q r (· = []) s m) (hnil : J [])
    (hnext : ∀ a t, m.step s = (.ok a, t) → Records q r J t (next a)) :
    Records q r J s (m >>= next) := by
  intro result s' h
  rcases bind_returns h with ⟨e, rfl, he, hlog⟩ | ⟨a, t, ha, hrest, hlog⟩
  · obtain ⟨added, rfl, hrecorded⟩ := hm (.error e) s' he
    rw [hlog]
    exact ⟨[], hnil, hrecorded⟩
  · obtain ⟨added, rfl, hfirst⟩ := hm (.ok a) t ha
    obtain ⟨added, hadded, hsecond⟩ := hnext a t ha result s' hrest
    rw [hlog]
    exact ⟨added, hadded, hfirst.append hsecond⟩

/-- A step that opens and closes nothing, in the runtime where this is in its place. -/
theorem records_inward {p : RuntimeId} (hready : Ready p s.host.engine)
    (hacts : ∀ a ∈ m.log s, a.act.kind = .other ∨ (a.act.kind = .compiles ∧ p = q) ∨
      (a.act.kind = .runs ∧ p = r)) :
    Records q r (· = (m.log s).flatMap (·.act.begins)) s m := by
  intro result s' h
  obtain ⟨hinside, hjournal⟩ := (m.accounts s).within hready fun a ha => by
    rcases hacts a ha with hkind | ⟨hkind, -⟩ | ⟨hkind, -⟩ <;>
      exact .of_kind hkind (by decide) (by decide)
  rw [h] at hjournal
  refine ⟨_, rfl, fun a ha => ?_, hjournal⟩
  have hin := hinside a ha
  rcases hacts a ha with hkind | ⟨hkind, rfl⟩ | ⟨hkind, rfl⟩
  · exact .of_kind hkind nofun nofun (by decide)
  · exact .of_kind hkind (fun _ => hin) nofun (by decide)
  · exact .of_kind hkind nofun (fun _ => hin) (by decide)

theorem records_nothing (hready : Ready q s.host.engine)
    (hacts : ∀ a ∈ m.log s, a.act.kind = .other ∨ a.act.kind = .compiles) :
    Records q r (· = []) s m := by
  have hrecords : Records q r (· = (m.log s).flatMap (·.act.begins)) s m :=
    records_inward hready fun a ha => (hacts a ha).imp_right fun hkind => .inl ⟨hkind, rfl⟩
  have hnone : (m.log s).flatMap (·.act.begins) = [] := by
    refine List.flatMap_eq_nil_iff.2 fun a ha => Act.begins_of_ne ?_
    rcases hacts a ha with hkind | hkind <;> rw [hkind] <;> decide
  rw [hnone] at hrecords
  exact hrecords

theorem kind_emitting : Emitting fun m =>
    Logs (fun _ => True) (fun a => a.act.kind = .other ∨ a.act.kind = .compiles) m fun _ => True :=
  logs_emitting (fun _ hkind => .inr hkind) (fun _ _ => .inl rfl) fun _ _ => .inl rfl

theorem records_emits {n : Traced Host α} {Q : α → Prop} (hready : Ready q s.host.engine)
    (hlogs : Logs (fun _ => True) (fun a => a.act.kind = .other ∨ a.act.kind = .compiles) n Q) :
    Records q r (· = []) s (onHost n) :=
  records_nothing hready (hlogs.attempts (s := s.host) trivial)

/-! What a mode does before it runs or emits: it looks, checks and moves on. -/

theorem Records.after_state {next : Supervised → Traced Supervised β}
    (hready : Ready q s.host.engine) (hnil : J []) (hnext : Records q r J s (next s)) :
    Records q r J s (state >>= next) := by
  have hlooks : Records q r (· = []) s state := records_nothing hready (List.forall_mem_nil _)
  refine hlooks.bind hnil fun a t ha => ?_
  cases ha
  exact hnext

theorem Records.after_check (hready : Ready q s.host.engine) (hnil : J [])
    {result : Except HostError α} (hnext : ∀ a, Records q r J s (next a)) :
    Records q r J s (ofExcept result >>= next) := by
  have hchecks : Records q r (· = []) s (ofExcept result) :=
    records_nothing hready (List.forall_mem_singleton.2 (.inl rfl))
  refine hchecks.bind hnil fun a t ha => ?_
  obtain ⟨-, rfl⟩ := Prod.mk.inj ha
  exact hnext a

theorem Records.after_transition {state : SupervisorState} {next : Unit → Traced Supervised β}
    (hready : Ready q s.host.engine) (hnil : J [])
    (hnext : Records q r J (Supervised.moved state s) (next ())) :
    Records q r J s (transition state >>= next) := by
  have hmoves : Records q r (· = []) s (transition state) :=
    records_nothing hready (List.forall_mem_nil _)
  refine hmoves.bind hnil fun u t hu => ?_
  cases hu
  exact hnext

theorem records_runScript (script : Script) (bytecode : Option (List UInt8))
    (hready : Ready r s.host.engine) :
    Records q r (fun added => ∃ tag, added = [.beginning bytecode tag]) s
      (runScript script bytecode) := by
  obtain ⟨hacts, tag, hbegins⟩ := log_runScript script bytecode hready
  intro result s' h
  have hrecords : Records q r _ s (runScript script bytecode) :=
    records_inward hready fun a ha => (hacts a ha).imp_right fun hkind => .inr ⟨hkind, rfl⟩
  obtain ⟨added, hadded, hrecorded⟩ := hrecords result s' h
  exact ⟨added, ⟨tag, hadded.trans hbegins⟩, hrecorded⟩

/-! Closing. -/

theorem exit_entered {base : Engine} {p : RuntimeId} {c : ContextId} {h h' : Host}
    {result : Except HostError Unit} (hbase : base.WellFormed)
    (hentered : Entered base p c h.engine)
    (hstep : (exit ⟨c, base.current⟩).step h = (.ofExcept result, h')) :
    (exit ⟨c, base.current⟩).log h = [⟨h.engine, .exit ⟨c, base.current⟩⟩] ∧
      h'.engine = h.engine.withCurrent base.current := by
  obtain ⟨t, hok, ht⟩ : ∃ t, (exit ⟨c, base.current⟩).step h = (.ok (), t) ∧
      t.engine = h.engine.withCurrent base.current :=
    ⟨_, Host.call_of_ok _ (f := (·.setCurrentContext base.current)) (hentered.leave hbase).1, rfl⟩
  rw [hok] at hstep
  obtain rfl : t = h' := congrArg Prod.snd hstep
  exact ⟨rfl, ht⟩

theorem dispose_created {base : Engine} {g : RuntimeGuard} {h h' : Host}
    {result : Except HostError Unit} (hbase : base.WellFormed)
    (hfree : base.injected .disposeRuntime = none)
    (hcreated : Engine.Created base g.runtime h.engine)
    (hstep : (dispose g).step h = (.ofExcept result, h')) :
    (dispose g).log h = [⟨h.engine, .dispose g⟩] ∧
      h'.engine = h.engine.withoutRuntime g.runtime := by
  obtain ⟨t, hok, ht⟩ : ∃ t, (dispose g).step h = (.ok (), t) ∧
      t.engine = h.engine.withoutRuntime g.runtime :=
    ⟨_, Host.call_of_ok _ (f := (·.disposeRuntime g.runtime))
      (hcreated.disposeRuntime hbase hfree), rfl⟩
  rw [hok] at hstep
  obtain rfl : t = h' := congrArg Prod.snd hstep
  exact ⟨rfl, ht⟩

theorem close_entered {base : Engine} {h h' : Host} {result : Except HostError Unit}
    (hbase : base.WellFormed) (hfree : base.injected .disposeRuntime = none)
    (hentered : Entered base ⟨base.issued + 1⟩ ⟨base.issued + 2⟩ h.engine)
    (hstep : (close ⟨⟨⟨base.issued + 2⟩, base.current⟩, ⟨⟨base.issued + 1⟩⟩⟩).step h =
      (.ofExcept result, h')) :
    (close ⟨⟨⟨base.issued + 2⟩, base.current⟩, ⟨⟨base.issued + 1⟩⟩⟩).log h =
        closing base h.engine ∧ h'.engine = base.closed h.engine := by
  obtain ⟨exited, h₁, hexit, hrest, hlog⟩ := attempt_bind_returns hstep
  obtain ⟨disposed, h₂, hdispose, hsettle, hlog₁⟩ := attempt_bind_returns hrest
  obtain ⟨hexitLog, he₁⟩ := exit_entered hbase hentered hexit
  have hcreated := (hentered.leave hbase).2
  rw [← he₁] at hcreated
  obtain ⟨hdisposeLog, he₂⟩ := dispose_created hbase hfree hcreated hdispose
  obtain rfl : h₂ = h' := congrArg Prod.snd hsettle
  refine ⟨?_, ?_⟩
  · rw [close, hlog, hlog₁, hexitLog, hdisposeLog, he₁]
    rfl
  · rw [he₂, he₁]
    rfl

/-! A runtime of its own. -/

theorem kind_openContext {a : Attributes} {h h' : Host} {active : ActiveContext}
    (hopen : (openContext a).step h = (.ok active, h')) :
    ∀ b ∈ (openContext a).log h, b.act.kind = .opens := by
  obtain ⟨g, h₁, hcreate, hrest, hlog⟩ := bind_ok hopen
  obtain ⟨scope, h₂, henter, -, hlog'⟩ := bind_ok hrest
  have hpure : (pure ⟨scope, g⟩ : Traced Host ActiveContext).log h₂ = [] := rfl
  rw [openContext, hlog, hlog', hpure, List.append_nil]
  exact List.forall_mem_append.2 ⟨kind_createRuntime a h, kind_enterNew henter⟩

theorem records_runInFreshRuntime (script : Script) (bytecode : List UInt8)
    (hbase : s.host.engine.WellFormed) (hfree : ∀ op, s.host.engine.injected op = none) :
    Records q ⟨s.host.engine.issued + 1⟩ (fun added => ∃ tag, added =
      JournalEntry.bracket ⟨s.host.engine.issued + 1⟩ s.supervisor.mode.attributes
        ⟨s.host.engine.issued + 2⟩ s.host.engine.current [.runSerializedScript tag]) s
      (runInFreshRuntime script bytecode) := by
  intro result s' h
  obtain ⟨hrest, hlog⟩ := bind_returns_of_ok (m := state) rfl h
  obtain ⟨h₁, hopen, he₁⟩ := Host.openContext_apply hbase hfree s.supervisor.mode.attributes
  obtain ⟨hrest, hlog₁⟩ := bind_returns_of_ok (m := onHost (openContext _))
    (Supervised.onHost_of hopen) hrest
  obtain ⟨u, s₂, hnote, hrest, hlog₂⟩ := value_bind_returns (fun e t ht => by cases ht) hrest
  have he₂ : s₂.host.engine = s.host.engine.opened s.supervisor.mode.attributes := by
    cases hnote
    exact he₁
  obtain ⟨ran, s₃, hran, hrest, hlog₃⟩ := attempt_bind_returns hrest
  obtain ⟨closed, s₄, hclose, hsettle, hlog₄⟩ := onHost_attempt_bind_returns hrest
  obtain rfl : s₄ = s' := congrArg Prod.snd hsettle
  -- the engine that the script is run in, and the one that it leaves
  have hentered := Engine.entered_opened hbase (hfree _) s.supervisor.mode.attributes
  rw [← he₂] at hentered
  have hran := onFault_returns hran
  obtain ⟨added, ⟨tag, rfl⟩, hrecorded⟩ :=
    records_runScript (q := q) script (some bytecode) (hentered.ready hfree) ran s₃ hran
  have hleft : Entered s.host.engine ⟨s.host.engine.issued + 1⟩ ⟨s.host.engine.issued + 2⟩
      s₃.host.engine := by
    rw [runScript_step] at hran
    exact (Supervised.keeps_runScript Entered.within script _).ofExcept_eq hentered hran
  obtain ⟨hcloseLog, he₄⟩ := close_entered hbase (hfree _) hleft hclose
  rw [he₂] at hrecorded
  have hopens := kind_openContext hopen
  have hbracket := hrecorded.bracket hbase (hfree _) hopens hleft
  refine ⟨_, ⟨tag, rfl⟩, ?_⟩
  rw [runInFreshRuntime, hlog, hlog₁, hlog₂, hlog₃, hlog₄, hcloseLog, he₄]
  exact hbracket

/-! A whole run. -/

theorem records_dispatch {c : ContextId} (script : Script) (hbase : s.host.engine.WellFormed)
    (hready : Ready q s.host.engine) (hcurrent : s.host.engine.current = some c) :
    Records q (s.supervisor.mode.runner q ⟨s.host.engine.issued + 1⟩)
      (s.supervisor.mode.Body c ⟨s.host.engine.issued + 1⟩ ⟨s.host.engine.issued + 2⟩) s
      (dispatch script) := by
  refine .after_state hready (.nothing _) (.after_check hready (.nothing _) fun path => ?_)
  cases hmode : s.supervisor.mode with
  | source =>
    refine (records_runScript script none hready).imp ?_
    rintro _ ⟨tag, rfl⟩
    exact .source tag
  | preSerialized path =>
    refine .after_check hready (.nothing _) fun _ => ?_
    have hacts : ∀ a ∈ (onHost (readBytecode path)).log s, a.act.kind = .other ∨
        a.act.kind = .compiles := List.forall_mem_singleton.2 (.inl rfl)
    refine .bind (records_nothing hready hacts) (.nothing _) fun bytes s₁ hread => ?_
    have hengine : s₁.host.engine = s.host.engine :=
      congrArg Host.engine (Host.readBytecode_eq_ok (Supervised.onHost_eq hread).1)
    rw [← hengine] at hready
    refine (records_runScript script (some bytes) hready).imp ?_
    rintro _ ⟨tag, rfl⟩
    exact .preSerialized path tag
  | serialized =>
    refine .after_check hready (.nothing _) fun _ => .after_transition hready (.nothing _) ?_
    refine .bind (records_emits hready (kind_emitting.serialize _)) (.nothing _)
      fun bytes s₁ hserialize => ?_
    obtain ⟨hserialized, hsupervisor⟩ := Supervised.onHost_eq hserialize
    have hengine : s₁.host.engine = s.host.engine := (Host.serialize_eq_ok hserialized).engine
    have hmode₁ : s₁.supervisor.mode = .serialized := by
      rw [hsupervisor]
      exact hmode
    -- the second runtime is opened over the context that the byte code was made in
    rw [← hengine] at hbase hready hcurrent ⊢
    refine (records_runInFreshRuntime script bytes hbase hready.free).imp ?_
    rintro _ ⟨tag, rfl⟩
    rw [hmode₁, hcurrent]
    exact .serialized tag
  | emitHeader output =>
    refine .after_check hready (.nothing _) fun _ => ?_
    refine .after_check hready (.nothing _) fun symbol => ?_
    refine .after_transition hready (.nothing _) ?_
    have hmoved : Ready q (Supervised.moved .compiling s).host.engine := hready
    refine (records_emits hmoved (kind_emitting.emitHeader script output symbol)).imp ?_
    rintro _ rfl
    exact .nothing _
  | emitBytecode output =>
    refine .after_check hready (.nothing _) fun _ => .after_transition hready (.nothing _) ?_
    have hmoved : Ready q (Supervised.moved .compiling s).host.engine := hready
    refine (records_emits hmoved (kind_emitting.emitBytecode script.text output)).imp ?_
    rintro _ rfl
    exact .nothing _

/-- **What a mode does stands in the bracket of the run's own runtime.** -/
theorem records_execute (script : Script) (hbase : s.host.engine.WellFormed)
    (hfree : ∀ op, s.host.engine.injected op = none) :
    Records ⟨s.host.engine.issued + 1⟩
      (s.supervisor.mode.runner ⟨s.host.engine.issued + 1⟩ ⟨s.host.engine.issued + 3⟩)
      (fun added => ∃ body, s.supervisor.mode.Body ⟨s.host.engine.issued + 2⟩
          ⟨s.host.engine.issued + 3⟩ ⟨s.host.engine.issued + 4⟩ body ∧
        added = JournalEntry.bracket ⟨s.host.engine.issued + 1⟩ s.supervisor.mode.attributes
          ⟨s.host.engine.issued + 2⟩ s.host.engine.current body) s (execute script) := by
  intro result s' h
  obtain ⟨hrest, hlog⟩ := bind_returns_of_ok (m := state) rfl h
  obtain ⟨h₁, hcreate, he₁, -⟩ :=
    Host.createRuntime_apply (h := s.host) (hfree _) s.supervisor.mode.attributes
  obtain ⟨hrest, hlog₁⟩ := bind_returns_of_ok (m := onHost (createRuntime _))
    (Supervised.onHost_of hcreate) hrest
  obtain ⟨hrest, hlog₂⟩ := bind_returns_of_ok (m := transition .runtimeReady) rfl hrest
  obtain ⟨h₃, henter, he₃, -⟩ := Host.enterNew_opened
    (h := (Supervised.moved .runtimeReady { s with host := h₁ }).host) hbase hfree he₁
  obtain ⟨hrest, hlog₃⟩ := bind_returns_of_ok (m := onHost (enterNew _))
    (Supervised.onHost_of henter) hrest
  obtain ⟨u, s₄, hmoved, hrest, hlog₄⟩ := value_bind_returns (fun e t ht => by cases ht) hrest
  have he₄ : s₄.host.engine = s.host.engine.opened s.supervisor.mode.attributes := by
    cases hmoved
    exact he₃
  have hmode : s₄.supervisor.mode = s.supervisor.mode := by
    cases hmoved
    rfl
  obtain ⟨ran, s₅, hran, hrest, hlog₅⟩ := attempt_bind_returns hrest
  obtain ⟨exited, s₆, hexit, hrest, hlog₆⟩ := onHost_attempt_bind_returns hrest
  obtain ⟨disposed, s₇, hdispose, hsettle, hlog₇⟩ := onHost_attempt_bind_returns hrest
  obtain rfl : s₇ = s' := congrArg Prod.snd hsettle
  -- inside the context, whatever the mode does
  have hentered := Engine.entered_opened hbase (hfree _) s.supervisor.mode.attributes
  rw [← he₄] at hentered
  have hran := onFault_returns hran
  obtain ⟨body, hbody, hrecorded⟩ := records_dispatch script hentered.wellFormed
    (hentered.ready hfree) hentered.current ran s₅ hran
  have hleft : Entered s.host.engine ⟨s.host.engine.issued + 1⟩ ⟨s.host.engine.issued + 2⟩
      s₅.host.engine := by
    rw [dispatch_step] at hran
    have hkeeps : Step.Keeps (Supervised.Having (Host.EnteredBy s.host.engine
        ⟨s.host.engine.issued + 1⟩ ⟨⟨s.host.engine.issued + 2⟩, s.host.engine.current⟩))
        (Supervised.dispatch script) := Supervised.keeps_dispatch (hfree _) script
    exact (hkeeps.ofExcept_eq ⟨rfl, hentered⟩ hran).2
  -- and out again
  obtain ⟨hexitLog, he₆⟩ := exit_entered hbase hleft hexit
  have hcreated := (hleft.leave hbase).2
  rw [← he₆] at hcreated
  obtain ⟨hdisposeLog, he₇⟩ := dispose_created hbase (hfree _) hcreated hdispose
  rw [he₄, hmode] at hrecorded
  rw [hmode, he₄] at hbody
  have hopens : ∀ b ∈ (onHost (createRuntime s.supervisor.mode.attributes)).log s ++
      (onHost (enterNew ⟨⟨s.host.engine.issued + 1⟩⟩)).log
        (Supervised.moved .runtimeReady { s with host := h₁ }), b.act.kind = .opens :=
    List.forall_mem_append.2 ⟨kind_createRuntime _ _, kind_enterNew henter⟩
  have hbracket := hrecorded.bracket hbase (hfree _) hopens hleft
  rw [List.append_assoc] at hbracket
  refine ⟨_, ⟨body, hbody, rfl⟩, ?_⟩
  rw [execute, hlog, hlog₁, hlog₂, hlog₃, hlog₄, hlog₅, hlog₆, hlog₇, hexitLog, hdisposeLog, he₇,
    he₆]
  exact hbracket

end Traced

namespace Supervised

/-- **What a run opens it closes, in order.** No call being made to fail, a run that returns adds
    to the journal the life of one runtime, with the context that was current before made
    current again ahead of its disposal. In between is at most the run of the script: in
    serialized mode in a second runtime, whose life is bracketed in the same way by the first
    context. All these are new, no disposal is refused, and byte code is made in the first
    runtime and run in the second. -/
theorem teardown_ordered {script : Script} {mode : Mode} {h : Host} {outcome : Outcome}
    {s' : Supervised} (hreach : h.engine.Reachable) (hfree : ∀ op, h.engine.injected op = none)
    (hrun : run script (h.under mode) = (.ok outcome, s')) :
    ∃ r₁ c₁ r₂ c₂ body added,
      s'.host.engine.journal = h.engine.journal ++ added ∧
      added = JournalEntry.bracket r₁ mode.attributes c₁ h.engine.current body ∧
      mode.Body c₁ r₂ c₂ body ∧
      [r₁.value, c₁.value, r₂.value, c₂.value].Nodup ∧
      (∀ n ∈ [r₁.value, c₁.value, r₂.value, c₂.value], h.engine.issued < n ∧ n ∉ h.engine.ids) ∧
      (∀ r a, .createRuntime r a ∈ added → added.count (.disposeRuntime r) = 1) ∧
      ∀ a ∈ attempts script (h.under mode), a.Placed r₁ (mode.runner r₁ r₂) := by
  have hbase := Engine.wellFormed_of_reachable hreach
  -- the bracket is that of the execution; the run adds nothing to it
  obtain ⟨r, s₁, hstep, -, hengine⟩ := execute_of_run rfl hrun
  obtain ⟨added, ⟨body, hbody, rfl⟩, hrecorded⟩ :=
    Traced.records_execute (s := h.under mode) script hbase hfree r s₁ hstep
  refine ⟨_, _, _, _, body, _, ?_, rfl, hbody, ?_, ?_, ?_, hrecorded.placed⟩
  · rw [hengine]
    exact hrecorded.journal
  · simp [Host.under]
  · intro n hn
    have hnew : h.engine.issued < n := by
      simp only [List.mem_cons, List.not_mem_nil, or_false] at hn
      rcases hn with rfl | rfl | rfl | rfl <;> exact Nat.lt_add_of_pos_right (by decide)
    exact ⟨hnew, fun hmem => Nat.not_le_of_lt hnew (hbase.numbered n hmem).2⟩
  · refine fun r a hmem => hbody.disposed_once ?_ _ _ hmem
    simp

/-- Two runtimes are opened over the one that is there, and closed before its context is the
    current one again. -/
theorem teardown_ordered_occupied :
    ∃ s' r₁ c₁ r₂ c₂ tag,
      run patient ((occupied .source).host.under .serialized) = (.ok .success, s') ∧
      s'.host.engine.journal = (occupied .source).host.engine.journal ++
        JournalEntry.bracket r₁ Mode.serialized.attributes c₁ (some ⟨2⟩)
          (JournalEntry.bracket r₂ Mode.serialized.attributes c₂ (some c₁)
            [.runSerializedScript tag]) ∧
      r₁ ≠ r₂ := by
  have hending : (run patient ((occupied .source).host.under .serialized)).1 = .ok .success := by
    decide +kernel
  have hran : ∃ tag, .runSerializedScript tag ∈
      (run patient ((occupied .source).host.under .serialized)).2.host.engine.journal :=
    ⟨⟨0⟩, by decide +kernel⟩
  generalize hrun : run patient ((occupied .source).host.under .serialized) = r at hending hran
  obtain ⟨ending, s'⟩ := r
  cases hending
  obtain ⟨r₁, c₁, r₂, c₂, body, added, hjournal, rfl, hbody, hnodup, -⟩ :=
    teardown_ordered (reachable_occupied .source) (fun _ => rfl) hrun
  cases hbody with
  | nothing =>
    obtain ⟨tag, hmem⟩ := hran
    have hbefore : (occupied .source).host.engine.journal = [.createRuntime ⟨1⟩ .none,
      .createContext ⟨2⟩, .setCurrentContext (some ⟨2⟩)] := rfl
    rw [hjournal, hbefore] at hmem
    simp [JournalEntry.bracket] at hmem
  | serialized tag =>
    refine ⟨s', r₁, c₁, r₂, c₂, tag, rfl, hjournal, ?_⟩
    rintro rfl
    simp at hnodup

end Supervised
end ScriptHost
