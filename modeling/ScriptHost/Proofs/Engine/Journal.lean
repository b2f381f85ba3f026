import ScriptHost.Proofs.Engine.Numbers

/- The journal as an account of the engine. Replayed from nothing, a journal gives live
   runtimes in the order they were created in and a current context. A call that changes
   one of these adds the one entry that says how, and a call that fails or faults has
   changed neither; so at every moment the journal tells what the engine holds. It is
   read as lines of text, which lose nothing: no two entries print alike.

   What is proved:
     1. `render_injective` — a line is that of one entry only.
     2. `Journaled.after` — what a call adds to the journal leads from what the engine held
        to what it holds then, one case for each call.
     3. `journal_replays` — the journal of any calls, replayed from its lines. -/
namespace ScriptHost

/-! Numerals and separators. -/

theorem Text.toDigits_injective {base : Nat} (hbase : 1 < base) (hle : base ≤ 16) {n m : Nat}
    (h : Nat.toDigits base n = Nat.toDigits base m) : n = m := by
  have hdigit : ∀ i < 16, ∀ j < 16, Nat.digitChar i = Nat.digitChar j → i = j := by decide
  have hlonger : ∀ (i : Nat) (c d : Char), [d].length ≠ (Nat.toDigits base i ++ [c]).length := by
    intro i c d
    have hpos : 0 < (Nat.toDigits base i).length := Nat.length_toDigits_pos
    rw [List.length_append, List.length_singleton, List.length_singleton]
    omega
  induction n using Nat.strongRecOn generalizing m with
  | ind n ih =>
    have hn := Nat.mod_lt n (Nat.lt_of_succ_lt hbase)
    have hm := Nat.mod_lt m (Nat.lt_of_succ_lt hbase)
    rw [Nat.toDigits_eq_if hbase, Nat.toDigits_eq_if (n := m) hbase] at h
    split at h <;> split at h
    · exact hdigit n (by omega) m (by omega) (List.singleton_inj.1 h)
    · exact absurd (congrArg List.length h) (hlonger _ _ _)
    · exact absurd (congrArg List.length h.symm) (hlonger _ _ _)
    · -- the last digits are the remainders, and the digits in front are those of the quotients
      obtain ⟨hfront, hlast⟩ := List.append_inj' h rfl
      have hquotient : n / base = m / base := ih _ (Nat.div_lt_self (by omega) hbase) hfront
      have hremainder : n % base = m % base :=
        hdigit _ (by omega) _ (by omega) (List.singleton_inj.1 hlast)
      rw [← Nat.div_add_mod n base, ← Nat.div_add_mod m base, hquotient, hremainder]

theorem Text.toString_injective {n m : Nat} (h : toString n = toString m) : n = m := by
  rw [Nat.toString_eq_repr, Nat.toString_eq_repr, ← String.toList_inj, Nat.toList_repr,
    Nat.toList_repr] at h
  exact Text.toDigits_injective (by decide) (by decide) h

theorem Text.hex_injective {n m : Nat} (h : Text.hex n = Text.hex m) : n = m :=
  Text.toDigits_injective (by decide) (by decide) (String.ofList_injective h)

/-- A separator that is in neither front tells where the fronts end. -/
theorem Text.eq_of_append_sep {sep : Char} {front front' back back' : String}
    (hfront : sep ∉ front.toList) (hfront' : sep ∉ front'.toList)
    (h : front ++ String.singleton sep ++ back = front' ++ String.singleton sep ++ back') :
    front = front' ∧ back = back' := by
  have hcut : ∀ front back : List Char, sep ∉ front →
      (front ++ sep :: back).takeWhile (· ≠ sep) = front := by
    intro front back hnot
    have hall : ∀ c ∈ front, decide (c ≠ sep) = true := by
      intro c hc
      exact decide_eq_true fun heq => hnot (heq ▸ hc)
    rw [List.takeWhile_append_of_pos hall]
    simp
  simp only [← String.toList_inj, String.toList_append, String.toList_singleton,
    List.append_assoc, List.singleton_append] at h ⊢
  have hsame : front.toList = front'.toList := by
    rw [← hcut _ back.toList hfront, h, hcut _ back'.toList hfront']
  rw [hsame] at h
  exact ⟨hsame, (List.cons.inj (List.append_cancel_left h)).2⟩

theorem Text.not_mem_toString {c : Char} (hc : c.isDigit = false) (n : Nat) :
    c ∉ (toString n).toList := by
  intro h
  rw [Nat.toString_eq_repr, Nat.toList_repr] at h
  rw [Nat.isDigit_of_mem_toDigits (by decide) (by decide) h] at hc
  cases hc

/-! Lines. -/

namespace JournalEntry

/-- The call that an entry is about, as it is printed. -/
def heading : JournalEntry → String
  | createRuntime _ _ => "create_runtime"
  | disposeRuntime _ => "dispose_runtime"
  | createContext _ => "create_context"
  | setCurrentContext _ => "set_current_context"
  | runScript _ => "run_script"
  | runSerializedScript _ => "run_serialized_script"

/-- The arguments of the call, as they are printed. -/
def arguments : JournalEntry → String
  | createRuntime r a => toString r.value ++ "," ++ (" 0x" ++ Text.hex a.bits.toNat)
  | disposeRuntime r => toString r.value
  | createContext c => toString c.value
  | setCurrentContext (some c) => toString c.value
  | setCurrentContext none => "none"
  | runScript s => toString s.value
  | runSerializedScript s => toString s.value

theorem render_eq (entry : JournalEntry) :
    entry.render = entry.heading ++ "(" ++ (entry.arguments ++ ")") := by
  rcases entry with ⟨r, a⟩ | r | c | ⟨_ | c⟩ | s | s
  · show "create_runtime(" ++ toString r.value ++ ", 0x" ++ Text.hex a.bits.toNat ++ ")" =
      "create_runtime(" ++ (toString r.value ++ "," ++ (" 0x" ++ Text.hex a.bits.toNat) ++ ")")
    have hcomma : ", 0x" = "," ++ " 0x" := rfl
    simp only [hcomma, String.append_assoc]
  · exact String.append_assoc
  · exact String.append_assoc
  · rfl
  · exact String.append_assoc
  · exact String.append_assoc
  · exact String.append_assoc

theorem not_mem_heading (entry : JournalEntry) : '(' ∉ entry.heading.toList := by
  cases entry <;> simp only [heading] <;> decide

theorem none_ne_toString (n : Nat) : "none" ≠ toString n := by
  intro h
  have hmem : 'n' ∈ (toString n).toList := by
    rw [← h]
    decide
  exact Text.not_mem_toString (by decide) n hmem

/-- No two entries print alike. -/
theorem render_injective {entry entry' : JournalEntry} (h : entry.render = entry'.render) :
    entry = entry' := by
  rw [render_eq, render_eq] at h
  obtain ⟨hheading, hclosed⟩ :=
    Text.eq_of_append_sep entry.not_mem_heading entry'.not_mem_heading h
  have harguments : entry.arguments = entry'.arguments := (String.append_left_inj _).1 hclosed
  -- the headings tell the kinds of entries apart, and the arguments the entries of a kind
  rcases entry with ⟨⟨r⟩, ⟨a⟩⟩ | ⟨⟨r⟩⟩ | ⟨⟨c⟩⟩ | ⟨_ | ⟨⟨c⟩⟩⟩ | ⟨⟨s⟩⟩ | ⟨⟨s⟩⟩ <;>
    rcases entry' with ⟨⟨r'⟩, ⟨a'⟩⟩ | ⟨⟨r'⟩⟩ | ⟨⟨c'⟩⟩ | ⟨_ | ⟨⟨c'⟩⟩⟩ | ⟨⟨s'⟩⟩ | ⟨⟨s'⟩⟩ <;>
    simp only [heading, String.reduceEq] at hheading
  · have hcomma : ∀ n, ',' ∉ (toString n).toList := Text.not_mem_toString (by decide)
    obtain ⟨hruntime, hbits⟩ := Text.eq_of_append_sep (hcomma r) (hcomma r') harguments
    have hword := UInt32.toNat_inj.1 (Text.hex_injective ((String.append_right_inj _).1 hbits))
    cases Text.toString_injective hruntime
    cases hword
    rfl
  · cases Text.toString_injective harguments
    rfl
  · cases Text.toString_injective harguments
    rfl
  · rfl
  · exact absurd harguments (none_ne_toString c')
  · exact absurd harguments.symm (none_ne_toString c)
  · cases Text.toString_injective harguments
    rfl
  · cases Text.toString_injective harguments
    rfl
  · cases Text.toString_injective harguments
    rfl

end JournalEntry

/-! Replay. -/

/-- What a journal tells of: live runtimes in the order of their creation, with what they
    were created with, and the current context. -/
structure Holdings where
  runtimes : List (RuntimeId × Attributes) := []
  current : Option ContextId := none
  deriving DecidableEq, Repr

namespace Holdings

/-- What is held after one more entry. -/
def step (h : Holdings) : JournalEntry → Holdings
  | .createRuntime r a => { h with runtimes := h.runtimes ++ [(r, a)] }
  | .disposeRuntime r => { h with runtimes := h.runtimes.filter (·.1 ≠ r) }
  | .setCurrentContext c => { h with current := c }
  | _ => h

/-- What a journal tells of that begins with an empty engine. -/
def replay (journal : List JournalEntry) : Holdings :=
  journal.foldl step {}

end Holdings

namespace Engine

/-- What an engine holds, as a journal tells of it. -/
def holdings (e : Engine) : Holdings :=
  ⟨e.runtimes.entries, e.current⟩

/-- From one engine to another only entries were added to the journal, and these lead from what
    the one holds to what the other does. -/
def Journaled (e e' : Engine) : Prop :=
  ∃ added, e'.journal = e.journal ++ added ∧ added.foldl Holdings.step e.holdings = e'.holdings

namespace Journaled

variable {e e' e'' : Engine}

theorem unchanged (hjournal : e'.journal = e.journal) (hholdings : e'.holdings = e.holdings) :
    Journaled e e' :=
  ⟨[], by rw [hjournal, List.append_nil], hholdings.symm⟩

theorem refl (e : Engine) : Journaled e e :=
  .unchanged rfl rfl

theorem one {entry : JournalEntry} (hjournal : e'.journal = e.journal ++ [entry])
    (hholdings : e.holdings.step entry = e'.holdings) : Journaled e e' :=
  ⟨[entry], hjournal, hholdings⟩

theorem trans (h : Journaled e e') (h' : Journaled e' e'') : Journaled e e'' := by
  obtain ⟨added, hjournal, hholdings⟩ := h
  obtain ⟨added', hjournal', hholdings'⟩ := h'
  refine ⟨added ++ added', ?_, ?_⟩
  · rw [hjournal', hjournal, List.append_assoc]
  · rw [List.foldl_append, hholdings, hholdings']

theorem isPrefix (h : Journaled e e') : e.journal <+: e'.journal := by
  obtain ⟨added, hjournal, -⟩ := h
  exact ⟨added, hjournal.symm⟩

end Journaled

/-- The start of a run is told of, but changes nothing that is told of. -/
theorem Effect.journaled {e e' : Engine} (h : Effect e e') : Journaled e e' := by
  cases h with
  | @begin entry hrun =>
    refine .one rfl ?_
    cases entry with
    | runScript source => rfl
    | runSerializedScript source => rfl
    | _ => cases hrun
  | _ => exact .unchanged rfl rfl

theorem Effects.journaled {e e' : Engine} (h : Effects e e') : Journaled e e' := by
  induction h with
  | refl => exact .refl e
  | tail _ hstep ih => exact ih.trans hstep.journaled

/-- Every call adds to the journal what it changes, however it ends. -/
theorem Journaled.after {e : Engine} (h : e.WellFormed) (call : EngineCall) :
    Journaled e (e.after call) := by
  have hdoes := e.does call
  generalize e.after call = e' at hdoes ⊢
  cases hdoes with
  | refused => exact .unchanged rfl rfl
  | @createRuntime a =>
    -- the runtime is new, so it is put at the end
    have hend : (e.runtimes.insert ⟨e.issued + 1⟩ a).entries =
        e.runtimes.entries ++ [(⟨e.issued + 1⟩, a)] :=
      Table.entries_insert_of_not_mem a (h.not_mem_runtimes (Nat.lt_succ_self _))
    refine .one rfl ?_
    rw [holdings, holdings, withRuntime, hend]
    rfl
  | disposeRuntime | createContext | setCurrentContext => exact .one rfl rfl
  | getCurrentContext | serializedSize | serializeInto => exact .refl e
  | runScript => exact (e.effects_runScript _ _).journaled
  | runSerialized => exact (e.effects_runSerialized _ _).journaled
  | setHook => exact .unchanged rfl rfl
  | callTask => exact (e.effects_callTask _).journaled
  | takeException | injectFailure | setSizes => exact .unchanged rfl rfl

theorem Journaled.afterAll {e : Engine} (h : e.WellFormed) (calls : List EngineCall) :
    Journaled e (e.afterAll calls) := by
  induction calls generalizing e with
  | nil => exact .refl e
  | cons call rest ih => exact (Journaled.after h call).trans (ih (h.after call))

/-- **The journal tells what the engine holds.** After any calls on a new engine, however each of
    them ended: entries that print as the journal does, replayed from an empty engine, give the
    live runtimes in the order they were created in, with their attributes, and the current
    context; and whatever is called then, the journal is only added to. -/
theorem journal_replays (calls later : List EngineCall) (journal : List JournalEntry)
    (hlines : journal.map JournalEntry.render =
      (initial.afterAll calls).journal.map JournalEntry.render) :
    Holdings.replay journal =
      ⟨(initial.afterAll calls).runtimes.entries, (initial.afterAll calls).current⟩ ∧
    (initial.afterAll calls).journal <+: (initial.afterAll (calls ++ later)).journal := by
  have hwell := wellFormed_of_reachable (reachable_iff_exists_calls.2 ⟨calls, rfl⟩)
  have hsame : journal = (initial.afterAll calls).journal :=
    List.map_injective_iff.2 (fun _ _ => JournalEntry.render_injective) hlines
  refine ⟨?_, ?_⟩
  · obtain ⟨added, hjournal, hholdings⟩ := Journaled.afterAll wellFormed_initial calls
    rw [hsame, hjournal]
    exact hholdings
  · have hmore : initial.afterAll (calls ++ later) = (initial.afterAll calls).afterAll later :=
      List.foldl_append
    rw [hmore]
    exact (Journaled.afterAll hwell later).isPrefix

/-- A disposal is refused while the context is current, the run before it faults, and the second
    disposal goes through: what is left is the runtime created last. -/
theorem journal_replays_refused :
    let calls : List EngineCall :=
      [.createRuntime .allowScriptInterrupt, .createContext ⟨1⟩, .setCurrentContext (some ⟨2⟩),
        .runScript "fault 7" ⟨0⟩, .disposeRuntime ⟨1⟩, .createRuntime .none,
        .setCurrentContext none, .disposeRuntime ⟨1⟩]
    let journal : List JournalEntry :=
      [.createRuntime ⟨1⟩ .allowScriptInterrupt, .createContext ⟨2⟩,
        .setCurrentContext (some ⟨2⟩), .runScript ⟨0⟩, .createRuntime ⟨3⟩ .none,
        .setCurrentContext none, .disposeRuntime ⟨1⟩]
    journal.map JournalEntry.render = (initial.afterAll calls).journal.map JournalEntry.render ∧
      Holdings.replay journal = ⟨[(⟨3⟩, .none)], none⟩ ∧
      (initial.afterAll calls).runtimes.entries = [(⟨3⟩, .none)] := by
  intro calls journal
  have hjournal : (initial.afterAll calls).journal = journal := by decide +kernel
  have hlines : journal.map JournalEntry.render =
      (initial.afterAll calls).journal.map JournalEntry.render := by rw [hjournal]
  have hruntimes : (initial.afterAll calls).runtimes.entries = [(⟨3⟩, .none)] := by
    decide +kernel
  have hcurrent : (initial.afterAll calls).current = none := by decide +kernel
  refine ⟨hlines, ?_, hruntimes⟩
  rw [(journal_replays calls [] journal hlines).1, hruntimes, hcurrent]

end Engine
end ScriptHost
