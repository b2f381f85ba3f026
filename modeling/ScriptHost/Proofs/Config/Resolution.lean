import Mathlib.Order.WellFounded
import ScriptHost.Config.Basic
import ScriptHost.Proofs.Text.Numerals

/- How a configuration is resolved. Five conditions are looked at in a fixed order, and the
   error tells of the first that is not met. The conditions are stated here without the
   program's readers: a text names a level or holds a size if it is put together in a certain
   way, and nothing is trimmed, lowered or read. Each setting has three layers, the command
   line, a variable and a default, and what an upper layer has is taken as it is: a variable
   that is overridden may hold anything.

   What is proved:
     1. `LogLevel.ofText?_eq_some_iff`, `stackSize?_eq_some_iff` — the readers of the program
        read what the texts hold.
     2. `modesAskedFor_eq`, the lemmas on `selectMode (asked o)` and those on the two settings —
        what each part answers where its condition is met, and where it is violated.
     3. `Condition.met_or_firstViolation` — all conditions are met, or one is the first that is
        not.
     4. `resolve_exact` — the three put together. -/
namespace ScriptHost

/-! Levels and sizes as texts. -/

namespace LogLevel

/-- The words for a level, in lower case. -/
def words : LogLevel → List String
  | debug => ["debug", "trace"]
  | info => ["info"]
  | warn => ["warn", "warning"]
  | error => ["error"]

/-- A word for the level stands in the text, its ASCII letters in either case, with blanks around
    it. -/
def NamedBy (level : LogLevel) (text : String) : Prop :=
  ∃ word, Text.Encloses text word ∧ String.ofList (word.map Char.toLower) ∈ level.words

theorem namedBy_iff {level : LogLevel} {text : String} :
    level.NamedBy text ↔ fold text ∈ level.words := by
  constructor
  · rintro ⟨word, hword, hmem⟩
    rw [fold, Text.toList_trim_eq_iff.2 hword]
    exact hmem
  · intro hmem
    exact ⟨_, Text.toList_trim_eq_iff.1 rfl, hmem⟩

theorem ofText?_eq_some_iff {level : LogLevel} {text : String} :
    ofText? text = some level ↔ level.NamedBy text := by
  rw [namedBy_iff, ofText?]
  split <;> cases level <;> simp_all [words]

end LogLevel

/-- A decimal numeral stands in the text, with blanks around it, and its value is a stack size:
    not zero, and a word. -/
def StackSizeIn (text : String) (size : Nat) : Prop :=
  ∃ numeral, Text.Encloses text numeral ∧ Text.UnsignedNumeral 10 numeral size ∧
    0 < size ∧ size < stackSizeBound

theorem Config.stackSize?_eq_some_iff {text : String} {size : Nat} :
    stackSize? text = some size ↔ StackSizeIn text size := by
  rw [stackSize?, Option.filter_eq_some_iff, Text.unsigned?_eq_some_iff, decide_eq_true_eq]
  constructor
  · rintro ⟨⟨hnumeral, hbound⟩, hpos⟩
    exact ⟨_, Text.toList_trim_eq_iff.1 rfl, hnumeral, hpos, hbound⟩
  · rintro ⟨numeral, hencloses, hnumeral, hpos, hbound⟩
    rw [Text.toList_trim_eq_iff.2 hencloses]
    exact ⟨⟨hnumeral, hbound⟩, hpos⟩

theorem stackSizeIn_toString {size : Nat} (hpos : 0 < size) (hbound : size < stackSizeBound) :
    StackSizeIn (toString size) size :=
  ⟨_, Text.encloses_toString size, .plain (Text.numeral_toDigits size), hpos, hbound⟩

theorem not_stackSizeIn_zero (size : Nat) : ¬ StackSizeIn (toString 0) size := by
  have hnone : Config.stackSize? (toString 0) = none := by decide
  intro h
  cases hnone.symm.trans (Config.stackSize?_eq_some_iff.2 h)

/-! What is asked for. -/

namespace Overrides

/-- The flags that ask for a mode, in the order in which they are looked at. -/
def modeFlags : List Flag := [.serialized, .bytecode, .header, .emitBytecode]

def modePath? (o : Overrides) : Flag → Option Path
  | .bytecode => o.bytecode
  | .header => o.header
  | .emitBytecode => o.emitBytecode
  | _ => none

/-- The mode that a flag asks for, if it is given. -/
def asks? (o : Overrides) : Flag → Option Mode
  | .serialized => if o.serialized then some .serialized else none
  | .bytecode => o.bytecode.map .preSerialized
  | .header => o.header.map .emitHeader
  | .emitBytecode => o.emitBytecode.map .emitBytecode
  | _ => none

def given (o : Overrides) : List Flag :=
  modeFlags.filter fun flag => (o.asks? flag).isSome

theorem mem_modeFlags_of_modePath? {o : Overrides} {flag : Flag} {path : Path}
    (h : o.modePath? flag = some path) : flag ∈ modeFlags := by
  unfold modePath? at h
  split at h
  · decide
  · decide
  · decide
  · cases h

/-- The flags that are given with an empty path. -/
def pathless (o : Overrides) : List Flag :=
  modeFlags.filter fun flag => (o.modePath? flag).any (·.isEmpty)

def level? (o : Overrides) : Option LogLevel :=
  o.logLevel.or (if o.verbose then some .debug else none)

/-- The text that a stack size is read from, if there is one, and where it comes from. -/
def stackSizeText? (o : Overrides) (env : Environment) : Option (Setting × String) :=
  match o.workerStackSize with
  | some size => some (.flag .workerStackSize, toString size)
  | none => (env .workerStack).map (.environment .workerStack, ·)

/-- The command line leaves a setting to a variable. -/
def LeavesTo (o : Overrides) : EnvironmentVariable → Prop
  | .log => o.level? = none
  | .workerStack => o.workerStackSize = none

end Overrides

/-- What has to hold for a configuration, in the order in which it is looked at. -/
inductive Condition where
  | script
  | paths
  | modes
  | logLevel
  | stackSize
  deriving DecidableEq, Repr

namespace Condition

def rank : Condition → Nat
  | script => 0
  | paths => 1
  | modes => 2
  | logLevel => 3
  | stackSize => 4

/-- A condition is met by what is asked for. -/
def Met (o : Overrides) (env : Environment) : Condition → Prop
  | script => o.script.bytes ≠ []
  | paths => ∀ flag path, o.modePath? flag = some path → path.bytes ≠ []
  | modes => o.given.length ≤ 1
  | logLevel => o.level? = none → ∀ text, env .log = some text →
      ∃ level : LogLevel, level.NamedBy text
  | stackSize => ∀ setting text, o.stackSizeText? env = some (setting, text) →
      ∃ size, StackSizeIn text size

/-- A condition is violated by what is asked for, with the error that tells of it. Where several
    flags are at fault, it tells of the first ones. -/
inductive Violated (o : Overrides) (env : Environment) : Condition → ConfigError → Prop where
  | script (h : o.script.bytes = []) : Violated o env script (.emptyPath .file)
  | paths {flag : Flag} {rest : List Flag} (h : o.pathless = flag :: rest) :
      Violated o env paths (.emptyPath (.flag flag))
  | modes {first second : Flag} {rest : List Flag} (h : o.given = first :: second :: rest) :
      Violated o env modes (.conflictingModes first second)
  | logLevel {text : String} (hgiven : o.level? = none) (htext : env .log = some text)
      (h : ∀ level : LogLevel, ¬ level.NamedBy text) :
      Violated o env logLevel (.invalidValue (.environment .log) text)
  | stackSize {setting : Setting} {text : String}
      (htext : o.stackSizeText? env = some (setting, text)) (h : ∀ size, ¬ StackSizeIn text size) :
      Violated o env stackSize (.invalidValue setting text)

end Condition

/-- A condition is violated, with its error, and those before it are met. -/
def FirstViolation (o : Overrides) (env : Environment) (e : ConfigError) : Prop :=
  ∃ condition, Condition.Violated o env condition e ∧
    ∀ earlier : Condition, earlier.rank < condition.rank → earlier.Met o env

/-- A value comes from the first of three layers that has one: what is given, what is read from a
    text, and a default. -/
inductive Layered {α : Type} (Reads : String → α → Prop) (given : Option α)
    (text : Option String) (default : α) : α → Prop where
  | given {a : α} (h : given = some a) : Layered Reads given text default a
  | read {a : α} {t : String} (hgiven : given = none) (htext : text = some t) (h : Reads t a) :
      Layered Reads given text default a
  | default (hgiven : given = none) (htext : text = none) : Layered Reads given text default default

/-- The mode is the one that a flag asks for, or the source is run if no flag asks for a mode. -/
def Overrides.Selects (o : Overrides) (mode : Mode) : Prop :=
  (∃ flag, o.asks? flag = some mode) ∨ o.given = [] ∧ mode = .source

/-- A configuration has what is asked for. -/
structure Carries (o : Overrides) (env : Environment) (c : Config) : Prop where
  script : c.script = o.script
  mode : o.Selects c.mode
  logLevel : Layered (fun text level => level.NamedBy text) o.level? (env .log) .warn c.logLevel
  stackSize : Layered StackSizeIn o.workerStackSize (env .workerStack) defaultStackSize
    c.worker.stackSize
  faultPolicy : c.worker.faultPolicy = if o.crashOnFault then .propagate else .terminate
  lockName : c.lockName = defaultLockName

namespace Config

variable {o : Overrides} {env env' : Environment}

/-! Modes. -/

/-- The modes that are asked for, with their flags. -/
def asked (o : Overrides) : List (Flag × Mode) :=
  Overrides.modeFlags.filterMap fun flag => (o.asks? flag).map (flag, ·)

theorem modeWithPath_eq (flag : Flag) (mode : Path → Mode) (path? : Option Path) :
    modeWithPath flag mode path? =
      if path?.any (·.isEmpty) then .error (.emptyPath (.flag flag))
      else .ok ((path?.map mode).map (flag, ·)).toList := by
  cases path? <;> rfl

theorem modesAskedFor_eq (o : Overrides) :
    modesAskedFor o =
      match o.pathless with
      | [] => .ok (asked o)
      | flag :: _ => .error (.emptyPath (.flag flag)) := by
  have hasked : asked o =
      (if o.serialized then [(Flag.serialized, Mode.serialized)] else []) ++
        ((o.bytecode.map Mode.preSerialized).map (Flag.bytecode, ·)).toList ++
        ((o.header.map Mode.emitHeader).map (Flag.header, ·)).toList ++
        ((o.emitBytecode.map Mode.emitBytecode).map (Flag.emitBytecode, ·)).toList := by
    simp only [asked, Overrides.modeFlags, List.filterMap_cons, List.filterMap_nil, Overrides.asks?]
    cases o.serialized <;> cases o.bytecode <;> cases o.header <;> cases o.emitBytecode <;> rfl
  have hpathless : o.pathless =
      (if o.bytecode.any (·.isEmpty) then [Flag.bytecode] else []) ++
        (if o.header.any (·.isEmpty) then [.header] else []) ++
        (if o.emitBytecode.any (·.isEmpty) then [.emitBytecode] else []) := by
    simp only [Overrides.pathless, Overrides.modeFlags, Overrides.modePath?, List.filter_cons,
      List.filter_nil, Option.any_none, Bool.false_eq_true, if_false]
    split <;> split <;> split <;> rfl
  rw [modesAskedFor, modeWithPath_eq, modeWithPath_eq, modeWithPath_eq, hasked, hpathless]
  split
  · rfl
  split
  · rfl
  split <;> rfl

theorem fst_asked (o : Overrides) : (asked o).map Prod.fst = o.given := by
  have hguard : (fun flag => ((o.asks? flag).map (flag, ·)).map Prod.fst) =
      Option.guard fun flag => (o.asks? flag).isSome := by
    funext flag
    cases hasks : o.asks? flag <;> simp [Option.guard, hasks]
  rw [asked, Overrides.given, List.map_filterMap, hguard, List.filterMap_eq_filter]

theorem selectMode_asked_of_le (h : o.given.length ≤ 1) :
    ∃ mode, selectMode (asked o) = .ok mode ∧ o.Selects mode := by
  rw [← fst_asked, List.length_map] at h
  cases hasked : asked o with
  | nil =>
    refine ⟨.source, rfl, .inr ⟨?_, rfl⟩⟩
    rw [← fst_asked, hasked]
    rfl
  | cons entry rest =>
    obtain ⟨flag, mode⟩ := entry
    have hmem : (flag, mode) ∈ asked o := by
      rw [hasked]
      exact List.mem_cons_self ..
    obtain ⟨flag', -, hflag⟩ := List.mem_filterMap.1 hmem
    obtain ⟨mode', hmode, heq⟩ := Option.map_eq_some_iff.1 hflag
    cases heq
    have hrest : rest = [] := by
      rw [hasked, List.length_cons] at h
      exact List.length_eq_zero_iff.1 (by omega)
    rw [hrest]
    exact ⟨mode, rfl, .inl ⟨flag, hmode⟩⟩

theorem selectMode_asked_of_conflict {first second : Flag} {rest : List Flag}
    (h : o.given = first :: second :: rest) :
    selectMode (asked o) = .error (.conflictingModes first second) := by
  rw [← fst_asked] at h
  obtain ⟨⟨f, m⟩, later, hasked, rfl, hlater⟩ := List.map_eq_cons_iff.1 h
  obtain ⟨⟨g, m'⟩, last, rfl, rfl, -⟩ := List.map_eq_cons_iff.1 hlater
  rw [hasked]
  rfl

/-! Settings with a variable. -/

theorem resolveLogLevel_eq (o : Overrides) (env : Environment) :
    resolveLogLevel o env =
      match o.level?, env .log with
      | some level, _ => .ok level
      | none, none => .ok .warn
      | none, some text =>
        match LogLevel.ofText? text with
        | some level => .ok level
        | none => .error (.invalidValue (.environment .log) text) := by
  rw [resolveLogLevel, Overrides.level?]
  cases o.logLevel with
  | some level => rfl
  | none =>
    cases o.verbose with
    | true => rfl
    | false =>
      cases env .log with
      | none => rfl
      | some text =>
        cases hread : LogLevel.ofText? text <;> simp [hread]

theorem resolveLogLevel_of_met (h : Condition.logLevel.Met o env) :
    ∃ level, resolveLogLevel o env = .ok level ∧
      Layered (fun text level => level.NamedBy text) o.level? (env .log) .warn level := by
  rw [resolveLogLevel_eq]
  cases hgiven : o.level? with
  | some level => exact ⟨level, rfl, .given rfl⟩
  | none =>
    cases htext : env .log with
    | none => exact ⟨.warn, rfl, .default rfl rfl⟩
    | some text =>
      obtain ⟨level, hnamed⟩ := h hgiven text htext
      dsimp only
      rw [LogLevel.ofText?_eq_some_iff.2 hnamed]
      exact ⟨level, rfl, .read rfl rfl hnamed⟩

theorem resolveLogLevel_of_violated {e : ConfigError} (h : Condition.logLevel.Violated o env e) :
    resolveLogLevel o env = .error e := by
  cases h with
  | @logLevel text hgiven htext hnot =>
    have hnone : LogLevel.ofText? text = none :=
      Option.eq_none_iff_forall_ne_some.2 fun level hlevel =>
        hnot level (LogLevel.ofText?_eq_some_iff.1 hlevel)
    rw [resolveLogLevel_eq, hgiven, htext]
    dsimp only
    rw [hnone]

theorem resolveStackSize_of_met (h : Condition.stackSize.Met o env) :
    ∃ size, resolveStackSize o env = .ok size ∧
      Layered StackSizeIn o.workerStackSize (env .workerStack) defaultStackSize size := by
  unfold resolveStackSize
  cases hgiven : o.workerStackSize with
  | some size =>
    have hne : size ≠ 0 := by
      rintro rfl
      obtain ⟨size, hsize⟩ := h (.flag .workerStackSize) (toString 0) (by
        rw [Overrides.stackSizeText?, hgiven])
      exact not_stackSizeIn_zero size hsize
    dsimp only
    rw [if_neg hne]
    exact ⟨size, rfl, .given rfl⟩
  | none =>
    dsimp only
    cases htext : env .workerStack with
    | none => exact ⟨defaultStackSize, rfl, .default rfl rfl⟩
    | some text =>
      obtain ⟨size, hsize⟩ := h (.environment .workerStack) text (by
        rw [Overrides.stackSizeText?, hgiven, htext]
        rfl)
      dsimp only
      rw [stackSize?_eq_some_iff.2 hsize]
      exact ⟨size, rfl, .read rfl rfl hsize⟩

section
variable (hword : ∀ size, o.workerStackSize = some size → size < stackSizeBound)

include hword in
theorem resolveStackSize_of_violated {e : ConfigError} (h : Condition.stackSize.Violated o env e) :
    resolveStackSize o env = .error e := by
  cases h with
  | @stackSize setting text htext hnot =>
    unfold resolveStackSize
    unfold Overrides.stackSizeText? at htext
    cases hgiven : o.workerStackSize with
    | some size =>
      rw [hgiven] at htext
      cases htext
      have hzero : size = 0 := by
        -- any other size is a word, and its own text holds it
        by_contra hne
        exact hnot size (stackSizeIn_toString (Nat.pos_of_ne_zero hne) (hword size hgiven))
      rw [hzero]
      rfl
    | none =>
      rw [hgiven] at htext
      obtain ⟨text', htext', heq⟩ := Option.map_eq_some_iff.1 htext
      cases heq
      have hnone : stackSize? text = none :=
        Option.eq_none_iff_forall_ne_some.2 fun size hsize =>
          hnot size (stackSize?_eq_some_iff.1 hsize)
      dsimp only
      rw [htext']
      dsimp only
      rw [hnone]

/-! The whole. -/

theorem modesAskedFor_of_met (h : Condition.paths.Met o env) :
    modesAskedFor o = .ok (asked o) := by
  have hnone : o.pathless = [] := by
    refine List.filter_eq_nil_iff.2 fun flag _ hempty => ?_
    obtain ⟨path, hpath, hisEmpty⟩ := (Option.any_eq_true _ _).1 hempty
    exact h flag path hpath (List.isEmpty_iff.1 hisEmpty)
  rw [modesAskedFor_eq, hnone]

theorem resolve_of_script (h : Condition.script.Met o env) :
    resolve o env = (do
      let mode ← selectMode (← modesAskedFor o)
      let logLevel ← resolveLogLevel o env
      let stackSize ← resolveStackSize o env
      return {
        script := o.script, mode, logLevel
        worker := ⟨stackSize, if o.crashOnFault then .propagate else .terminate⟩ }) := by
  have hscript : o.script.isEmpty = false := List.isEmpty_eq_false_iff.2 h
  rw [resolve, hscript]
  rfl

theorem resolve_of_paths (hscript : Condition.script.Met o env)
    (hpaths : Condition.paths.Met o env) :
    resolve o env = (do
      let mode ← selectMode (asked o)
      let logLevel ← resolveLogLevel o env
      let stackSize ← resolveStackSize o env
      return {
        script := o.script, mode, logLevel
        worker := ⟨stackSize, if o.crashOnFault then .propagate else .terminate⟩ }) := by
  rw [resolve_of_script hscript, modesAskedFor_of_met hpaths]
  rfl

theorem exists_resolve (h : ∀ condition : Condition, condition.Met o env) :
    ∃ c, resolve o env = .ok c ∧ Carries o env c := by
  obtain ⟨mode, hmode, hselects⟩ := selectMode_asked_of_le (h .modes)
  obtain ⟨level, hlevel, hlevelFrom⟩ := resolveLogLevel_of_met (h .logLevel)
  obtain ⟨size, hsize, hsizeFrom⟩ := resolveStackSize_of_met (h .stackSize)
  refine ⟨{ script := o.script, mode, logLevel := level, worker := ⟨size, _⟩ }, ?_,
    ⟨rfl, hselects, hlevelFrom, hsizeFrom, rfl, rfl⟩⟩
  rw [resolve_of_paths (h .script) (h .paths), hmode, hlevel, hsize]
  rfl

include hword in
theorem resolve_of_firstViolation {e : ConfigError} (h : FirstViolation o env e) :
    resolve o env = .error e := by
  obtain ⟨condition, hviolated, hearlier⟩ := h
  -- what is looked at before the condition passes, so that the computation comes to it
  cases hviolated with
  | script hempty =>
    rw [resolve, Path.isEmpty, hempty]
    rfl
  | paths hpathless =>
    rw [resolve_of_script (hearlier .script (by decide)), modesAskedFor_eq, hpathless]
    rfl
  | modes hgiven =>
    rw [resolve_of_paths (hearlier .script (by decide)) (hearlier .paths (by decide)),
      selectMode_asked_of_conflict hgiven]
    rfl
  | logLevel hgiven htext hnot =>
    obtain ⟨mode, hmode, -⟩ := selectMode_asked_of_le (hearlier .modes (by decide))
    rw [resolve_of_paths (hearlier .script (by decide)) (hearlier .paths (by decide)), hmode,
      resolveLogLevel_of_violated (.logLevel hgiven htext hnot)]
    rfl
  | stackSize htext hnot =>
    obtain ⟨mode, hmode, -⟩ := selectMode_asked_of_le (hearlier .modes (by decide))
    obtain ⟨level, hlevel, -⟩ := resolveLogLevel_of_met (hearlier .logLevel (by decide))
    rw [resolve_of_paths (hearlier .script (by decide)) (hearlier .paths (by decide)), hmode,
      hlevel, resolveStackSize_of_violated hword (.stackSize htext hnot)]
    rfl

end

/-- Without a text that an upper layer leaves to it, a variable is not looked at. -/
theorem resolve_of_agree (h : ∀ name, o.LeavesTo name → env' name = env name) :
    resolve o env' = resolve o env := by
  have hlevel : resolveLogLevel o env' = resolveLogLevel o env := by
    rw [resolveLogLevel_eq, resolveLogLevel_eq]
    cases hgiven : o.level? with
    | some level => rfl
    | none => rw [h .log hgiven]
  have hsize : resolveStackSize o env' = resolveStackSize o env := by
    rw [resolveStackSize, resolveStackSize]
    cases hgiven : o.workerStackSize with
    | some size => rfl
    | none => rw [h .workerStack hgiven]
  rw [resolve, resolve, hlevel, hsize]

end Config

/-! Which condition decides. -/

namespace Condition

variable {o : Overrides} {env : Environment}

theorem exists_violated {condition : Condition} (h : ¬ condition.Met o env) :
    ∃ e, condition.Violated o env e := by
  -- the error names the first culprit, so each condition has to be gone through for it
  cases condition with
  | script => exact ⟨_, .script (not_not.1 h)⟩
  | paths =>
    obtain ⟨flag, hflag⟩ := not_forall.1 h
    obtain ⟨path, hpath⟩ := not_forall.1 hflag
    obtain ⟨hgiven, hempty⟩ := Classical.not_imp.1 hpath
    have hmem : flag ∈ o.pathless := by
      refine List.mem_filter.2 ⟨Overrides.mem_modeFlags_of_modePath? hgiven, ?_⟩
      rw [hgiven, Option.any_some]
      exact List.isEmpty_iff.2 (not_not.1 hempty)
    obtain ⟨first, rest, hfirst⟩ := List.exists_cons_of_ne_nil (List.ne_nil_of_mem hmem)
    exact ⟨_, .paths hfirst⟩
  | modes =>
    match hgiven : o.given with
    | [] => exact absurd (by rw [Met, hgiven]; exact Nat.zero_le 1) h
    | [flag] => exact absurd (by rw [Met, hgiven]; exact Nat.le_refl 1) h
    | first :: second :: rest => exact ⟨_, .modes hgiven⟩
  | logLevel =>
    obtain ⟨hgiven, hnot⟩ := Classical.not_imp.1 h
    obtain ⟨text, hnot⟩ := not_forall.1 hnot
    obtain ⟨htext, hnot⟩ := Classical.not_imp.1 hnot
    exact ⟨_, .logLevel hgiven htext (not_exists.1 hnot)⟩
  | stackSize =>
    obtain ⟨setting, hnot⟩ := not_forall.1 h
    obtain ⟨text, hnot⟩ := not_forall.1 hnot
    obtain ⟨htext, hnot⟩ := Classical.not_imp.1 hnot
    exact ⟨_, .stackSize htext (not_exists.1 hnot)⟩

theorem met_or_firstViolation (o : Overrides) (env : Environment) :
    (∀ condition : Condition, condition.Met o env) ∨ ∃ e, FirstViolation o env e := by
  by_cases hall : ∀ condition : Condition, condition.Met o env
  · exact .inl hall
  · obtain ⟨condition, hnot⟩ := not_forall.1 hall
    obtain ⟨first, hfirst, hleast⟩ := (measure rank).wf.has_min
      { condition : Condition | ¬ condition.Met o env } ⟨condition, hnot⟩
    obtain ⟨e, hviolated⟩ := exists_violated hfirst
    refine .inr ⟨e, first, hviolated, fun earlier hlt => ?_⟩
    exact not_not.1 fun hnot => hleast earlier hnot hlt

end Condition

namespace Config

/-- **Resolution is exact and layered.** Whatever the command line asks for and the variables hold:
    there is a configuration exactly if all conditions are met; it has what is asked for, each
    setting from the first layer that has one; the error is that of the first condition that is
    violated; and a variable counts only where the command line leaves the setting to it. A stack
    size that is given is a word. -/
theorem resolve_exact (o : Overrides) (env : Environment)
    (hword : ∀ size, o.workerStackSize = some size → size < stackSizeBound) :
    ((∃ c, resolve o env = .ok c) ↔ ∀ condition : Condition, condition.Met o env) ∧
    (∀ c, resolve o env = .ok c → Carries o env c) ∧
    (∀ e, resolve o env = .error e ↔ FirstViolation o env e) ∧
    ∀ env', (∀ name, o.LeavesTo name → env' name = env name) →
      resolve o env' = resolve o env := by
  -- all conditions are met or there is a first violation, and either decides the result
  have hcases := Condition.met_or_firstViolation o env
  refine ⟨⟨?_, ?_⟩, ?_, fun e => ⟨?_, resolve_of_firstViolation hword⟩,
    fun env' => resolve_of_agree⟩
  · rintro ⟨c, hc⟩
    rcases hcases with hmet | ⟨e, he⟩
    · exact hmet
    · cases hc.symm.trans (resolve_of_firstViolation hword he)
  · intro hmet
    obtain ⟨c, hc, -⟩ := exists_resolve hmet
    exact ⟨c, hc⟩
  · intro c hc
    rcases hcases with hmet | ⟨e, he⟩
    · obtain ⟨c', hc', hcarries⟩ := exists_resolve hmet
      cases hc.symm.trans hc'
      exact hcarries
    · cases hc.symm.trans (resolve_of_firstViolation hword he)
  · intro he
    rcases hcases with hmet | ⟨e', he'⟩
    · obtain ⟨c, hc, -⟩ := exists_resolve hmet
      cases hc.symm.trans he
    · cases he.symm.trans (resolve_of_firstViolation hword he')
      exact he'

/-- A script that is to be run from byte code, with the level given by a flag and the greatest
    stack size. -/
def verbosely : Overrides where
  script := .ofText "a.js"
  bytecode := some (.ofText "a.bc")
  verbose := true
  workerStackSize := some (stackSizeBound - 1)

/-- Variables that hold neither a level nor a size. -/
def malformed : Environment
  | .log => some "loud"
  | .workerStack => some " 0 "

/-- The variables are overridden and not looked at. Without the flag the level would be, were it
    not for a second mode, which is looked at first. -/
theorem resolve_exact_verbosely :
    (∀ size, verbosely.workerStackSize = some size → size < stackSizeBound) ∧
    (∃ c, resolve verbosely malformed = .ok c ∧ Carries verbosely malformed c) ∧
    FirstViolation { verbosely with verbose := false, serialized := true } malformed
      (.conflictingModes .serialized .bytecode) := by
  have hword : ∀ size, verbosely.workerStackSize = some size → size < stackSizeBound := by
    intro size hsize
    cases hsize
    decide
  have hresolved : resolve verbosely malformed = .ok
      { script := .ofText "a.js", mode := .preSerialized (.ofText "a.bc"), logLevel := .debug,
        worker := ⟨stackSizeBound - 1, .terminate⟩ } := by decide +kernel
  have hrefused : resolve { verbosely with verbose := false, serialized := true } malformed =
      .error (.conflictingModes .serialized .bytecode) := by decide +kernel
  obtain ⟨-, hcarries, -⟩ := resolve_exact verbosely malformed hword
  obtain ⟨-, -, hfirst, -⟩ :=
    resolve_exact { verbosely with verbose := false, serialized := true } malformed hword
  exact ⟨hword, ⟨_, hresolved, hcarries _ hresolved⟩, (hfirst _).1 hrefused⟩

end Config
end ScriptHost
