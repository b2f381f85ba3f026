import ScriptHost.Config.Format
import ScriptHost.Proofs.Json.RoundTrip
import ScriptHost.Proofs.Source.Encoding

/- A configuration survives its written form. It is written as an object with a name for
   each setting, the mode and the worker's options as objects inside it. Reading asks for
   each name once, and what stands there is what was written; the pretty form between them
   loses nothing. What has no written form is a path that is not UTF-8, and nothing else.

   What is proved:
     1. `field_of_mem`, `isUsable_ofFields` — objects with distinct names.
     2. `Mode.ofJson?_of_toJson?`, `WorkerOptions.ofJson?_toJson`,
        `Config.ofJson?_of_toJson?` — each part is read back.
     3. `toJson?_eq_none_iff` — which configurations have no written form.
     4. `Config.toText?_readBack` — the whole way, through the text. -/
namespace ScriptHost

def Path.IsText (p : Path) : Prop := ∃ s, Text.utf8 s = p.bytes

def Mode.paths : Mode → List Path
  | preSerialized bytecode => [bytecode]
  | emitHeader output => [output]
  | emitBytecode output => [output]
  | _ => []

def Config.paths (c : Config) : List Path := c.script :: c.mode.paths

/-! Objects with distinct names. -/

namespace JsonValue

theorem field_of_mem (fields : List (String × JsonValue)) {name : String} {v : JsonValue}
    (hdistinct : (fields.map Prod.fst).Nodup) (h : (name, v) ∈ fields) :
    field (fields.map fun (name, value) => (some name, value)) name = .once v := by
  have hfilter : (fields.map fun (name, value) => (some name, value)).filter (·.1 = some name) =
      [(some name, v)] := by
    induction fields with
    | nil => cases h
    | cons head rest ih =>
      obtain ⟨other, w⟩ := head
      obtain ⟨hother, hrest⟩ := List.nodup_cons.1 hdistinct
      rw [List.map_cons]
      rcases List.mem_cons.1 h with heq | hlater
      · -- no later field has the name
        obtain ⟨rfl, rfl⟩ := Prod.mk.inj heq
        have hnone : (rest.map fun (name, value) => (some name, value)).filter
            (·.1 = some name) = [] := by
          refine List.filter_eq_nil_iff.2 fun field hfield heq => hother ?_
          obtain ⟨later, hlater, rfl⟩ := List.mem_map.1 hfield
          exact List.mem_map.2 ⟨later, hlater, Option.some.inj (of_decide_eq_true heq)⟩
        rw [List.filter_cons_of_pos (by simp), hnone]
      · have hne : other ≠ name := by
          rintro rfl
          exact hother (List.mem_map.2 ⟨_, hlater, rfl⟩)
        rw [List.filter_cons_of_neg (by simpa using hne), ih hrest hlater]
  rw [field, hfilter]

theorem isUsable_ofFields {number? : List Char → Bool} {fields : List (String × JsonValue)}
    (h : ∀ field ∈ fields, field.2.isUsable number? = true) :
    (ofFields fields).isUsable number? = true := by
  show fieldsAreUsable number? (fields.map fun (name, value) => (some name, value)) = true
  induction fields with
  | nil => rfl
  | cons head rest ih =>
    obtain ⟨hhead, hrest⟩ := List.forall_mem_cons.1 h
    rw [List.map_cons, fieldsAreUsable, hhead, ih hrest]
    rfl

end JsonValue

/-! Paths and names. -/

theorem Path.isText_iff {p : Path} : p.IsText ↔ ∃ s, p.text? = some s :=
  exists_congr fun _ => Text.ofUtf8?_eq_some_iff.symm

theorem Path.ofJson?_ofString {p : Path} {s : String} (h : p.text? = some s) :
    ofJson? (.ofString s) = some p :=
  congrArg (fun bytes => some (Path.mk bytes)) (Text.utf8_of_ofUtf8? h)

theorem LogLevel.ofName?_name (level : LogLevel) : ofName? level.name = some level := by
  cases level <;> rfl

theorem FaultPolicy.ofName?_name (policy : FaultPolicy) : ofName? policy.name = some policy := by
  cases policy <;> rfl

/-! Modes. -/

namespace Mode

theorem ofFields?_plain {kind : String} {mode : Mode} (h : shape? kind = some (.plain mode)) :
    ofFields? [(some "kind", .ofString kind)] = some mode := by
  have hkind : JsonValue.field [(some "kind", .ofString kind)] "kind" = .once (.ofString kind) :=
    JsonValue.field_of_mem [("kind", .ofString kind)] (by simp) (by simp)
  rw [ofFields?, hkind]
  show (shape? kind).bind _ = _
  rw [h]
  rfl

theorem ofFields?_withPath {kind name : String} {make : Path → Mode} {p : Path} {s : String}
    (h : shape? kind = some (.withPath name make)) (hname : name ≠ "kind")
    (hp : p.text? = some s) :
    ofFields? [(some "kind", .ofString kind), (some name, .ofString s)] = some (make p) := by
  have written {asked : String} {v : JsonValue}
      (h : (asked, v) ∈ [("kind", .ofString kind), (name, .ofString s)]) :
      JsonValue.field [(some "kind", .ofString kind), (some name, .ofString s)] asked = .once v :=
    JsonValue.field_of_mem [("kind", .ofString kind), (name, .ofString s)]
      (by simpa using hname.symm) h
  rw [ofFields?, written (List.mem_cons_self ..)]
  show (shape? kind).bind _ = _
  rw [h]
  show ((JsonValue.field _ name).required Path.ofJson?).map make = _
  rw [written (List.mem_cons_of_mem _ (List.mem_cons_self ..))]
  show (Path.ofJson? (.ofString s)).map make = _
  rw [Path.ofJson?_ofString hp]
  rfl

theorem ofJson?_ofFields {limit : Nat} {fields : List (String × JsonValue)}
    (hheight : (JsonValue.ofFields fields).height ≤ limit)
    (husable : ∀ field ∈ fields, field.2.isUsable JsonNumber.isFinite = true) :
    ofJson? limit (.ofFields fields) =
      ofFields? (fields.map fun (name, value) => (some name, value)) := by
  unfold ofJson?
  rw [JsonValue.isUsable_ofFields husable, if_neg (by simpa using hheight)]
  rfl

theorem ofJson?_of_toJson? {mode : Mode} {v : JsonValue} (h : mode.toJson? = some v) {limit : Nat}
    (hlimit : 1 ≤ limit) : ofJson? limit v = some mode := by
  have plain {kind : String} (hshape : shape? kind = some (.plain mode)) :
      ofJson? limit (.ofFields [("kind", .ofString kind)]) = some mode :=
    (ofJson?_ofFields hlimit (by simp [JsonValue.ofString, JsonValue.isUsable])).trans
      (ofFields?_plain hshape)
  have withPath {kind name text : String} {make : Path → Mode} {p : Path}
      (hshape : shape? kind = some (.withPath name make)) (hname : name ≠ "kind")
      (hp : p.text? = some text) :
      ofJson? limit (.ofFields [("kind", .ofString kind), (name, .ofString text)]) =
        some (make p) :=
    (ofJson?_ofFields hlimit (by simp [JsonValue.ofString, JsonValue.isUsable])).trans
      (ofFields?_withPath hshape hname hp)
  cases mode with
  | source =>
    cases h
    exact plain rfl
  | serialized =>
    cases h
    exact plain rfl
  | preSerialized bytecode =>
    obtain ⟨text, htext, rfl⟩ := Option.map_eq_some_iff.1 h
    exact withPath rfl (by decide) htext
  | emitHeader output =>
    obtain ⟨text, htext, rfl⟩ := Option.map_eq_some_iff.1 h
    exact withPath rfl (by decide) htext
  | emitBytecode output =>
    obtain ⟨text, htext, rfl⟩ := Option.map_eq_some_iff.1 h
    exact withPath rfl (by decide) htext

theorem isUsable_of_toJson? {mode : Mode} {v : JsonValue} (h : mode.toJson? = some v)
    (number? : List Char → Bool) : v.isUsable number? = true := by
  unfold toJson? at h
  dsimp only at h
  split at h
  · cases h
    exact JsonValue.isUsable_ofFields (by simp [JsonValue.ofString, JsonValue.isUsable])
  · obtain ⟨text, -, rfl⟩ := Option.map_eq_some_iff.1 h
    exact JsonValue.isUsable_ofFields (by simp [JsonValue.ofString, JsonValue.isUsable])

theorem toJson?_eq_none_iff (mode : Mode) :
    mode.toJson? = none ↔ ∃ p ∈ mode.paths, ¬ p.IsText := by
  cases mode <;>
    simp [toJson?, pathField?, paths, Path.isText_iff, Option.eq_none_iff_forall_ne_some]

end Mode

/-! Options of the worker. -/

namespace WorkerOptions

theorem ofJson?_toJson {o : WorkerOptions} (h : o.stackSize < stackSizeBound) :
    ofJson? o.toJson = some o := by
  have written (name : String) (v : JsonValue) := @JsonValue.field_of_mem
    [("stack_size", .ofNat o.stackSize), ("fault_policy", .ofString o.faultPolicy.name)] name v
    (by simp)
  have hsize : (JsonValue.ofNat o.stackSize).nat? stackSizeBound = some o.stackSize :=
    JsonNumber.nat?_toDigits h
  show ofFieldPair? (JsonValue.field _ "stack_size") (JsonValue.field _ "fault_policy") = some o
  rw [written "stack_size" _ (List.mem_cons_self ..),
    written "fault_policy" _ (List.mem_cons_of_mem _ (List.mem_cons_self ..)), ofFieldPair?]
  show ((JsonValue.ofNat o.stackSize).nat? stackSizeBound).bind _ = _
  rw [hsize, Option.bind_some]
  show (FaultPolicy.ofName? o.faultPolicy.name).bind _ = _
  rw [FaultPolicy.ofName?_name]
  rfl

theorem isUsable_toJson (o : WorkerOptions) : o.toJson.isUsable JsonNumber.isLiteral = true :=
  JsonValue.isUsable_ofFields (by
    simp [JsonValue.ofString, JsonValue.ofNat, JsonValue.isUsable, JsonNumber.isLiteral_toDigits])

end WorkerOptions

/-! Configurations. -/

namespace Config

theorem toJson?_eq_some_iff {c : Config} {v : JsonValue} :
    c.toJson? = some v ↔ ∃ script mode, c.script.text? = some script ∧ c.mode.toJson? = some mode ∧
      v = .ofFields [("script", .ofString script), ("mode", mode),
        ("log_level", .ofString c.logLevel.name), ("worker", c.worker.toJson),
        ("lock_name", .ofString c.lockName)] := by
  unfold toJson?
  simp only [Option.bind_eq_bind, Option.bind_eq_some_iff]
  constructor
  · rintro ⟨script, hscript, mode, hmode, h⟩
    exact ⟨script, mode, hscript, hmode, (Option.some.inj h).symm⟩
  · rintro ⟨script, mode, hscript, hmode, rfl⟩
    exact ⟨script, hscript, mode, hmode, rfl⟩

theorem ofFieldsAt?_eq_some {field : String → Nat → JsonValue.Field} {c : Config}
    (hscript : (field "script" 0).required Path.ofJson? = some c.script)
    (hmode : (field "mode" 1).withDefault .source (Mode.ofJson? (Mode.heightLimit - 1)) =
      some c.mode)
    (hlevel : (field "log_level" 2).withDefault .warn (fun v => v.word?.bind LogLevel.ofName?) =
      some c.logLevel)
    (hworker : (field "worker" 3).withDefault {} WorkerOptions.ofJson? = some c.worker)
    (hlock : (field "lock_name" 4).withDefault defaultLockName JsonValue.text? =
      some c.lockName) :
    ofFieldsAt? field = some c := by
  rw [ofFieldsAt?, hscript, hmode, hlevel, hworker, hlock]
  rfl

theorem ofJson?_of_toJson? {c : Config} {v : JsonValue}
    (hstack : c.worker.stackSize < stackSizeBound) (h : c.toJson? = some v) :
    ofJson? v = some c := by
  obtain ⟨script, mode, hscript, hmode, rfl⟩ := toJson?_eq_some_iff.1 h
  have written (name : String) (v : JsonValue) := @JsonValue.field_of_mem
    [("script", .ofString script), ("mode", mode), ("log_level", .ofString c.logLevel.name),
      ("worker", c.worker.toJson), ("lock_name", .ofString c.lockName)] name v (by simp)
  show ofFieldsAt? (fun name _ => JsonValue.field _ name) = some c
  refine ofFieldsAt?_eq_some ?script ?mode ?level ?worker ?lock
  case script =>
    rw [written "script" (.ofString script) (by simp)]
    exact Path.ofJson?_ofString hscript
  case mode =>
    rw [written "mode" mode (by simp)]
    exact Mode.ofJson?_of_toJson? hmode (by decide)
  case level =>
    rw [written "log_level" (.ofString c.logLevel.name) (by simp)]
    exact LogLevel.ofName?_name c.logLevel
  case worker =>
    rw [written "worker" c.worker.toJson (by simp)]
    exact WorkerOptions.ofJson?_toJson hstack
  case lock =>
    rw [written "lock_name" (.ofString c.lockName) (by simp)]
    rfl

theorem isUsable_of_toJson? {c : Config} {v : JsonValue} (h : c.toJson? = some v) :
    v.isUsable JsonNumber.isLiteral = true := by
  obtain ⟨script, mode, -, hmode, rfl⟩ := toJson?_eq_some_iff.1 h
  refine JsonValue.isUsable_ofFields ?_
  simp [JsonValue.ofString, JsonValue.isUsable, Mode.isUsable_of_toJson? hmode,
    WorkerOptions.isUsable_toJson]

theorem toJson?_eq_none_iff (c : Config) : c.toJson? = none ↔ ∃ p ∈ c.paths, ¬ p.IsText := by
  have hpaths : (∃ p ∈ c.paths, ¬ p.IsText) ↔
      ¬ c.script.IsText ∨ ∃ p ∈ c.mode.paths, ¬ p.IsText := by
    simp [paths]
  rw [hpaths, ← Mode.toJson?_eq_none_iff, Path.isText_iff, toJson?]
  cases hscript : c.script.text? with
  | none => simp
  | some script =>
    cases hmode : c.mode.toJson? with
    | none => simp
    | some mode => simp

/-- **A configuration survives its written form.** Whatever its script, mode, level, options and
    lock name are, it has a written form unless some path in it is not in UTF-8, and then reading
    the written form gives the configuration. A stack size is a word. -/
theorem toText?_readBack (c : Config) (hstack : c.worker.stackSize < stackSizeBound) :
    ((∀ p ∈ c.paths, p.IsText) → ∃ text, c.toText? = some text ∧ ofText? text = some c) ∧
      (c.toText? = none ↔ ∃ p ∈ c.paths, ¬ p.IsText) := by
  have hnone : c.toText? = none ↔ ∃ p ∈ c.paths, ¬ p.IsText := by
    rw [toText?, Option.map_eq_none_iff, toJson?_eq_none_iff]
  refine ⟨fun hpaths => ?_, hnone⟩
  cases hv : c.toJson? with
  | none =>
    obtain ⟨p, hp, hnot⟩ := (toJson?_eq_none_iff c).1 hv
    exact absurd (hpaths p hp) hnot
  | some v =>
    refine ⟨v.pretty, by rw [toText?, hv]; rfl, ?_⟩
    rw [ofText?, JsonValue.parse?_pretty (isUsable_of_toJson? hv), Option.bind_some,
      ofJson?_of_toJson? hstack hv]

/-- The greatest stack size, and texts that have to be escaped. -/
def escaping : Config where
  script := .ofText "\"quoted\" \\ café.js"
  mode := .emitBytecode (.ofText "two\nlines\x01.bc")
  logLevel := .debug
  worker := ⟨stackSizeBound - 1, .report⟩
  lockName := "λ\t\x7f"

/-- It comes back; the same with one byte that is no UTF-8 for its script has no written form. -/
theorem toText?_readBack_escaping :
    (∃ text, escaping.toText? = some text ∧ ofText? text = some escaping) ∧
      { escaping with script := ⟨[0xFF]⟩ }.toText? = none := by
  constructor
  · refine (toText?_readBack escaping (by decide)).1 fun p hp => ?_
    rcases List.mem_cons.1 hp with rfl | hmode
    · exact ⟨_, rfl⟩
    · rw [List.mem_singleton.1 hmode]
      exact ⟨_, rfl⟩
  · refine (toText?_readBack { escaping with script := ⟨[0xFF]⟩ } (by decide)).2.2
      ⟨⟨[0xFF]⟩, List.mem_cons_self .., fun htext => ?_⟩
    obtain ⟨s, hs⟩ := Path.isText_iff.1 htext
    have hnone : Path.text? ⟨[0xFF]⟩ = none := by decide +kernel
    rw [hnone] at hs
    cases hs

end Config
end ScriptHost
