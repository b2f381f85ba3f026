import ScriptHost.Proofs.Bytecode.RoundTrip
import ScriptHost.Proofs.Files.ReadWrite
import ScriptHost.Proofs.Host.Serializing
import ScriptHost.Proofs.Host.SourceRun

/- The modes that run a script, against each other. Serialized mode and byte code read
   back from a file both run the program the source was parsed to, since byte code
   decodes to the program it was made from. So they print what a run from source
   prints and end as it ends; only the operation a failure of the main program is
   reported against tells them apart, and a source that does not compile fails before
   there is byte code.

   What is proved: `modes_agree`, for every script and from every reachable engine that
   is quiet, has nothing made to fail and reports sizes truthfully. -/
namespace ScriptHost

open Host (SameResults)

/-! Serializing. -/

/-- An engine that serializes what compiles: a context is current, nothing is made to fail,
    and sizes are reported truthfully. -/
structure Engine.Serializes (e : Engine) : Prop where
  current : e.currentContext?.isNone = false
  free : ∀ op, e.injected op = none
  sizes : e.sizes = .exact

namespace Engine.Serializes

theorem serves {e : Engine} (h : e.Serializes) : e.Serves where
  current := by simpa using h.current
  free := h.free _

theorem opened {e : Engine} (hfree : ∀ op, e.injected op = none) (hsizes : e.sizes = .exact)
    (a : Attributes) : (e.opened a).Serializes :=
  ⟨by rw [currentContext?_opened]; rfl, hfree, hsizes⟩

end Engine.Serializes

namespace Host

variable {h : Host} {source : String}

theorem serialize_error (hh : h.engine.Serializes) {err : CompileError}
    (hparse : Program.parse source = .error err) :
    ∃ h', serialize source h =
        (.error (.script .serializeScript .scriptCompile (some err.toException)), h') ∧
      SameResults h h' := by
  have hsize := call_of_error .serializeScript (f := (·.serializedSize source))
    (hh.serves.serializedSize_error hparse)
  rw [serialize, Step.bind_apply_of_error _ hsize]
  exact ⟨_, rfl, rfl, rfl⟩

end Host

/-! What each mode does in the entered context. -/

namespace Supervised

variable {script : Script} {s : Supervised}

theorem checkUtf8_of (hutf8 : script.isUtf8 = true) (feature : String) :
    script.checkUtf8 feature = .ok () := if_pos hutf8

theorem dispatch_preSerialized {path : Path}
    (hmode : s.supervisor.mode = .preSerialized path) (hpath : script.path.isEmpty = false)
    (hutf8 : script.isUtf8 = true) :
    dispatch script s =
      (onHost (Host.readBytecode path) >>= fun bytes => runScript script (some bytes)) s := by
  obtain ⟨full, hfull⟩ := fullPath_of_not_isEmpty hpath s.host.files.workingDirectory
  rw [dispatch, Step.bind_state_apply, Step.bind_ofExcept_apply _ hfull, hmode]
  dsimp only
  rw [Step.bind_ofExcept_apply _ (checkUtf8_of hutf8 _)]

theorem dispatch_serialized (hmode : s.supervisor.mode = .serialized)
    (hpath : script.path.isEmpty = false) (hutf8 : script.isUtf8 = true) :
    ∃ s₁, s₁.host.engine = s.host.engine ∧ s₁.host.files = s.host.files ∧
      dispatch script s =
        (onHost (Host.serialize script.text) >>= runInFreshRuntime script) s₁ := by
  obtain ⟨full, hfull⟩ := fullPath_of_not_isEmpty hpath s.host.files.workingDirectory
  obtain ⟨s₁, hcompiling, he₁, hf₁⟩ : ∃ s₁, transition .compiling s = (.ok (), s₁) ∧
      s₁.host.engine = s.host.engine ∧ s₁.host.files = s.host.files := ⟨_, rfl, rfl, rfl⟩
  refine ⟨s₁, he₁, hf₁, ?_⟩
  rw [dispatch, Step.bind_state_apply, Step.bind_ofExcept_apply _ hfull, hmode]
  dsimp only
  rw [Step.bind_ofExcept_apply _ (checkUtf8_of hutf8 _), Step.bind_apply_of_ok _ hcompiling]

theorem dispatch_emitBytecode {path : Path} (hmode : s.supervisor.mode = .emitBytecode path)
    (hpath : script.path.isEmpty = false) (hutf8 : script.isUtf8 = true) :
    ∃ s₁, s₁.host.engine = s.host.engine ∧ s₁.host.files = s.host.files ∧
      dispatch script s = onHost (Host.emitBytecode script.text path) s₁ := by
  obtain ⟨full, hfull⟩ := fullPath_of_not_isEmpty hpath s.host.files.workingDirectory
  obtain ⟨s₁, hcompiling, he₁, hf₁⟩ : ∃ s₁, transition .compiling s = (.ok (), s₁) ∧
      s₁.host.engine = s.host.engine ∧ s₁.host.files = s.host.files := ⟨_, rfl, rfl, rfl⟩
  refine ⟨s₁, he₁, hf₁, ?_⟩
  rw [dispatch, Step.bind_state_apply, Step.bind_ofExcept_apply _ hfull, hmode]
  dsimp only
  rw [Step.bind_ofExcept_apply _ (checkUtf8_of hutf8 _), Step.bind_apply_of_ok _ hcompiling]

/-! Runs that begin alike. -/

/-- A supervisor about to run in a mode, over an engine that is quiet, has nothing made to
    fail and reports sizes truthfully. -/
structure Ready (mode : Mode) (s : Supervised) : Prop where
  wellFormed : s.host.engine.WellFormed
  quiet : s.host.engine.exception = none
  free : ∀ op, s.host.engine.injected op = none
  sizes : s.host.engine.sizes = .exact
  idle : s.supervisor.state = .idle
  mode : s.supervisor.mode = mode

/-- What a mode does is done in an engine that serializes. -/
theorem Ready.run_of_dispatch {mode : Mode} (h : Ready mode s) (script : Script) :
    ∃ s₁, s₁.host.engine = s.host.engine.opened mode.attributes ∧
      s₁.host.engine.Serializes ∧ s₁.host.files = s.host.files ∧ s₁.supervisor.mode = mode ∧
      (run script s).1 = outcomeOf (dispatch script s₁).1 ∧
      SameResults (dispatch script s₁).2.host (run script s).2.host := by
  obtain ⟨s₁, he₁, hf₁, hm₁, hending, hsame⟩ :=
    Supervised.run_of_dispatch script h.wellFormed h.free h.idle
  rw [h.mode] at he₁ hm₁
  exact ⟨s₁, he₁, he₁ ▸ .opened h.free h.sizes _, hf₁, hm₁, hending, hsame⟩

variable {p : Program} {err : CompileError}

theorem Ready.preSerialized {path : Path} (h : Ready (.preSerialized path) s)
    (hpath : script.path.isEmpty = false) (hutf8 : script.isUtf8 = true)
    (hread : s.host.files.read path = .ok (Bytecode.encode p))
    (hdecode : Bytecode.decode (Bytecode.encode p) = some p) :
    (run script s).1 = p.ending .runSerializedScript ∧
      (run script s).2.host.engine.output = s.host.engine.output ++ p.output := by
  obtain ⟨s₁, he₁, -, hf₁, hm₁, hending, hsame⟩ := h.run_of_dispatch script
  rw [← hf₁] at hread
  have hbytes := onHost_of (h := s₁.host) (s := s₁) (Host.readBytecode_of_ok hread)
  rw [dispatch_preSerialized hm₁ hpath hutf8, Step.bind_apply_of_ok _ hbytes] at hending hsame
  rw [hending, hsame.output]
  exact runScript_opened (.bytecode hdecode) he₁ h.quiet h.free

theorem Ready.preSerialized_unreadable {path : Path} {reason : SystemError}
    (h : Ready (.preSerialized path) s) (hpath : script.path.isEmpty = false)
    (hutf8 : script.isUtf8 = true) (hread : s.host.files.read path = .error reason) :
    ∃ e, (run script s).1 = .ok (.hostError e) := by
  obtain ⟨s₁, -, -, hf₁, hm₁, hending, -⟩ := h.run_of_dispatch script
  rw [← hf₁] at hread
  have hrefused := onHost_of (h := s₁.host) (s := s₁) (Host.readBytecode_of_error hread)
  rw [dispatch_preSerialized hm₁ hpath hutf8, Step.bind_apply_of_error _ hrefused] at hending
  exact ⟨_, hending⟩

theorem Ready.serialized (h : Ready .serialized s) (hpath : script.path.isEmpty = false)
    (hutf8 : script.isUtf8 = true) (hparse : Program.parse script.text = .ok p)
    (hdecode : Bytecode.decode (Bytecode.encode p) = some p) :
    (run script s).1 = p.ending .runSerializedScript ∧
      (run script s).2.host.engine.output = s.host.engine.output ++ p.output := by
  obtain ⟨s₁, he₁, hserializes, -, hm₁, hending, hsame⟩ := h.run_of_dispatch script
  obtain ⟨s₂, he₂, -, hdispatch⟩ := dispatch_serialized hm₁ hpath hutf8
  rw [← he₂] at hserializes
  obtain ⟨h₃, hserialize, he₃, -⟩ :=
    Host.serialize_of_serves hserializes.serves hserializes.sizes hparse
  rw [Step.bind_apply_of_ok _ (onHost_of hserialize)] at hdispatch
  -- the second runtime stands over the first
  have hthird : h₃.engine = s.host.engine.opened Mode.serialized.attributes :=
    (he₃.trans he₂).trans he₁
  have hwf : h₃.engine.WellFormed := by
    rw [hthird]
    exact (Engine.entered_opened h.wellFormed (h.free _) _).wellFormed
  have hfree : ∀ op, h₃.engine.injected op = none := by
    rw [hthird]
    exact h.free
  obtain ⟨s₄, he₄, hran, hsame₄⟩ := runInFreshRuntime_apply (s := { s₂ with host := h₃ }) script
    (Bytecode.encode p) hwf hfree
  obtain ⟨hend, hprinted⟩ := runScript_opened (.bytecode hdecode) he₄
    (by rw [hthird]; exact h.quiet) hfree
  rw [hending, hdispatch, hran, hsame.output, hdispatch, hsame₄.output, hend, hprinted]
  exact ⟨rfl, by rw [hthird]; rfl⟩

/-- An emission ends and leaves what writing its byte code does, over the opened engine. -/
theorem Ready.emitBytecode_apply {path : Path} (h : Ready (.emitBytecode path) s)
    (hpath : script.path.isEmpty = false) (hutf8 : script.isUtf8 = true)
    (hparse : Program.parse script.text = .ok p) :
    ∃ h₁ : Host, h₁.engine = s.host.engine.opened (Mode.emitBytecode path).attributes ∧
      h₁.files = s.host.files ∧
      (run script s).1 = outcomeOf (Host.writeFile path (Bytecode.encode p) h₁).1 ∧
      SameResults (Host.writeFile path (Bytecode.encode p) h₁).2 (run script s).2.host := by
  obtain ⟨s₁, he₁, hserializes, hf₁, hm₁, hending, hsame⟩ := h.run_of_dispatch script
  obtain ⟨s₂, he₂, hf₂, hdispatch⟩ := dispatch_emitBytecode hm₁ hpath hutf8
  rw [← he₂] at hserializes
  obtain ⟨h₃, hserialize, he₃, hf₃⟩ :=
    Host.serialize_of_serves hserializes.serves hserializes.sizes hparse
  refine ⟨h₃, (he₃.trans he₂).trans he₁, (hf₃.trans hf₂).trans hf₁, ?_⟩
  have hemit : Host.emitBytecode script.text path s₂.host =
      (Host.writeFile path (Bytecode.encode p) >>= fun _ => Host.debug
        s!"wrote {(Bytecode.encode p).length} bytes of byte code to {path.display}") h₃ := by
    rw [Host.emitBytecode, Step.bind_apply_of_ok _ hserialize]
  rw [hending]
  -- the line that tells of the bytes written is written only after they are
  rcases hwrite : Host.writeFile path (Bytecode.encode p) h₃ with ⟨⟨⟩ | e | payload, h₄⟩
  · rw [Step.bind_apply_of_ok _ hwrite] at hemit
    rw [hdispatch, onHost_of hemit] at hsame ⊢
    exact ⟨rfl, hsame.output, hsame.files⟩
  · rw [Step.bind_apply_of_error _ hwrite] at hemit
    rw [hdispatch, onHost_of hemit] at hsame ⊢
    exact ⟨rfl, hsame⟩
  · rw [Step.bind_apply_of_fault _ hwrite] at hemit
    rw [hdispatch, onHost_of hemit] at hsame ⊢
    exact ⟨rfl, hsame⟩

theorem Ready.emitBytecode {path : Path} {files : FileSystem} (h : Ready (.emitBytecode path) s)
    (hpath : script.path.isEmpty = false) (hutf8 : script.isUtf8 = true)
    (hparse : Program.parse script.text = .ok p)
    (hwrite : s.host.files.write path (Bytecode.encode p) = .ok files) :
    (run script s).1 = .ok .success ∧
      (run script s).2.host.engine.output = s.host.engine.output ∧
      (run script s).2.host.files = files := by
  obtain ⟨h₁, he₁, hf₁, hending, hsame⟩ := h.emitBytecode_apply hpath hutf8 hparse
  have hwritten : Host.writeFile path (Bytecode.encode p) h₁ =
      (.ok (), { h₁ with files := files }) := by
    rw [Host.writeFile, Host.onFiles, hf₁, Host.writing, hwrite]
    rfl
  rw [hending, hsame.output, hsame.files, hwritten]
  exact ⟨rfl, by rw [he₁]; rfl, rfl⟩

/-- A file that cannot be created, or not be written to its end, is an error of the host. -/
theorem Ready.emitBytecode_unwritable {path : Path} {failure : FileSystem.WriteFailure}
    (h : Ready (.emitBytecode path) s) (hpath : script.path.isEmpty = false)
    (hutf8 : script.isUtf8 = true) (hparse : Program.parse script.text = .ok p)
    (hwrite : s.host.files.write path (Bytecode.encode p) = .error failure) :
    ∃ e, (run script s).1 = .ok (.hostError e) := by
  obtain ⟨h₁, -, hf₁, hending, -⟩ := h.emitBytecode_apply hpath hutf8 hparse
  rw [hending, Host.writeFile, Host.onFiles, hf₁, Host.writing, hwrite]
  cases failure with
  | create reason => exact ⟨_, rfl⟩
  | write reason left => exact ⟨_, rfl⟩

/-! Sources that do not compile. -/

/-- The outcome of a source that does not compile, as an operation reports it. -/
def compileError (op : Operation) (err : CompileError) : Ending Empty Outcome :=
  .ok (.scriptError op .scriptCompile (some err.toException))

theorem Ready.source_error (h : Ready .source s) (hpath : script.path.isEmpty = false)
    (hparse : Program.parse script.text = .error err) :
    (run script s).1 = compileError .runScript err ∧
      (run script s).2.host.engine.output = s.host.engine.output := by
  obtain ⟨s₁, he₁, -, -, hm₁, hending, hsame⟩ := h.run_of_dispatch script
  obtain ⟨hran, hprinted⟩ := runScript_error hparse (s := s₁)
    (by rw [he₁]; exact Engine.currentContext?_opened _ _) (by rw [he₁]; exact h.quiet)
    (by rw [he₁]; exact h.free)
  rw [dispatch_source hm₁ hpath] at hending hsame
  rw [hending, hran, hsame.output, hprinted, he₁]
  exact ⟨rfl, rfl⟩

theorem Ready.serialized_error (h : Ready .serialized s) (hpath : script.path.isEmpty = false)
    (hutf8 : script.isUtf8 = true) (hparse : Program.parse script.text = .error err) :
    (run script s).1 = compileError .serializeScript err ∧
      (run script s).2.host.engine.output = s.host.engine.output := by
  obtain ⟨s₁, he₁, hserializes, -, hm₁, hending, hsame⟩ := h.run_of_dispatch script
  obtain ⟨s₂, he₂, -, hdispatch⟩ := dispatch_serialized hm₁ hpath hutf8
  obtain ⟨h₃, hserialize, hsame₃⟩ :=
    Host.serialize_error (h := s₂.host) (he₂ ▸ hserializes) hparse
  rw [Step.bind_apply_of_error _ (onHost_of hserialize)] at hdispatch
  rw [hending, hsame.output, hdispatch]
  exact ⟨rfl, by rw [hsame₃.output, he₂, he₁]; rfl⟩

theorem Ready.emitBytecode_error {path : Path} (h : Ready (.emitBytecode path) s)
    (hpath : script.path.isEmpty = false) (hutf8 : script.isUtf8 = true)
    (hparse : Program.parse script.text = .error err) :
    (run script s).1 = compileError .serializeScript err ∧
      (run script s).2.host.engine.output = s.host.engine.output := by
  obtain ⟨s₁, he₁, hserializes, -, hm₁, hending, hsame⟩ := h.run_of_dispatch script
  obtain ⟨s₂, he₂, -, hdispatch⟩ := dispatch_emitBytecode hm₁ hpath hutf8
  obtain ⟨h₃, hserialize, hsame₃⟩ :=
    Host.serialize_error (h := s₂.host) (he₂ ▸ hserializes) hparse
  have hemit := onHost_of (s := s₂) (Step.bind_apply_of_error
    (fun bytecode => Host.writeFile path bytecode >>= fun _ => Host.debug
      s!"wrote {bytecode.length} bytes of byte code to {path.display}") hserialize)
  rw [Host.emitBytecode, hemit] at hdispatch
  rw [hending, hsame.output, hdispatch]
  exact ⟨rfl, by rw [hsame₃.output, he₂, he₁]; rfl⟩

/-! The modes against each other. -/

/-- The ending of a run from source as a run through byte code reports it: a compile error is
    one of serializing, and a failure of the main program one of running byte code. Nothing
    else changes. -/
def fromBytecode : Ending Empty Outcome → Ending Empty Outcome
  | .ok (.scriptError .runScript .scriptCompile x) =>
    .ok (.scriptError .serializeScript .scriptCompile x)
  | .ok (.scriptError .runScript code x) => .ok (.scriptError .runSerializedScript code x)
  | ending => ending

theorem fromBytecode_ending (p : Program) :
    fromBytecode (p.ending .runScript) = p.ending .runSerializedScript := by
  unfold Program.ending
  rcases p.main? with _ | ⟨line, column, _ | _ | _⟩ <;>
    rcases stop? p.deferred with _ | ⟨line', column', _ | _ | _⟩ <;> rfl

theorem ending_ne_hostError (op : Operation) (p : Program) (e : HostError) :
    p.ending op ≠ .ok (.hostError e) := by
  unfold Program.ending
  rcases p.main? with _ | ⟨line, column, _ | _ | _⟩ <;>
    rcases stop? p.deferred with _ | ⟨line', column', _ | _ | _⟩ <;> nofun

end Supervised

def Host.under (h : Host) (mode : Mode) : Supervised where
  host := h
  supervisor := { mode := mode }

namespace Supervised

/-- **The modes agree.** A script prints the same lines from source, serialized, and from the
    byte code it was emitted to, if the file can be written and read; and it ends alike: with
    success, with the same exception under the same code, or with the same fault. What differs
    is the operation an error is reported against. A compile error is one of serializing,
    reported when byte code is emitted; an exception of the main program is one of running byte
    code. -/
theorem modes_agree {h : Host} {script : Script} {path : Path} (hreach : h.engine.Reachable)
    (hquiet : h.engine.exception = none) (hfree : ∀ op, h.engine.injected op = none)
    (hsizes : h.engine.sizes = .exact) (hutf8 : script.isUtf8 = true)
    (hpath : script.path.isEmpty = false) (hsize : (Text.utf8 script.text).length < UInt32.size - 1)
    (hfile : ∀ p, Program.parse script.text = .ok p → ∃ files bytes,
      h.files.write path (Bytecode.encode p) = .ok files ∧ files.read path = .ok bytes) :
    let source := run script (h.under .source)
    let serialized := run script (h.under .serialized)
    let emitted := run script (h.under (.emitBytecode path))
    let loaded := run script ({ h with files := emitted.2.host.files }.under (.preSerialized path))
    (∀ e, source.1 ≠ .ok (.hostError e)) ∧
    serialized.1 = fromBytecode source.1 ∧
    serialized.2.host.engine.output = source.2.host.engine.output ∧
    emitted.2.host.engine.output = h.engine.output ∧
    (∀ err, Program.parse script.text = .error err →
      source.1 = compileError .runScript err ∧ source.2.host.engine.output = h.engine.output ∧
      emitted.1 = fromBytecode source.1) ∧
    (∀ p, Program.parse script.text = .ok p →
      emitted.1 = .ok .success ∧ loaded.1 = fromBytecode source.1 ∧
      loaded.2.host.engine.output = source.2.host.engine.output) := by
  have hbase := Engine.wellFormed_of_reachable hreach
  have ready : ∀ mode, Ready mode (h.under mode) := fun mode =>
    ⟨hbase, hquiet, hfree, hsizes, rfl, rfl⟩
  intro source serialized emitted loaded
  cases hparse : Program.parse script.text with
  | error err =>
    -- every mode compiles first and stops there
    obtain ⟨hsource, hsourceOut⟩ := (ready .source).source_error hpath hparse
    obtain ⟨hserialized, hserializedOut⟩ := (ready .serialized).serialized_error hpath hutf8 hparse
    obtain ⟨hemitted, hemittedOut⟩ :=
      (ready (.emitBytecode path)).emitBytecode_error hpath hutf8 hparse
    refine ⟨fun e => ?_, ?_, hserializedOut.trans hsourceOut.symm, hemittedOut, ?_, nofun⟩
    · rw [hsource]
      nofun
    · rw [hserialized, hsource]
      rfl
    · rintro err' ⟨⟩
      refine ⟨hsource, hsourceOut, ?_⟩
      rw [hemitted, hsource]
      rfl
  | ok p =>
    -- whichever way it comes, what is run is this program
    have hdecode := Bytecode.decode_encode_of_parse hsize hparse
    obtain ⟨files, bytes, hfiles, hbytes⟩ := hfile p hparse
    obtain rfl := FileSystem.read_write hfiles hbytes
    obtain ⟨hsource, hsourceOut⟩ :=
      source_apply (s := h.under .source) hbase hquiet hfree rfl rfl hpath hparse
    obtain ⟨hserialized, hserializedOut⟩ :=
      (ready .serialized).serialized hpath hutf8 hparse hdecode
    obtain ⟨hemitted, hemittedOut, hemittedFiles⟩ :=
      (ready (.emitBytecode path)).emitBytecode hpath hutf8 hparse hfiles
    have hloaded : Ready (.preSerialized path)
        ({ h with files := emitted.2.host.files }.under (.preSerialized path)) :=
      ⟨hbase, hquiet, hfree, hsizes, rfl, rfl⟩
    have hread : emitted.2.host.files.read path = .ok (Bytecode.encode p) := by
      rw [hemittedFiles]
      exact hbytes
    obtain ⟨hend, hout⟩ := hloaded.preSerialized hpath hutf8 hread hdecode
    refine ⟨fun e => ?_, ?_, hserializedOut.trans hsourceOut.symm, hemittedOut, nofun, ?_⟩
    · rw [hsource]
      exact ending_ne_hostError _ p e
    · rw [hserialized, hsource, fromBytecode_ending]
    · rintro p' ⟨⟩
      refine ⟨hemitted, ?_, hout.trans hsourceOut.symm⟩
      rw [hend, hsource, fromBytecode_ending]

def emptyHost : Host where
  files := { workingDirectory := [] }

def boom : Script := .ofText (.ofText "/scripts/demo.js") "throw boom"

/-- The operation does differ, also where the script compiles: the endings are not the same. -/
theorem modes_report_differently :
    Program.parse boom.text = .ok [⟨1, .act 1 (.throw "boom")⟩] ∧
    (run boom (emptyHost.under .source)).1 =
      .ok (.scriptError .runScript .scriptException (some ⟨"boom", some 1, some 1⟩)) ∧
    (run boom (emptyHost.under .serialized)).1 =
      .ok (.scriptError .runSerializedScript .scriptException (some ⟨"boom", some 1, some 1⟩)) ∧
    (run boom (emptyHost.under .serialized)).1 ≠ (run boom (emptyHost.under .source)).1 := by
  have hbase := Engine.wellFormed_initial
  have hpath : boom.path.isEmpty = false := by decide +kernel
  have hparse : Program.parse boom.text = .ok [⟨1, .act 1 (.throw "boom")⟩] := by decide +kernel
  have hdecode := Bytecode.decode_encode_of_parse (by decide +kernel) hparse
  obtain ⟨hsource, -⟩ :=
    source_apply (s := emptyHost.under .source) hbase rfl (fun _ => rfl) rfl rfl hpath hparse
  have ready : Ready .serialized (emptyHost.under .serialized) :=
    ⟨hbase, rfl, fun _ => rfl, rfl, rfl, rfl⟩
  obtain ⟨hserialized, -⟩ := ready.serialized hpath rfl hparse hdecode
  have hfirst : Program.ending .runScript [⟨1, .act 1 (.throw "boom")⟩] =
      .ok (.scriptError .runScript .scriptException (some ⟨"boom", some 1, some 1⟩)) := by
    decide +kernel
  rw [hserialized, hsource, ← fromBytecode_ending, hfirst]
  refine ⟨hparse, rfl, rfl, ?_⟩
  intro heq
  cases heq

/-- The modes agree on the script that throws, its byte code written to a file and read back. -/
theorem modes_agree_boom :
    (run boom (emptyHost.under .serialized)).1 =
      fromBytecode (run boom (emptyHost.under .source)).1 ∧
    (run boom (emptyHost.under (.emitBytecode (.ofText "demo.bc")))).1 = .ok .success ∧
    (run boom ({ emptyHost with
        files := (run boom (emptyHost.under (.emitBytecode (.ofText "demo.bc")))).2.host.files }.under
          (.preSerialized (.ofText "demo.bc")))).1 =
      fromBytecode (run boom (emptyHost.under .source)).1 := by
  have hpath : boom.path.isEmpty = false := by decide +kernel
  have hparse : Program.parse boom.text = .ok [⟨1, .act 1 (.throw "boom")⟩] := by decide +kernel
  have htarget : emptyHost.files.target (.ofText "demo.bc") = .ok [Text.utf8 "demo.bc"] := by
    decide +kernel
  have hfile : ∀ p, Program.parse boom.text = .ok p → ∃ files bytes,
      emptyHost.files.write (.ofText "demo.bc") (Bytecode.encode p) = .ok files ∧
        files.read (.ofText "demo.bc") = .ok bytes := by
    intro p _
    have hwrite : emptyHost.files.write (.ofText "demo.bc") (Bytecode.encode p) =
        .ok (emptyHost.files.put [Text.utf8 "demo.bc"] (Bytecode.encode p)) := by
      rw [FileSystem.write, htarget]
      rfl
    exact ⟨_, _, hwrite, (FileSystem.wrote_of_write hwrite).read rfl⟩
  obtain ⟨-, hserialized, -, -, -, hcompiled⟩ := modes_agree Engine.Reachable.initial rfl
    (fun _ => rfl) rfl rfl hpath (by decide +kernel) hfile
  obtain ⟨hemitted, hloaded, -⟩ := hcompiled _ hparse
  exact ⟨hserialized, hemitted, hloaded⟩

end Supervised
end ScriptHost
