import ScriptHost.Proofs.Engine.OneLine
import ScriptHost.Source.Script

/- One-line errors. The message of an error is put together from names that the host
   knows, numbers, paths as they are shown, reasons that the system gives, and the
   message of an exception. All but the last two are known before anything is run. What
   the tree of files answers with is one of a few texts; of the reasons that the system
   has besides, that they are lines is assumed (`Refusals.OneLine`).

   What is proved: `Outcome.isDiagnostic`, that an error whose parts are lines has a
   diagnostic which is one, and that the errors of files and scripts are such if
   their paths are without a line feed. -/
namespace ScriptHost

open Text

/-! Messages. -/

theorem Operation.oneLine_name (op : Operation) : OneLine op.name := by
  cases op <;> decide

theorem ErrorCode.oneLine_name (code : ErrorCode) : OneLine code.name := by
  cases code with
  | unknown n => exact show OneLine "<unknown>" by decide
  | _ => decide

theorem ErrorCode.oneLine_render (code : ErrorCode) : OneLine code.render :=
  ((((by decide : OneLine "0x").append (oneLine_hex _)).append (by decide)).append
    code.oneLine_name).append (by decide)

theorem Path.oneLine_display {p : Path} (h : lineFeed ∉ p.bytes) : OneLine p.display :=
  Text.oneLine_display h

/-- The reasons that the system has of its own are told on one line. -/
structure Refusals.OneLine (r : Refusals) : Prop where
  reading : ∀ {p e}, r.reading p = some e → Text.OneLine e.message
  creating : ∀ {p e}, r.creating p = some e → Text.OneLine e.message
  writing : ∀ {p content n e}, r.writing p content = some (n, e) → Text.OneLine e.message

namespace FileSystem

def WriteFailure.reason : WriteFailure → SystemError
  | create reason => reason
  | write reason _ => reason

variable {fs : FileSystem} {p : Path} {e : SystemError}

theorem oneLine_of_step {l : Location} {name : Name} (h : fs.step l name = .error e) :
    OneLine e.message := by
  unfold step at h
  repeat' split at h
  all_goals cases h
  all_goals decide

theorem oneLine_of_walk {l : Location} {names : List Name} (h : fs.walk l names = .error e) :
    OneLine e.message := by
  fun_induction walk fs l names with
  | case1 => cases h
  | case2 l name rest e' hstep =>
    cases h
    exact oneLine_of_step hstep
  | case3 l name rest l' hstep hthere ih => exact ih h
  | case4 =>
    cases h
    decide

theorem oneLine_of_refused? (h : refused? p = some e) : OneLine e.message := by
  unfold refused? at h
  repeat' split at h
  all_goals cases h
  all_goals decide

theorem oneLine_of_or {reason : Option SystemError} (hreason : reason = some e → OneLine e.message)
    (h : (refused? p).or reason = some e) : OneLine e.message := by
  rcases Option.or_eq_some_iff.1 h with h | ⟨-, h⟩
  · exact oneLine_of_refused? h
  · exact hreason h

theorem oneLine_of_read (hfs : fs.refusals.OneLine) (h : fs.read p = .error e) :
    OneLine e.message := by
  unfold read at h
  split at h
  · cases h
    exact oneLine_of_or hfs.reading ‹_›
  split at h
  · cases h
    exact oneLine_of_walk ‹_›
  split at h
  · cases h
    decide
  split at h <;> cases h
  decide

theorem oneLine_of_target (hfs : fs.refusals.OneLine) (h : fs.target p = .error e) :
    OneLine e.message := by
  unfold target at h
  split at h
  · cases h
    exact oneLine_of_or hfs.creating ‹_›
  split at h
  · cases h
    decide
  split at h
  · cases h
    exact oneLine_of_walk ‹_›
  split at h
  · cases h
    decide
  split at h
  · cases h
    decide
  split at h
  · cases h
    exact oneLine_of_step ‹_›
  split at h <;> cases h
  decide

theorem oneLine_of_write (hfs : fs.refusals.OneLine) {content : List UInt8}
    {failure : WriteFailure} (h : fs.write p content = .error failure) :
    OneLine failure.reason.message := by
  unfold write at h
  split at h
  · cases h
    exact oneLine_of_target hfs ‹_›
  split at h <;> cases h
  exact hfs.writing ‹_›

end FileSystem

theorem ScriptException.oneLine_render {x : ScriptException} (h : x.OneLine) :
    Text.OneLine x.render := by
  have hopen : Text.OneLine "(" := by decide
  have hclose : Text.OneLine "): " := by decide
  unfold render
  split
  · rename_i line column _ _
    have hline := (hopen.append (oneLine_word line)).append (t := ", ") (by decide)
    exact ((hline.append (oneLine_word column)).append hclose).append h
  · rename_i line _ _
    exact ((hopen.append (oneLine_word line)).append hclose).append h
  · exact Text.OneLine.append (by decide) h

/-- An error whose diagnostic is one line, whatever the script is called. -/
def HostError.OneLine : HostError → Prop
  | script _ _ exception => ∀ x, exception = some x → x.OneLine
  | e => Text.OneLine e.message

theorem HostError.OneLine.engine (op : Operation) (code : ErrorCode) :
    (HostError.engine op code).OneLine :=
  (op.oneLine_name.append (by decide)).append code.oneLine_render

theorem HostError.OneLine.invariant {message : String} (h : Text.OneLine message) :
    (HostError.invariant message).OneLine :=
  OneLine.append (by decide) h

theorem HostError.OneLine.system {context : String} {reason : SystemError}
    (h : Text.OneLine context) (hreason : Text.OneLine reason.message) :
    (HostError.system context reason).OneLine :=
  (OneLine.append h (by decide)).append hreason

/-- One line that begins as diagnostics do. -/
def Outcome.IsDiagnostic (line : String) : Prop :=
  Text.OneLine line ∧ ∃ rest, line = "ERROR: " ++ rest

theorem Outcome.IsDiagnostic.of_rest {line rest : String} (h : Text.OneLine rest)
    (hline : line = "ERROR: " ++ rest) : IsDiagnostic line := by
  refine ⟨?_, rest, hline⟩
  rw [hline]
  exact OneLine.append (by decide) h

/-- The diagnostic of a one-line error is one line, if the script's name is. -/
theorem Outcome.isDiagnostic {e : HostError} (he : e.OneLine) {name : String}
    (hname : Text.OneLine name) :
    ∃ line, (ofError e).diagnostic name = some line ∧ IsDiagnostic line := by
  cases e with
  | script op code exception =>
    have hfront := (op.oneLine_name.append (by decide : Text.OneLine " failed: ")).append hname
    have hcode := ((by decide : Text.OneLine " [").append code.oneLine_name).append
      (by decide : Text.OneLine "]")
    cases exception with
    | none =>
      refine ⟨_, rfl, .of_rest (hfront.append hcode) ?_⟩
      simp only [toString, String.append_assoc]
    | some x =>
      have hx : Text.OneLine x.render := ScriptException.oneLine_render (he x rfl)
      refine ⟨_, rfl, .of_rest ((hfront.append hx).append hcode) ?_⟩
      simp only [toString, String.append_assoc]
  | _ => exact ⟨_, rfl, .of_rest he rfl⟩

namespace Script

variable {script : Script}

theorem oneLine_of_fullPath {directory : Location} {e : HostError}
    (hpath : lineFeed ∉ script.path.bytes) (h : script.fullPath directory = .error e) :
    e.OneLine := by
  unfold fullPath at h
  split at h <;> cases h
  have hdisplay := Path.oneLine_display hpath
  exact ((OneLine.append (by decide) hdisplay).append (by decide)).append (by decide)

theorem oneLine_of_checkUtf8 {feature : String} {e : HostError} (hfeature : Text.OneLine feature)
    (h : script.checkUtf8 feature = .error e) : e.OneLine := by
  unfold checkUtf8 at h
  split at h <;> cases h
  exact OneLine.append hfeature (by decide)

theorem oneLine_of_symbol_error {e : HostError} (hpath : lineFeed ∉ script.path.bytes)
    (h : script.symbol = .error e) : e.OneLine := by
  unfold symbol at h
  split at h <;> cases h
  exact OneLine.append (by decide) (Path.oneLine_display hpath)

theorem oneLine_of_symbol {symbol : String} (hpath : lineFeed ∉ script.path.bytes)
    (h : script.symbol = .ok symbol) : Text.OneLine symbol := by
  unfold Script.symbol at h
  split at h <;> cases h
  rename_i stem hstem
  obtain ⟨name, hname, hutf8⟩ := Option.bind_eq_some_iff.1 hstem
  refine oneLine_lowercase (oneLine_of_utf8 fun hmem => hpath ?_)
  rw [utf8_of_ofUtf8? hutf8] at hmem
  exact Path.subset_of_fileStem? hname hmem

end Script

end ScriptHost
