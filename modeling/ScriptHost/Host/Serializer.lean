import ScriptHost.Header
import ScriptHost.Host.Basic
import ScriptHost.Text.Identifier

/- Byte code through the engine, and files made of it. Serializing takes two calls:
   one for the size, one to fill a buffer of that size. A size of zero, or a fill of
   another size, is a broken promise of the engine. A file is written only once the
   byte code is complete. -/
namespace ScriptHost.Host

def serialize (source : String) : HostStep (List UInt8) := do
  let required ← Host.call .serializeScript (·.serializedSize source)
  if required = 0 then
    Host.debug s!"{Operation.serializeScript.name} reported a zero-length buffer"
    .fail (.invariant "serialized buffer size should not be zero")
  else
    let (filled, buffer) ← Host.call .serializeScript fun e =>
      let (answer, buffer, e') := e.serializeInto source (List.replicate required 0)
      (answer.map (·, buffer), e')
    if filled ≠ required then
      Host.debug
        s!"{Operation.serializeScript.name} filled {filled} bytes after reporting {required}"
      .fail (.invariant
        s!"serialized buffer size changed between size query ({required}) and fill ({filled})")
    else
      Host.debug s!"serialized {required} bytes of byte code"
      return buffer

/-- The request to create or replace a file. If writing fails, the file holds what went into it. -/
def writing (output : Path) (content : List UInt8) (files : FileSystem) :
    Except HostError Unit × FileSystem :=
  match files.write output content with
  | .ok written => (.ok (), written)
  | .error (.create reason) => (.error (.system s!"cannot create {output.display}" reason), files)
  | .error (.write reason left) => (.error (.system s!"cannot write {output.display}" reason), left)

/-- How that request goes: it goes through, the file is not created and nothing has changed, or
    the content is cut off. -/
inductive Written (files : FileSystem) (output : Path) (content : List UInt8) :
    Except HostError Unit × FileSystem → Prop where
  | done {written : FileSystem} (h : files.write output content = .ok written) :
      Written files output content (.ok (), written)
  | uncreated {reason : SystemError} (h : files.write output content = .error (.create reason)) :
      Written files output content
        (.error (.system s!"cannot create {output.display}" reason), files)
  | cut {reason : SystemError} {left : FileSystem}
      (h : files.write output content = .error (.write reason left)) :
      Written files output content (.error (.system s!"cannot write {output.display}" reason), left)

theorem written_writing (output : Path) (content : List UInt8) (files : FileSystem) :
    Written files output content (writing output content files) := by
  unfold writing
  split
  · exact .done ‹_›
  · exact .uncreated ‹_›
  · exact .cut ‹_›

def writeFile (output : Path) (content : List UInt8) : HostStep Unit :=
  onFiles (writing output content)

/-- The request for the byte code in a file. -/
def reading (path : Path) (files : FileSystem) : Except HostError (List UInt8) × FileSystem :=
  match files.read path with
  | .ok content => (.ok content, files)
  | .error reason => (.error (.system s!"cannot read byte code {path.display}" reason), files)

def readBytecode (path : Path) : HostStep (List UInt8) :=
  onFiles (reading path)

/-- Refuses a name that no array could have. -/
def checkSymbol (symbol : String) : Except HostError Unit :=
  if Text.isIdentifier symbol then .ok ()
  else .error (.encoding s!"'{symbol}' is not a valid library name")

/-- Writes the header for a script's byte code. -/
def emitHeader (script : Script) (output : Path) (symbol : String) : HostStep Unit := do
  .ofExcept (checkSymbol symbol)
  let bytecode ← serialize script.text
  writeFile output (Header.render bytecode script.raw symbol)
  Host.debug
    s!"wrote header for {symbol} ({bytecode.length} bytes of byte code) to {output.display}"

/-- Writes the byte code of a source. -/
def emitBytecode (source : String) (output : Path) : HostStep Unit := do
  let bytecode ← serialize source
  writeFile output bytecode
  Host.debug s!"wrote {bytecode.length} bytes of byte code to {output.display}"

end ScriptHost.Host
