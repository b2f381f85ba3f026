import ScriptHost.Main
import ScriptHost.Proofs.Bytecode.Canonical
import ScriptHost.Proofs.Bytecode.Damage
import ScriptHost.Proofs.Bytecode.Sizes
import ScriptHost.Proofs.CommandLine.ExitStatus
import ScriptHost.Proofs.Config.Resolution
import ScriptHost.Proofs.Config.RoundTrip
import ScriptHost.Proofs.Engine.Blocking
import ScriptHost.Proofs.Engine.Continuations
import ScriptHost.Proofs.Engine.Journal
import ScriptHost.Proofs.Engine.Numbers
import ScriptHost.Proofs.Engine.OneLine
import ScriptHost.Proofs.Engine.Waiting
import ScriptHost.Proofs.Files.FullPath
import ScriptHost.Proofs.Header.Exclusion
import ScriptHost.Proofs.Header.Layout
import ScriptHost.Proofs.Host.Copies
import ScriptHost.Proofs.Host.Diagnosis
import ScriptHost.Proofs.Host.DrainCount
import ScriptHost.Proofs.Host.Freeze
import ScriptHost.Proofs.Host.History
import ScriptHost.Proofs.Host.Independence
import ScriptHost.Proofs.Host.Interleaving
import ScriptHost.Proofs.Host.Nesting
import ScriptHost.Proofs.Host.OneLine
import ScriptHost.Proofs.Host.Serializing
import ScriptHost.Proofs.Host.Teardown
import ScriptHost.Proofs.Host.Telling
import ScriptHost.Proofs.Host.Terminal
import ScriptHost.Proofs.Json.Numerals
import ScriptHost.Proofs.Json.RoundTrip
import ScriptHost.Proofs.Lock.Exclusivity
import ScriptHost.Proofs.Script.LineEnds
import ScriptHost.Proofs.Script.OneLine
import ScriptHost.Proofs.Script.Positions
import ScriptHost.Proofs.Script.Sentences
import ScriptHost.Proofs.Source.Encoding
import ScriptHost.Proofs.TaskQueue.Conservation
import ScriptHost.Proofs.Text.OneLine
