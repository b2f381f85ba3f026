import ScriptHost.Outcome

/- What is printed on request: the version, and the help with one entry a flag. -/
namespace ScriptHost

def hostVersion : String := "0.1.0"

def versionLine : String := s!"{hostName} {hostVersion}"

structure HelpEntry where
  usage : String
  purpose : String

def helpEntries : List HelpEntry :=
  [⟨"      --serialized", "Serialize the script, then run the byte code in a fresh runtime"⟩,
    ⟨"      --bytecode <BYTECODE>", "Run byte code serialized earlier from FILE's source"⟩,
    ⟨"      --generate-library-bytecode-header <PATH>",
      "Write a C++ header embedding the script's byte code; do not run it"⟩,
    ⟨"      --emit-bytecode <PATH>", "Write the script's raw byte code; do not run it"⟩,
    ⟨"  -v, --verbose", "Enable verbose output"⟩,
    ⟨"      --log-level <LEVEL>", "Log level (debug, info, warn, error)"⟩,
    ⟨"      --worker-stack-size <BYTES>", "Worker thread stack size in bytes"⟩,
    ⟨"      --crash-on-fault",
      "Let structured faults crash the process instead of containing them"⟩,
    ⟨"      --print-config", "Print the resolved configuration as JSON and exit"⟩,
    ⟨"  -h, --help", "Print help"⟩,
    ⟨"  -V, --version", "Print version"⟩]

def helpLines : List String :=
  [hostName, "", s!"Usage: {hostName} [OPTIONS] <FILE>", "", "Arguments:", "  <FILE>  Script file", "",
    "Options:"] ++
  helpEntries.flatMap fun entry => [entry.usage, "          " ++ entry.purpose]

end ScriptHost
