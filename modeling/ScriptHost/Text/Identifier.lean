import ScriptHost.Text.IdentifierContinue
import ScriptHost.Text.IdentifierStart

/- Identifiers, as the generated array's name must be one: an underscore or a
   character that may begin an identifier, then characters that may go on. -/
namespace ScriptHost.Text

def isIdentifier (s : String) : Bool :=
  match s.toList with
  | [] => false
  | first :: rest =>
    (first == '_' || identifierStart.contains first) && rest.all identifierContinue.contains

end ScriptHost.Text
