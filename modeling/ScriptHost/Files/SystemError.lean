/- Failures reported by the operating system, with its wording. The system may report
   others than those that the tree of files answers with. -/
namespace ScriptHost

/-- Why a request to the operating system failed, in its words. -/
structure SystemError where
  message : String
  deriving DecidableEq, Repr

namespace SystemError

def notFound : SystemError := ⟨"No such file or directory (os error 2)"⟩

def notADirectory : SystemError := ⟨"Not a directory (os error 20)"⟩

def isADirectory : SystemError := ⟨"Is a directory (os error 21)"⟩

def nameTooLong : SystemError := ⟨"File name too long (os error 36)"⟩

def nulByte : SystemError := ⟨"file name contained an unexpected NUL byte"⟩

def emptyPath : SystemError := ⟨"cannot make an empty path absolute"⟩

end SystemError
end ScriptHost
