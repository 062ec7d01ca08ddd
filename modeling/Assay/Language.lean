import Assay.Text.Blank
import Assay.Text.Lowercase

/-!
Programming languages as requests name them.
-/

namespace Assay

/-- A language. Runners are found by the name alone; the version is information. -/
structure Language where
  name : String
  version : String
  deriving DecidableEq, Repr

/-- The name that a registry files a language under. -/
def languageKey (name : String) : String := Text.lowercase (Text.trimString name)

namespace Language

def key (l : Language) : String := languageKey l.name

def toText (l : Language) : String :=
  if l.version.isEmpty then l.name else l.name ++ " " ++ l.version

/-- The message when nothing runs the language. -/
def unsupportedMessage (l : Language) : String := "unsupported language: " ++ l.toText

end Language

end Assay
