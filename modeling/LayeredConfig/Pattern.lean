import LayeredConfig.Error
import LayeredConfig.Pattern.Automaton.Assembly
import LayeredConfig.Pattern.Reader
import LayeredConfig.Pattern.Track
import LayeredConfig.Pattern.Words

/-!
# Key patterns

A pattern selects the keys in which its regular expression matches somewhere.
-/
namespace LayeredConfig

structure Pattern where
  source : String
  form : Pattern.Form

namespace Pattern

/-- Reads a pattern; it has to be well-formed, and no automaton that it needs may be too large. -/
def compile (source : String) : Except Error Pattern :=
  let refuse (reason : String) := .error (.config s!"Invalid key pattern '{source}': {reason}")
  match Form.read? source with
  | none => refuse "regex parse error:"
  | some form =>
    if form.isWordSearch || form.fits then .ok ⟨source, form⟩
    else refuse s!"Compiled regex exceeds size limit of {Automaton.sizeLimit} bytes."

def isMatch (p : Pattern) (key : String) : Bool :=
  p.form.isMatch key

end Pattern

end LayeredConfig
