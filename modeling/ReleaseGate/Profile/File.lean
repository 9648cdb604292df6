import ReleaseGate.Files
import ReleaseGate.Log
import ReleaseGate.Profile.Reader

/-!
# Profile files — the profile that a file holds

What can go wrong first is that there is no such file, then that it is no text, and last that the
text is no profile.
-/

namespace ReleaseGate.Profile

/-- The text of a file's content. -/
def textOf : Except FileFault (List UInt8) → Except Failure String
  | .error fault => .error (.io fault.words)
  | .ok bytes => ((Text.decode? bytes).map Except.ok).getD (.error (.io notUtf8Reason))

/-- The note at the start of loading a profile. -/
def loading (path : String) : Event :=
  ⟨.debug, "Loading extraction profile from " ++ Text.quoted path⟩

/-- The profile in the file at a path, with what is noted on the way. -/
def load (path : String) (content : Except FileFault (List UInt8)) :
    List Event × Except Failure Profile :=
  ([loading path], textOf content >>= ofYaml)

end ReleaseGate.Profile
