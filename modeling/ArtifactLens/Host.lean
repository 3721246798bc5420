import ArtifactLens.Path.Basic

/-!
# The host

What the machine contributes to the meaning of a path: the working directory, the home directory
of the user, and the home directories of the accounts. `Host.absolute` gives every path one form
that does not depend on the working directory.
-/

namespace ArtifactLens

/-- The surroundings in which paths are resolved. -/
structure Host where
  workDir : Path
  /-- The home directory of the user, as configured in the environment. -/
  home : String
  /-- Account names with their home directories. -/
  accounts : List (String × String)

namespace Host

/-- The home directory that a name starting with a tilde stands for. -/
def home? (host : Host) (name : String) : Option String :=
  if name = "~" then some host.home
  else (host.accounts.find? fun account => "~" ++ account.1 = name).map (·.2)

/-- The normal form of a path used in the working directory. -/
def absolute (host : Host) (path : Path) : Path := (host.workDir.join path).normalize

/-- The way from a directory to a path. -/
def relative (host : Host) (directory path : Path) : Path :=
  (host.absolute directory).wayTo (host.absolute path)

end Host

end ArtifactLens
