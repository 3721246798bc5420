import ArtifactLens.Shell.Utility.Accounts
import ArtifactLens.Shell.Utility.Blocks
import ArtifactLens.Shell.Utility.Calling
import ArtifactLens.Shell.Utility.Columns
import ArtifactLens.Shell.Utility.Comparing
import ArtifactLens.Shell.Utility.Copying
import ArtifactLens.Shell.Utility.Counting
import ArtifactLens.Shell.Utility.Cutting
import ArtifactLens.Shell.Utility.Differing
import ArtifactLens.Shell.Utility.Digesting
import ArtifactLens.Shell.Utility.Editing
import ArtifactLens.Shell.Utility.Dumping
import ArtifactLens.Shell.Utility.Environment
import ArtifactLens.Shell.Utility.Finding
import ArtifactLens.Shell.Utility.Gathering
import ArtifactLens.Shell.Utility.Linking
import ArtifactLens.Shell.Utility.Listing
import ArtifactLens.Shell.Utility.Numbering
import ArtifactLens.Shell.Utility.Pairing
import ArtifactLens.Shell.Utility.Printing
import ArtifactLens.Shell.Utility.Repeats
import ArtifactLens.Shell.Utility.Reversing
import ArtifactLens.Shell.Utility.Searching
import ArtifactLens.Shell.Utility.Sorting
import ArtifactLens.Shell.Utility.Spelling
import ArtifactLens.Shell.Utility.Splitting
import ArtifactLens.Shell.Utility.Testing
import ArtifactLens.Shell.Utility.Translating

/-!
# The programs of a bare system

Which programs are there, by name.
-/

namespace ArtifactLens.Shell

namespace Utility

/-- The programs by name. -/
def catalogue : List (String × Utility) :=
  [("cat", cat), ("tee", tee), ("tac", tac), ("rev", rev), ("head", head), ("tail", tail),
    ("yes", yes), ("wc", wc), ("nl", nl), ("cut", cut), ("paste", paste), ("tr", tr),
    ("fold", fold), ("expand", expand), ("unexpand", unexpand), ("grep", grepAs 'G'),
    ("egrep", grepAs 'E'), ("fgrep", grepAs 'F'), ("sed", sed), ("seq", seq), ("expr", expr),
    ("echo", echo), ("printf", printf), ("test", test), ("[", test), ("true", settled 0),
    ("false", settled 1), ("sync", sync), ("basename", basename), ("dirname", dirname),
    ("printenv", printenv), ("pwd", pwd), ("whoami", whoami), ("id", id), ("groups", groups),
    ("logname", logname), ("arch", arch), ("uname", uname),
    ("tty", tty), ("which", which), ("sleep", sleep), ("env", env), ("nohup", nohup),
    ("nice", nice), ("setsid", setsid), ("stdbuf", stdbuf), ("timeout", timeout),
    ("xargs", xargs), ("sort", sort), ("uniq", uniq), ("comm", comm), ("join", join), ("od", od),
    ("base64", base64), ("base32", base32), ("basenc", basenc), ("cmp", cmp), ("diff", diff), ("split", split), ("dd", dd), ("ls", ls), ("dir", dir), ("vdir", vdir),
    ("mkdir", mkdir), ("rmdir", rmdir), ("rm", rm), ("unlink", unlink), ("touch", touch),
    ("chmod", chmod), ("mktemp", mktemp), ("truncate", truncate), ("cp", cp), ("mv", mv), ("ln", ln),
    ("link", link), ("install", install), ("readlink", readlink), ("realpath", realpath),
    ("stat", stat), ("find", find), ("cksum", cksum), ("sum", sum)] ++
    ([("md5sum", "md5"), ("sha1sum", "sha1"), ("sha224sum", "sha224"), ("sha256sum", "sha256"),
      ("sha384sum", "sha384"), ("sha512sum", "sha512"), ("b2sum", "blake2b")].filterMap
      fun (program, name) => (DigestKind.all.find? (·.1 == name)).map fun (_, kind) =>
        (program, digestAs kind))

/-- The names of the shell. -/
def shellNames : List String := ["dash"]

end Utility

end ArtifactLens.Shell
