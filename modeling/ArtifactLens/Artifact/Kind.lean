import ArtifactLens.Command.Basic

/-!
# Kinds of artifacts

A source file is viewed in three ways, each with flags that make the compiler produce it and an
extension for the file that holds it.
-/

namespace ArtifactLens

/-- A derived view of a source file. -/
inductive Kind where
  | disassembly
  | llvmIr
  | preprocessed
  deriving DecidableEq, Repr

namespace Kind

/-- All kinds, in the order in which their records are made. -/
def all : List Kind := [.disassembly, .llvmIr, .preprocessed]

/-- The name by which a kind is asked for. -/
def name : Kind → String
  | .disassembly => "disassembly"
  | .llvmIr => "llvm-ir"
  | .preprocessed => "preprocessed-source"

/-- The kind with a name. -/
def ofName? (name : String) : Option Kind := all.find? fun kind => kind.name == name

/-- The extension of the artifact of a source. A preprocessed source keeps the suffix of the
source. -/
def extension (kind : Kind) (source : Path) : String :=
  match kind with
  | .disassembly => ".s"
  | .llvmIr => ".ll"
  | .preprocessed => ".E" ++ source.suffix

/-- The compiler flags that produce a kind. -/
def flags : Kind → List String
  | .disassembly =>
    ["-g1", "-S", "-masm=intel", "-fno-unwind-tables", "-fno-asynchronous-unwind-tables",
      "-fno-dwarf2-cfi-asm"]
  | .llvmIr => ["-g", "-S", "-emit-llvm"]
  | .preprocessed => ["-E"]

end Kind

/-- The command that produces an artifact: the compiler, the flags of the kind, the arguments of
the compile command and the artifact, which is always quoted. -/
def CompileCommand.recipe (command : CompileCommand) (kind : Kind) (artifact : Path) : String :=
  String.intercalate " "
    (command.compiler :: kind.flags ++ command.args ++ ["-o", "\"" ++ artifact.text ++ "\""])

end ArtifactLens
