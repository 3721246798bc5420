import ArtifactLens.Proofs.Path
import ArtifactLens.Registry

/-!
# The names of artifacts

The artifact of a source lies in the output directory, under one name: the flattened way from the
project root to the source, followed by the extension of the kind. A flattened way holds no dot
and every extension starts with one, so a name can be taken apart again: artifacts with one path
have sources of one flattened name, and are of one kind (`artifactPath_inj`). Nor is a name ever
`..`, so an artifact stands right in the output directory (`names_absolute_artifact`).
-/

namespace ArtifactLens

/-- The suffix of a name holds no slash. -/
theorem Name.slash_not_mem_suffix (name : Name) : '/' ∉ name.suffix.toList := by
  have hname := name.isName.2.2
  rw [Name.suffix]
  split_ifs
  · rw [String.toList_ofList, List.mem_cons, not_or]
    refine ⟨by decide, fun hmem => hname ?_⟩
    rw [List.mem_reverse] at hmem
    exact List.mem_reverse.mp ((List.takeWhile_sublist _).mem hmem)
  · simp

theorem Path.slash_not_mem_suffix (path : Path) : '/' ∉ path.suffix.toList := by
  rw [Path.suffix]
  cases path.names.getLast? with
  | none => simp
  | some name => exact name.slash_not_mem_suffix

/-- A name at the end of a path is at the end of its absolute form too, unless it is `..`. -/
theorem Host.names_absolute_concat (host : Host) (path : Path) {name : Name}
    (h : name.isUp = false) :
    (host.absolute { path with names := path.names ++ [name] }).names =
      (host.absolute path).names ++ [name] := by
  have hjoin : host.workDir.join { path with names := path.names ++ [name] } =
      { host.workDir.join path with names := (host.workDir.join path).names ++ [name] } := by
    rw [Path.join, Path.join]
    by_cases habsolute : path.isAbsolute
    · rw [if_pos habsolute]
      exact if_pos habsolute
    · rw [if_neg habsolute, List.append_assoc]
      exact if_neg habsolute
  rw [absolute, hjoin, absolute, Path.normalize, Path.normalize, List.foldl_append]
  simp [Path.follow, h, Path.isAbsolute]

namespace Kind

/-- Every extension starts with a dot, which is followed by more than dots; none holds a slash. -/
theorem extension_eq (kind : Kind) (source : Path) :
    ∃ c rest, (kind.extension source).toList = '.' :: c :: rest ∧ c ≠ '.' ∧ '/' ∉ c :: rest := by
  cases kind with
  | disassembly => exact ⟨'s', [], by simp [extension], by decide, by decide⟩
  | llvmIr => exact ⟨'l', ['l'], by simp [extension], by decide, by decide⟩
  | preprocessed =>
    refine ⟨'E', source.suffix.toList, by simp [extension], by decide, ?_⟩
    rw [List.mem_cons, not_or]
    exact ⟨by decide, source.slash_not_mem_suffix⟩

/-- Extensions tell the kinds apart. -/
theorem extension_inj {kind other : Kind} {source another : Path}
    (h : kind.extension source = other.extension another) : kind = other := by
  have h := congrArg String.toList h
  cases kind <;> cases other <;> simp [extension] at h ⊢

end Kind

namespace Registry

variable {host : Host} {registry : Registry} {source another : Path} {kind other : Kind}

/-- The flattened name of a source. -/
def flatName (host : Host) (registry : Registry) (source : Path) : String :=
  flatten (host.relative registry.root source)

theorem not_mem_flatName {c : Char} (h : c = '.' ∨ c = '/') :
    c ∉ (registry.flatName host source).toList := by
  rw [flatName, flatten, String.toList_ofList, List.mem_map]
  rintro ⟨d, -, hd⟩
  split_ifs at hd with hsep
  · subst hd
    revert h
    decide
  · subst hd
    exact hsep h.symm

private theorem takeWhile_flatName (host : Host) (registry : Registry) (source : Path)
    (rest : List Char) :
    ((registry.flatName host source).toList ++ '.' :: rest).takeWhile (· != '.') =
      (registry.flatName host source).toList := by
  rw [List.takeWhile_append_of_pos fun c hc => ?_, List.takeWhile_cons_of_neg (by simp),
    List.append_nil]
  rw [bne_iff_ne]
  rintro rfl
  exact not_mem_flatName (.inl rfl) hc

/-- The first dot of the name of an artifact starts the extension. -/
theorem dropWhile_artifact (host : Host) (registry : Registry) (source : Path) (kind : Kind) :
    (registry.flatName host source ++ kind.extension source).toList.dropWhile (· != '.') =
      (kind.extension source).toList := by
  obtain ⟨c, rest, hext, -⟩ := kind.extension_eq source
  rw [String.toList_append, hext, List.dropWhile_append_of_pos fun c hc => ?_,
    List.dropWhile_cons_of_neg (by simp)]
  rw [bne_iff_ne]
  rintro rfl
  exact not_mem_flatName (.inl rfl) hc

/-- The name of the artifact of a source. -/
theorem isName_artifact (host : Host) (registry : Registry) (source : Path) (kind : Kind) :
    IsName (registry.flatName host source ++ kind.extension source) := by
  obtain ⟨c, rest, hext, -, hslash⟩ := kind.extension_eq source
  refine ⟨fun h => ?_, fun h => ?_, ?_⟩
  · simpa [hext] using congrArg String.toList h
  · have hlength := congrArg (·.toList.length) h
    simp only [String.toList_append, List.length_append, hext, List.length_cons] at hlength
    simp at hlength
    omega
  · rw [String.toList_append, List.mem_append, not_or]
    refine ⟨not_mem_flatName (.inr rfl), ?_⟩
    rw [hext, List.mem_cons, not_or]
    exact ⟨by decide, hslash⟩

/-- An artifact is a name in the output directory. -/
theorem artifactPath_eq (host : Host) (registry : Registry) (source : Path) (kind : Kind) :
    registry.artifactPath host source kind =
      { registry.outputDir with
        names :=
          registry.outputDir.names ++ [⟨_, isName_artifact host registry source kind⟩] } := by
  rw [artifactPath, ← flatName, Path.ofText_of_isName (isName_artifact host registry source kind)]
  rfl

/-- The name of an artifact does not lead out of the output directory. -/
theorem isUp_artifact (host : Host) (registry : Registry) (source : Path) (kind : Kind) :
    (⟨_, isName_artifact host registry source kind⟩ : Name).isUp = false := by
  obtain ⟨c, rest, hext, hdot, -⟩ := kind.extension_eq source
  refine beq_eq_false_iff_ne.mpr fun h => ?_
  have hname := congrArg String.toList h
  rw [String.toList_append, hext] at hname
  cases hflat : (registry.flatName host source).toList with
  | nil =>
    rw [hflat] at hname
    exact hdot (List.cons.inj (List.cons.inj hname).2).1
  | cons first others =>
    rw [hflat] at hname
    have hmem : '.' ∈ (registry.flatName host source).toList := by
      rw [hflat, (List.cons.inj hname).1]
      exact List.mem_cons_self
    exact not_mem_flatName (.inl rfl) hmem

/-- An artifact stands right in the output directory. -/
theorem names_absolute_artifact (host : Host) (registry : Registry) (source : Path) (kind : Kind) :
    (host.absolute (registry.artifactPath host source kind)).names =
      (host.absolute registry.outputDir).names ++
        [⟨_, isName_artifact host registry source kind⟩] := by
  rw [artifactPath_eq]
  exact host.names_absolute_concat _ (isUp_artifact host registry source kind)

/-- Artifacts with one path have sources of one flattened name, and are of one kind. -/
theorem artifactPath_inj
    (h : registry.artifactPath host source kind = registry.artifactPath host another other) :
    registry.flatName host source = registry.flatName host another ∧ kind = other := by
  have hlast := congrArg (fun path => path.names.getLast?.map Name.text) h
  simp only [artifactPath_eq, List.getLast?_concat, Option.map_some, Option.some.injEq] at hlast
  have hname := congrArg String.toList hlast
  rw [String.toList_append, String.toList_append] at hname
  obtain ⟨c, rest, hext, -⟩ := kind.extension_eq source
  obtain ⟨c', rest', hext', -⟩ := other.extension_eq another
  rw [hext, hext'] at hname
  -- the first dot of a name is the one that starts the extension
  have hflat := congrArg (List.takeWhile (· != '.')) hname
  rw [takeWhile_flatName, takeWhile_flatName] at hflat
  rw [hflat, List.append_cancel_left_eq, List.cons.injEq] at hname
  have hextension : kind.extension source = other.extension another := by
    rw [← String.toList_inj, hext, hext', hname.2]
  exact ⟨String.toList_inj.mp hflat, Kind.extension_inj hextension⟩

end Registry

end ArtifactLens
