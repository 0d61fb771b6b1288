import Diagnostics.Proofs.CommandLine.Accepted
import Diagnostics.Proofs.FileTree.Search

/-!
# The configuration file that counts

One configuration file counts for a command at most. It is the one that the command
takes, unless the search for it comes to a path that is too long for the file system.
-/

namespace Diagnostics.CommandLine

variable {tree : FileTree} {arguments : RenderArguments}

/-- The configuration file that counts for a command with the name that it goes by: the
one that is given; without one, the nearest above the source; without one there, the
nearest above the working directory; or none. -/
inductive Selected (tree : FileTree) (arguments : RenderArguments) :
    Option (String × List UInt8) → Prop
  | given {path bytes} (hgiven : arguments.config = some path)
      (hbytes : tree.bytesAt? path = some bytes) :
      Selected tree arguments (some (normalizedPath path, bytes))
  | aboveSource {above bytes} (hgiven : arguments.config = none)
      (hsource : tree.NearestConfig (tree.place arguments.source).dropLast above)
      (hbytes : tree.content? (configIn above) = some bytes) :
      Selected tree arguments (some (absoluteName (configIn above), bytes))
  | aboveHere {above bytes} (hgiven : arguments.config = none)
      (hsource : tree.HasNoConfig (tree.place arguments.source).dropLast)
      (hhere : tree.NearestConfig (tree.directoryOf tree.workingDirectory) above)
      (hbytes : tree.content? (configIn above) = some bytes) :
      Selected tree arguments (some (absoluteName (configIn above), bytes))
  | nowhere (hgiven : arguments.config = none)
      (hsource : tree.HasNoConfig (tree.place arguments.source).dropLast)
      (hhere : tree.HasNoConfig (tree.directoryOf tree.workingDirectory)) :
      Selected tree arguments none

/-- The search for a configuration file comes to a path that is too long: from the source,
or, where there is no file above it, from the working directory. -/
def SearchBreaks (tree : FileTree) (arguments : RenderArguments) : Prop :=
  arguments.config = none ∧
    (tree.Unsearchable (tree.place arguments.source) ∨
      tree.HasNoConfig (tree.place arguments.source).dropLast ∧
        tree.Unsearchable tree.workingDirectory)

theorem findConfig_cons {path : String} (hnull : hasNull path = false) (rest : List String) :
    tree.findConfig (path :: rest) =
      tree.configAbove (tree.place path) >>= fun found =>
        match found with
        | some place => pure (some place)
        | none => tree.findConfig rest := by
  rw [FileTree.findConfig, FileTree.resolve, hnull]
  rfl

/-- The working directory is asked only if there is nothing above the source. -/
theorem findConfig_of_noNull (tree : FileTree) (hnull : hasNull arguments.source = false) :
    tree.findConfig [arguments.source, "."] =
      tree.configAbove (tree.place arguments.source) >>= fun found =>
        match found with
        | some place => pure (some place)
        | none => tree.configAbove tree.workingDirectory := by
  have hdot : hasNull "." = false := by decide
  have hhere : tree.findConfig ["."] = tree.configAbove tree.workingDirectory := by
    rw [findConfig_cons hdot, tree.place_dot]
    cases tree.configAbove tree.workingDirectory with
    | error fault => rfl
    | ok found => cases found <;> rfl
  rw [findConfig_cons hnull, hhere]

/-- The file at a place with the name that it goes by. -/
def namedFile? (tree : FileTree) (place : FilePlace) : Option (String × List UInt8) :=
  (tree.content? place).map fun bytes => (absoluteName place, bytes)

theorem selectConfig_of_search (tree : FileTree) (hgiven : arguments.config = none) :
    selectConfig tree arguments =
      ((tree.findConfig [arguments.source, "."]).mapError Stop.ofFault).map fun found =>
        found.bind (namedFile? tree) := by
  rw [selectConfig, hgiven]
  cases tree.findConfig [arguments.source, "."] with
  | error fault => rfl
  | ok found =>
      cases found with
      | none => rfl
      | some place => exact congrArg Except.ok Option.map_eq_bind.symm

theorem exists_namedFile?_of_nearest {directory above : FilePlace}
    (hnearest : tree.NearestConfig directory above) :
    ∃ bytes, tree.content? (configIn above) = some bytes ∧
      namedFile? tree (configIn above) = some (absoluteName (configIn above), bytes) := by
  obtain ⟨bytes, hbytes⟩ := Option.isSome_iff_exists.mp hnearest.isFile
  exact ⟨bytes, hbytes, by rw [namedFile?, hbytes]; rfl⟩

/-- The search breaks off, or there is a file that counts and that is taken. -/
def SelectionEnds (tree : FileTree) (arguments : RenderArguments) : Prop :=
  (SearchBreaks tree arguments ∧ selectConfig tree arguments = .error (.ofFault .nameTooLong)) ∨
    ¬SearchBreaks tree arguments ∧
      ∃ file, Selected tree arguments file ∧ selectConfig tree arguments = .ok file

theorem selectionEnds_of_given {path : String} {bytes : List UInt8}
    (hgiven : arguments.config = some path) (hbytes : tree.bytesAt? path = some bytes) :
    SelectionEnds tree arguments := by
  refine .inr ⟨fun hbreaks => ?_, _, .given hgiven hbytes, ?_⟩
  · rw [hbreaks.1] at hgiven
    cases hgiven
  · simp only [selectConfig, hgiven, hbytes, Option.map_some]

/-- Without a file above the source, everything is left to the working directory. -/
theorem selectionEnds_of_here (hgiven : arguments.config = none)
    (hsource : ¬tree.Unsearchable (tree.place arguments.source))
    (hnone : tree.HasNoConfig (tree.place arguments.source).dropLast)
    (hfind : tree.findConfig [arguments.source, "."] = tree.configAbove tree.workingDirectory) :
    SelectionEnds tree arguments := by
  have hselect := selectConfig_of_search tree hgiven
  rw [hfind] at hselect
  cases hhere : tree.configAbove tree.workingDirectory with
  | error fault =>
      obtain ⟨hbreaks, rfl⟩ := tree.configAbove_eq_error_iff.mp hhere
      rw [hhere] at hselect
      exact .inl ⟨⟨hgiven, .inr ⟨hnone, hbreaks⟩⟩, hselect⟩
  | ok found =>
      have hsearch : ¬tree.Unsearchable tree.workingDirectory := by
        intro hbreaks
        have herror := tree.configAbove_eq_error_iff.mpr ⟨hbreaks, rfl⟩
        rw [hhere] at herror
        cases herror
      have hbreaks : ¬SearchBreaks tree arguments := fun hbreaks =>
        hbreaks.2.elim hsource fun hthere => hsearch hthere.2
      rw [hhere] at hselect
      cases found with
      | some place =>
          obtain ⟨-, above, hnearest, rfl⟩ := tree.configAbove_eq_some_iff.mp hhere
          obtain ⟨bytes, hbytes, hnamed⟩ := exists_namedFile?_of_nearest hnearest
          exact .inr ⟨hbreaks, _, .aboveHere hgiven hnone hnearest hbytes,
            hselect.trans (congrArg Except.ok hnamed)⟩
      | none =>
          obtain ⟨-, hthere⟩ := tree.configAbove_eq_none_iff.mp hhere
          exact .inr ⟨hbreaks, _, .nowhere hgiven hnone hthere, hselect⟩

theorem selectionEnds (hsound : arguments.Sound tree) : SelectionEnds tree arguments := by
  cases hgiven : arguments.config with
  | some path =>
      obtain ⟨bytes, hbytes⟩ := hsound.config path hgiven
      exact selectionEnds_of_given hgiven hbytes
  | none =>
      obtain ⟨source, hsource⟩ := hsound.source
      have hdirectory := tree.directoryOf_place_of_bytesAt? hsource
      have hfind := findConfig_of_noNull tree hsound.noNull
      have hselect := selectConfig_of_search tree hgiven
      cases habove : tree.configAbove (tree.place arguments.source) with
      | error fault =>
          obtain ⟨hbreaks, rfl⟩ := tree.configAbove_eq_error_iff.mp habove
          rw [hfind, habove] at hselect
          exact .inl ⟨⟨hgiven, .inl hbreaks⟩, hselect⟩
      | ok found =>
          cases found with
          | some place =>
              obtain ⟨hsearch, above, hnearest, rfl⟩ := tree.configAbove_eq_some_iff.mp habove
              rw [hdirectory] at hnearest
              obtain ⟨bytes, hbytes, hnamed⟩ := exists_namedFile?_of_nearest hnearest
              rw [hfind, habove] at hselect
              refine .inr ⟨fun hbreaks => ?_, _, .aboveSource hgiven hnearest hbytes,
                hselect.trans (congrArg Except.ok hnamed)⟩
              exact hbreaks.2.elim hsearch fun hhere => hnearest.not_hasNoConfig hhere.1
          | none =>
              obtain ⟨hsearch, hnone⟩ := tree.configAbove_eq_none_iff.mp habove
              rw [hdirectory] at hnone
              rw [habove] at hfind
              exact selectionEnds_of_here hgiven hsearch hnone hfind

/-- No more than one file counts. -/
theorem Selected.eq {file other : Option (String × List UInt8)}
    (hfile : Selected tree arguments file) (hother : Selected tree arguments other) :
    file = other := by
  cases hfile with
  | given hgiven hbytes => cases hother <;> simp_all
  | aboveSource hgiven hsource hbytes =>
      cases hother with
      | given => simp_all
      | aboveSource _ hsource' hbytes' =>
        obtain rfl := hsource.eq hsource'
        simp_all
      | aboveHere _ hnone => exact absurd hnone hsource.not_hasNoConfig
      | nowhere _ hnone => exact absurd hnone hsource.not_hasNoConfig
  | aboveHere hgiven hsource hhere hbytes =>
      cases hother with
      | given => simp_all
      | aboveSource _ hsource' => exact absurd hsource hsource'.not_hasNoConfig
      | aboveHere _ _ hhere' hbytes' =>
        obtain rfl := hhere.eq hhere'
        simp_all
      | nowhere _ _ hnone => exact absurd hnone hhere.not_hasNoConfig
  | nowhere hgiven hsource hhere =>
      cases hother with
      | given => simp_all
      | aboveSource _ hsource' => exact absurd hsource hsource'.not_hasNoConfig
      | aboveHere _ _ hhere' => exact absurd hhere hhere'.not_hasNoConfig
      | nowhere => rfl

theorem selectConfig_of_selected (hsound : arguments.Sound tree)
    (hsearch : ¬SearchBreaks tree arguments) {file : Option (String × List UInt8)}
    (hfile : Selected tree arguments file) : selectConfig tree arguments = .ok file := by
  obtain ⟨hbreaks, -⟩ | ⟨-, other, hother, hselect⟩ := selectionEnds hsound
  · exact absurd hbreaks hsearch
  · rw [hselect, hother.eq hfile]

end Diagnostics.CommandLine
