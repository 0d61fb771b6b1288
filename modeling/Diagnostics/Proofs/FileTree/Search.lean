import Mathlib.Data.List.Induction
import Mathlib.Algebra.Ring.Nat
import Diagnostics.FileTree
import Diagnostics.Proofs.Except

/-!
# The nearest configuration file

The search from a directory finds the nearest configuration file at or above it. It looks
at the longest path first; if the file system answers that one, it answers all others.
So the search breaks off before it starts or not at all.
-/

namespace Diagnostics

/-- Where the configuration file of a directory is. -/
def configIn (directory : FilePlace) : FilePlace :=
  directory ++ [configFileName]

theorem configIn_ne_nil (directory : FilePlace) : configIn directory ≠ [] :=
  List.concat_ne_nil _ _

theorem placesAbove_concat (place : FilePlace) (name : String) :
    placesAbove (place ++ [name]) = (place ++ [name]) :: placesAbove place := by
  have htake : ∀ count ∈ List.range (place.length + 1),
      (place ++ [name]).take count = place.take count := by
    intro count hcount
    have hle := Nat.le_of_lt_succ (List.mem_range.mp hcount)
    rw [List.take_append_of_le_length hle]
  rw [placesAbove, List.length_append, List.length_singleton, List.range_succ, List.map_append,
    List.reverse_append, List.map_congr_left htake, List.map_singleton, List.take_of_length_le]
  · rfl
  · simp

theorem mem_placesAbove_iff {place above : FilePlace} :
    above ∈ placesAbove place ↔ above <+: place := by
  rw [placesAbove, List.mem_reverse, List.mem_map, List.prefix_iff_eq_take]
  constructor
  · rintro ⟨count, hcount, rfl⟩
    rw [List.length_take, List.take_eq_take_min]
  · intro habove
    have hle : above.length ≤ place.length := by
      rw [habove]
      exact List.length_take_le' _ _
    exact ⟨above.length, List.mem_range.mpr (Nat.lt_succ_of_le hle), habove.symm⟩

/-- The nearest of the places above with a property, if there is one. -/
theorem find?_placesAbove_eq_some_iff {directory above : FilePlace} {p : FilePlace → Bool} :
    (placesAbove directory).find? p = some above ↔
      above <+: directory ∧ p above ∧
        ∀ nearer, nearer <+: directory → above.length < nearer.length → p nearer = false := by
  induction directory using List.reverseRecOn with
  | nil =>
      have hroot : placesAbove [] = [[]] := rfl
      rw [hroot, List.find?_singleton, List.prefix_nil]
      constructor
      · intro hfind
        obtain ⟨hp, rfl⟩ : p [] = true ∧ above = [] := by
          split at hfind
          · exact ⟨‹_›, (Option.some.inj hfind).symm⟩
          · cases hfind
        exact ⟨rfl, hp, fun nearer hnearer hlt => by simp_all⟩
      · rintro ⟨rfl, hp, -⟩
        rw [if_pos hp]
  | append_singleton place name ih =>
      rw [placesAbove_concat]
      cases hp : p (place ++ [name]) with
      | true =>
          rw [List.find?_cons_of_pos hp]
          constructor
          · intro hfind
            obtain rfl := Option.some.inj hfind
            exact ⟨List.prefix_rfl, hp, fun nearer hnearer hlt =>
              absurd hnearer.length_le (Nat.not_le_of_lt hlt)⟩
          · rintro ⟨hinitial, -, hnearest⟩
            obtain hlt | hle := Nat.lt_or_ge above.length (place ++ [name]).length
            · rw [hnearest _ List.prefix_rfl hlt] at hp
              cases hp
            · rw [hinitial.eq_of_length_le hle]
      | false =>
          rw [List.find?_cons_of_neg (by simp [hp]), ih]
          constructor
          · rintro ⟨hinitial, habove, hnearest⟩
            refine ⟨hinitial.trans (List.prefix_append _ _), habove, fun nearer hnearer hlt => ?_⟩
            obtain rfl | hnearer := List.prefix_concat_iff.mp hnearer
            · exact hp
            · exact hnearest nearer hnearer hlt
          · rintro ⟨hinitial, habove, hnearest⟩
            obtain rfl | hinitial := List.prefix_concat_iff.mp hinitial
            · rw [hp] at habove
              cases habove
            · exact ⟨hinitial, habove, fun nearer hnearer hlt =>
                hnearest nearer (hnearer.trans (List.prefix_append _ _)) hlt⟩

theorem find?_placesAbove_eq_none_iff {directory : FilePlace} {p : FilePlace → Bool} :
    (placesAbove directory).find? p = none ↔ ∀ above, above <+: directory → p above = false := by
  simp [mem_placesAbove_iff]

/-! ### Long paths -/

theorem utf8ByteSize_replicate (count : Nat) :
    (String.ofList (List.replicate count 'd')).utf8ByteSize = count := by
  have hsize : 'd'.utf8Size = 1 := rfl
  induction count with
  | zero => rfl
  | succ count ih =>
      rw [List.replicate_succ, String.ofList_cons, String.utf8ByteSize_append,
        String.utf8ByteSize_singleton, hsize, ih, Nat.add_comm]

/-- Every name takes its own bytes and a separator. -/
theorem utf8ByteSize_absoluteName {place : FilePlace} (hne : place ≠ []) :
    (absoluteName place).utf8ByteSize = (place.map fun name => name.utf8ByteSize + 1).sum := by
  have hslash : "/".utf8ByteSize = 1 := rfl
  rw [absoluteName, String.utf8ByteSize_append]
  induction place with
  | nil => exact absurd rfl hne
  | cons name rest ih =>
      cases rest with
      | nil => simp [hslash, Nat.add_comm]
      | cons next rest =>
          rw [List.map_cons, List.sum_cons, ← ih (List.cons_ne_nil _ _),
            String.intercalate_cons_cons, String.utf8ByteSize_append, String.utf8ByteSize_append]
          omega

theorem utf8ByteSize_absoluteName_le {above directory : FilePlace}
    (hinitial : above <+: directory) :
    (absoluteName (configIn above)).utf8ByteSize ≤
      (absoluteName (configIn directory)).utf8ByteSize := by
  obtain ⟨more, rfl⟩ := hinitial
  rw [utf8ByteSize_absoluteName (configIn_ne_nil _), utf8ByteSize_absoluteName (configIn_ne_nil _)]
  simp only [configIn, List.map_append, List.sum_append]
  omega

theorem FileTree.meetsLongName_append_iff (tree : FileTree) {front : FilePlace}
    (hlong : (front.takeWhile fun name => decide (name.utf8ByteSize ≤ nameLimit)).length <
      front.length) (back : FilePlace) :
    tree.meetsLongName (front ++ back) ↔
      tree.isDirectory (front.takeWhile fun name => decide (name.utf8ByteSize ≤ nameLimit)) := by
  rw [meetsLongName, List.takeWhile_append, if_neg (Nat.ne_of_lt hlong), Bool.and_eq_true,
    decide_eq_true_eq, List.length_append]
  exact and_iff_right (Nat.lt_of_lt_of_le hlong (Nat.le_add_right _ _))

/-- The name that is too long is not that of the configuration file. -/
theorem FileTree.meetsLongName_configIn (tree : FileTree) {above directory : FilePlace}
    (hinitial : above <+: directory) (hmeets : tree.meetsLongName (configIn above)) :
    tree.meetsLongName (configIn directory) := by
  obtain ⟨more, rfl⟩ := hinitial
  have hlong : (above.takeWhile fun name => decide (name.utf8ByteSize ≤ nameLimit)).length <
      above.length := by
    refine Nat.lt_of_le_of_ne (List.takeWhile_prefix _).length_le fun hfit => ?_
    have hconfig : configFileName.utf8ByteSize ≤ nameLimit := by decide
    simp [meetsLongName, configIn, List.takeWhile_append, hfit, hconfig] at hmeets
  rw [configIn, List.append_assoc, tree.meetsLongName_append_iff hlong]
  exact (tree.meetsLongName_append_iff hlong _).mp hmeets

namespace FileTree

variable (tree : FileTree)

/-- The path of the place, or a name on the way to it, is too long for the file system. -/
def OutOfReach (place : FilePlace) : Prop :=
  pathBound ≤ (absoluteName place).utf8ByteSize ∨ tree.meetsLongName place

instance (place : FilePlace) : Decidable (tree.OutOfReach place) :=
  inferInstanceAs (Decidable (_ ∨ _))

theorem lookUp_eq (place : FilePlace) :
    tree.lookUp place =
      if tree.OutOfReach place then .error .nameTooLong else .ok (tree.isFile place) := by
  by_cases hout : tree.OutOfReach place
  · rw [if_pos hout, lookUp, if_pos (by simpa [OutOfReach] using hout)]
  · rw [if_neg hout, lookUp, if_neg (by simpa [OutOfReach] using hout)]

theorem OutOfReach.below {above directory : FilePlace} (hinitial : above <+: directory)
    (hout : tree.OutOfReach (configIn above)) : tree.OutOfReach (configIn directory) :=
  hout.imp (fun hlong => Nat.le_trans hlong (utf8ByteSize_absoluteName_le hinitial))
    (tree.meetsLongName_configIn hinitial)

theorem firstFile_of_reach {places : List FilePlace}
    (hreach : ∀ place ∈ places, ¬tree.OutOfReach place) :
    tree.firstFile places = .ok (places.find? tree.isFile) := by
  induction places with
  | nil => rfl
  | cons place rest ih =>
      obtain ⟨hplace, hrest⟩ := List.forall_mem_cons.mp hreach
      rw [firstFile, lookUp_eq, if_neg hplace, bind_of_eq_ok rfl, ih hrest]
      cases hfile : tree.isFile place with
      | true => simp [hfile, pure, Except.pure]
      | false => simp [hfile]

/-- The directory is the nearest one, at or above another, that has a configuration file. -/
structure NearestConfig (directory above : FilePlace) : Prop where
  isPrefix : above <+: directory
  isFile : tree.isFile (configIn above)
  nearest : ∀ nearer, nearer <+: directory → above.length < nearer.length →
    tree.isFile (configIn nearer) = false

/-- Neither a directory nor one above it has a configuration file. -/
def HasNoConfig (directory : FilePlace) : Prop :=
  ∀ above, above <+: directory → tree.isFile (configIn above) = false

variable {tree} in
theorem NearestConfig.eq {directory above other : FilePlace}
    (habove : tree.NearestConfig directory above) (hother : tree.NearestConfig directory other) :
    above = other := by
  have hlength : above.length = other.length := by
    obtain hlt | heq | hgt := Nat.lt_trichotomy above.length other.length
    · have hfile := hother.isFile
      rw [habove.nearest other hother.isPrefix hlt] at hfile
      cases hfile
    · exact heq
    · have hfile := habove.isFile
      rw [hother.nearest above habove.isPrefix hgt] at hfile
      cases hfile
  rw [List.prefix_iff_eq_take.mp habove.isPrefix, List.prefix_iff_eq_take.mp hother.isPrefix,
    hlength]

variable {tree} in
theorem NearestConfig.not_hasNoConfig {directory above : FilePlace}
    (habove : tree.NearestConfig directory above) : ¬tree.HasNoConfig directory := by
  intro hnone
  have hfile := habove.isFile
  rw [hnone above habove.isPrefix] at hfile
  cases hfile

/-- The directory around a file; any other place counts as a directory itself. -/
def directoryOf (place : FilePlace) : FilePlace :=
  if tree.isFile place then place.dropLast else place

/-- The search from a place needs to look where a path is too long. -/
def Unsearchable (place : FilePlace) : Prop :=
  tree.OutOfReach place ∨ tree.OutOfReach (configIn (tree.directoryOf place))

instance (place : FilePlace) : Decidable (tree.Unsearchable place) :=
  inferInstanceAs (Decidable (_ ∨ _))

theorem firstFile_above_of_outOfReach {directory : FilePlace}
    (hout : tree.OutOfReach (configIn directory)) :
    tree.firstFile ((placesAbove directory).map (· ++ [configFileName])) = .error .nameTooLong := by
  obtain ⟨rest, hplaces⟩ : ∃ rest, placesAbove directory = directory :: rest := by
    cases directory using List.reverseRecOn with
    | nil => exact ⟨[], rfl⟩
    | append_singleton place name => exact ⟨_, placesAbove_concat place name⟩
  have hlook := tree.lookUp_eq (configIn directory)
  rw [if_pos hout] at hlook
  rw [hplaces, List.map_cons, firstFile]
  change tree.lookUp (configIn directory) >>= _ = _
  rw [hlook]
  rfl

theorem firstFile_above_of_reach {directory : FilePlace}
    (hin : ¬tree.OutOfReach (configIn directory)) :
    tree.firstFile ((placesAbove directory).map (· ++ [configFileName])) =
      .ok (((placesAbove directory).find? fun above => tree.isFile (configIn above)).map
        configIn) := by
  rw [firstFile_of_reach, List.find?_map]
  · rfl
  · intro place hplace hout
    obtain ⟨above, habove, rfl⟩ := List.mem_map.mp hplace
    exact hin (.below tree (mem_placesAbove_iff.mp habove) hout)

theorem configAbove_eq (place : FilePlace) :
    tree.configAbove place =
      if tree.Unsearchable place then .error .nameTooLong
      else .ok (((placesAbove (tree.directoryOf place)).find? fun above =>
        tree.isFile (configIn above)).map configIn) := by
  rw [configAbove, lookUp_eq]
  by_cases hstart : tree.OutOfReach place
  · rw [if_pos hstart, if_pos (.inl hstart)]
    rfl
  · rw [if_neg hstart, bind_of_eq_ok rfl]
    change tree.firstFile ((placesAbove (tree.directoryOf place)).map _) = _
    by_cases hdirectory : tree.OutOfReach (configIn (tree.directoryOf place))
    · rw [if_pos (.inr hdirectory), tree.firstFile_above_of_outOfReach hdirectory]
    · have hsearch : ¬tree.Unsearchable place := not_or.mpr ⟨hstart, hdirectory⟩
      rw [if_neg hsearch, tree.firstFile_above_of_reach hdirectory]

theorem configAbove_eq_error_iff {place : FilePlace} {fault : Fault} :
    tree.configAbove place = .error fault ↔ tree.Unsearchable place ∧ fault = .nameTooLong := by
  rw [configAbove_eq]
  by_cases hsearch : tree.Unsearchable place
  · simp [hsearch, eq_comm]
  · simp [hsearch]

theorem configAbove_eq_some_iff {place found : FilePlace} :
    tree.configAbove place = .ok (some found) ↔
      ¬tree.Unsearchable place ∧
        ∃ above, tree.NearestConfig (tree.directoryOf place) above ∧ configIn above = found := by
  rw [configAbove_eq]
  by_cases hsearch : tree.Unsearchable place
  · simp [hsearch]
  · rw [if_neg hsearch, Except.ok.injEq, Option.map_eq_some_iff]
    refine (exists_congr fun above => and_congr_left' ?_).trans (and_iff_right hsearch).symm
    rw [find?_placesAbove_eq_some_iff]
    exact ⟨fun ⟨hinitial, hfile, hnearest⟩ => ⟨hinitial, hfile, hnearest⟩,
      fun hnearest => ⟨hnearest.isPrefix, hnearest.isFile, hnearest.nearest⟩⟩

theorem configAbove_eq_none_iff {place : FilePlace} :
    tree.configAbove place = .ok none ↔
      ¬tree.Unsearchable place ∧ tree.HasNoConfig (tree.directoryOf place) := by
  rw [configAbove_eq]
  by_cases hsearch : tree.Unsearchable place
  · simp [hsearch]
  · rw [if_neg hsearch, Except.ok.injEq, Option.map_eq_none_iff, find?_placesAbove_eq_none_iff]
    exact (and_iff_right hsearch).symm

/-! ### Where paths lead -/

theorem foldlM_enter?_eq_some {start place : FilePlace} {segments : List String}
    (hwalk : segments.foldlM tree.enter? start = some place) :
    segments.foldl followSegment start = place := by
  induction segments generalizing start with
  | nil => exact Option.some.inj hwalk
  | cons segment rest ih =>
      obtain ⟨next, hnext, hrest⟩ := Option.bind_eq_some_iff.mp hwalk
      have hfollow : followSegment start segment = next := by
        simp only [enter?] at hnext
        split at hnext
        · exact Option.some.inj hnext
        · cases hnext
      rw [List.foldl_cons, hfollow]
      exact ih hrest

/-- A path to a file leads to the place that its text stands for. -/
theorem content?_place_of_bytesAt? {path : String} {bytes : List UInt8}
    (hbytes : tree.bytesAt? path = some bytes) : tree.content? (tree.place path) = some bytes := by
  obtain ⟨place, hwalk, hcontent⟩ := Option.bind_eq_some_iff.mp hbytes
  unfold walk? at hwalk
  split at hwalk
  · cases hwalk
  · rw [FileTree.place, tree.foldlM_enter?_eq_some hwalk, hcontent]

theorem directoryOf_place_of_bytesAt? {path : String} {bytes : List UInt8}
    (hbytes : tree.bytesAt? path = some bytes) :
    tree.directoryOf (tree.place path) = (tree.place path).dropLast := by
  rw [directoryOf, isFile, tree.content?_place_of_bytesAt? hbytes, Option.isSome_some, if_pos rfl]

theorem place_dot : tree.place "." = tree.workingDirectory := by
  simp [place, pathSegments, splitSegments, startOf, isAbsolute, followSegment, isIdleSegment,
    consFirst]

theorem isDirectory_of_content? {directory : FilePlace} {name : String} {bytes : List UInt8}
    (hcontent : tree.content? (directory ++ [name]) = some bytes) : tree.isDirectory directory := by
  obtain ⟨file, hfind, -⟩ := Option.map_eq_some_iff.mp hcontent
  have hplace : file.1 = directory ++ [name] := by simpa using List.find?_some hfind
  have hbelow : (tree.files.any fun file =>
      directory.isPrefixOf file.1 && decide (directory ≠ file.1)) = true := by
    rw [List.any_eq_true]
    exact ⟨file, List.mem_of_find?_eq_some hfind, by simp [hplace]⟩
  rw [isDirectory, hbelow, Bool.or_true]

/-- A file in the working directory is found by its name. -/
theorem bytesAt?_of_name {name : String} {bytes : List UInt8}
    (hsegments : pathSegments name = [name]) (hrelative : isAbsolute name = false)
    (hproper : isIdleSegment name = false ∧ name ≠ "..") (hshort : name.utf8ByteSize < pathBound)
    (hcontent : tree.content? (tree.workingDirectory ++ [name]) = some bytes) :
    tree.bytesAt? name = some bytes := by
  have hne : name ≠ "" := by
    rintro rfl
    simp [isIdleSegment] at hproper
  have hfollow : followSegment tree.workingDirectory name = tree.workingDirectory ++ [name] := by
    rw [followSegment, hproper.1, if_neg hproper.2]
    rfl
  have henter : tree.enter? tree.workingDirectory name =
      some (tree.workingDirectory ++ [name]) := by
    simp only [enter?, hfollow, tree.isDirectory_of_content? hcontent, isFile, hcontent,
      Option.isSome_some, Bool.true_or, Bool.and_true, if_true]
  have hwalk : tree.walk? name = some (tree.workingDirectory ++ [name]) := by
    rw [walk?, if_neg (not_or.mpr ⟨hne, Nat.not_le_of_lt hshort⟩), hsegments, startOf, hrelative]
    exact (congrArg (· >>= _) henter).trans rfl
  rw [bytesAt?, hwalk, Option.bind_some, hcontent]

theorem ne_empty_of_bytesAt? {path : String} {bytes : List UInt8}
    (hbytes : tree.bytesAt? path = some bytes) : path ≠ "" := by
  rintro rfl
  simp [bytesAt?, walk?] at hbytes

end FileTree

end Diagnostics
