import Diagnostics.Proofs.FileTree.Search

/-!
# The first start with a configuration file

A search asks its starts one after the other and takes the nearest configuration file of the first
one that has any. It comes to nothing if no start has one, and breaks off at a start that the file
system does not answer for, unless an earlier one has a file.
-/

namespace Diagnostics

/-- The paths that a search starts from. -/
def searchStarts (paths : List String) : List String :=
  if paths.isEmpty then ["."] else paths

namespace FileTree

variable (tree : FileTree)

/-- The directory from which the search for a start goes up. -/
def startDirectory (start : String) : FilePlace :=
  tree.directoryOf (tree.place start)

/-- What keeps the search from looking above a start. -/
def startFault? (start : String) : Option Fault :=
  if hasNull start then some .nullInPath
  else if tree.Unsearchable (tree.place start) then some .nameTooLong
  else none

/-- There is nothing at or above the start, and nothing keeps the search from finding this out. -/
structure PassesBy (start : String) : Prop where
  searchable : tree.startFault? start = none
  nothing : tree.HasNoConfig (tree.startDirectory start)

/-- The starts are passed by up to `start`, which comes next. -/
def ComesTo (starts : List String) (start : String) : Prop :=
  ∃ front back, starts = front ++ start :: back ∧ ∀ earlier ∈ front, tree.PassesBy earlier

/-! ### One start -/

/-- What the search from one start yields. -/
def configFrom (start : String) : Except Fault (Option FilePlace) :=
  tree.resolve start >>= tree.configAbove

theorem configFrom_eq (start : String) :
    tree.configFrom start =
      if hasNull start then .error .nullInPath else tree.configAbove (tree.place start) := by
  rw [configFrom, resolve]
  split <;> rfl

theorem configFrom_eq_error_iff {start : String} {fault : Fault} :
    tree.configFrom start = .error fault ↔ tree.startFault? start = some fault := by
  rw [configFrom_eq, startFault?]
  by_cases hnull : hasNull start
  · simp [hnull]
  · rw [if_neg hnull, if_neg hnull, configAbove_eq_error_iff]
    by_cases hsearch : tree.Unsearchable (tree.place start)
    · simp [hsearch, eq_comm]
    · simp [hsearch]

theorem startFault?_eq_none_iff {start : String} :
    tree.startFault? start = none ↔
      hasNull start = false ∧ ¬tree.Unsearchable (tree.place start) := by
  rw [startFault?]
  by_cases hnull : hasNull start
  · simp [hnull]
  · by_cases hsearch : tree.Unsearchable (tree.place start) <;> simp [hnull, hsearch]

theorem configFrom_eq_some_iff {start : String} {found : FilePlace} :
    tree.configFrom start = .ok (some found) ↔
      tree.startFault? start = none ∧
        ∃ above, tree.NearestConfig (tree.startDirectory start) above ∧ configIn above = found := by
  rw [configFrom_eq, startFault?_eq_none_iff]
  by_cases hnull : hasNull start
  · simp [hnull]
  · rw [if_neg hnull, configAbove_eq_some_iff]
    exact and_congr_left' (and_iff_right (Bool.eq_false_iff.mpr hnull)).symm

theorem configFrom_eq_none_iff {start : String} :
    tree.configFrom start = .ok none ↔ tree.PassesBy start := by
  have hpasses : tree.PassesBy start ↔
      tree.startFault? start = none ∧ tree.HasNoConfig (tree.startDirectory start) :=
    ⟨fun hpasses => ⟨hpasses.searchable, hpasses.nothing⟩, fun ⟨hfault, hnone⟩ => ⟨hfault, hnone⟩⟩
  rw [hpasses, configFrom_eq, startFault?_eq_none_iff]
  by_cases hnull : hasNull start
  · simp [hnull]
  · rw [if_neg hnull, configAbove_eq_none_iff]
    exact and_congr_left' (and_iff_right (Bool.eq_false_iff.mpr hnull)).symm

/-! ### All starts -/

theorem findConfig_cons_eq (start : String) (rest : List String) :
    tree.findConfig (start :: rest) =
      tree.configFrom start >>= fun found =>
        match found with
        | some place => pure (some place)
        | none => tree.findConfig rest :=
  (bind_assoc (tree.resolve start) tree.configAbove _).symm

theorem findConfig_of_passesBy {start : String} (hpasses : tree.PassesBy start)
    (rest : List String) : tree.findConfig (start :: rest) = tree.findConfig rest := by
  rw [findConfig_cons_eq, bind_of_eq_ok (tree.configFrom_eq_none_iff.mpr hpasses)]

/-- A start that is not passed by decides the search. -/
theorem findConfig_of_not_passesBy {start : String} (hpasses : ¬tree.PassesBy start)
    (rest : List String) : tree.findConfig (start :: rest) = tree.configFrom start := by
  rw [← configFrom_eq_none_iff] at hpasses
  rw [findConfig_cons_eq]
  cases hfrom : tree.configFrom start with
  | error fault => rfl
  | ok found =>
      cases found with
      | none => exact absurd hfrom hpasses
      | some place => rfl

variable {tree} in
theorem comesTo_cons_iff {first start : String} {rest : List String} :
    tree.ComesTo (first :: rest) start ↔
      start = first ∨ tree.PassesBy first ∧ tree.ComesTo rest start := by
  constructor
  · rintro ⟨front, back, hstarts, hfront⟩
    cases front with
    | nil => exact .inl (List.cons.inj hstarts).1.symm
    | cons earlier front =>
        obtain ⟨rfl, hrest⟩ := List.cons.inj hstarts
        obtain ⟨hfirst, hothers⟩ := List.forall_mem_cons.mp hfront
        exact .inr ⟨hfirst, front, back, hrest, hothers⟩
  · rintro (rfl | ⟨hfirst, front, back, rfl, hfront⟩)
    · exact ⟨[], rest, rfl, List.forall_mem_nil _⟩
    · exact ⟨first :: front, back, rfl, List.forall_mem_cons.mpr ⟨hfirst, hfront⟩⟩

/-- What is not nothing comes from the first start that is not passed by. -/
theorem findConfig_eq_iff {starts : List String} {result : Except Fault (Option FilePlace)}
    (hresult : result ≠ .ok none) :
    tree.findConfig starts = result ↔
      ∃ start, tree.ComesTo starts start ∧ tree.configFrom start = result := by
  induction starts with
  | nil =>
      refine iff_of_false (fun hnone => hresult hnone.symm) ?_
      rintro ⟨start, ⟨front, back, hstarts, -⟩, -⟩
      simp at hstarts
  | cons first rest ih =>
      simp only [comesTo_cons_iff, or_and_right, exists_or, exists_eq_left]
      by_cases hfirst : tree.PassesBy first
      · have hnone := tree.configFrom_eq_none_iff.mpr hfirst
        rw [tree.findConfig_of_passesBy hfirst, ih, hnone]
        simp [hfirst, hresult.symm]
      · rw [tree.findConfig_of_not_passesBy hfirst]
        simp [hfirst]

theorem findConfig_eq_none_iff {starts : List String} :
    tree.findConfig starts = .ok none ↔ ∀ start ∈ starts, tree.PassesBy start := by
  induction starts with
  | nil => simp [findConfig]
  | cons first rest ih =>
      rw [List.forall_mem_cons]
      by_cases hfirst : tree.PassesBy first
      · rw [tree.findConfig_of_passesBy hfirst, ih]
        exact (and_iff_right hfirst).symm
      · rw [tree.findConfig_of_not_passesBy hfirst, configFrom_eq_none_iff]
        exact iff_of_false hfirst fun hall => hfirst hall.1

theorem searchConfig_eq (paths : List String) :
    tree.searchConfig paths =
      match tree.findConfig (searchStarts paths) with
      | .ok (some place) => .ok place
      | .ok none => .error (.reported .notFound)
      | .error fault => .error (.abrupt fault) := rfl

theorem searchConfig_eq_ok_iff {paths : List String} {file : FilePlace} :
    tree.searchConfig paths = .ok file ↔
      tree.findConfig (searchStarts paths) = .ok (some file) := by
  rw [searchConfig_eq]
  cases tree.findConfig (searchStarts paths) with
  | error fault => simp
  | ok found => cases found <;> simp

theorem searchConfig_eq_notFound_iff {paths : List String} :
    tree.searchConfig paths = .error (.reported .notFound) ↔
      tree.findConfig (searchStarts paths) = .ok none := by
  rw [searchConfig_eq]
  cases tree.findConfig (searchStarts paths) with
  | error fault => simp
  | ok found => cases found <;> simp

theorem searchConfig_eq_abrupt_iff {paths : List String} {fault : Fault} :
    tree.searchConfig paths = .error (.abrupt fault) ↔
      tree.findConfig (searchStarts paths) = .error fault := by
  rw [searchConfig_eq]
  cases tree.findConfig (searchStarts paths) with
  | error fault => simp
  | ok found => cases found <;> simp

/-- The search for a configuration file answers for its starts in their order. -/
structure AnswersInOrder (paths : List String) : Prop where
  /-- Without paths the search starts from the working directory. -/
  here : ∀ start ∈ searchStarts [], tree.place start = tree.workingDirectory
  /-- A start that exists stands for what a walk along it comes to. -/
  existing : ∀ start place, tree.walk? start = some place → tree.place start = place
  found : ∀ file, tree.searchConfig paths = .ok file ↔
    ∃ start above, tree.ComesTo (searchStarts paths) start ∧ tree.startFault? start = none ∧
      tree.NearestConfig (tree.startDirectory start) above ∧ configIn above = file
  notFound : tree.searchConfig paths = .error (.reported .notFound) ↔
    ∀ start ∈ searchStarts paths, tree.PassesBy start
  broken : ∀ fault, tree.searchConfig paths = .error (.abrupt fault) ↔
    ∃ start, tree.ComesTo (searchStarts paths) start ∧ tree.startFault? start = some fault
  /-- Where no file is a directory, no directory is found. -/
  notDirectory : (∀ place, tree.isFile place → tree.isDirectory place = false) →
    ∀ file, tree.searchConfig paths = .ok file → tree.isDirectory file = false

theorem place_of_walk? {start : String} {place : FilePlace}
    (hwalk : tree.walk? start = some place) : tree.place start = place := by
  unfold walk? at hwalk
  split at hwalk
  · cases hwalk
  · exact tree.foldlM_enter?_eq_some hwalk

theorem found_iff {paths : List String} {file : FilePlace} :
    tree.searchConfig paths = .ok file ↔
      ∃ start above, tree.ComesTo (searchStarts paths) start ∧ tree.startFault? start = none ∧
        tree.NearestConfig (tree.startDirectory start) above ∧ configIn above = file := by
  rw [searchConfig_eq_ok_iff, findConfig_eq_iff _ (by simp)]
  simp only [configFrom_eq_some_iff, exists_and_left]

theorem searchConfig_answersInOrder (paths : List String) : tree.AnswersInOrder paths where
  here := List.forall_mem_singleton.mpr tree.place_dot
  existing _ _ := tree.place_of_walk?
  found _ := tree.found_iff
  notFound := tree.searchConfig_eq_notFound_iff.trans tree.findConfig_eq_none_iff
  broken fault := by
    rw [searchConfig_eq_abrupt_iff, findConfig_eq_iff _ (by simp)]
    simp only [configFrom_eq_error_iff]
  notDirectory happart file hfound := by
    obtain ⟨_, above, -, -, hnearest, rfl⟩ := tree.found_iff.mp hfound
    exact happart _ hnearest.isFile

end FileTree

/-! ### A name that is too long -/

theorem splitSegments_of_not_mem {text : List Char} (htext : '/' ∉ text) :
    splitSegments text = [text] := by
  induction text with
  | nil => rfl
  | cons c rest ih =>
      obtain ⟨hc, hrest⟩ := not_or.mp (mt List.mem_cons.mpr htext)
      rw [splitSegments, if_neg (Ne.symm hc), ih hrest]
      rfl

theorem pathSegments_of_not_mem {path : String} (hpath : '/' ∉ path.toList) :
    pathSegments path = [path] := by
  rw [pathSegments, splitSegments_of_not_mem hpath, List.map_singleton, String.ofList_toList]

/-- The segments that lead nowhere or upwards have at most two bytes. -/
theorem followSegment_of_long (place : FilePlace) {segment : String}
    (hlong : 2 < segment.utf8ByteSize) : followSegment place segment = place ++ [segment] := by
  have hsizes : ∀ short ∈ ["", ".", ".."], short.utf8ByteSize ≤ 2 := by decide +kernel
  have hne : ∀ short ∈ ["", ".", ".."], segment ≠ short := by
    rintro short hshort rfl
    exact absurd (hsizes _ hshort) (Nat.not_le.mpr hlong)
  have hidle : isIdleSegment segment = false := by
    simp [isIdleSegment, hne]
  rw [followSegment, if_neg (by simp [hidle]), if_neg (hne ".." (by simp))]

/-- A name of one byte more than there may be. -/
def overlongName : String :=
  String.ofList (List.replicate (nameLimit + 1) 'd')

def overlongTree : FileTree where
  files := [([configFileName], [])]

theorem eq_of_mem_overlongName {c : Char} (hc : c ∈ overlongName.toList) : c = 'd' := by
  have hname : overlongName.toList = List.replicate (nameLimit + 1) 'd' := String.toList_ofList
  rw [hname] at hc
  exact List.eq_of_mem_replicate hc

theorem nameLimit_lt_overlongName : nameLimit < overlongName.utf8ByteSize :=
  Nat.lt_of_lt_of_eq (Nat.lt_succ_self _) (utf8ByteSize_replicate _).symm

theorem place_overlongName : overlongTree.place overlongName = [overlongName] := by
  have hslash : '/' ∉ overlongName.toList := fun hmem =>
    absurd (eq_of_mem_overlongName hmem) (by decide)
  have hstart : overlongTree.startOf overlongName = [] := ite_self _
  rw [FileTree.place, pathSegments_of_not_mem hslash, hstart, List.foldl_cons,
    followSegment_of_long _ (Nat.lt_trans (by decide) nameLimit_lt_overlongName)]
  rfl

theorem isFile_overlongTree {place : FilePlace} (hne : place ≠ [configFileName]) :
    overlongTree.isFile place = false := by
  simp [FileTree.isFile, FileTree.content?, overlongTree, hne.symm]

theorem startDirectory_overlongName :
    overlongTree.startDirectory overlongName = [overlongName] := by
  have hne : [overlongName] ≠ [configFileName] := by
    intro hsame
    have hlong := nameLimit_lt_overlongName
    rw [(List.cons.inj hsame).1] at hlong
    exact absurd hlong (by decide)
  rw [FileTree.startDirectory, place_overlongName, FileTree.directoryOf, isFile_overlongTree hne]
  rfl

theorem startFault?_overlongName :
    overlongTree.startFault? overlongName = some .nameTooLong := by
  have hnull : ¬hasNull overlongName := by
    rw [hasNull, List.contains_iff_mem]
    exact fun hmem => absurd (eq_of_mem_overlongName hmem) (by decide)
  have hmeets : overlongTree.meetsLongName [overlongName] := by
    simp [FileTree.meetsLongName, FileTree.isDirectory, Nat.not_le.mpr nameLimit_lt_overlongName]
  rw [FileTree.startFault?, if_neg hnull, place_overlongName, if_pos (.inl (.inr hmeets))]

/-- There is a file above the start, and still it is not found. -/
theorem searchConfig_overlongName :
    overlongTree.NearestConfig (overlongTree.startDirectory overlongName) [] ∧
      overlongTree.searchConfig [overlongName] = .error (.abrupt .nameTooLong) := by
  have hfrom := overlongTree.configFrom_eq_error_iff.mpr startFault?_overlongName
  constructor
  · rw [startDirectory_overlongName]
    refine ⟨List.nil_prefix, by decide, fun nearer hnearer hlt => ?_⟩
    rw [hnearer.eq_of_length_le hlt]
    exact isFile_overlongTree (by simp [configIn])
  · rw [FileTree.searchConfig_eq_abrupt_iff, FileTree.findConfig_eq_iff _ (by simp)]
    exact ⟨overlongName, FileTree.comesTo_cons_iff.mpr (.inl rfl), hfrom⟩

end Diagnostics
