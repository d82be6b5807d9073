import Stencil.Files.Tree

set_option autoImplicit false

namespace Stencil

namespace Path

/-- A text stands as a segment between slashes, or between a slash and an end of the path. -/
def HasSegment (path segment : Text) : Prop :=
  '/' :: (segment ++ ['/']) <:+: '/' :: (path ++ ['/'])

theorem segments_ne_nil (path : Text) : segments path ≠ [] := List.splitOn_ne_nil '/' path

theorem segments_append (before behind : Text) :
    segments (before ++ '/' :: behind) = segments before ++ segments behind :=
  List.splitOn_append_cons_self before behind

theorem segments_of_not_mem {segment : Text} (single : '/' ∉ segment) :
    segments segment = [segment] :=
  List.splitOn_eq_singleton single

theorem hasSegment_of_mem {path segment : Text} (member : segment ∈ segments path) :
    HasSegment path segment := by
  by_cases slash : '/' ∈ path
  · obtain ⟨before, behind, rfl, single⟩ := List.eq_append_cons_of_mem slash
    rw [segments_append, segments_of_not_mem single, List.mem_append, List.mem_singleton] at member
    rcases member with rfl | member
    · exact ⟨[], behind ++ ['/'], by simp⟩
    · have length : behind.length < (before ++ '/' :: behind).length := by
        simp only [List.length_append, List.length_cons]
        omega
      obtain ⟨front, rest, whole⟩ := hasSegment_of_mem member
      exact ⟨'/' :: before ++ front, rest, by simp [← whole]⟩
  · rw [segments_of_not_mem slash, List.mem_singleton] at member
    rw [member]
    exact ⟨[], [], by simp⟩
termination_by path.length

theorem mem_segments_iff {path segment : Text} (single : '/' ∉ segment) :
    segment ∈ segments path ↔ HasSegment path segment := by
  refine ⟨hasSegment_of_mem, ?_⟩
  rintro ⟨before, behind, whole⟩
  -- Split at its slashes, the padded path has an empty segment at either end.
  have padded : segments before ++ segment :: segments behind = [] :: (segments path ++ [[]]) := by
    calc
      _ = segments (before ++ '/' :: (segment ++ '/' :: behind)) := by
        rw [segments_append, segments_append, segments_of_not_mem single, List.singleton_append]
      _ = segments ('/' :: (path ++ ['/'])) := by
        rw [← whole]
        simp
      _ = [] :: (segments path ++ [[]]) := by
        have front := segments_append [] (path ++ ['/'])
        rw [List.nil_append, segments_append] at front
        exact front
  obtain ⟨first, front, split⟩ := List.exists_cons_of_ne_nil (segments_ne_nil before)
  rw [split, List.cons_append, List.cons.injEq] at padded
  have inner : (front ++ segment :: segments behind).dropLast = segments path := by
    rw [padded.2, List.dropLast_concat]
  rw [← inner, List.dropLast_append_of_ne_nil (by simp),
    List.dropLast_cons_of_ne_nil (segments_ne_nil behind)]
  simp

theorem staysBelow_iff_segments {path : Text} :
    staysBelow path = true ↔ isAbsolute path = false ∧ ['.', '.'] ∉ segments path := by
  have steps : ((segments path).filterMap component?).all Component.staysBelow = true ↔
      ['.', '.'] ∉ segments path := by
    simp only [List.all_eq_true, List.mem_filterMap]
    constructor
    · intro below member
      exact absurd (below .up ⟨_, member, rfl⟩) (by decide)
    · rintro absent step ⟨segment, member, found⟩
      have other : segment ≠ ['.', '.'] := fun same => absent (same ▸ member)
      simp only [component?, other, ↓reduceIte] at found
      split at found <;> cases found
      rfl
  cases absolute : isAbsolute path with
  | true => simp [staysBelow, components, absolute, Component.staysBelow]
  | false =>
      simp only [staysBelow, components, absolute, Bool.false_eq_true, ↓reduceIte, true_and,
        ← steps]
      split <;> simp [Component.staysBelow]

theorem staysBelow_iff {path : Text} :
    staysBelow path = true ↔ ¬ ['/'] <+: path ∧ ¬ HasSegment path ['.', '.'] := by
  have absolute : isAbsolute path = false ↔ ¬ ['/'] <+: path := by
    cases path <;> simp [isAbsolute, eq_comm]
  rw [staysBelow_iff_segments, absolute, mem_segments_iff (by decide)]

end Path

namespace Tree

variable {here : List (Text × Item)} {above other : List (List (Text × Item))}

/-- The place that segments lead to, through directories only. -/
def walk : Place → List Text → Option Place
  | place, [] => some place
  | place, name :: names =>
      if Path.isIdle name then walk place names
      else if name = ['.', '.'] then walk place.up names
      else if maxName < Utf8.size name then none
      else
        match place.find? name with
        | some (.directory entries) => walk (place.enter entries) names
        | _ => none

def start (tree : Tree) (path : Text) : Place :=
  if Path.isAbsolute path then .outside else .inside tree.entries []

def Place.entries? : Place → Option (List (Text × Item))
  | inside here _ => some here
  | outside => none

/-- The entries of the directory that a path leads to. -/
def directory? (tree : Tree) (path : Text) : Option (List (Text × Item)) :=
  (walk (tree.start path) (Path.segments path)).bind Place.entries?

def fileAt (place : Place) (names : List Text) : Option (List UInt8) :=
  (follow place names).toOption.join

def file? (tree : Tree) (path : Text) : Option (List UInt8) := (tree.resolve path).toOption.join

theorem fileAt_append (place : Place) {names more : List Text} (behind : more ≠ []) :
    fileAt place (names ++ more) = (walk place names).bind fun there => fileAt there more := by
  induction names generalizing place with
  | nil => rfl
  | cons name names ih =>
      have last : names ++ more ≠ [] := by simp [behind]
      simp only [fileAt, List.cons_append, follow, walk]
      split
      · exact ih place
      · split
        · exact ih place.up
        · split
          · rfl
          · cases place.find? name with
            | none => rfl
            | some item =>
                cases item with
                | directory entries => exact ih _
                | file bytes => rfl

theorem fileAt_nil_cons (place : Place) (names : List Text) :
    fileAt place ([] :: names) = fileAt place names := by
  simp [fileAt, follow, Path.isIdle]

theorem fileAt_outside (names : List Text) : fileAt .outside names = none := by
  induction names with
  | nil => rfl
  | cons name names ih =>
      simp only [fileAt, follow, Place.up, Place.find?]
      split
      · exact ih
      · split
        · exact ih
        · split <;> rfl

/-- Without a step up it does not matter what a directory is in. -/
theorem fileAt_inside {names : List Text} (below : ['.', '.'] ∉ names) :
    fileAt (.inside here above) names = fileAt (.inside here other) names := by
  induction names generalizing here above other with
  | nil => rfl
  | cons name names ih =>
      simp only [List.mem_cons, not_or] at below
      simp only [fileAt, follow, Ne.symm below.1, ↓reduceIte, Place.find?, Place.enter]
      split
      · exact ih below.2
      · split
        · rfl
        · split
          · rfl
          · exact ih below.2
          · rfl

theorem start_append (tree : Tree) {front : Text} (nonempty : front ≠ []) (behind : Text) :
    tree.start (front ++ behind) = tree.start front := by
  obtain ⟨first, more, rfl⟩ := List.exists_cons_of_ne_nil nonempty
  rfl

/-- Read against a directory, a path goes on from the segments of the directory. -/
theorem fileAt_segments_join (tree : Tree) (directory : Text) {path : Text}
    (relative : Path.isAbsolute path = false) :
    fileAt (tree.start (Path.join directory path)) (Path.segments (Path.join directory path)) =
      fileAt (tree.start directory) (Path.segments directory ++ Path.segments path) := by
  by_cases empty : directory = []
  · have front : Path.segments [] ++ Path.segments path = [] :: Path.segments path := rfl
    rw [empty, front, fileAt_nil_cons]
    simp only [Path.join, List.isEmpty_nil, Bool.or_true, ↓reduceIte, start, relative]
    rfl
  · have read : Path.join directory path =
        if directory.getLast? = some '/' then directory ++ path else directory ++ '/' :: path := by
      simp [Path.join, relative, empty]
    rw [read]
    split
    · rename_i slash
      obtain ⟨front, rfl⟩ := List.getLast?_eq_some_iff.1 slash
      have nothing : Path.segments [] = [[]] := rfl
      rw [start_append tree empty, List.append_assoc, List.singleton_append, Path.segments_append,
        Path.segments_append, nothing, List.append_assoc, List.singleton_append,
        fileAt_append _ (Path.segments_ne_nil path), fileAt_append _ (by simp)]
      simp only [fileAt_nil_cons]
    · rw [start_append tree empty, Path.segments_append]

/-- What a path that stays below leads to is decided by the entries of the directory. -/
theorem fileAt_join (tree : Tree) (directory : Text) {path : Text}
    (below : Path.staysBelow path = true) :
    fileAt (tree.start (Path.join directory path)) (Path.segments (Path.join directory path)) =
      (tree.directory? directory).bind fun here =>
        fileAt (.inside here []) (Path.segments path) := by
  obtain ⟨relative, descending⟩ := Path.staysBelow_iff_segments.1 below
  rw [fileAt_segments_join tree directory relative, fileAt_append _ (Path.segments_ne_nil path),
    directory?]
  cases walk (tree.start directory) (Path.segments directory) with
  | none => rfl
  | some place =>
      cases place with
      | outside => exact fileAt_outside _
      | inside here above => exact fileAt_inside descending

theorem file?_join {first second : Tree} {directory : Text}
    (same : first.directory? directory = second.directory? directory) {path : Text}
    (below : Path.staysBelow path = true) :
    first.file? (Path.join directory path) = second.file? (Path.join directory path) := by
  have reached := fileAt_join first directory below
  rw [same, ← fileAt_join second directory below] at reached
  simp only [file?, resolve]
  split
  · rfl
  · split
    · rfl
    · split
      · rfl
      · exact reached

theorem files_isFile (tree : Tree) (path : Text) :
    tree.files.isFile path = (tree.file? path).isSome := by
  simp only [files, file?]
  rcases tree.resolve path with error | _ | bytes <;> rfl

theorem files_read {tree : Tree} {path : Text} {bytes : List UInt8}
    (there : tree.file? path = some bytes) : tree.files.read path = .ok bytes := by
  simp only [file?] at there
  simp only [files]
  rcases found : tree.resolve path with error | _ | bytes <;> rw [found] at there <;> cases there
  rfl

end Tree

namespace Files

/-- Two states of the file system have the same files below a directory, whatever else they hold. -/
def AgreeBelow (directory : Text) (first second : Files) : Prop :=
  ∀ path, ¬ ['/'] <+: path → ¬ Path.HasSegment path ['.', '.'] →
    first.isFile (Path.join directory path) = second.isFile (Path.join directory path) ∧
      (first.isFile (Path.join directory path) = true →
        first.read (Path.join directory path) = second.read (Path.join directory path))

theorem agreeBelow_of_directory? {first second : Tree} {directory : Text}
    (same : first.directory? directory = second.directory? directory) :
    AgreeBelow directory first.files second.files := by
  intro path relative descending
  have found := Tree.file?_join same (Path.staysBelow_iff.2 ⟨relative, descending⟩)
  rw [Tree.files_isFile, Tree.files_isFile, found]
  refine ⟨rfl, fun there => ?_⟩
  obtain ⟨bytes, there⟩ := Option.isSome_iff_exists.1 there
  rw [Tree.files_read there, Tree.files_read (found.trans there)]

end Files

end Stencil
