import SqlDesk.ResultSet.Export

/-! Saving in trees that differ in some files. What becomes of a save depends on directories, and on
files only where its path leads past them; and it changes at most the file that its path leads to. So
trees that agree outside of some locations go on to do so, whatever is saved there or kept away. -/

set_option autoImplicit false

namespace SqlDesk

namespace FileTree

/-- The locations that a walk comes past, up to its end or to where it fails. -/
def walk (tree : FileTree) (here : Location) : List String → List Location
  | [] => [here]
  | name :: rest => here :: match tree.step here name with
    | .ok next => tree.walk next rest
    | .error _ => []

/-- The locations that a path leads past, and the one it leads to. -/
def way (tree : FileTree) (path : String) : List Location :=
  tree.walk (if isAbsolute path then [] else tree.workingDirectory) (pieces path)

/-- Trees with the same directories that agree in all files but those at some locations. -/
structure Agrees (foreign : Location → Prop) (left right : FileTree) : Prop where
  workingDirectory : left.workingDirectory = right.workingDirectory
  directories : left.directories = right.directories
  files : ∀ location, ¬ foreign location → left.contentAt? location = right.contentAt? location

namespace Agrees

variable {foreign : Location → Prop} {left right : FileTree}

theorem refl (foreign : Location → Prop) (tree : FileTree) : Agrees foreign tree tree :=
  ⟨rfl, rfl, fun _ _ => rfl⟩

theorem symm (agrees : Agrees foreign left right) : Agrees foreign right left :=
  ⟨agrees.workingDirectory.symm, agrees.directories.symm,
    fun location own => (agrees.files location own).symm⟩

theorem trans {third : FileTree} (first : Agrees foreign left right)
    (second : Agrees foreign right third) : Agrees foreign left third where
  workingDirectory := first.workingDirectory.trans second.workingDirectory
  directories := first.directories.trans second.directories
  files location own := (first.files location own).trans (second.files location own)

theorem isDirectoryAt (agrees : Agrees foreign left right) (location : Location) :
    left.isDirectoryAt location = right.isDirectoryAt location := by
  rw [FileTree.isDirectoryAt, FileTree.isDirectoryAt, agrees.directories]

theorem step_eq_ok_iff (agrees : Agrees foreign left right) {here next : Location} {name : String} :
    left.step here name = .ok next ↔ right.step here name = .ok next := by
  unfold FileTree.step
  rw [agrees.isDirectoryAt]
  split <;> simp only [reduceCtorEq]

theorem step (agrees : Agrees foreign left right) {here : Location} (own : ¬ foreign here)
    (name : String) : left.step here name = right.step here name := by
  unfold FileTree.step
  rw [agrees.isDirectoryAt, agrees.files here own]

theorem walk (agrees : Agrees foreign left right) (here : Location) (names : List String) :
    left.walk here names = right.walk here names := by
  induction names generalizing here with
  | nil => rfl
  | cons name rest ih =>
    simp only [FileTree.walk]
    congr 1
    cases leads : left.step here name with
    | ok next => simp only [agrees.step_eq_ok_iff.mp leads, ih]
    | error error =>
      cases other : right.step here name with
      | ok next => rw [agrees.step_eq_ok_iff.mpr other] at leads; cases leads
      | error error => rfl

theorem way (agrees : Agrees foreign left right) (path : String) : left.way path = right.way path := by
  rw [FileTree.way, FileTree.way, agrees.workingDirectory, agrees.walk]

theorem foldlM_eq_ok_iff (agrees : Agrees foreign left right) {here location : Location}
    {names : List String} : names.foldlM left.step here = .ok location ↔
      names.foldlM right.step here = .ok location := by
  induction names generalizing here with
  | nil => rfl
  | cons name rest ih =>
    rw [List.foldlM_cons, List.foldlM_cons]
    cases leads : left.step here name with
    | ok next =>
      rw [agrees.step_eq_ok_iff.mp leads]
      exact ih
    | error error =>
      cases other : right.step here name with
      | ok next =>
        rw [agrees.step_eq_ok_iff.mpr other] at leads
        cases leads
      | error error => exact iff_of_false nofun nofun

theorem foldlM (agrees : Agrees foreign left right) {here : Location} {names : List String}
    (own : ∀ location ∈ left.walk here names, ¬ foreign location) :
    names.foldlM left.step here = names.foldlM right.step here := by
  induction names generalizing here with
  | nil => rfl
  | cons name rest ih =>
    rw [List.foldlM_cons, List.foldlM_cons, ← agrees.step (own here List.mem_cons_self) name]
    cases leads : left.step here name with
    | error error => rfl
    | ok next =>
      refine ih fun location member => own location (List.mem_cons_of_mem _ ?_)
      rw [leads]
      exact member

theorem resolve_eq_ok_iff (agrees : Agrees foreign left right) {path : String} {location : Location} :
    left.resolve path = .ok location ↔ right.resolve path = .ok location := by
  unfold resolve
  rw [agrees.workingDirectory]
  split
  · simp only [reduceCtorEq]
  · split
    · simp only [reduceCtorEq]
    · split
      · simp only [reduceCtorEq]
      · exact agrees.foldlM_eq_ok_iff

theorem writable (agrees : Agrees foreign left right) {path : String}
    (own : ∀ location ∈ left.way path, ¬ foreign location) :
    left.writable path = right.writable path := by
  have resolved : left.resolve path = right.resolve path := by
    unfold resolve
    rw [agrees.foldlM own, agrees.workingDirectory]
  unfold FileTree.writable
  rw [resolved]
  cases right.resolve path with
  | error error => rfl
  | ok location =>
    change (if (left.isDirectoryAt location || _) = true then _ else _) = _
    rw [agrees.isDirectoryAt]
    rfl

end Agrees

theorem resolve_of_writable (tree : FileTree) {path : String} {location : Location}
    (leads : tree.writable path = .ok location) : tree.resolve path = .ok location := by
  unfold writable at leads
  cases resolved : tree.resolve path with
  | error error =>
    rw [resolved] at leads
    cases leads
  | ok found =>
    rw [resolved] at leads
    change (if (tree.isDirectoryAt found || endsWithSlash path) = true then
      Except.error FileError.isDirectory else .ok found) = .ok location at leads
    split at leads
    · cases leads
    · exact leads

theorem contentAt?_setFile (tree : FileTree) (location other : Location) (content : Bytes) :
    (tree.setFile location content).contentAt? other =
      if other = location then some content else tree.contentAt? other := by
  rw [contentAt?, setFile, List.lookup_append]
  by_cases same : other = location
  · subst same
    have gone : (tree.files.filter (·.1 ≠ other)).lookup other = none := by
      rw [List.lookup_eq_none_iff]
      intro file member
      have apart : file.1 ≠ other := by simpa using (List.mem_filter.mp member).2
      exact bne_iff_ne.mpr apart.symm
    rw [gone]
    simp
  · have kept (files : List (Location × Bytes)) :
        (files.filter (·.1 ≠ location)).lookup other = files.lookup other := by
      induction files with
      | nil => rfl
      | cons file rest ih =>
        obtain ⟨name, bytes⟩ := file
        by_cases here : name = location
        · have passed : (other == name) = false := by simp [here, same]
          rw [List.filter_cons_of_neg (by simp [here]), ih, List.lookup_cons, passed]
        · rw [List.filter_cons_of_pos (by simp [here]), List.lookup_cons, List.lookup_cons, ih]
    have passed : (other == location) = false := by simp [same]
    rw [kept, if_neg same, List.lookup_cons, passed]
    exact Option.or_none

namespace Agrees

variable {foreign : Location → Prop} {left right : FileTree}

theorem setFile (agrees : Agrees foreign left right) (location : Location) (content : Bytes) :
    Agrees foreign (left.setFile location content) (right.setFile location content) where
  workingDirectory := agrees.workingDirectory
  directories := agrees.directories
  files other own := by rw [contentAt?_setFile, contentAt?_setFile, agrees.files other own]

theorem of_foreign (tree : FileTree) {location : Location} (elsewhere : foreign location)
    (content : Bytes) : Agrees foreign tree (tree.setFile location content) where
  workingDirectory := rfl
  directories := rfl
  files other own := by
    have apart : other ≠ location := fun same => own (same ▸ elsewhere)
    rw [contentAt?_setFile, if_neg apart]

end Agrees

end FileTree

namespace Export

variable {foreign : Location → Prop}

theorem write_of_writable {tree : FileTree} (result : ResultSet) {request : SaveRequest}
    {rows columns : Nat × Nat} (rowsFit : rowRange request result.rowCount = .ok rows)
    (columnsFit : columnRange request result.columns.length = .ok columns) :
    write tree result request = match tree.writable request.path with
      | .error error => (tree, .error (.file error))
      | .ok location => (tree.setFile location (content result request rows columns).1,
          (content result request rows columns).2) := by
  cases leads : tree.writable request.path <;> simp only [write, rowsFit, columnsFit, leads]

/-- A save to an own place has the same outcome in trees that agree, and they agree afterwards. -/
theorem write_own {left right : FileTree} (agrees : left.Agrees foreign right) (result : ResultSet)
    {request : SaveRequest} (own : ∀ location ∈ left.way request.path, ¬ foreign location) :
    (write left result request).2 = (write right result request).2 ∧
      (write left result request).1.Agrees foreign (write right result request).1 := by
  cases rowsFit : rowRange request result.rowCount with
  | error error =>
    simp only [write, rowsFit]
    exact ⟨trivial, agrees⟩
  | ok rows =>
    cases columnsFit : columnRange request result.columns.length with
    | error error =>
      simp only [write, rowsFit, columnsFit]
      exact ⟨trivial, agrees⟩
    | ok columns =>
      rw [write_of_writable result rowsFit columnsFit, write_of_writable result rowsFit columnsFit,
        ← agrees.writable own]
      cases left.writable request.path with
      | error error => exact ⟨rfl, agrees⟩
      | ok location => exact ⟨rfl, agrees.setFile location _⟩

theorem write_foreign (tree : FileTree) (result : ResultSet) {request : SaveRequest}
    (elsewhere : ∀ location, tree.resolve request.path = .ok location → foreign location) :
    tree.Agrees foreign (write tree result request).1 := by
  cases rowsFit : rowRange request result.rowCount with
  | error error =>
    simp only [write, rowsFit]
    exact .refl foreign tree
  | ok rows =>
    cases columnsFit : columnRange request result.columns.length with
    | error error =>
      simp only [write, rowsFit, columnsFit]
      exact .refl foreign tree
    | ok columns =>
      rw [write_of_writable result rowsFit columnsFit]
      cases leads : tree.writable request.path with
      | error error => exact .refl foreign tree
      | ok location => exact .of_foreign tree (elsewhere location (tree.resolve_of_writable leads)) _

end Export

end SqlDesk
