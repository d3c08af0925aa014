import EventBus.Error.Io

/-!
# Trees of files

What a path leads to in a tree of directories, files and links. A path is walked name by name. Each step
starts from a directory, also a step that stays where it is, so that nothing lies below a file: not even
the file itself after one more slash (`step_of_file`). The parent of the root is the root
(`step_parent_root`).
-/

namespace EventBus.Trial

/-- A place in a tree: the names on the way to it from the root. -/
abbrev Place := List String

/-- A tree of directories, files and links. -/
inductive FileTree where
  /-- Whatever is neither a directory nor a link, devices too. -/
  | file
  | link (target : Place)
  /-- A directory, and whether it may never be written to. -/
  | directory (entries : List (String × FileTree)) (isImmutable : Bool := false)

namespace FileTree

def at? : FileTree → Place → Option FileTree
  | tree, [] => some tree
  | .directory entries _, name :: rest => (entries.lookup name).bind (·.at? rest)
  | _, _ :: _ => none

theorem at?_append (tree : FileTree) (place rest : Place) :
    tree.at? (place ++ rest) = (tree.at? place).bind (·.at? rest) := by
  induction place generalizing tree with
  | nil => simp [at?]
  | cons name place ih =>
    cases tree with
    | file => simp [at?]
    | link target => simp [at?]
    | directory entries isImmutable =>
      cases h : entries.lookup name with
      | none => simp [at?, h]
      | some below => simp [at?, h, ih]

/-- Where one ends up at a place: a link leads to its target. -/
def follow (tree : FileTree) (place : Place) : Place :=
  match tree.at? place with
  | some (.link target) => target
  | _ => place

/-- One step of a walk: where a name leads from a place. -/
def step (tree : FileTree) (place : Place) (name : String) : Except IoError Place :=
  match tree.at? place with
  | some (.directory ..) =>
    if name = "" ∨ name = "." then .ok place
    else if name = ".." then .ok place.dropLast
    else .ok (tree.follow (place ++ [name]))
  | some _ => .error .notDirectory
  | none => .error .noSuchFile

theorem step_of_file {tree : FileTree} {place : Place} (h : tree.at? place = some .file)
    (name : String) : tree.step place name = .error .notDirectory := by
  simp [step, h]

theorem step_parent_root (entries : List (String × FileTree)) (isImmutable : Bool) :
    (directory entries isImmutable).step [] ".." = .ok [] := by
  simp [step, at?]

/-- What a path leads to, from the root if it starts with a slash and from `start` otherwise. The empty path
leads nowhere. -/
def find (tree : FileTree) (start : Place) (path : String) : Except IoError FileTree :=
  if path.isEmpty then .error .noSuchFile
  else do
    let place ← (path.splitOn "/").foldlM tree.step (if path.startsWith "/" then [] else start)
    match tree.at? place with
    | some found => .ok found
    | none => .error .noSuchFile

end FileTree

end EventBus.Trial
