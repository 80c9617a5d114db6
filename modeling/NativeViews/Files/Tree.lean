import NativeViews.OrderedMap

/-!
Trees of files and directories. There are no links, so a place is the list of the names that lead
to it from the root; and no permissions, so nothing in a tree is denied.
-/

namespace NativeViews

/-- A file with its bytes, or a directory with what it holds by name. -/
inductive FileTree where
  | file (bytes : ByteArray)
  | directory (entries : List (String × FileTree))

/-- The names that lead from the root to a file or directory. -/
abbrev Location := List String

namespace FileTree

def find? : FileTree → Location → Option FileTree
  | tree, [] => some tree
  | file _, _ :: _ => none
  | directory entries, name :: rest => (entries.lookup name).bind fun child => child.find? rest

/-- The tree with another node at a location, if the directory that would hold it is there. -/
def put : FileTree → Location → FileTree → FileTree
  | _, [], node => node
  | file bytes, _ :: _, _ => file bytes
  | directory entries, name :: rest, node =>
    match entries.lookup name, rest with
    | some child, rest => directory (OrderedMap.putEntry name (child.put rest node) entries)
    | none, [] => directory (OrderedMap.putEntry name node entries)
    | none, _ :: _ => directory entries

/-- The tree without what stands at a location. The root stays. -/
def erase : FileTree → Location → FileTree
  | tree, [] => tree
  | file bytes, _ :: _ => file bytes
  | directory entries, [name] => directory (entries.filter fun entry => entry.1 != name)
  | directory entries, name :: next :: rest =>
    match entries.lookup name with
    | some child => directory (OrderedMap.putEntry name (child.erase (next :: rest)) entries)
    | none => directory entries

def isFile : FileTree → Bool
  | file _ => true
  | directory _ => false

def isDirectory (tree : FileTree) : Bool := !tree.isFile

end FileTree

end NativeViews
