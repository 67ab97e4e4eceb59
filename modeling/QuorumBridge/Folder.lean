import QuorumBridge.Text.Pieces

/-!
# The files at hand

Only the directory that the program was started in is known. It holds files and
no directories, so a path leads to one of the files, to a directory that is no
more than a way up, or to nothing.

## Main definitions

* `Folder`: Files by name.
* `Place`: Something at a path.
* `Folder.find`: Following a path.
-/

namespace QuorumBridge

/-- The files of a directory, by name. -/
structure Folder where
  files : List (String × String)

/-- Something at a path. -/
inductive Place
  | directory
  | file (text : String)
deriving DecidableEq

namespace Folder

/-- Whether a part of a path leads to no other place. -/
def isIdle (part : List Char) : Bool :=
  part == [] || part == ['.']

/-- The number of bytes at which a path is too long to be followed. -/
def tooLong : Nat := 4096

/-- What is at a path, if anything is. A path of steps to nowhere and steps up leads to a
    directory. Steps to nowhere in front of the name of a file change nothing;
    behind it they ask for a directory. -/
def find (folder : Folder) (path : String) : Option Place :=
  let parts := pieces '/' path.toList
  if path = "" ∨ tooLong ≤ path.utf8ByteSize then none
  else if parts.all (fun part => isIdle part || part == ['.', '.']) then some .directory
  -- An absolute path leads out of the directory.
  else if parts.head? == some [] then none
  else
    match parts.dropWhile isIdle with
    | [name] => (folder.files.find? (·.1 == String.ofList name)).map fun entry => .file entry.2
    | _ => none

end Folder

end QuorumBridge
