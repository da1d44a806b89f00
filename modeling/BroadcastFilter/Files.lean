import BroadcastFilter.Config

/-!
Files as a program sees them: a path either has a text or cannot be read. A tree of files under one
directory answers for relative paths the way a file system does.
-/

namespace BroadcastFilter

/-- The text at each path. -/
abbrev Files := String → Except ReadFault String

namespace Files

/-- The name at the end of a path, read backwards. -/
def nameBackwards (path : String) : List Char := path.toList.reverse.takeWhile (· != '/')

/-- The part of a file's name after its last point. A name that starts with its only point has
none. -/
def extension? (path : String) : Option String :=
  match (nameBackwards path).span (· != '.') with
  | (extension, '.' :: _ :: _) => some (String.ofList extension.reverse)
  | _ => none

end Files

/-- A file's content, or a directory's entries. -/
inductive FileTree where
  | file (content : ByteArray)
  | directory (entries : List (String × FileTree))

namespace FileTree

/-- The greatest number of bytes in one part of a path, and in a whole path. -/
def greatestPart : Nat := 255

def greatestPath : Nat := 4095

/-- Follows the parts of a path from the innermost of the directories in `above`. -/
def follow : List FileTree → FileTree → List String → Except ReadFault FileTree
  | _, here, [] => .ok here
  | above, here, part :: rest =>
    match here with
    | .file _ => .error .notDirectory
    | .directory entries =>
      if part = "" ∨ part = "." then follow above here rest
      else if part = ".." then
        match above with
        | outer :: above => follow above outer rest
        | [] => follow [] (.directory []) rest
      else if greatestPart < part.utf8ByteSize then .error .nameTooLong
      else match entries.lookup part with
        | some next => follow (here :: above) next rest
        | none => .error .notFound

/-- The text at a path below a directory. Nothing lies at a path from elsewhere. -/
def read (tree : FileTree) (path : String) : Except ReadFault String := do
  if path.toList.contains '\x00' then throw .zeroInName
  if path = "" then throw .notFound
  if greatestPath < path.utf8ByteSize then throw .nameTooLong
  let parts := path.splitOn "/"
  let start := if path.toList.head? = some '/' then directory [] else tree
  match ← follow [] start parts with
  | .directory _ => throw .isDirectory
  | .file content =>
    match String.fromUTF8? content with
    | some text => return text
    | none => throw .notText

/-- Puts a file or directory at the parts of a path. -/
def put (content : FileTree) : List String → FileTree → FileTree
  | [], _ => content
  | part :: rest, tree =>
    let entries := match tree with
      | .directory entries => entries
      | .file _ => []
    let inner := (entries.lookup part).getD (.directory [])
    .directory ((part, put content rest inner) :: entries.filter (·.1 != part))

/-- The tree of files given with their paths. -/
def ofList (files : List (String × FileTree)) : FileTree :=
  files.foldl
    (fun tree (path, content) =>
      put content ((path.splitOn "/").filter fun part => part != "" && part != ".") tree)
    (.directory [])

end FileTree

end BroadcastFilter
