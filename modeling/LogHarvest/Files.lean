import LogHarvest.Fault
import LogHarvest.Text.Named
import LogHarvest.Text.Utf8

/-!
# Files and folders

The files that the program can see form a tree. Some files are there but cannot be read, and some folders cannot be
listed, though what is in them can be had by its name. A path is a list of names between slashes; an empty name and a
single dot mean the folder at hand, two dots the one around it.
-/

namespace LogHarvest

/-- A file with its content, or with the fault that reading it comes to; a folder with its entries, or also with the
fault that listing it comes to. -/
inductive FileTree
  | file (content : Bytes)
  | unreadable (kind message : Text)
  | folder (entries : List (Text × FileTree))
  | unlistable (kind message : Text) (entries : List (Text × FileTree))
deriving Inhabited

namespace FileTree

/-- Whether this is a folder. -/
def isFolder : FileTree → Bool
  | folder _ | unlistable .. => true
  | file _ | unreadable .. => false

/-- Whether this is a file. -/
def isFile (tree : FileTree) : Bool := !tree.isFolder

/-- The entries of a folder. -/
def entries : FileTree → List (Text × FileTree)
  | folder es | unlistable _ _ es => es
  | file _ | unreadable .. => []

/-- Follows names from the innermost of some nested folders; `around` are the folders around it. -/
def follow (here : FileTree) (around : List FileTree) : List Text → Option FileTree
  | [] => some here
  | name :: rest =>
    if !here.isFolder then none
    else if name = [] ∨ name = [.char '.'] then follow here around rest
    else if name = [.char '.', .char '.'] then
      match around with
      | [] => follow here [] rest
      | outer :: further => follow outer further rest
    else match here.entries.lookup name with
      | some inside => follow inside (here :: around) rest
      | none => none

/-- What a path leads to. An empty path leads nowhere. -/
def find? (tree : FileTree) (path : Text) : Option FileTree :=
  if path = [] then none else tree.follow [] (path.splitOn (.char '/'))

/-- The path of an entry of a folder. -/
def join (folder name : Text) : Text :=
  if folder = [] ∨ folder.getLast? = some (.char '/') then folder ++ name else folder ++ .char '/' :: name

/-- The names on the way to where a path leads, as if every name on it were a folder. -/
def resolve (path : Text) : List Text :=
  (path.splitOn (.char '/')).foldl (fun way name =>
    if name = [] ∨ name = [.char '.'] then way
    else if name = [.char '.', .char '.'] then way.dropLast
    else way ++ [name]) []

/-- The tree with `inside` at the end of a way; folders are made where there are none. -/
def put (tree : FileTree) (inside : FileTree) : List Text → FileTree
  | [] => inside
  | name :: rest =>
    .folder (putNamed tree.entries name (put ((tree.entries.lookup name).getD (.folder [])) inside rest))

/-- Fails unless the path leads somewhere. -/
def checkPath (tree : FileTree) (path : Text) : Except Fault Unit :=
  if (tree.find? path).isSome then .ok () else .error (.noSuchPath path)

/-- The names of the entries of a folder, in the order of their code points. -/
def names (folder : FileTree) : List Text := Text.sort (folder.entries.map (·.1))

/-- Lists the folder that a path leads to. -/
def list (tree : FileTree) (path : Text) : Except Fault (List Text) :=
  match tree.find? path with
  | none => .error (.noSuchFile path)
  | some (.file _) | some (.unreadable ..) => .error (.notDirectory path)
  | some (.unlistable kind message _) => .error (.outside .system kind [.string message])
  | some (.folder entries) => .ok (names (.folder entries))

/-- The content of the file that a path leads to. -/
def read (tree : FileTree) (path : Text) : Except Fault Bytes :=
  match tree.find? path with
  | none => .error (.noSuchFile path)
  | some (.folder _) | some (.unlistable ..) => .error (.isDirectory path)
  | some (.unreadable kind message) => .error (.outside .system kind [.string message])
  | some (.file content) => .ok content

end FileTree

end LogHarvest
