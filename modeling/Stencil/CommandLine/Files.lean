import Stencil.Text.Search

/-! Names of files, and folders that hold files by name. -/

namespace Stencil.CommandLine

/-- What is found under the name of a file. -/
inductive Content where
  | missing
  | directory
  | bytes (bytes : List UInt8)
deriving DecidableEq, Repr

/-- The parts between the slashes of a name; empty parts and single points mean nothing. -/
def pathParts (name : String) : List String :=
  ((Text.cut ['/'] name.toList).map String.ofList).filter fun part => part != "" && part != "."

/-- The slashes that a name starts with, if it does not start at the working directory. Exactly
two are kept apart from one. -/
def pathRoot (name : String) : String :=
  match name.toList with
  | '/' :: '/' :: '/' :: _ => "/"
  | '/' :: '/' :: _ => "//"
  | '/' :: _ => "/"
  | _ => ""

/-- A name without the parts that mean nothing. -/
def normalPath (name : String) : String :=
  let path := pathRoot name ++ "/".intercalate (pathParts name)
  if path = "" then "." else path

/-- The files below the working directory, which is all that can be seen. -/
structure Folder where
  files : List (List String × List UInt8)

namespace Folder

/-- Of two files with one name the later stays. -/
def ofList (files : List (String × List UInt8)) : Folder :=
  ⟨(files.map fun file => (pathParts file.1, file.2)).reverse⟩

def isDirectory (folder : Folder) (path : List String) : Bool :=
  path.isEmpty || folder.files.any fun file => path.isPrefixOf file.1 && path != file.1

def content (folder : Folder) (path : List String) : Content :=
  if folder.isDirectory path then .directory
  else
    match folder.files.lookup path with
    | some bytes => .bytes bytes
    | none => .missing

/-- Follows parts of a name from a directory on, two points leading one level up. -/
def follow (folder : Folder) : List String → List String → Content
  | here, [] => folder.content here
  | here, part :: rest =>
    if !folder.isDirectory here then .missing
    else if part != ".." then folder.follow (here ++ [part]) rest
    else if here.isEmpty then if rest.all (· == "..") then .directory else .missing
    else folder.follow here.dropLast rest

def find (folder : Folder) (name : String) : Content :=
  if pathRoot name = "" then folder.follow [] (pathParts name)
  else if (pathParts name).all (· == "..") then .directory
  else .missing

end Folder

end Stencil.CommandLine
