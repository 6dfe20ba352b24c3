/-
  File:      JobKeeper/Command/Directory.lean
  Subject:   Files by their paths: what a path leads to, and why it may lead nowhere.
-/
namespace JobKeeper

/-! ## 1. Causes -/

/-- Why a file cannot be read. -/
inductive FileError where
  /-- There is none of that name. -/
  | absent
  /-- The path goes on behind a file. -/
  | notDirectory
  | nameTooLong
  | directory
  /-- There is one, but its text cannot be had. -/
  | unreadable (cause : String)
  deriving DecidableEq, Repr

namespace FileError

/-- The wording of an error. -/
def message : FileError → String
  | .absent => "No such file or directory (os error 2)"
  | .notDirectory => "Not a directory (os error 20)"
  | .nameTooLong => "File name too long (os error 36)"
  | .directory => "Is a directory (os error 21)"
  | .unreadable cause => cause

/-- Whether there is something that the path leads to. -/
def isFound : FileError → Bool
  | .directory | .unreadable _ => true
  | .absent | .notDirectory | .nameTooLong => false

end FileError

/-! ## 2. Directories -/

/-- A directory as the files in it and below it: the names on the way to each, and its text. -/
structure Directory where
  files : List (List String × String)

namespace Directory

/-- What a name stands for. -/
inductive Entry where
  | file (text : String)
  | directory

/-- What is where some names lead, from the top on. -/
def entry? (d : Directory) (names : List String) : Option Entry :=
  match d.files.lookup names with
  | some text => some (.file text)
  | none => if d.files.any (names.isPrefixOf ·.1) then some .directory else none

/-- The text where the parts of a path lead from a directory `here`. Nothing is known of what is
    above the top but that it is a directory. -/
def walk (d : Directory) (here : List String) : List String → Except FileError String
  | [] => .error .directory
  | part :: rest =>
    if part = "" || part = "." then d.walk here rest
    else if part = ".." then
      if !here.isEmpty then d.walk here.dropLast rest
      else if rest.all ["", ".", ".."].contains then .error .directory
      else .error .absent
    else if 255 < part.utf8ByteSize then .error .nameTooLong
    else
      match d.entry? (here ++ [part]) with
      | none => .error .absent
      | some .directory => d.walk (here ++ [part]) rest
      | some (.file text) => if rest.isEmpty then .ok text else .error .notDirectory

/-- The text at a path. -/
def read (d : Directory) (path : String) : Except FileError String :=
  if path = "" then .error .absent
  else if 4095 < path.utf8ByteSize then .error .nameTooLong
  else d.walk [] (path.splitOn "/")

/-- A directory of files by their paths in it. -/
def ofFiles (files : List (String × String)) : Directory :=
  ⟨files.map fun (path, text) => (path.splitOn "/", text)⟩

end Directory

end JobKeeper
