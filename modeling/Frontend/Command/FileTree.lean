import Frontend.Text.Utf8

/-!
# Directory trees

A directory holds files and further directories. A path leads from the directory to a file, part by
part. What lies outside of the directory is not known: there are only directories without any
content.
-/

namespace Frontend

/-- A text of the operating system, which need not be well-formed UTF-8. -/
abbrev RawText := List UInt8

/-- Why a file cannot be read as text. -/
inductive LoadError where
  | notFound
  | isDirectory
  | notDirectory
  /-- The content of the file is not well-formed. -/
  | invalidText
  /-- Some other reason, in the words of the operating system. -/
  | other (reason : String)
deriving DecidableEq, Repr

/-- The wording of a failure to read. -/
def LoadError.message : LoadError → String
  | .notFound     => "No such file or directory (os error 2)"
  | .isDirectory  => "Is a directory (os error 21)"
  | .notDirectory => "Not a directory (os error 20)"
  | .invalidText  => "stream did not contain valid UTF-8"
  | .other reason => reason

/-- The text of the content of a file. -/
def LoadError.decode (content : List UInt8) : Except LoadError String :=
  match Text.ofBytes? content with
  | some text => .ok text
  | none      => .error .invalidText

/-- The parts of a raw path. -/
def RawText.parts : RawText → List RawText
  | []      => [[]]
  | b :: bs =>
    if b = 0x2F then [] :: parts bs
    else match parts bs with
      | []      => [[b]]
      | p :: ps => (b :: p) :: ps

/-- The files in a directory and the directories in it, each by the parts of its path. The
directories that the paths lead through are in it as well. -/
structure FileTree where
  files : List (List RawText × List UInt8)
  directories : List (List RawText)
deriving DecidableEq, Repr

namespace FileTree

/-- The tree of files and directories by their paths. -/
def ofPaths (files : List (RawText × List UInt8)) (directories : List RawText) : FileTree :=
  ⟨files.map fun (path, content) => (path.parts, content), directories.map RawText.parts⟩

/-- There is a directory of the given parts. -/
def hasDirectory (t : FileTree) (parts : List RawText) : Bool :=
  parts.isEmpty || t.directories.any parts.isPrefixOf ||
    t.files.any fun (path, _) => parts.isPrefixOf path.dropLast

/-- Follow the parts of a path from a directory, which is given by its own parts, or which lies
outside of the tree. -/
def follow (t : FileTree) : Option (List RawText) → List RawText → Except LoadError (List UInt8)
  | _, []               => .error .isDirectory
  | place, part :: rest =>
    if part = [] ∨ part = [0x2E] then t.follow place rest
    else if part = [0x2E, 0x2E] then
      t.follow (place.bind fun parts => if parts.isEmpty then none else some parts.dropLast) rest
    else match place with
      | none       => .error .notFound
      | some parts =>
        let parts := parts ++ [part]
        match t.files.lookup parts with
        | some content => if rest.isEmpty then .ok content else .error .notDirectory
        | none         =>
          if t.hasDirectory parts then t.follow (some parts) rest else .error .notFound

/-- The content of the file that a path leads to. -/
def read (t : FileTree) (path : RawText) : Except LoadError (List UInt8) :=
  if path.isEmpty then .error .notFound
  else t.follow (if path.head? = some 0x2F then none else some []) path.parts

/-- The text of the file that a path leads to. -/
def load (t : FileTree) (path : RawText) : Except LoadError String :=
  match t.read path with
  | .ok content => LoadError.decode content
  | .error e    => .error e

end FileTree

end Frontend
