import TreeBridge.Concrete.Node
/-!
# Folders

The files that a command line can name. A folder holds files under their
paths; a path that the command line gives leads name by name through the
folder, to a file or to what keeps it from being read.
-/

namespace TreeBridge

namespace CommandLine

/-- What keeps a file from being read. -/
inductive Obstacle
  | missing
  | notFolder
  | isFolder
  | nameTooLong
  | nullCharacter
  | notText
  | other (text : String)
  deriving DecidableEq, Repr

/-- How an obstacle is told. -/
def Obstacle.message : Obstacle → String
  | missing => "No such file or directory (os error 2)"
  | notFolder => "Not a directory (os error 20)"
  | isFolder => "Is a directory (os error 21)"
  | nameTooLong => "File name too long (os error 36)"
  | nullCharacter => "file name contained an unexpected NUL byte"
  | notText => "stream did not contain valid UTF-8"
  | other text => text

/-- A file: its text and the concrete tree of the text. -/
structure SourceFile where
  text : String
  tree : Concrete.Node

/-- The files of a command line, as what every path leads to. -/
structure Files where
  find : String → Except Obstacle SourceFile

/-! ## Paths -/

/-- The names on a path. -/
def namesOf (path : String) : List String :=
  (path.toList.splitOn '/').map String.ofList

/-- Whether a name stays in the folder it is looked up in. -/
def isStay (name : String) : Bool :=
  name.isEmpty || name == "."

/-- The longest name of a file, in bytes. -/
def nameLimit : Nat := 255

/-- The longest path, in bytes. -/
def pathLimit : Nat := 4095

/-! ## Folders -/

/-- A folder: the files in it and in the folders below it, each with the
names that lead to it. -/
structure Folder where
  files : List (List String × SourceFile)

/-- Where a path has led: to a file, to a folder in the folder, or out of
it. -/
inductive Place
  | file (file : SourceFile)
  | folder (names : List String)
  | outside

namespace Folder

/-- The folder with files under some paths. -/
def ofFiles (files : List (String × SourceFile)) : Folder :=
  ⟨files.map (fun f => ((namesOf f.1).filter (fun name => !isStay name), f.2))⟩

/-- The file or the folder that names lead to. -/
def place? (folder : Folder) (names : List String) : Option Place :=
  match folder.files.find? (fun f => f.1 == names) with
  | some f => some (.file f.2)
  | none =>
    if folder.files.any (fun f => names.isPrefixOf f.1) then some (.folder names) else none

/-- The place that a name leads to from a folder below `folder`, given by
the names that lead there. -/
def enterBelow (folder : Folder) (names : List String) (name : String) :
    Except Obstacle Place :=
  if isStay name then .ok (.folder names)
  else if name = ".." then .ok (if names.isEmpty then .outside else .folder names.dropLast)
  else if nameLimit < name.utf8ByteSize then .error .nameTooLong
  else
    match folder.place? (names ++ [name]) with
    | some place => .ok place
    | none => .error .missing

/-- The place that a name leads to from outside, where no file can be
read. -/
def enterOutside (name : String) : Except Obstacle Place :=
  if isStay name || name == ".." then .ok .outside
  else if nameLimit < name.utf8ByteSize then .error .nameTooLong
  else .error .missing

/-- The place that a name leads to from another place. -/
def enter (folder : Folder) (place : Place) (name : String) : Except Obstacle Place :=
  match place with
  | .file _ => .error .notFolder
  | .folder names => folder.enterBelow names name
  | .outside => enterOutside name

/-- The place that a path leads to. -/
def follow (folder : Folder) (path : String) : Except Obstacle Place :=
  if path.toList.contains '\x00' then .error .nullCharacter
  else if path.isEmpty then .error .missing
  else if pathLimit < path.utf8ByteSize then .error .nameTooLong
  else
    (namesOf path).foldlM folder.enter (if path.startsWith "/" then .outside else .folder [])

/-- **The file that a path leads to.** -/
def file (folder : Folder) (path : String) : Except Obstacle SourceFile :=
  match folder.follow path with
  | .ok (.file f) => .ok f
  | .ok _ => .error .isFolder
  | .error obstacle => .error obstacle

/-- The files that can be named from within a folder. -/
def named (folder : Folder) : Files :=
  ⟨folder.file⟩

end Folder

end CommandLine

end TreeBridge
