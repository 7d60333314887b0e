/-!
Folders of text files, as a run sees them: what lies at a path, and what writing there leaves.
Paths are reckoned from the folder; nothing outside it is known.
-/

namespace DeskScript

/-- Files by their paths. A directory exists as far as files lie in it. -/
structure Folder where
  files : List (String × String)
  deriving DecidableEq, Repr

namespace Folder

inductive Fault where
  | missing
  | isDirectory
  | notDirectory
  deriving DecidableEq, Repr

def Fault.message (fault : Fault) : String :=
  let words (code : Nat) (kind text : String) : String :=
    s!"Error: Os \x7b code: {code}, kind: {kind}, message: \"{text}\" \x7d"
  match fault with
  | .missing => words 2 "NotFound" "No such file or directory"
  | .isDirectory => words 21 "IsADirectory" "Is a directory"
  | .notDirectory => words 20 "NotADirectory" "Not a directory"

inductive Entry where
  | file (text : String)
  | directory
  deriving DecidableEq, Repr

def names (path : String) : List String :=
  (path.splitOn "/").filter fun name => name != "" && name != "."

def endsInDirectory (path : String) : Bool :=
  (path.splitOn "/").getLast?.any fun name => name == "" || name == "."

def parent (path : String) : List String :=
  if (path.splitOn "/").getLast? = some "." then names path else (names path).dropLast

def isInside (path : String) : Bool :=
  path != "" && !path.startsWith "/"

def entryAt (folder : Folder) (way : List String) : Except Fault Entry :=
  match folder.files.find? fun file => names file.1 == way with
  | some file => .ok (.file file.2)
  | none =>
    if way.isEmpty || folder.files.any fun file => way.isPrefixOf (names file.1) then
      .ok .directory
    else if folder.files.any fun file => (names file.1).isPrefixOf way then .error .notDirectory
    else .error .missing

def read (folder : Folder) (path : String) : Except Fault String :=
  if isInside path then
    match folder.entryAt (names path) with
    | .ok (.file text) => if endsInDirectory path then .error .notDirectory else .ok text
    | .ok .directory => .error .isDirectory
    | .error fault => .error fault
  else .error .missing

def get? (folder : Folder) (path : String) : Option String :=
  (folder.read path).toOption

def write (folder : Folder) (path text : String) : Except Fault Folder :=
  if isInside path then
    match folder.entryAt (parent path) with
    | .ok .directory =>
      if endsInDirectory path || (folder.entryAt (names path)).toOption == some .directory then
        .error .isDirectory
      else
        .ok ⟨folder.files.filter (fun file => names file.1 != names path) ++ [(path, text)]⟩
    | .ok (.file _) => .error .notDirectory
    | .error fault => .error fault
  else .error .missing

end Folder

end DeskScript
