import ComponentHost.Value

/-! A directory of files, read by path. Of what lies outside the directory nothing is known, so
nothing is found there. -/

namespace ComponentHost.Command

/-- Files by the parts of their paths within the working directory. -/
structure Files where
  entries : List (List String × Bytes) := []

namespace Files

inductive Place
  | inside (parts : List String)
  | outside
  | file (content : Bytes)

def notFound : String := "No such file or directory (os error 2)"

def notADirectory : String := "Not a directory (os error 20)"

def isADirectory : String := "Is a directory (os error 21)"

def nameTooLong : String := "File name too long (os error 36)"

def unexpectedNul : String := "file name contained an unexpected NUL byte"

def nameLimit : Nat := 256

def pathLimit : Nat := 4096

def split (path : String) : List String := path.splitOn "/"

def ofList (files : List (String × Bytes)) : Files :=
  ⟨files.map fun (name, content) => (split name, content)⟩

def isDirectory (fs : Files) (parts : List String) : Bool :=
  fs.entries.any fun (p, _) => parts.isPrefixOf p && parts.length < p.length

def enter (fs : Files) (place : Place) (name : String) : Except String Place :=
  match place with
  | .file _ => .error notADirectory
  | place =>
    if name = "" ∨ name = "." then .ok place
    else if nameLimit ≤ name.utf8ByteSize then .error nameTooLong
    else
      match place with
      | .inside parts =>
        if name = ".." then .ok (if parts.isEmpty then .outside else .inside parts.dropLast)
        else if fs.isDirectory (parts ++ [name]) then .ok (.inside (parts ++ [name]))
        else
          match fs.entries.lookup (parts ++ [name]) with
          | some content => .ok (.file content)
          | none => .error notFound
      | place => if name = ".." then .ok place else .error notFound

def read (fs : Files) (path : String) : Except String Bytes :=
  if path.toList.contains '\x00' then .error unexpectedNul
  else if path.isEmpty then .error notFound
  else if pathLimit ≤ path.utf8ByteSize then .error nameTooLong
  else
    match (split path).foldlM fs.enter (if path.startsWith "/" then .outside else .inside []) with
    | .ok (.file content) => .ok content
    | .ok _ => .error isADirectory
    | .error reason => .error reason

end Files

def isAbsolute (path : String) : Bool := path.toList.head? = some '/'

def directory (path : String) : String :=
  String.ofList (path.toList.reverse.dropWhile (· ≠ '/')).reverse

/-- The path of a component's file: relative paths start where the configuration file is. -/
def resolve (config path : String) : String :=
  if isAbsolute path then path else directory config ++ path

end ComponentHost.Command
