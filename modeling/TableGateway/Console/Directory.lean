/-!
# Files in a directory

A configuration file is looked up by its path. `Directory` is a directory as far as that matters:
the files in and below it with their texts. A path leads from the directory on, name by name; `.`
stays, `..` goes back, and a path that starts with `/` or goes back too far leaves the directory.
Nothing is known of what lies outside, so nothing is found there, but directories on the way are
directories. A name has at most 255 bytes and a path fewer than 4096.
-/

namespace TableGateway.Console

/-- Why a file cannot be read. -/
inductive ReadError where
  /-- there is no such file -/
  | notFound
  /-- a directory has this path -/
  | isDirectory
  /-- the path goes through a file -/
  | notADirectory
  /-- the path, or a name in it, is longer than any can be -/
  | tooLong
  /-- the path holds the character of code 0, which no path can -/
  | nulInPath
  /-- what the file holds is no text -/
  | notText
  /-- another reason, in words of the system -/
  | other (text : String)
deriving DecidableEq

/-- The text of a read error, with the number that the system gives it. -/
def ReadError.message : ReadError → String
  | notFound => "No such file or directory (os error 2)"
  | isDirectory => "Is a directory (os error 21)"
  | notADirectory => "Not a directory (os error 20)"
  | tooLong => "File name too long (os error 36)"
  | nulInPath => "file name contained an unexpected NUL byte"
  | notText => "stream did not contain valid UTF-8"
  | other text => text

/-- The read error to which the system gives a number, if it is one of those above. -/
def ReadError.ofCode? : UInt32 → Option ReadError
  | 2 => some notFound
  | 20 => some notADirectory
  | 21 => some isDirectory
  | 36 => some tooLong
  | _ => none

/-- A directory: the paths of its files, name by name, and their texts. -/
structure Directory where
  /-- the files -/
  files : List (List String × String)

namespace Directory

/-- The parts of a path between its slashes. -/
def parts (path : String) : List String := (path.toList.splitOn '/').map String.ofList

/-- The directory of files with the given paths; a later file replaces an earlier one. -/
def ofFiles (files : List (String × String)) : Directory :=
  ⟨(files.map fun f => (parts f.1, f.2)).reverse⟩

/-- Where a path has led so far. -/
inductive Place where
  /-- to a directory inside, the names to it being given -/
  | inside (names : List String)
  /-- to a file with the given text -/
  | file (text : String)
  /-- to a directory outside -/
  | outside

/-- The greatest number of bytes in a name. -/
def maxName : Nat := 255

/-- The number of bytes that no path reaches. -/
def maxPath : Nat := 4096

/-- Where the next part of a path leads. -/
def step (d : Directory) : Place → String → Except ReadError Place
  | .file _, _ => .error .notADirectory
  | place, "" | place, "." => .ok place
  | .outside, ".." => .ok .outside
  | .inside names, ".." => .ok (if names.isEmpty then .outside else .inside names.dropLast)
  | .outside, name => .error (if maxName < name.utf8ByteSize then .tooLong else .notFound)
  | .inside names, name =>
    let names := names ++ [name]
    if maxName < name.utf8ByteSize then .error .tooLong
    else
      match d.files.lookup names with
      | some text => .ok (.file text)
      | none =>
        if d.files.any fun f => names.isPrefixOf f.1 then .ok (.inside names)
        else .error .notFound

/-- The text of the file that a path leads to. -/
def read (d : Directory) (path : String) : Except ReadError String :=
  if path = "" then .error .notFound
  else if path.toList.contains '\x00' then .error .nulInPath
  else if maxPath ≤ path.utf8ByteSize then .error .tooLong
  else do
    let start := if path.toList.head? = some '/' then Place.outside else Place.inside []
    match ← (parts path).foldlM d.step start with
    | .file text => return text
    | _ => .error .isDirectory

end Directory

end TableGateway.Console
