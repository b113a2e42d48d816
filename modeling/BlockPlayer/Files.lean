/-!
# Files

What the program sees of the files around it: a path names a file with a text, or a directory, or
nothing. It is also nothing that a path names if it leads on behind a file, or cannot be the path of anything.
-/

namespace BlockPlayer

/-- What a path names. -/
inductive Entry
  | missing
  /-- The path leads on behind a file. -/
  | blocked
  /-- The path, or a name in it, has too many bytes. -/
  | tooLong
  /-- There is a zero character in the path. -/
  | unnamable
  | directory
  | file (text : String)
  deriving DecidableEq, Repr

/-- What each path names. -/
abbrev Files := String → Entry

/-- Why a file was not read. -/
inductive FileError
  | missing
  | blocked
  | tooLong
  | unnamable
  | directory
  deriving DecidableEq, Repr

def FileError.message : FileError → String
  | missing => "No such file or directory (os error 2)"
  | blocked => "Not a directory (os error 20)"
  | tooLong => "File name too long (os error 36)"
  | unnamable => "file name contained an unexpected NUL byte"
  | directory => "Is a directory (os error 21)"

namespace Entry

/-- The text of a file. -/
def text? : Entry → Option String
  | file text => some text
  | missing | blocked | tooLong | unnamable | directory => none

/-- Whether there is anything. -/
def exists? : Entry → Bool
  | file _ | directory => true
  | missing | blocked | tooLong | unnamable => false

end Entry

/-- The text of a file. -/
def Files.read (files : Files) (path : String) : Except FileError String :=
  match files path with
  | .missing => .error .missing
  | .blocked => .error .blocked
  | .tooLong => .error .tooLong
  | .unnamable => .error .unnamable
  | .directory => .error .directory
  | .file text => .ok text

/-! ## Names -/

/-- The last name in a path. -/
def lastName (path : String) : List Char := (path.toList.reverse.takeWhile (· != '/')).reverse

/-- What follows the last point in the name of a file, unless the name begins with it. -/
def extension? (path : String) : Option String :=
  let name := lastName path
  let ending := (name.reverse.takeWhile (· != '.')).reverse
  if ending.length + 1 < name.length then some (String.ofList ending) else none

/-- A path, last character first, without slashes and single points at its end that lead nowhere. -/
def dropIdle : List Char → List Char
  | '/' :: rest => dropIdle rest
  | '.' :: '/' :: rest => dropIdle rest
  | path => path

/-- The path of a thing with an ending behind its name. A path that ends in no name has none. -/
def withEnding? (path ending : String) : Option String :=
  let stem := String.ofList (dropIdle path.toList.reverse).reverse
  if lastName stem ∈ [[], ['.'], ['.', '.']] then none else some (stem ++ "." ++ ending)

end BlockPlayer
