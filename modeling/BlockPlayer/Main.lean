import BlockPlayer.CommandLine.Execution

/-!
# The program

Everything is decided in `CommandLine.execute`. Here the files and variables that it may look at are
collected, and what it says is printed when it says so.
-/

namespace BlockPlayer.CommandLine

/-- What a path names. -/
def readEntry (path : String) : IO Entry := do
  if path.contains '\x00' then return .unnamable
  try
    return .file (← IO.FS.readFile path)
  catch
    | .noFileOrDirectory .. => return .missing
    | .inappropriateType (some _) .. => return .blocked
    | .invalidArgument .. => return .tooLong
    | _ => return .directory

/-- The variables of the process, with a zero character behind each. -/
def readVariables : IO Environment := do
  try
    let text ← IO.FS.readFile "/proc/self/environ"
    return (text.splitOn "\x00").filterMap fun entry =>
      match entry.splitOn "=" with
      | name :: v :: rest => some (name, "=".intercalate (v :: rest))
      | _ => none
  catch _ => return []

/-- What some paths name. Nothing is known of others. -/
def readFiles (paths : List String) : IO Files := do
  let entries ← paths.mapM fun path => return (path, ← readEntry path)
  return fun path => (entries.lookup path).getD .missing

/-- The number of ids. -/
def idCount : Nat := Nat.pow 16 32

/-- Ids of 32 digits in base sixteen, from a number on. -/
def idsFrom (seed : Nat) (n : Nat) : BlockId :=
  let ds := Nat.toDigits 16 ((seed + n) % idCount)
  String.ofList (List.replicate (32 - ds.length) '0' ++ ds)

/-- Prints every piece at its time. -/
def printPieces (start : Nat) : List (Nat × String) → IO Unit
  | [] => return
  | (time, text) :: rest => do
    let now ← IO.monoMsNow
    IO.sleep (UInt32.ofNat (start + time - now))
    IO.print text
    (← IO.getStdout).flush
    printPieces start rest

end BlockPlayer.CommandLine

open BlockPlayer BlockPlayer.CommandLine in
def main (words : List String) : IO UInt32 := do
  match Invocation.ofWords words with
  | .error .help =>
    IO.print usage
    return 0
  | .error e =>
    IO.eprint usage
    return UInt32.ofNat e.exitCode
  | .ok i =>
    let vars ← readVariables
    let seed ← IO.rand 0 (idCount - 1)
    let early : Surroundings := ⟨← readFiles [variableFile], vars, idsFrom seed⟩
    let s : Surroundings :=
      { early with
        files := ← readFiles (variableFile :: i.paths (early.environment?.getD vars)) }
    let outcome := execute s words
    printPieces (← IO.monoMsNow) outcome.printed
    if let some e := outcome.failure then IO.eprintln ("Error: " ++ e.message)
    return UInt32.ofNat outcome.status
