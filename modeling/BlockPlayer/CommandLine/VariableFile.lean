import BlockPlayer.Settings.Variable
import BlockPlayer.Text.Blank
import BlockPlayer.Text.Letter

/-!
# Files of variables

A file can set variables for the program, one on each line, a name and a value with a mark of equality
between them. Quotes, backslashes and references to other variables work much as in a shell, and a line
goes on behind a line break between quotes. A variable that is set outside the file, or further up in it,
keeps its value. The first line that makes no sense ends the file. A value ends at a zero character
wherever variables are kept, so that one with such a character inside cannot be set at all.
-/

namespace BlockPlayer.CommandLine

/-! ## Values -/

/-- The quotes that are open. -/
inductive Quote
  | none
  | single
  | double
  deriving DecidableEq, Repr

/-- What the next character belongs to. -/
inductive Part
  | text
  | escape
  /-- The name of a variable without braces, last character first. -/
  | bare (name : List Char)
  /-- The name of a variable in braces, last character first. -/
  | braced (name : List Char)
  /-- Nothing but a comment may follow. -/
  | ending
  deriving DecidableEq, Repr

/-- What a character behind a backslash stands for. -/
def escapeOf? (c : Char) : Option Char :=
  if c ∈ ['\\', '\'', '"', '$', ' '] then some c else if c = 'n' then some '\n' else Option.none

/-- The value of the variable with the given name, last character first. -/
def valueOf (env : Environment) (name : List Char) : List Char :=
  ((env.lookup (String.ofList name.reverse)).getD "").toList

/-- The characters of a value. -/
def readValue (env : Environment) : Quote → Part → List Char → Option (List Char)
  | .none, .bare name, [] => some (valueOf env name)
  | .none, .text, [] | .none, .escape, [] | .none, .ending, [] => some []
  | _, _, [] => Option.none
  | q, .ending, c :: rest =>
    if c = ' ' ∨ c = '\t' then readValue env q .ending rest
    else if c = '#' then some [] else Option.none
  | q, .escape, c :: rest =>
    (escapeOf? c).bind fun x => (readValue env q .text rest).map (x :: ·)
  | .single, part, c :: rest =>
    if c = '\'' then readValue env .none part rest
    else (readValue env .single part rest).map (c :: ·)
  | q, .bare name, c :: rest =>
    if Letter.isLetter c then readValue env q (.bare (c :: name)) rest
    else if c = '\x7b' ∧ name = [] then readValue env q (.braced []) rest
    else if c = '$' then (readValue env q (.bare []) rest).map (valueOf env name ++ ·)
    else (readValue env q .text rest).map fun cs => valueOf env name ++ c :: cs
  | q, .braced name, c :: rest =>
    if c = '\x7d' then (readValue env q .text rest).map (valueOf env name ++ ·)
    else readValue env q (.braced (c :: name)) rest
  | .double, .text, c :: rest =>
    if c = '$' then readValue env .double (.bare []) rest
    else if c = '"' then readValue env .none .text rest
    else if c = '\\' then readValue env .double .escape rest
    else (readValue env .double .text rest).map (c :: ·)
  | .none, .text, c :: rest =>
    if c = '$' then readValue env .none (.bare []) rest
    else if c = '\'' then readValue env .single .text rest
    else if c = '"' then readValue env .double .text rest
    else if c = '\\' then readValue env .none .escape rest
    else if c = ' ' ∨ c = '\t' then readValue env .none .ending rest
    else (readValue env .none .text rest).map (c :: ·)

/-! ## Lines -/

/-- What a line has come to. -/
inductive Spot
  /-- Nothing but blanks so far. -/
  | start
  | plain
  /-- Behind a blank. -/
  | blank
  /-- Behind a backslash. -/
  | escape
  /-- Behind an opening quote. -/
  | quoted (mark : Char)
  /-- Behind an opening quote and a backslash. -/
  | quotedEscape (mark : Char)
  | comment
  deriving DecidableEq, Repr

namespace Spot

/-- What a character leads to outside quotes. A second blank behind the first counts like a letter. -/
def beyond (spaced : Bool) (c : Char) : Spot :=
  if c = '\\' then escape
  else if c = '"' ∨ c = '\'' then quoted c
  else if spaced then plain
  else if Blank.isBlank c ∧ c ≠ '\r' then blank
  else plain

/-- What a character leads to. -/
def next : Spot → Char → Spot
  | start, c => if Blank.isBlank c then start else if c = '#' then comment else beyond false c
  | plain, c => beyond false c
  | blank, c => if c = '#' then comment else beyond true c
  | escape, _ => plain
  | quoted mark, c => if c = '\\' then quotedEscape mark else if c = mark then plain else quoted mark
  | quotedEscape mark, _ => quoted mark
  | comment, _ => comment

/-- Whether a line break does not end the line. -/
def isOpen : Spot → Bool
  | quoted _ | quotedEscape _ => true
  | start | plain | blank | escape | comment => false

/-- Whether a line may end without a line break. -/
def mayEnd : Spot → Bool
  | start | plain | comment => true
  | blank | escape | quoted _ | quotedEscape _ => false

end Spot

/--
The lines of a text without their comments, the characters of the first one so far being `before`, last
first. There is no line where the text ends too soon.
-/
def linesOf (spot : Spot) (before : List Char) : List Char → List (Option (List Char))
  | [] => [if spot.mayEnd then some before.reverse else none]
  | c :: rest =>
    if c = '\n' ∧ !spot.isOpen then some before.reverse :: linesOf .start [] rest
    else linesOf (spot.next c) (if spot.next c = .comment then before else c :: before) rest

/-- The name of a variable and what follows it, without the blanks between them. -/
def takeName? (cs : List Char) : Option (String × List Char) :=
  match cs with
  | [] => none
  | c :: _ =>
    let isName (c : Char) : Bool := c.isAlphanum || c == '_' || c == '.'
    if c.isAlpha || c == '_' then
      some (String.ofList (cs.takeWhile isName), (cs.dropWhile isName).dropWhile Blank.isBlank)
    else none

/-- What a line sets: a variable, or nothing. -/
inductive Line
  | faulty
  | nothing
  | variable (name value : String)
  deriving DecidableEq, Repr

/-- The variable with the characters behind the mark of equality. -/
def setVariable (env : Environment) (name : String) (cs : List Char) : Line :=
  match cs.dropWhile Blank.isBlank with
  | [] | '#' :: _ => .variable name ""
  | cs =>
    match readValue env .none .text cs with
    | some value => .variable name (String.ofList value)
    | none => .faulty

/-- Reads a line. The word `export` may stand in front of a name. -/
def readLine (env : Environment) (line : List Char) : Line :=
  match (line.reverse.dropWhile Blank.isBlank).reverse.dropWhile Blank.isBlank with
  | [] | '#' :: _ => .nothing
  | cs =>
    match takeName? cs with
    | some (name, '=' :: rest) => setVariable env name rest
    | some ("export", rest) =>
      match takeName? rest with
      | some (name, '=' :: rest) => setVariable env name rest
      | _ => .faulty
    | _ => .faulty

/-- The variables after some lines. There are none where one cannot be set. -/
def readLines (env : Environment) : List (Option (List Char)) → Option Environment
  | [] | none :: _ => some env
  | some line :: rest =>
    match readLine env line with
    | .faulty => some env
    | .nothing => readLines env rest
    | .variable name value =>
      if (env.lookup name).isSome then readLines env rest
      else if '\x00' ∈ value.toList then none
      else readLines (env ++ [(name, value)]) rest

/-- The variables, those of a file included. Some editors begin a text with a mark that is no part of it. -/
def withFile? (env : Environment) (text : String) : Option Environment :=
  match text.toList with
  | '\ufeff' :: cs | cs => readLines env (linesOf .start [] cs)

end BlockPlayer.CommandLine
