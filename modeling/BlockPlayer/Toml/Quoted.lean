import BlockPlayer.Text.Hex

/-!
# TOML strings

A string stands between double quotes, where a backslash begins an escape, or between single quotes,
where every character stands for itself. Three quotes instead of one allow it to have more than one
line; then the first line break is left out, and up to two quotes may stand in front of the last three.

The functions take what follows the opening quotes, and give the characters of the string and what
follows it.
-/

namespace BlockPlayer.Toml

/-- Whether a character may stand in a string as it is. Of the control characters only the tab may. -/
def isPlain (c : Char) : Bool := c == '\t' || (decide (' ' ≤ c) && c != '\x7f')

/-- Puts a character in front of a string that was read. -/
def push (c : Char) (r : Option (List Char × List Char)) : Option (List Char × List Char) :=
  r.map fun (s, rest) => (c :: s, rest)

/-! ## Escapes -/

/-- What a letter stands for behind a backslash. -/
def escaped? : Char → Option Char
  | 'b' => some '\x08'
  | 't' => some '\t'
  | 'n' => some '\n'
  | 'f' => some '\x0c'
  | 'r' => some '\r'
  | '"' => some '"'
  | '\\' => some '\\'
  | _ => none

/-! ## On one line -/

/-- A string between double quotes. -/
def basic : List Char → Option (List Char × List Char)
  | [] => none
  | '"' :: rest => some ([], rest)
  | '\\' :: 'u' :: a :: b :: c :: d :: rest =>
    (Hex.char? [a, b, c, d]).bind fun x => push x (basic rest)
  | '\\' :: 'U' :: a :: b :: c :: d :: e :: f :: g :: h :: rest =>
    (Hex.char? [a, b, c, d, e, f, g, h]).bind fun x => push x (basic rest)
  | '\\' :: c :: rest => (escaped? c).bind fun x => push x (basic rest)
  | c :: rest => if isPlain c && c != '\\' then push c (basic rest) else none

/-- A string between single quotes. -/
def literal : List Char → Option (List Char × List Char)
  | [] => none
  | '\'' :: rest => some ([], rest)
  | c :: rest => if isPlain c then push c (literal rest) else none

/-! ## On several lines -/

/-- Without a line break in front. -/
def dropBreak : List Char → List Char
  | '\n' :: rest => rest
  | '\r' :: '\n' :: rest => rest
  | rest => rest

/-- Whether nothing but blanks stands in front of the next line break. -/
def breaksNext (cs : List Char) : Bool :=
  match cs.dropWhile fun c => c == ' ' || c == '\t' with
  | '\n' :: _ | '\r' :: '\n' :: _ => true
  | _ => false

/--
A string between three double quotes. `skipping` tells that a backslash has ended a line, so that all
blanks and line breaks that follow are left out.
-/
def basicLines (skipping : Bool) : List Char → Option (List Char × List Char)
  | [] => none
  | '"' :: '"' :: '"' :: '"' :: '"' :: rest => some (['"', '"'], rest)
  | '"' :: '"' :: '"' :: '"' :: rest => some (['"'], rest)
  | '"' :: '"' :: '"' :: rest => some ([], rest)
  | '\\' :: 'u' :: a :: b :: c :: d :: rest =>
    (Hex.char? [a, b, c, d]).bind fun x => push x (basicLines false rest)
  | '\\' :: 'U' :: a :: b :: c :: d :: e :: f :: g :: h :: rest =>
    (Hex.char? [a, b, c, d, e, f, g, h]).bind fun x => push x (basicLines false rest)
  | '\r' :: '\n' :: rest =>
    if skipping then basicLines true rest else push '\n' (basicLines false rest)
  | '\\' :: c :: rest =>
    if breaksNext (c :: rest) then basicLines true (c :: rest)
    else (escaped? c).bind fun x => push x (basicLines false rest)
  | c :: rest =>
    if skipping && (c == ' ' || c == '\t' || c == '\n') then basicLines true rest
    else if (isPlain c && c != '\\') || c == '\n' then push c (basicLines false rest)
    else none

/-- A string between three single quotes. -/
def literalLines : List Char → Option (List Char × List Char)
  | [] => none
  | '\'' :: '\'' :: '\'' :: '\'' :: '\'' :: rest => some (['\'', '\''], rest)
  | '\'' :: '\'' :: '\'' :: '\'' :: rest => some (['\''], rest)
  | '\'' :: '\'' :: '\'' :: rest => some ([], rest)
  | '\r' :: '\n' :: rest => push '\n' (literalLines rest)
  | c :: rest => if isPlain c || c == '\n' then push c (literalLines rest) else none

/-- A string of any kind, from its opening quotes on. -/
def string? : List Char → Option (List Char × List Char)
  | '"' :: '"' :: '"' :: rest => basicLines false (dropBreak rest)
  | '\'' :: '\'' :: '\'' :: rest => literalLines (dropBreak rest)
  | '"' :: rest => basic rest
  | '\'' :: rest => literal rest
  | _ => none

end BlockPlayer.Toml
