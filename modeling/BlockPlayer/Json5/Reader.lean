import BlockPlayer.Json5.Scalar

/-!
# Reading JSON5

The last item of an array and the last member of an object may have a comma behind it. Of members with the
same name the last counts.

## Termination

`fuel` bounds the number of calls inside one another. Every call takes at least one character off before
the next, so more fuel than twice the number of characters is always enough.
-/

namespace BlockPlayer.Json5

mutual

/-- The value in front. -/
def value? (fuel : Nat) (cs : List Char) : Option (Datum × List Char) :=
  match fuel with
  | 0 => none
  | fuel + 1 =>
    match cs with
    | '[' :: rest => do
      let (ds, rest) ← items? fuel (← dropGap .outside rest)
      some (.array ds, rest)
    | '\x7b' :: rest => do
      let (ms, rest) ← members? fuel [] (← dropGap .outside rest)
      some (.table ms, rest)
    | _ => scalar? cs

/-- The items of an array up to its end. -/
def items? (fuel : Nat) (cs : List Char) : Option (List Datum × List Char) :=
  match fuel with
  | 0 => none
  | fuel + 1 =>
    match cs with
    | ']' :: rest => some ([], rest)
    | _ => do
      let (d, rest) ← value? fuel cs
      match ← dropGap .outside rest with
      | ',' :: rest =>
        let (ds, rest) ← items? fuel (← dropGap .outside rest)
        some (d :: ds, rest)
      | ']' :: rest => some ([d], rest)
      | _ => none

/-- The members of an object up to its end, behind those that came before. -/
def members? (fuel : Nat) (before : Members) (cs : List Char) : Option (Members × List Char) :=
  match fuel with
  | 0 => none
  | fuel + 1 =>
    match cs with
    | '\x7d' :: rest => some (before, rest)
    | _ => do
      let (name, rest) ← key? cs
      match ← dropGap .outside rest with
      | ':' :: rest =>
        let (d, rest) ← value? fuel (← dropGap .outside rest)
        match ← dropGap .outside rest with
        | ',' :: rest => members? fuel (Entries.put name d before) (← dropGap .outside rest)
        | '\x7d' :: rest => some (Entries.put name d before, rest)
        | _ => none
      | _ => none

end

/-- What a text in JSON5 says. -/
def readDatum? (text : String) : Option Datum := do
  let cs ← dropGap .outside text.toList
  let (d, rest) ← value? (2 * cs.length + 2) cs
  match ← dropGap .outside rest with
  | [] => some d
  | _ => none

end BlockPlayer.Json5
