import TxSubmission.Number.Literal

/-!
Hosts in figures. An address of the older protocol is four numbers with dots between them; one of
the newer protocol is eight groups of hex digits with colons between them, of which one run of
zeros may be left out and the last two may be written as an address of the older protocol.
-/

namespace TxSubmission.Http

open Text Number

def isFigure (c : Char) : Bool := (asciiDecimal? c).isSome

/-- The states of looking for four runs of figures with one character of any kind between two of
them, after a character has been read. State 0 is the start; an odd state is within a run, an
even one behind the character that follows it. -/
def runStep (states : List Nat) (c : Char) : List Nat :=
  (List.range 8).filter fun next =>
    states.any fun state =>
      if next % 2 = 1 then isFigure c && (next = state || next = state + 1)
      else 0 < state && state % 2 = 1 && next = state + 1

/-- Whether a host looks like four numbers. Any character may stand between two of them, even
a figure. -/
def looksNumbered (host : List Char) : Bool := (host.foldl runStep [0]).contains 7

def isOctet (s : List Char) : Bool :=
  !s.isEmpty && s.all isFigure && s.length ≤ 3 && (s.head? != some '0' || s.length == 1) &&
    digitsValue 10 (s.filterMap asciiDecimal?) ≤ 255

def isQuad (host : List Char) : Bool :=
  let parts := host.splitOn '.'
  parts.length == 4 && parts.all isOctet

def isGroup (s : List Char) : Bool := !s.isEmpty && s.length ≤ 4 && s.all isHexDigit

/-- The groups of an address, one of the older protocol at the end counting as two. -/
def groups? (host : List Char) : Option (List (List Char)) :=
  let parts := host.splitOn ':'
  if parts.length < 3 then none
  else
    match parts.getLast? with
    | some last =>
      if last.contains '.' then
        if isQuad last then some (parts.dropLast ++ [['0'], ['0']]) else none
      else some parts
    | none => none

/-- Whether groups make an address. An empty group inside marks the run of zeros that has been left
out, and only beside it may an end be empty too. -/
def areGroups (parts : List (List Char)) : Bool :=
  let inner := (parts.drop 1).dropLast
  match (List.range inner.length).filter fun i => inner[i]?.any List.isEmpty with
  | [] => parts.length == 8 && parts.all isGroup
  | [gap] =>
    let high := parts.take (gap + 1)
    let low := parts.drop (gap + 2)
    let isEnd (side : List (List Char)) : Bool := side == [[]] || side.all isGroup
    let count (side : List (List Char)) : Nat := if side == [[]] then 0 else side.length
    parts.length ≤ 9 && isEnd high && isEnd low && count high + count low < 8
  | _ => false

/-- Whether a host without its brackets is an address of the newer protocol. A zone may be named
after a percent sign. -/
def isBracketed (host : List Char) : Bool :=
  let address := host.takeWhile (· != '%')
  let zone := host.dropWhile (· != '%')
  (zone.isEmpty || (zone.length != 1 && !(zone.drop 1).contains '%')) &&
    (groups? address).any areGroups

end TxSubmission.Http
