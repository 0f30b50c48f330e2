/-!
Names in ASCII. A text is written as its ASCII characters, a hyphen if there are any, and the
places of all others: these are put in by rising code point and, for each code point, from left
to right, and every one is told as a distance from the one before, in digits of base 36 whose
weights adapt to the distances met so far. Reading puts the characters in as they are told.
-/

namespace TxSubmission.Text.Punycode

def digit (d : Nat) : Char :=
  if d < 26 then Char.ofNat (97 + d) else Char.ofNat (22 + d)

/-- How far down a distance goes before the weights are adapted to it, and in how many steps. -/
def settle (distance steps : Nat) : Nat × Nat :=
  if 455 < distance then settle (distance / 35) (steps + 1) else (distance, steps)
termination_by distance
decreasing_by omega

/-- The weight after a distance, of which the first of all counts less. -/
def adapt (distance written : Nat) (isFirst : Bool) : Nat :=
  let start := if isFirst then distance / 700 else distance / 2
  let (distance, steps) := settle (start + start / written) 0
  36 * steps + 36 * distance / (distance + 38)

/-- The value up to which the digit at a place ends a number. -/
def threshold (weight place : Nat) : Nat :=
  max 1 (min 26 (36 * (place + 1) - weight))

def digits (weight place n : Nat) : List Char :=
  let t := threshold weight place
  if n < t then [digit n]
  else digit (t + (n - t) % (36 - t)) :: digits weight (place + 1) ((n - t) / (36 - t))
termination_by n
decreasing_by
  have low : 1 ≤ threshold weight place := by unfold threshold; omega
  have le := Nat.div_le_self (n - threshold weight place) (36 - threshold weight place)
  omega

/-- How far writing has come: the distance since the last character that was put in, and the
distances before it, in reverse. -/
structure Tally where
  distance : Nat := 0
  found : List Nat := []

def Tally.pass (code : Nat) (tally : Tally) (other : Nat) : Tally :=
  if other < code then { tally with distance := tally.distance + 1 }
  else if other = code then ⟨0, tally.distance :: tally.found⟩
  else tally

/-- The distances of the characters with given code points, in reverse. The first of the code
points is at least the last that was dealt with; `ascii` characters stand in the text already. -/
def distances (text : List Nat) (ascii : Nat) : Nat → Tally → List Nat → List Nat
  | _, tally, [] => tally.found
  | least, tally, code :: rest =>
    let present := ascii + tally.found.length
    let start := { tally with distance := tally.distance + (code - least) * (present + 1) }
    let passed := text.foldl (Tally.pass code) start
    distances text ascii (code + 1) { passed with distance := passed.distance + 1 } rest

def writeDistances (weight written : Nat) (isFirst : Bool) : List Nat → List Char
  | [] => []
  | distance :: rest =>
    digits weight 0 distance ++
      writeDistances (adapt distance (written + 1) isFirst) (written + 1) false rest

def encode (s : List Char) : List Char :=
  let ascii := s.filter (·.toNat < 128)
  let codes := ((s.map Char.toNat).filter (128 ≤ ·)).mergeSort.eraseDups
  let found := (distances (s.map Char.toNat) ascii.length 128 {} codes).reverse
  ascii ++ (if ascii.isEmpty then [] else ['-']) ++ writeDistances 72 ascii.length true found

def digit? (c : Char) : Option Nat :=
  if c.isUpper then some (c.toNat - 65)
  else if c.isLower then some (c.toNat - 97)
  else if c.isDigit then some (c.toNat - 22)
  else none

def readDistance (weight place : Nat) : List Char → Option (Nat × List Char)
  | [] => none
  | c :: rest =>
    (digit? c).bind fun d =>
      let t := threshold weight place
      if d < t then some (d, rest)
      else
        (readDistance weight (place + 1) rest).map fun (n, rest) => (d + (36 - t) * n, rest)

/-- How far reading has come: the text so far, the code point and the place at which counting goes
on, and the weight. -/
structure Filling where
  text : List Char
  code : Nat := 128
  place : Nat := 0
  weight : Nat := 72
  isFirst : Bool := true

def Filling.put? (filling : Filling) (distance : Nat) : Option Filling :=
  let count := filling.text.length + 1
  let target := filling.place + distance
  let code := filling.code + target / count
  let place := target % count
  if h : code.isValidChar then
    some
      { text := filling.text.take place ++ Char.ofNatAux code h :: filling.text.drop place
        code
        place := place + 1
        weight := adapt distance count filling.isFirst
        isFirst := false }
  else none

/-- Puts in the characters that distances tell. Every distance takes at least one character of the
rest, so as many turns as it is long are enough. -/
def fill : Nat → Filling → List Char → Option (List Char)
  | 0, filling, rest => if rest.isEmpty then some filling.text else none
  | turns + 1, filling, rest =>
    if rest.isEmpty then some filling.text
    else
      (readDistance filling.weight 0 rest).bind fun (distance, rest) =>
        (filling.put? distance).bind fun filling => fill turns filling rest

def decode? (s : List Char) : Option (List Char) :=
  let written := (s.reverse.takeWhile (· != '-')).reverse
  let ascii := (s.reverse.dropWhile (· != '-')).reverse.dropLast
  fill written.length { text := ascii } written

end TxSubmission.Text.Punycode
