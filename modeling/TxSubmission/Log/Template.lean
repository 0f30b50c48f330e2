import TxSubmission.Json.Display
import TxSubmission.Number.Amount
import TxSubmission.Number.DecimalText

/-!
Templates of log messages. A per cent sign begins a slot, which says how the next argument is
written: as text or as a number, in which base or notation, how wide and how precise. Arguments
come as a sequence or under names. A template that does not fit its arguments has no text.
-/

namespace TxSubmission.Log.Template

open Number Text

/-- The arguments that are left. An object of named arguments can also be taken once as a whole. -/
inductive Arguments where
  | sequence (rest : List Json)
  | named (members : Members) (spent : Bool)

def Arguments.next? : Arguments → Option (Json × Arguments)
  | .sequence (value :: rest) => some (value, .sequence rest)
  | .named members false => some (.object members, .named members true)
  | _ => none

structure Slot where
  left : Bool := false
  plus : Bool := false
  space : Bool := false
  alternate : Bool := false
  zero : Bool := false
  width : Nat := 0
  precision : Option Nat := none
deriving DecidableEq, Repr

def Slot.pad (slot : Slot) (s : List Char) : List Char :=
  let fill := List.replicate (slot.width - s.length) ' '
  if slot.left then s ++ fill else fill ++ s

def Slot.padNumber (slot : Slot) (negative : Bool) (mark digits : List Char) : List Char :=
  let sign :=
    if negative then ['-'] else if slot.plus then ['+'] else if slot.space then [' '] else []
  let lead := sign ++ mark
  if slot.zero && !slot.left then
    lead ++ List.replicate (slot.width - lead.length - digits.length) '0' ++ digits
  else slot.pad (lead ++ digits)

/-- A value as a whole number; fractions are cut off. -/
def wholeOf? : Json → Option Int
  | .int n => some n
  | .bool b => some (if b then 1 else 0)
  | .real (.finite negative mantissa e) => some (Binary64.truncate negative mantissa e)
  | _ => none

def exactWhole? : Json → Option Int
  | .int n => some n
  | .bool b => some (if b then 1 else 0)
  | _ => none

def realOf? : Json → Option Binary64
  | .real x => some x
  | value => (exactWhole? value).bind Binary64.ofInt?

def Slot.whole (slot : Slot) (base : Nat) (mark : List Char) (capitals : Bool) (n : Int) :
    List Char :=
  let digits := paddedDigits base (slot.precision.getD 1) n.natAbs
  let mark := if slot.alternate then mark else []
  let big (s : List Char) := if capitals then s.map Char.toUpper else s
  slot.padNumber (n < 0) (big mark) (big digits)

def fixedDigits (places num den : Nat) : List Char :=
  let digits := paddedDigits 10 (places + 1) (Binary64.divHalfEven (num * Nat.pow 10 places) den)
  let size := digits.length - places
  if places = 0 then digits else digits.take size ++ '.' :: digits.drop size

def powerDigits (places num den : Nat) : List Char :=
  let s : Significand := if num = 0 then ⟨0, 1⟩ else Significand.rounded (places + 1) num den
  let digits := paddedDigits 10 (places + 1) s.digits
  let body := if places = 0 then digits else digits.take 1 ++ '.' :: digits.drop 1
  body ++ Layout.power (s.point - 1)

/-- Digits in the shorter of the two notations, with the zeros at the end or without. -/
def generalDigits (keepZeros : Bool) (precision num den : Nat) : List Char :=
  let count := max precision 1
  let s : Significand := if num = 0 then ⟨0, 1⟩ else Significand.rounded count num den
  let digits := paddedDigits 10 count s.digits
  let kept := if keepZeros then digits else digits.take 1 ++ Layout.strip (digits.drop 1)
  Layout.spell ⟨-4, count, false⟩ kept s.point

def pointed (s : List Char) : List Char :=
  if s.contains '.' then s
  else s.takeWhile (· != 'e') ++ '.' :: s.dropWhile (· != 'e')

def Slot.real (slot : Slot) (style : Char) (x : Binary64) : List Char :=
  let capitals := style.isUpper
  let precision := slot.precision.getD 6
  let body :=
    match x with
    | .nan => "nan".toList
    | .infinite _ => "inf".toList
    | .finite _ mantissa e =>
      let (num, den) := Binary64.ratio mantissa e
      let digits :=
        match style.toLower with
        | 'f' => fixedDigits precision num den
        | 'e' => powerDigits precision num den
        | _ => generalDigits slot.alternate precision num den
      if slot.alternate then pointed digits else digits
  slot.padNumber x.isNegative [] (if capitals then body.map Char.toUpper else body)

def asciiOnly (s : List Char) : List Char :=
  s.flatMap fun c => if c.toNat < 128 then [c] else escapeCode c.toNat

def Slot.fill? (slot : Slot) (kind : Char) (value : Json) : Option (List Char) :=
  let cut (s : List Char) :=
    match slot.precision with
    | some count => s.take count
    | none => s
  match kind with
  | 's' => some (slot.pad (cut value.display.toList))
  | 'r' => some (slot.pad (cut value.nested.toList))
  | 'a' => some (slot.pad (cut (asciiOnly value.nested.toList)))
  | 'd' | 'i' | 'u' => (wholeOf? value).map (slot.whole 10 [] false)
  | 'o' => (exactWhole? value).map (slot.whole 8 ['0', 'o'] false)
  | 'x' => (exactWhole? value).map (slot.whole 16 ['0', 'x'] false)
  | 'X' => (exactWhole? value).map (slot.whole 16 ['0', 'x'] true)
  | 'c' =>
    match value with
    | .text s =>
      match s.toList with
      | [c] => some (slot.pad [c])
      | _ => none
    | _ =>
      match exactWhole? value with
      | some (.ofNat n) => if n < 0x110000 then some (slot.pad [Char.ofNat n]) else none
      | _ => none
  | 'e' | 'E' | 'f' | 'F' | 'g' | 'G' => (realOf? value).map (slot.real kind)
  | _ => none

inductive Place where
  | text
  | slot
  | key (depth : Nat) (read : List Char)
  | flags (slot : Slot) (bound : Option Json)
  | width (slot : Slot) (bound : Option Json)
  | point (slot : Slot) (bound : Option Json)
  | precision (slot : Slot) (bound : Option Json)
  | precise (slot : Slot) (bound : Option Json)
  | size (slot : Slot) (bound : Option Json)

def flag? (slot : Slot) : Char → Option Slot
  | '-' => some { slot with left := true }
  | '+' => some { slot with plus := true }
  | ' ' => some { slot with space := true }
  | '#' => some { slot with alternate := true }
  | '0' => some { slot with zero := true }
  | _ => none

def close? (slot : Slot) (bound : Option Json) (arguments : Arguments) (kind : Char) :
    Option (List Char × Place × Arguments) :=
  match bound with
  | some value => (slot.fill? kind value).map fun s => (s, .text, arguments)
  | none =>
    arguments.next?.bind fun (value, rest) =>
      (slot.fill? kind value).map fun s => (s, .text, rest)

def afterNumbers? (slot : Slot) (bound : Option Json) (arguments : Arguments) (c : Char) :
    Option (List Char × Place × Arguments) :=
  if c = 'h' ∨ c = 'l' ∨ c = 'L' then some ([], .size slot bound, arguments)
  else close? slot bound arguments c

def sizeBound : Int := Nat.pow 2 31

/-- A width or a precision that comes as an argument; it has to be of a sensible size. -/
def starred? : Arguments → Option (Int × Arguments)
  | .sequence (value :: rest) =>
    ((exactWhole? value).filter fun n => -sizeBound ≤ n && n < sizeBound).map (·, .sequence rest)
  | _ => none

def grown? (size digit : Nat) : Option Nat :=
  some (10 * size + digit) |>.filter fun n => (n : Int) < sizeBound

def afterFlags? (slot : Slot) (bound : Option Json) (arguments : Arguments) (c : Char) :
    Option (List Char × Place × Arguments) :=
  if c = '*' then
    if bound.isSome then none
    else
      (starred? arguments).map fun (n, rest) =>
        ([], .point { slot with left := slot.left || n < 0, width := n.natAbs } bound, rest)
  else
    match asciiDecimal? c with
    | some d => some ([], .width { slot with width := d } bound, arguments)
    | none =>
      if c = '.' then some ([], .precision { slot with precision := some 0 } bound, arguments)
      else afterNumbers? slot bound arguments c

def step? : Place → Arguments → Char → Option (List Char × Place × Arguments)
  | .text, arguments, c =>
    if c = '%' then some ([], .slot, arguments) else some ([c], .text, arguments)
  | .slot, arguments, c =>
    if c = '%' then some (['%'], .text, arguments)
    else if c = '(' then
      match arguments with
      | .named .. => some ([], .key 0 [], arguments)
      | .sequence _ => none
    else
      match flag? {} c with
      | some slot => some ([], .flags slot none, arguments)
      | none => afterFlags? {} none arguments c
  | .key depth read, arguments, c =>
    if c = ')' ∧ depth = 0 then
      match arguments with
      | .named members _ =>
        (Members.get? (String.ofList read.reverse) members).map fun value =>
          ([], .flags {} (some value), .named members true)
      | .sequence _ => none
    else
      let depth := if c = '(' then depth + 1 else if c = ')' then depth - 1 else depth
      some ([], .key depth (c :: read), arguments)
  | .flags slot bound, arguments, c =>
    match flag? slot c with
    | some slot => some ([], .flags slot bound, arguments)
    | none => afterFlags? slot bound arguments c
  | .width slot bound, arguments, c =>
    match asciiDecimal? c with
    | some d =>
      (grown? slot.width d).map fun width => ([], .width { slot with width } bound, arguments)
    | none =>
      if c = '.' then some ([], .precision { slot with precision := some 0 } bound, arguments)
      else afterNumbers? slot bound arguments c
  | .point slot bound, arguments, c =>
    if c = '.' then some ([], .precision { slot with precision := some 0 } bound, arguments)
    else afterNumbers? slot bound arguments c
  | .precision slot bound, arguments, c =>
    if c = '*' then
      if bound.isSome then none
      else
        (starred? arguments).map fun (n, rest) =>
          ([], .precise { slot with precision := some n.toNat } bound, rest)
    else
      match asciiDecimal? c with
      | some d =>
        (grown? (slot.precision.getD 0) d).map fun places =>
          ([], .precision { slot with precision := some places } bound, arguments)
      | none => afterNumbers? slot bound arguments c
  | .precise slot bound, arguments, c => afterNumbers? slot bound arguments c
  | .size slot bound, arguments, c => close? slot bound arguments c

/-- Reads the rest of a template. At its end no slot may be open and no argument of a sequence
left over. -/
def run? : Place → Arguments → List Char → Option (List Char)
  | .text, .sequence (_ :: _), [] => none
  | .text, _, [] => some []
  | _, _, [] => none
  | place, arguments, c :: rest =>
    match step? place arguments c with
    | none => none
    | some (written, next, left) => (run? next left rest).map (written ++ ·)

/-- The text of a message. Without arguments a template is its own text; a single object that is
not empty gives named arguments. -/
def message? (template : String) : List Json → Option String
  | [] => some template
  | [.object (first :: rest)] =>
    (run? .text (.named (first :: rest) false) template.toList).map String.ofList
  | arguments => (run? .text (.sequence arguments) template.toList).map String.ofList

end TxSubmission.Log.Template
