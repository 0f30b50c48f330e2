import TxSubmission.Http.HostLetters
import TxSubmission.Text.Composed
import TxSubmission.Text.Direction
import TxSubmission.Text.Joining
import TxSubmission.Text.Punycode

/-!
Names of hosts in any script. A name is cut into labels at dots of every width; each label is
written in ASCII, those with other characters behind a mark of their own. Only small letters,
marks, digits and inner hyphens make a label, which has to be composed and to run in one direction;
some characters need the right company. Neither a label nor the name may be too long.
-/

namespace TxSubmission.Http

open Text

def isLabelDot (c : Char) : Bool :=
  c == '.' || c == '\u3002' || c == '\uff0e' || c == '\uff61'

def labels (s : List Char) : List (List Char) := s.splitOnP isLabelDot

def isArabicDigit (c : Char) : Bool := '\u0660' ≤ c && c ≤ '\u0669'

def isPersianDigit (c : Char) : Bool := '\u06f0' ≤ c && c ≤ '\u06f9'

def kanaAndHanRuns : List (Nat × Nat) :=
  [(0x3005, 0x3005), (0x3007, 0x3007), (0x3041, 0x3096), (0x309d, 0x30fa), (0x30fd, 0x30fe),
   (0x31f0, 0x9fff), (0xfa0e, 0xfa29), (0x16fe3, 0x16fe3), (0x16ff0, 0x16ff1), (0x1aff0, 0x1b167),
   (0x20000, 0x3134a)]

def greekRuns : List (Nat × Nat) :=
  [(0x371, 0x3e1), (0x3f3, 0x3fc), (0x1d26, 0x1d2a), (0x1f00, 0x1ff6), (0xab65, 0xab65)]

def hebrewRuns : List (Nat × Nat) :=
  [(0x591, 0x5f4), (0xfb1e, 0xfb1e)]

/-- Whether a character may stand in a label behind others, which are given from the last to the
first, and in front of others. -/
def isLabelChar (label before after : List Char) (c : Char) : Bool :=
  if c.toNat < 128 then ('a' ≤ c && c ≤ 'z') || ('0' ≤ c && c ≤ '9') || c == '-'
  else if c = '·' then before.head? == some 'l' && after.head? == some 'l'
  else if c = '\u0375' then after.head?.any (inRuns greekRuns)
  else if c = '\u05f3' || c = '\u05f4' then before.head?.any (inRuns hebrewRuns)
  else if c = '・' then label.any (inRuns kanaAndHanRuns)
  else if c = separator || c = joiner then joinerFits c before after
  else if isArabicDigit c then !label.any isPersianDigit
  else if isPersianDigit c then !label.any isArabicDigit
  else isHostLetter c

def areLabelChars (label : List Char) : List Char → List Char → Bool
  | _, [] => true
  | before, c :: rest =>
    isLabelChar label before rest c && areLabelChars label (c :: before) rest

/-- Whether hyphens stand where they may: neither at an end nor third and fourth. -/
def hyphensFit (label : List Char) : Bool :=
  label.head? != some '-' && label.getLast? != some '-' &&
    (label.drop 2).take 2 != ['-', '-']

def isLabel (label : List Char) : Bool :=
  !label.isEmpty && hyphensFit label && !label.head?.any isMark && isComposed label &&
    areLabelChars label [] label && directionsFit label

def writtenMark : List Char := "xn--".toList

def isWritten (s : List Char) : Bool :=
  s.getLast? != some '-' && (Punycode.decode? s).any isLabel

def maxLabel : Nat := 63

/-- A label in ASCII. One that has been written in ASCII already is kept. No label becomes shorter
in ASCII, so one that is too long as it stands is refused at once. -/
def asciiLabel? (label : List Char) : Option (List Char) :=
  if maxLabel < label.length then none
  else if label.all (·.toNat < 128) then
    let fits :=
      if writtenMark.isPrefixOf label then isWritten (label.drop writtenMark.length)
      else isLabel label
    if fits then some label else none
  else if isLabel label then
    some (writtenMark ++ Punycode.encode label) |>.filter (·.length ≤ maxLabel)
  else none

def asciiName? (name : List Char) : Option (List Char) :=
  let parts := labels (small name)
  let closed := 1 < parts.length && parts.getLast? == some []
  let parts := if closed then parts.dropLast else parts
  match parts.mapM asciiLabel? with
  | none => none
  | some written =>
    let joined := ['.'].intercalate written ++ (if closed then ['.'] else [])
    if joined.length ≤ (if closed then 254 else 253) then some joined else none

end TxSubmission.Http
