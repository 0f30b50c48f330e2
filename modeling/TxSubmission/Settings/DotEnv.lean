import TxSubmission.Text.Blank

/-!
Settings files. Each line binds a name to a value; the value may be missing, in quotes of either
kind, or plain up to the end of the line or a comment. A line that is not of this form is passed
over. A mark of the byte order at the start of the file is no part of it. Values may refer to
other variables, which are put in afterwards.
-/

namespace TxSubmission.DotEnv

open Text

/-- The result of a reading step and what follows it, or the place where the step failed. -/
abbrev Step (α : Type) := Except (List Char) (α × List Char)

/-- A name and its value; the line may give no value, and it may bind nothing at all. -/
structure Binding where
  name : Option String
  value : Option String
deriving DecidableEq, Repr

def unifyNewlines : List Char → List Char
  | [] => []
  | '\r' :: '\n' :: rest => '\n' :: unifyNewlines rest
  | '\r' :: rest => '\n' :: unifyNewlines rest
  | c :: rest => c :: unifyNewlines rest

def isInlineBlank (c : Char) : Bool := isSpacing c && c != '\n'

def skipInline (s : List Char) : List Char := s.dropWhile isInlineBlank

def skipLine (s : List Char) : List Char := (s.dropWhile (· != '\n')).drop 1

def skipExport (s : List Char) : List Char :=
  match s with
  | 'e' :: 'x' :: 'p' :: 'o' :: 'r' :: 't' :: c :: rest =>
    if isInlineBlank c then skipInline rest else s
  | _ => s

def isNameChar (c : Char) : Bool := c != '=' && c != '#' && !isSpacing c

def isQuote (c : Char) : Bool := c == '\x27' || c == '"'

def readName (s : List Char) : Step (Option String) :=
  match s with
  | '#' :: _ => .ok (none, s)
  | '\x27' :: rest =>
    match rest.takeWhile (· != '\x27'), rest.dropWhile (· != '\x27') with
    | c :: name, _ :: after => .ok (some (String.ofList (c :: name)), after)
    | _, _ => .error s
  | _ =>
    match s.takeWhile isNameChar with
    | [] => .error s
    | name => .ok (some (String.ofList name), s.dropWhile isNameChar)

/-- The text up to the closing quote, and what follows it. A character after a backslash belongs
to the text, whatever it is. -/
def closing? (quote : Char) : List Char → Option (List Char × List Char)
  | [] => none
  | '\\' :: [] => none
  | '\\' :: c :: rest => (closing? quote rest).map fun (text, left) => ('\\' :: c :: text, left)
  | c :: rest =>
    if c = quote then some ([], rest)
    else (closing? quote rest).map fun (text, left) => (c :: text, left)

/-- The character that an escape stands for. In single quotes only the quote and the backslash
can be escaped. -/
def escape? (quote : Char) : Char → Option Char
  | '\\' => some '\\'
  | '\x27' => some '\x27'
  | c =>
    if quote = '\x27' then none
    else
      match c with
      | '"' => some '"'
      | 'a' => some '\x07'
      | 'b' => some '\x08'
      | 'f' => some '\x0c'
      | 'n' => some '\n'
      | 'r' => some '\r'
      | 't' => some '\t'
      | 'v' => some '\x0b'
      | _ => none

def unescape (quote : Char) : Bool → List Char → List Char
  | true, [] => ['\\']
  | false, [] => []
  | true, c :: rest =>
    match escape? quote c with
    | some d => d :: unescape quote false rest
    | none => '\\' :: c :: unescape quote false rest
  | false, c :: rest =>
    if c = '\\' then unescape quote true rest else c :: unescape quote false rest

/-- A plain value up to a comment, which has to follow a blank. -/
def beforeComment : Bool → List Char → List Char
  | _, [] => []
  | afterBlank, c :: rest =>
    if afterBlank && c == '#' then [] else c :: beforeComment (isSpacing c) rest

/-- Reads the value after an equals sign. The blanks in front of it may belong to a comment that
stands in its place. -/
def readValue (s : List Char) : Step String :=
  match skipInline s with
  | [] => .ok ("", [])
  | start@(c :: rest) =>
    if isQuote c then
      match closing? c rest with
      | some (text, after) => .ok (String.ofList (unescape c false text), after)
      | none => .error start
    else
      let line := start.takeWhile (· != '\n')
      let afterBlank := s.head?.any isInlineBlank
      .ok (String.ofList (dropRightWhile isSpacing (beforeComment afterBlank line)),
        start.dropWhile (· != '\n'))

def readEnd (s : List Char) : Step Unit :=
  let rest :=
    match skipInline s with
    | '#' :: comment => comment.dropWhile (· != '\n')
    | _ => s
  match skipInline rest with
  | [] => .ok ((), [])
  | '\n' :: after => .ok ((), after)
  | _ => .error rest

def readBinding (s : List Char) : Except (List Char) (Binding × List Char) := do
  let (name, rest) ← readName (skipExport s)
  match skipInline rest with
  | '=' :: after =>
    let (value, rest) ← readValue after
    let (_, rest) ← readEnd rest
    pure (⟨name, some value⟩, rest)
  | rest =>
    let (_, rest) ← readEnd rest
    pure (⟨name, none⟩, rest)

def readAll (s : List Char) : List Binding :=
  match s.dropWhile isSpacing with
  | [] => []
  | start@(_ :: _) =>
    match readBinding start with
    | .ok (binding, rest) =>
      binding :: (if _h : rest.length < s.length then readAll rest else [])
    | .error place =>
      let rest := skipLine place
      if _h : rest.length < s.length then readAll rest else []
termination_by s.length

structure Reference where
  name : String
  fallback : String
  length : Nat
deriving DecidableEq, Repr

def reference? : List Char → Option Reference
  | '$' :: '\x7b' :: rest =>
    let isNamePart : Char → Bool := fun c => c != '\x7d' && c != ':'
    let name := rest.takeWhile isNamePart
    match rest.dropWhile isNamePart with
    | '\x7d' :: _ => some ⟨String.ofList name, "", name.length + 3⟩
    | ':' :: '-' :: after =>
      let fallback := after.takeWhile (· != '\x7d')
      match after.dropWhile (· != '\x7d') with
      | _ :: _ =>
        some ⟨String.ofList name, String.ofList fallback, name.length + fallback.length + 5⟩
      | [] => none
    | _ => none
  | _ => none

/-- A text with its references replaced, of which some characters still belong to the last. -/
def expandFrom (value : Reference → String) : Nat → List Char → List Char
  | _, [] => []
  | skip + 1, _ :: rest => expandFrom value skip rest
  | 0, c :: rest =>
    match reference? (c :: rest) with
    | some reference =>
      (value reference).toList ++ expandFrom value (reference.length - 1) rest
    | none => c :: expandFrom value 0 rest

/-- The value of a reference: an earlier binding of the file if there is one, even without a
value, then the environment, then the fallback. -/
def resolve (environment : List (String × String)) (bound : List (String × Option String))
    (reference : Reference) : String :=
  match bound.lookup reference.name with
  | some value => value.getD ""
  | none => (environment.lookup reference.name).getD reference.fallback

def bind (name : String) (value : Option String) :
    List (String × Option String) → List (String × Option String)
  | [] => [(name, value)]
  | (other, old) :: rest =>
    if other = name then (name, value) :: rest else (other, old) :: bind name value rest

def expandAll (environment : List (String × String)) :
    List (String × Option String) → List Binding → List (String × Option String)
  | bound, [] => bound
  | bound, ⟨none, _⟩ :: rest => expandAll environment bound rest
  | bound, ⟨some name, value⟩ :: rest =>
    let expanded := value.map fun text =>
      String.ofList (expandFrom (resolve environment bound) 0 text.toList)
    expandAll environment (bind name expanded bound) rest

def withoutOrderMark : List Char → List Char
  | '\ufeff' :: rest => rest
  | s => s

def read (environment : List (String × String)) (content : String) :
    List (String × Option String) :=
  expandAll environment [] (readAll (unifyNewlines (withoutOrderMark content.toList)))

end TxSubmission.DotEnv
