import TxSubmission.Text.Digit

/-!
Command lines. A grammar has options, each with a value, and operands, which are known by their
place; a grammar may instead hand everything from its first operand on to a command. An option may
be shortened as long as it is the only one that fits, takes its value from the same word after an
equals sign or from the next word, and may be repeated, the last one counting. Two dashes end the
options. Reading stops at the first fault and at a request for help, whichever comes first; words
that nothing takes are a fault in the end.
-/

namespace TxSubmission.Cli

open Text

inductive Stop where
  | help
  | fault
deriving DecidableEq, Repr

/-- An option, and how its value is stored, unless the value is refused. Two dashes behind the
equals sign are taken for the end of the options and leave no value to store. -/
structure Flag (σ : Type) where
  name : String
  store : Option String → σ → Option σ

structure Operand (σ : Type) where
  optional : Bool
  store : Option String → σ → σ

/-- What a command line may hold. A branch takes the first operand and all that follows; the flag
that it returns says that something was left over. -/
structure Grammar (σ : Type) where
  flags : List (Flag σ)
  operands : List (Operand σ) := []
  branch : Option (String → List String → σ → Except Stop (σ × Bool)) := none

inductive Meaning (σ : Type) where
  | word
  | dashes
  | help (tail : Option (List Char))
  | flag (flag : Flag σ) (value : Option String)
  | unknown

structure Item (σ : Type) where
  text : String
  meaning : Meaning σ

variable {σ : Type}

namespace Item

def isOption (item : Item σ) : Bool :=
  match item.meaning with
  | .word | .dashes => false
  | _ => true

def isDashes (item : Item σ) : Bool :=
  match item.meaning with
  | .dashes => true
  | _ => false

def isWord (item : Item σ) : Bool :=
  match item.meaning with
  | .word => true
  | _ => false

end Item

def splitValue (s : List Char) : List Char × Option (List Char) :=
  match s.dropWhile (· != '=') with
  | _ :: value => (s.takeWhile (· != '='), some value)
  | [] => (s, none)

/-- Whether a word is a number below zero, which is a value and no option. -/
def isNegativeNumber (s : List Char) : Bool :=
  let isDigit : Char → Bool := fun c => (decimalValue? c).isSome
  let body := if s.getLast? = some '\n' then s.dropLast else s
  match body with
  | '-' :: rest =>
    let whole := rest.takeWhile isDigit
    match rest.dropWhile isDigit with
    | [] => !whole.isEmpty
    | '.' :: fraction => !fraction.isEmpty && fraction.all isDigit
    | _ => false
  | _ => false

namespace Grammar

/-- The options whose name begins with a text, help being the one that is none. -/
def fitting (g : Grammar σ) (start : List Char) : List (Option (Flag σ)) :=
  (if start.isPrefixOf "--help".toList then [none] else []) ++
    (g.flags.filter fun flag => start.isPrefixOf flag.name.toList).map some

def meaningOf (value : Option (List Char)) : Option (Flag σ) → Meaning σ
  | none => .help value
  | some flag => .flag flag (value.map String.ofList)

def shortened (g : Grammar σ) (s : List Char) : Except Stop (Meaning σ) :=
  let (start, value) := splitValue s
  let plain : Meaning σ := if isNegativeNumber s || s.contains ' ' then .word else .unknown
  match s with
  | '-' :: '-' :: _ =>
    match g.fitting start with
    | [] => .ok plain
    | [found] => .ok (meaningOf value found)
    | _ => .error .fault
  | '-' :: 'h' :: tail => .ok (.help (some tail))
  | _ => .ok plain

def meaning (g : Grammar σ) (text : String) : Except Stop (Meaning σ) :=
  let s := text.toList
  match s with
  | '-' :: _ :: _ =>
    if text = "-h" ∨ text = "--help" then .ok (.help none)
    else
      match g.flags.find? (·.name = text) with
      | some flag => .ok (.flag flag none)
      | none =>
        let (start, value) := splitValue s
        if value.isSome ∧ (start = "-h".toList ∨ start = "--help".toList) then .ok (.help value)
        else
          match value, g.flags.find? (·.name.toList = start) with
          | some value, some flag => .ok (.flag flag (some (String.ofList value)))
          | _, _ => g.shortened s
  | _ => .ok .word

def items (g : Grammar σ) : List String → Except Stop (List (Item σ))
  | [] => .ok []
  | text :: rest =>
    if text = "--" then
      .ok (⟨text, .dashes⟩ :: rest.map fun text => ⟨text, .word⟩)
    else do
      let meaning ← g.meaning text
      let others ← g.items rest
      pure (⟨text, meaning⟩ :: others)

end Grammar

def Operand.group? (operand : Operand σ) (items : List (Item σ)) :
    Option (List String × List (Item σ)) :=
  let lead := items.takeWhile Item.isDashes
  let rest := items.dropWhile Item.isDashes
  match rest with
  | item :: after =>
    if item.isWord then
      let close := after.takeWhile Item.isDashes
      some ((lead ++ item :: close).map (·.text), after.dropWhile Item.isDashes)
    else if operand.optional then some (lead.map (·.text), rest)
    else none
  | [] => if operand.optional then some (lead.map (·.text), rest) else none

structure Progress (σ : Type) where
  value : σ
  operands : List (Operand σ)
  branches : Bool
  leftover : Bool := false

def fill : List (Operand σ) → σ → List (Item σ) → List (Operand σ) × σ × List (Item σ)
  | [], value, items => ([], value, items)
  | operand :: rest, value, items =>
    match operand.group? items with
    | none => (operand :: rest, value, items)
    | some (words, after) => fill rest (operand.store (words.erase "--").head? value) after

/-- What a request for help comes to that is written in one word with something else: the letter
may be repeated, and anything else is a fault. -/
def helpTail (tail : List Char) : Stop :=
  if tail ≠ [] ∧ tail.all (· == 'h') then .help else .fault

namespace Grammar

def takeOperands (g : Grammar σ) (progress : Progress σ) (items : List (Item σ)) :
    Except Stop (Progress σ × List (Item σ)) :=
  match g.branch with
  | some branch =>
    if progress.branches ∧ ((items.dropWhile Item.isDashes).head?.any Item.isWord) then
      match items with
      | [] => .ok (progress, [])
      | first :: rest => do
        let (value, leftover) ← branch first.text (rest.map (·.text)) progress.value
        pure
          ({ progress with value, branches := false, leftover := progress.leftover || leftover },
            [])
    else .ok (progress, items)
  | none =>
    let (operands, value, rest) := fill progress.operands progress.value items
    .ok ({ progress with operands, value }, rest)

def takeOption (progress : Progress σ) (item : Item σ) (rest : List (Item σ)) :
    Except Stop (Progress σ × List (Item σ)) :=
  match item.meaning with
  | .help none => .error .help
  | .help (some tail) =>
    if "--".toList.isPrefixOf item.text.toList then .error .fault else .error (helpTail tail)
  | .flag flag (some text) =>
    match flag.store (if text = "--" then none else some text) progress.value with
    | some value => .ok ({ progress with value }, rest)
    | none => .error .fault
  | .flag flag none =>
    match rest with
    | next :: after =>
      if next.isWord then
        match flag.store (some next.text) progress.value with
        | some value => .ok ({ progress with value }, after)
        | none => .error .fault
      else .error .fault
    | [] => .error .fault
  | _ => .ok ({ progress with leftover := true }, rest)

/-- Takes the words of a command line in order. Every turn takes a word at least, so as many turns
as there are words are enough. -/
def take (g : Grammar σ) : Nat → Progress σ → List (Item σ) → Except Stop (Progress σ)
  | 0, progress, items => .ok { progress with leftover := progress.leftover || !items.isEmpty }
  | turns + 1, progress, items =>
    if items.any Item.isOption then
      match items with
      | [] => .ok progress
      | item :: rest =>
        if item.isOption then do
          let (progress, rest) ← takeOption progress item rest
          g.take turns progress rest
        else do
          let (progress, after) ← g.takeOperands progress items
          if after.length < items.length then g.take turns progress after
          else
            g.take turns { progress with leftover := true }
              (items.dropWhile fun item => !item.isOption)
    else do
      let (progress, after) ← g.takeOperands progress items
      pure { progress with leftover := progress.leftover || !after.isEmpty }

def read (g : Grammar σ) (start : σ) (words : List String) : Except Stop (σ × Bool) := do
  let items ← g.items words
  let progress ←
    g.take items.length { value := start, operands := g.operands, branches := true } items
  if progress.operands.all (·.optional) then pure (progress.value, progress.leftover)
  else .error .fault

end Grammar

end TxSubmission.Cli
