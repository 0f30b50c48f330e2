import TxSubmission.Http.HostName
import TxSubmission.Http.HostNumber
import TxSubmission.Text.Quoted
import TxSubmission.Text.Utf8

/-!
Addresses on the web. Reading an address cuts it into its parts and brings each into a normal
form: the scheme and the host in small letters, no socket number that goes without saying, no dot
segments in the path, and every character that a part may not hold written as bytes behind percent
signs.
-/

namespace TxSubmission.Http

open Text Number

inductive AddressFault where
  | tooLong
  | unprintable (c : Char) (place : Nat)
  | numbers (host : String)
  | brackets (host : String)
  | name (host : String)
  | socket (text : String)
  | unrooted
  | doubleSlash
  | colon
deriving DecidableEq, Repr

def inQuotes (s : String) : String := String.ofList (quoted s.toList)

def AddressFault.message : AddressFault → String
  | .tooLong => "URL too long"
  | .unprintable c place =>
    "Invalid non-printable ASCII character in URL, " ++ inQuotes (String.singleton c) ++
      " at position " ++ decimalText place ++ "."
  | .numbers host => "Invalid IPv4 address: " ++ inQuotes host
  | .brackets host => "Invalid IPv6 address: " ++ inQuotes host
  | .name host => "Invalid IDNA hostname: " ++ inQuotes host
  | .socket text => "Invalid port: " ++ inQuotes text
  | .unrooted => "For absolute URLs, path must be empty or begin with '/'"
  | .doubleSlash => "Relative URLs cannot have a path starting with '//'"
  | .colon => "Relative URLs cannot have a path starting with ':'"

structure Address where
  scheme : List Char
  user : List Char
  host : List Char
  /-- The number of the socket at the host. -/
  socket : Option Int
  path : List Char
  query : Option (List Char)
  fragment : Option (List Char)
deriving DecidableEq, Repr

namespace Address

def maxLength : Nat := 65536

def isAscii (c : Char) : Bool := c.toNat < 128

def isVisible (c : Char) : Bool := 32 ≤ c.toNat && c.toNat < 127

def isUnreserved (c : Char) : Bool := isAscii c && (c.isAlphanum || "-._~".contains c)

def isFragmentChar (c : Char) : Bool := isVisible c && !" \"<>`".contains c

def isQueryChar (c : Char) : Bool := isVisible c && !" \"#<>".contains c

def isPathChar (c : Char) : Bool := isQueryChar c && !"?`\x7b\x7d".contains c

def isUserChar (c : Char) : Bool := isPathChar c && !"/;=@[\\]^|".contains c

def isHostChar (c : Char) : Bool := "!$&'()*+,;=\"`\x7b\x7d%|\\".contains c

def escapeByte (byte : UInt8) : List Char :=
  '%' :: (paddedDigits 16 2 byte.toNat).map Char.toUpper

def escapeChar (c : Char) : List Char := (encodeUtf8 [c]).flatMap escapeByte

/-- Escapes the characters that are not in a class; escapes that stand there already are kept. -/
def escape (allowed : Char → Bool) : List Char → List Char
  | [] => []
  | '%' :: a :: b :: rest =>
    if isHexDigit a && isHexDigit b then '%' :: a :: b :: escape allowed rest
    else (if allowed '%' then ['%'] else escapeChar '%') ++ escape allowed (a :: b :: rest)
  | c :: rest =>
    (if isUnreserved c || allowed c then [c] else escapeChar c) ++ escape allowed rest

def isSchemeChar (c : Char) : Bool := isAscii c && (c.isAlphanum || "+.-".contains c)

def splitScheme (s : List Char) : List Char × List Char :=
  match s.dropWhile isSchemeChar with
  | ':' :: rest =>
    let scheme := s.takeWhile isSchemeChar
    if scheme.head?.all Char.isAlpha then (scheme, rest) else ([], s)
  | _ => ([], s)

def splitAuthority : List Char → List Char × List Char
  | '/' :: '/' :: rest =>
    let inside : Char → Bool := fun c => c != '/' && c != '?' && c != '#'
    (rest.takeWhile inside, rest.dropWhile inside)
  | s => ([], s)

def splitFirst (c : Char) (s : List Char) : List Char × Option (List Char) :=
  match s.dropWhile (· != c) with
  | _ :: rest => (s.takeWhile (· != c), some rest)
  | [] => (s, none)

def splitLast (c : Char) (s : List Char) : Option (List Char × List Char) :=
  match s.reverse.dropWhile (· != c) with
  | _ :: front => some (front.reverse, (s.reverse.takeWhile (· != c)).reverse)
  | [] => none

/-- Splits the host from what follows it: brackets up to the last one that closes, or everything up
to a colon. -/
def splitHost (s : List Char) : List Char × List Char :=
  match s, splitLast ']' s with
  | '[' :: _, some (front, rest) => (front ++ [']'], rest)
  | _, _ => (s.takeWhile (· != ':'), s.dropWhile (· != ':'))

/-- The socket number that goes without saying for a scheme, if the scheme is in small letters. -/
def usualSocket? (scheme : List Char) : Option Int :=
  match String.ofList scheme with
  | "ftp" => some 21
  | "http" => some 80
  | "https" => some 443
  | "ws" => some 80
  | "wss" => some 443
  | _ => none

def readSocket (scheme s : List Char) : Except AddressFault (Option Int) :=
  if s.isEmpty then .ok none
  else
    match readInt 10 (String.ofList s) with
    | .ok n => .ok (if usualSocket? scheme = some n then none else some n)
    | .error _ => .error (.socket (String.ofList s))

def unbracketed? : List Char → Option (List Char)
  | '[' :: rest => if rest.getLast? = some ']' then some rest.dropLast else none
  | _ => none

def readHost (s : List Char) : Except AddressFault (List Char) :=
  if s.isEmpty then .ok []
  else if looksNumbered s then
    if isQuad s then .ok s else .error (.numbers (String.ofList s))
  else
    match unbracketed? s with
    | some inner =>
      if isBracketed inner then .ok inner else .error (.brackets (String.ofList s))
    | none =>
      if s.all isAscii then .ok (escape isHostChar (s.map Char.toLower))
      else
        match asciiName? s with
        | some name => .ok name
        | none => .error (.name (String.ofList s))

/-- Drops the segments that stand for a place and, with the segment before it, for the place
above. -/
def walk (kept : List (List Char)) : List (List Char) → List (List Char)
  | [] => kept.reverse
  | ['.'] :: rest => walk kept rest
  | ['.', '.'] :: rest => walk (if kept = [[]] then kept else kept.drop 1) rest
  | segment :: rest => walk (segment :: kept) rest

def straightened (path : List Char) : List Char :=
  ['/'].intercalate (walk [] (path.splitOn '/'))

/-- Checks a path: behind a host it begins with a slash; without scheme and host neither two
slashes nor a colon may begin it. -/
def checkPath (hasScheme hasHost : Bool) (path : List Char) : Except AddressFault Unit :=
  if hasHost && path.head?.any (· != '/') then .error .unrooted
  else if hasScheme || hasHost then .ok ()
  else if path.take 2 = ['/', '/'] then .error .doubleSlash
  else if path.head? = some ':' then .error .colon
  else .ok ()

def unprintable? (place : Nat) : List Char → Option (Char × Nat)
  | [] => none
  | c :: rest =>
    if isAscii c && !isVisible c then some (c, place) else unprintable? (place + 1) rest

def read (text : String) : Except AddressFault Address := do
  let s := text.toList
  if maxLength < s.length then .error .tooLong
  if let some (c, place) := unprintable? 0 s then .error (.unprintable c place)
  let (scheme, rest) := splitScheme s
  let (authority, rest) := splitAuthority rest
  let (rest, fragment) := splitFirst '#' rest
  let (path, query) := splitFirst '?' rest
  let (user, place) := (splitLast '@' authority).getD ([], authority)
  let (host, rest) := splitHost place
  let user := escape isUserChar user
  let host ← readHost host
  let socket ← readSocket scheme (if rest.head? = some ':' then rest.drop 1 else rest)
  let hasScheme := !scheme.isEmpty
  let hasHost := !user.isEmpty || !host.isEmpty || socket.isSome
  checkPath hasScheme hasHost path
  pure
    { scheme := scheme.map Char.toLower
      user
      host
      socket
      path := escape isPathChar (if hasScheme || hasHost then straightened path else path)
      query := query.map (escape isQueryChar)
      fragment := fragment.map (escape isFragmentChar) }

def isAbsolute (a : Address) : Bool := !a.scheme.isEmpty && !a.host.isEmpty

def authority (a : Address) : List Char :=
  (if a.user.isEmpty then [] else a.user ++ ['@']) ++
    (if a.host.contains ':' then '[' :: a.host ++ [']'] else a.host) ++
    (match a.socket with
      | some n => ':' :: (decimalText n).toList
      | none => [])

def marked (sign : Char) : Option (List Char) → List Char
  | some part => sign :: part
  | none => []

def resource (a : Address) : List Char :=
  ((if a.path.isEmpty then ['/'] else a.path) ++ marked '?' a.query).dropWhile (· == '/')

/-- The text of an address that is spoken to. One that is not absolute is a place on a host without
a name. -/
def text (a : Address) : String :=
  String.ofList
    (if a.isAbsolute then
      a.scheme ++ ':' :: '/' :: '/' :: a.authority ++ a.path ++ marked '?' a.query ++
        marked '#' a.fragment
    else '/' :: a.resource)

/-- Whether an address to which a reply points can be completed: a scheme without a host takes the
host of the request, and then its path has to begin with a slash. -/
def isReachable (a : Address) : Bool :=
  a.scheme.isEmpty || !a.host.isEmpty || a.path.head?.all (· == '/')

end Address

end TxSubmission.Http
