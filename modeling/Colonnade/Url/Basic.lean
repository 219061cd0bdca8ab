import Colonnade.Text.Letter
import Colonnade.Url.Host

/-!
# URLs

A `Url` is a scheme and the parts that the scheme lets it have, each in its one written
form. `Url.ofText?` reads an absolute URL:

1. controls and spaces around the text are dropped, and tabs and line ends anywhere in it;
2. the scheme ends at the first colon. The schemes of the web and `file` are *special*:
   they always have a host and a path, and a backslash is a slash to them;
3. the fragment starts at the first `#`, the query at the first `?` before it;
4. what is left is an authority and a path, or a path alone, or – without a slash – a
   path kept as written;
5. the path is resolved: `.` goes away and `..` takes the segment before it along.

`Url.text` puts the parts together again.
-/

namespace Colonnade

open Number

/-- **A URL** in parts. -/
structure Url where
  scheme : String
  userName : String
  password : String
  /-- The host, empty for a local file; none for a URL without an authority. -/
  host : Option String
  /-- The number after the host, none for the one that belongs to the scheme. -/
  service : Option Nat
  path : String
  query : Option String
  fragment : Option String
deriving DecidableEq, Inhabited

namespace Url

/-! ### Schemes -/

/-- The schemes with a host and a path, and the number of the service that belongs to each. -/
def specialSchemes : List (String × Option Nat) :=
  [("http", some 80), ("https", some 443), ("ws", some 80), ("wss", some 443),
    ("ftp", some 21), ("file", none)]

/-- The scheme is special. -/
def isSpecial (scheme : String) : Bool :=
  specialSchemes.any fun (s, _) => s == scheme

/-- The number of the service that belongs to a scheme. -/
def defaultService? (scheme : String) : Option Nat :=
  (specialSchemes.find? fun (s, _) => s == scheme).bind Prod.snd

/-- A scheme after its first letter. -/
def isSchemeChar (c : Char) : Bool :=
  c.isAlphanum || c == '+' || c == '-' || c == '.'

/-- The scheme in lower case and what follows its colon. -/
def splitScheme? : List Char → Option (String × List Char)
  | c :: cs =>
    let scheme := c :: cs.takeWhile isSchemeChar
    match cs.dropWhile isSchemeChar with
    | ':' :: rest =>
      if c.isAlpha then some (Text.lower (String.ofList scheme), rest) else none
    | _ => none
  | [] => none

/-- A slash, or in a special scheme a backslash. -/
def isSlash (special : Bool) (c : Char) : Bool :=
  c == '/' || (special && c == '\\')

/-! ### Paths -/

/-- The segment stands for the directory itself. -/
def isSingleDot (segment : List Char) : Bool :=
  let s := segment.map Char.toLower
  s == ['.'] || s == ['%', '2', 'e']

/-- The segment stands for the directory above. -/
def isDoubleDot (segment : List Char) : Bool :=
  let s := segment.map Char.toLower
  [['.', '.'], ['.', '%', '2', 'e'], ['%', '2', 'e', '.'], ['%', '2', 'e', '%', '2', 'e']].contains s

/-- A letter and a colon or a bar. -/
def isDriveLetter : List Char → Bool
  | [c, d] => c.isAlpha && (d == ':' || d == '|')
  | _ => false

/-- The path without its last segment; the drive letter of a file stays. -/
def shorten (file : Bool) (segments : List (List Char)) : List (List Char) :=
  if file && (segments.getLast?.map isDriveLetter).getD false then segments else segments.dropLast

/-- Resolves the segments of a path against those before it. -/
def resolveSegments (file : Bool) : List (List Char) → List (List Char) → List (List Char)
  | done, [] => done
  | done, s :: rest =>
    let done :=
      if isDoubleDot s then
        (shorten file done) ++ (if rest.isEmpty then [[]] else [])
      else if isSingleDot s then
        done ++ (if rest.isEmpty then [[]] else [])
      else if file && done.isEmpty && isDriveLetter s then
        done ++ [[s.headD 'c', ':']]
      else done ++ [encode pathSet s]
    resolveSegments file done rest

/-- The path of segments, each after a slash. -/
def joinSegments (segments : List (List Char)) : String :=
  String.ofList (segments.flatMap fun s => '/' :: s)

/-- The segments of a path text, whose first slash may be left out. -/
def splitSegments (special : Bool) (cs : List Char) : List (List Char) :=
  let body :=
    match cs with
    | c :: rest => if isSlash special c then rest else cs
    | [] => []
  body.splitOnP (isSlash special)

/-- The path of a URL with a hierarchy: always one segment at least in a special scheme,
none for no text in another. -/
def hierarchicalPath (scheme : String) (cs : List Char) : String :=
  let special := isSpecial scheme
  if cs.isEmpty && !special then ""
  else joinSegments (resolveSegments false [] (splitSegments special cs))

/-- The segments from the first one on that is not empty; the last one always stays. -/
def dropEmptyStart : List (List Char) → List (List Char)
  | [] :: s :: rest => dropEmptyStart (s :: rest)
  | segments => segments

/-- **The path of a file** of segments: no empty segment comes first. -/
def filePath (segments : List (List Char)) : String :=
  joinSegments (dropEmptyStart (resolveSegments true [] segments))

/-! ### Authorities -/

/-- The parts before and after the last `@`; none before if there is no `@`. -/
def splitUser (cs : List Char) : Option (List Char) × List Char :=
  let host := (cs.reverse.takeWhile (· ≠ '@')).reverse
  if host.length = cs.length then (none, cs)
  else (some (cs.take (cs.length - host.length - 1)), host)

/-- The host and, after a colon outside brackets, the number of the service. -/
def splitService (inBrackets : Bool) : List Char → List Char × Option (List Char)
  | [] => ([], none)
  | c :: cs =>
    if c = ':' ∧ !inBrackets then ([], some cs)
    else
      let inside := if c = '[' then true else if c = ']' then false else inBrackets
      let (host, service) := splitService inside cs
      (c :: host, service)

/-- Reads the digits of a service number: nothing, or a number of 16 bits, dropped if it belongs
to the scheme. -/
def service? (scheme : String) (cs : List Char) : Option (Option Nat) :=
  if cs.isEmpty then some none
  else
    match readNat? cs with
    | some n =>
      if 65535 < n then none
      else if defaultService? scheme = some n then some none
      else some (some n)
    | none => none

/-- The URL of a scheme with an authority; path, query and fragment are still to come. -/
def withAuthority? (scheme : String) (authority : List Char) : Option Url := do
  let (user, rest) := splitUser authority
  let (hostText, serviceText) := splitService false rest
  let special := isSpecial scheme
  let host ←
    if hostText.isEmpty then
      if special || user.isSome || serviceText.isSome then none else some []
    else if special then Host.special? hostText
    else Host.verbatim? hostText
  let service ← service? scheme (serviceText.getD [])
  let name := (user.getD []).takeWhile (· ≠ ':')
  let password := (user.getD []).drop (name.length + 1)
  some {
    scheme
    userName := String.ofList (encode userSet name)
    password := String.ofList (encode userSet password)
    host := some (String.ofList host)
    service
    path := ""
    query := none
    fragment := none }

/-- The URL of a scheme without an authority and with a path. -/
def withPath (scheme : String) (host : Option String) (path : String) : Url :=
  { scheme, userName := "", password := "", host, service := none, path, query := none,
    fragment := none }

/-- The host of a file: none for the machine itself. -/
def fileHost? (cs : List Char) : Option String :=
  if cs.isEmpty then some ""
  else (Host.special? cs).map fun h =>
    if h = ['l', 'o', 'c', 'a', 'l', 'h', 'o', 's', 't'] then "" else String.ofList h

/-- The URL of a file on a host; a path that begins with a drive letter is one on the machine
itself. -/
def fileOnHost (host : String) (cs : List Char) : Url :=
  if host.isEmpty then withPath "file" (some "") (filePath (cs.splitOnP (isSlash true)))
  else
    let segments := splitSegments true cs
    let host := if (segments.head?.map isDriveLetter).getD false then "" else host
    withPath "file" (some host) (filePath segments)

/-- A file URL after its scheme: a host after two slashes, unless it is a drive letter, and a
path. -/
def file? (cs : List Char) : Option Url :=
  match cs with
  | a :: b :: rest =>
    if isSlash true a && isSlash true b then
      let hostText := rest.takeWhile fun c => !isSlash true c
      if isDriveLetter hostText then some (fileOnHost "" rest)
      else (fileHost? hostText).map fun host => fileOnHost host (rest.drop hostText.length)
    else some (withPath "file" (some "") (filePath (splitSegments true cs)))
  | _ => some (withPath "file" (some "") (filePath (splitSegments true cs)))

/-- An authority and a path. -/
def authorityAndPath? (scheme : String) (cs : List Char) : Option Url :=
  let authority := cs.takeWhile fun c => !isSlash (isSpecial scheme) c
  (withAuthority? scheme authority).map fun url =>
    { url with path := hierarchicalPath scheme (cs.drop authority.length) }

/-- What stands between the scheme and the query. -/
def body? (scheme : String) (cs : List Char) : Option Url :=
  if scheme = "file" then file? cs
  else if isSpecial scheme then authorityAndPath? scheme (cs.dropWhile (isSlash true))
  else
    match cs with
    | '/' :: '/' :: rest => authorityAndPath? scheme rest
    | '/' :: _ => some (withPath scheme none (hierarchicalPath scheme cs))
    | _ => some (withPath scheme none (String.ofList (encode controlSet cs)))

/-! ### Reading and writing -/

/-- The text in front of a mark and, if there is one, the text behind it. -/
def splitAtMark (mark : Char) (cs : List Char) : List Char × Option (List Char) :=
  let before := cs.takeWhile (· ≠ mark)
  match cs.drop before.length with
  | [] => (before, none)
  | _ :: after => (before, some after)

/-- The text without controls and spaces at either edge, and without tabs and line ends. -/
def clean (cs : List Char) : List Char :=
  let outer (c : Char) : Bool := c.toNat ≤ 0x20
  let trimmed := ((cs.dropWhile outer).reverse.dropWhile outer).reverse
  trimmed.filter fun c => !(c == '\t' || c == '\n' || c == '\r')

/-- **Reading an absolute URL.** -/
def ofText? (s : String) : Option Url := do
  let (scheme, rest) ← splitScheme? (clean s.toList)
  let (rest, fragment) := splitAtMark '#' rest
  let (rest, query) := splitAtMark '?' rest
  let url ← body? scheme rest
  some { url with
    query := query.map fun q => String.ofList (encode (querySet (isSpecial scheme)) q)
    fragment := fragment.map fun f => String.ofList (encode fragmentSet f) }

/-- The user name and the password before the host. -/
def userText (u : Url) : String :=
  if u.userName.isEmpty && u.password.isEmpty then ""
  else if u.password.isEmpty then u.userName ++ "@"
  else u.userName ++ ":" ++ u.password ++ "@"

/-- The authority with its two slashes; a path that would be taken for one is set off. -/
def authorityText (u : Url) : String :=
  match u.host with
  | some host =>
    "//" ++ u.userText ++ host ++
      (match u.service with
        | some p => ":" ++ String.ofList (digitsOf p)
        | none => "")
  | none => if u.path.startsWith "//" then "/." else ""

/-- **The text of a URL.** -/
def text (u : Url) : String :=
  u.scheme ++ ":" ++ u.authorityText ++ u.path ++
    (match u.query with
      | some q => "?" ++ q
      | none => "") ++
    (match u.fragment with
      | some f => "#" ++ f
      | none => "")

end Url

end Colonnade
