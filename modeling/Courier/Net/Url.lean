/-!
# URLs

Parsing and writing URLs as the URL Standard does it, for the absolute URLs the services are
called at. The text is first trimmed of leading and trailing control characters and spaces, and
tabs and line breaks anywhere are dropped.

* The scheme is a letter followed by letters, digits, `+`, `-` or `.`, ended by `:`, and is
  lower-cased. A text without one is not an absolute URL.
* The special schemes (`http`, `https`, `ws`, `wss`, `ftp`) take an authority after any run of
  `/` and `\`: optional user information before the last `@`, a host, and an optional port. The
  host is percent-decoded, lower-cased and checked for forbidden characters; a host that ends in
  a number is an IPv4 address, written back in dotted decimal. A port equal to the scheme's
  default is dropped.
* The path is split at `/` (and at `\` in special schemes) into segments; `.` segments are
  dropped and `..` segments remove the segment before them.
* Characters outside each component's allowed set are percent-encoded as UTF-8 bytes.

Other schemes keep their text, percent-encoding only control characters and non-ASCII
characters in the path.
-/

namespace Courier.Net

/-- An absolute URL, each component already in its written form. -/
structure Url where
  scheme : String
  /-- user name, then `:` and the password if there is one; empty for none -/
  userinfo : String := ""
  host : Option String := none
  port : Option Nat := none
  path : String := ""
  query : Option String := none
  fragment : Option String := none
  deriving DecidableEq, Inhabited

/-- Why a text is not a URL. -/
inductive UrlError where
  | relativeWithoutBase
  | emptyHost
  | invalidPort
  | invalidIpv4
  | invalidIpv6
  | invalidDomainCharacter
  deriving DecidableEq

/-- The text of a URL. -/
def Url.render (u : Url) : String :=
  let authority := match u.host with
    | some h =>
      "//" ++ (if u.userinfo.isEmpty then "" else u.userinfo ++ "@") ++ h ++
        (match u.port with
          | some p => ":" ++ toString p
          | none => "")
    | none => ""
  let query := match u.query with
    | some q => "?" ++ q
    | none => ""
  let fragment := match u.fragment with
    | some f => "#" ++ f
    | none => ""
  u.scheme ++ ":" ++ authority ++ u.path ++ query ++ fragment

/-! ### Percent-encoding -/

/-- An upper-case hexadecimal digit. -/
def hexDigitUpper (n : Nat) : Char :=
  if n < 10 then Char.ofNat (48 + n) else Char.ofNat (55 + n)

/-- A byte as `%XX`. -/
def percentByte (b : UInt8) : String :=
  String.ofList ['%', hexDigitUpper (b.toNat / 16), hexDigitUpper (b.toNat % 16)]

/-- Control characters: C0 controls and delete. -/
def controlSet (c : Char) : Bool := c.toNat < 32 || c.toNat == 127

/-- Characters encoded in a fragment. -/
def fragmentSet (c : Char) : Bool := controlSet c || " \"<>\x60".contains c

/-- Characters encoded in a query. -/
def querySet (c : Char) : Bool := controlSet c || " \"#<>".contains c

/-- Characters encoded in the query of a special URL. -/
def specialQuerySet (c : Char) : Bool := querySet c || c == '\''

/-- Characters encoded in a path segment. -/
def pathSet (c : Char) : Bool := fragmentSet c || "#?\x7b\x7d".contains c

/-- Characters encoded in user information. -/
def userinfoSet (c : Char) : Bool := pathSet c || "/:;=@[\\]^|".contains c

/-- Percent-encodes the characters of a set and every non-ASCII character. -/
def encodeWith (set : Char → Bool) (s : String) : String :=
  s.foldl (fun acc c =>
    if c.toNat < 128 && !set c then acc.push c
    else (String.singleton c).toUTF8.foldl (fun a b => a ++ percentByte b) acc) ""

/-- The value of a hexadecimal digit. -/
def hexValue? (c : Char) : Option Nat :=
  if '0' ≤ c && c ≤ '9' then some (c.toNat - 48)
  else if 'a' ≤ c && c ≤ 'f' then some (c.toNat - 87)
  else if 'A' ≤ c && c ≤ 'F' then some (c.toNat - 55)
  else none

/-- Decodes `%XX` escapes in a list of bytes; a `%` without two hexadecimal digits stays. -/
def percentDecodeBytes : List UInt8 → List UInt8
  | [] => []
  | b :: h :: l :: tail =>
    if b == 37 then
      match hexValue? (Char.ofNat h.toNat), hexValue? (Char.ofNat l.toNat) with
      | some x, some y => UInt8.ofNat (16 * x + y) :: percentDecodeBytes tail
      | _, _ => b :: percentDecodeBytes (h :: l :: tail)
    else b :: percentDecodeBytes (h :: l :: tail)
  | b :: rest => b :: percentDecodeBytes rest
termination_by bs => bs.length

/-- Percent-decodes text; bytes that are not UTF-8 leave the text as it was. -/
def percentDecode (s : String) : String :=
  (String.fromUTF8? (ByteArray.mk (percentDecodeBytes s.toUTF8.toList).toArray)).getD s

/-! ### Hosts -/

/-- Characters a domain may not hold. -/
def forbiddenDomainChar (c : Char) : Bool :=
  c.toNat ≤ 32 || c.toNat == 127 || "#%/:<>?@[\\]^|".contains c

/-- Whether a text is a number as an IPv4 part may be written: decimal digits, or `0x` and
hexadecimal digits. -/
def isIpv4Number (s : String) : Bool :=
  if s.startsWith "0x" || s.startsWith "0X" then ((s.drop 2).toString.all fun c => (hexValue? c).isSome)
  else !s.isEmpty && s.all Char.isDigit

/-- The dot-separated parts of a host, without one trailing empty part. -/
def ipv4Parts (host : String) : List String :=
  let parts := host.splitOn "."
  if parts.length > 1 && parts.getLast? == some "" then parts.dropLast else parts

/-- Whether a host ends in a number, which makes it an IPv4 address. -/
def endsInNumber (host : String) : Bool :=
  match (ipv4Parts host).getLast? with
  | some last => isIpv4Number last
  | none => false

/-- Reads digits in a base. -/
def readDigits (base : Nat) : List Char → Nat → Option Nat
  | [], acc => some acc
  | c :: rest, acc =>
    match hexValue? c with
    | some d => if d < base then readDigits base rest (acc * base + d) else none
    | none => none

/-- The value of one IPv4 part: hexadecimal after `0x`, octal after a leading `0`, else
decimal. -/
def ipv4Number (s : String) : Option Nat :=
  if s.startsWith "0x" || s.startsWith "0X" then readDigits 16 (s.drop 2).toString.toList 0
  else if s.length > 1 && s.startsWith "0" then readDigits 8 (s.drop 1).toString.toList 0
  else if s.isEmpty then none
  else readDigits 10 s.toList 0

/-- An IPv4 address in dotted decimal. -/
def ipv4Text (n : Nat) : String :=
  toString (n / 16777216 % 256) ++ "." ++ toString (n / 65536 % 256) ++ "." ++
    toString (n / 256 % 256) ++ "." ++ toString (n % 256)

/-- Reads an IPv4 address of one to four parts; the last part fills the remaining bytes. -/
def parseIpv4 (host : String) : Except UrlError String :=
  let parts := ipv4Parts host
  if parts.length > 4 then .error .invalidIpv4
  else
    match parts.mapM ipv4Number with
    | none => .error .invalidIpv4
    | some nums =>
      let front := nums.dropLast
      let last := nums.getLast?.getD 0
      if front.any (· > 255) || last ≥ Nat.pow 256 (5 - nums.length) then .error .invalidIpv4
      else
        let value := front.foldl (fun acc n => acc * 256 + n) 0 * Nat.pow 256 (5 - nums.length) + last
        .ok (ipv4Text value)

/-- Reads the host of a special URL. -/
def parseHost (input : String) : Except UrlError String :=
  if input.isEmpty then .error .emptyHost
  else if input.startsWith "[" then
    if input.endsWith "]" then .ok input.toLower else .error .invalidIpv6
  else
    let domain := (percentDecode input).toLower
    if domain.any forbiddenDomainChar then .error .invalidDomainCharacter
    else if endsInNumber domain then parseIpv4 domain
    else .ok domain

/-- Reads the host of a URL of another scheme: it may be empty, and is percent-encoded. -/
def parseOpaqueHost (input : String) : Except UrlError String :=
  if input.any fun c => c != '%' && forbiddenDomainChar c then .error .invalidDomainCharacter
  else .ok (encodeWith controlSet input)

/-! ### Components -/

/-- The default port of a scheme. -/
def defaultPort : String → Option Nat
  | "http" | "ws" => some 80
  | "https" | "wss" => some 443
  | "ftp" => some 21
  | _ => none

/-- Whether a scheme is special. -/
def isSpecial (scheme : String) : Bool :=
  ["http", "https", "ws", "wss", "ftp"].contains scheme

/-- Reads a port: digits up to 65535; the scheme's default port is dropped. -/
def parsePort (scheme text : String) : Except UrlError (Option Nat) :=
  if text.isEmpty then .ok none
  else if !text.all Char.isDigit then .error .invalidPort
  else
    let n := text.toNat!
    if n > 65535 then .error .invalidPort
    else if defaultPort scheme == some n then .ok none
    else .ok (some n)

/-- Splits a list at the first element satisfying `p`, which starts the second part. -/
def breakAt {α : Type} (p : α → Bool) (l : List α) : List α × List α :=
  (l.takeWhile (!p ·), l.dropWhile (!p ·))

/-- Splits a host and port at the first `:` outside brackets. -/
def splitHostPort : List Char → Bool → List Char → List Char × Option (List Char)
  | [], _, acc => (acc.reverse, none)
  | c :: rest, inside, acc =>
    if c == ':' && !inside then (acc.reverse, some rest)
    else splitHostPort rest (if c == '[' then true else if c == ']' then false else inside) (c :: acc)

/-- The user information of an authority, encoded: the user name, and `:` with the password
when it is not empty. -/
def userinfoText (ui : List Char) : String :=
  let (user, pass) := breakAt (· == ':') ui
  let user := encodeWith userinfoSet (String.ofList user)
  let pass := encodeWith userinfoSet (String.ofList (pass.drop 1))
  if pass.isEmpty then user else user ++ ":" ++ pass

/-- Splits an authority at its last `@` into user information and the rest. -/
def splitUserinfo (authority : List Char) : Option (List Char) × List Char :=
  match authority.reverse.idxOf? '@' with
  | some i =>
    let cut := authority.length - 1 - i
    (some (authority.take cut), authority.drop (cut + 1))
  | none => (none, authority)

/-- A single-dot path segment. -/
def isSingleDot (s : String) : Bool := s == "." || s.toLower == "%2e"

/-- A double-dot path segment. -/
def isDoubleDot (s : String) : Bool :=
  let l := s.toLower
  l == ".." || l == ".%2e" || l == "%2e." || l == "%2e%2e"

/-- Builds the segments of a path from its raw parts: `..` removes the segment before it, `.`
is dropped, and either one at the end leaves an empty last segment. -/
def pathSegments : List String → List String → List String
  | [], acc => acc.reverse
  | s :: rest, acc =>
    let last := rest.isEmpty
    if isDoubleDot s then pathSegments rest (if last then "" :: acc.drop 1 else acc.drop 1)
    else if isSingleDot s then pathSegments rest (if last then "" :: acc else acc)
    else pathSegments rest (encodeWith pathSet s :: acc)

/-- Splits text at every separator into its raw parts. -/
def splitParts (sep : Char → Bool) : List Char → List Char → List String
  | [], cur => [String.ofList cur.reverse]
  | c :: rest, cur =>
    if sep c then String.ofList cur.reverse :: splitParts sep rest []
    else splitParts sep rest (c :: cur)

/-- Reads a path that starts at a separator or is empty. -/
def parsePath (sep : Char → Bool) (p : List Char) : String :=
  let body := match p with
    | c :: rest => if sep c then rest else p
    | [] => []
  "/" ++ String.intercalate "/" (pathSegments (splitParts sep body []) [])

/-- Reads the query and fragment after a path. -/
def parseTail (special : Bool) (rest : List Char) : Option String × Option String :=
  let (q, f) := breakAt (· == '#') rest
  let query := match q with
    | '?' :: body =>
      some (encodeWith (if special then specialQuerySet else querySet) (String.ofList body))
    | _ => none
  let fragment := match f with
    | '#' :: body => some (encodeWith fragmentSet (String.ofList body))
    | _ => none
  (query, fragment)

/-- Reads the scheme: a letter, then letters, digits, `+`, `-` or `.`, up to `:`. -/
def parseScheme (cs : List Char) : Option (String × List Char) :=
  match cs with
  | c :: _ =>
    if c.isAlpha then
      let (name, rest) := breakAt (fun c => !(c.isAlphanum || c == '+' || c == '-' || c == '.')) cs
      match rest with
      | ':' :: after => some ((String.ofList name).toLower, after)
      | _ => none
    else none
  | [] => none

/-- Reads the authority, path, query and fragment after `scheme:` of a special URL. -/
def parseSpecial (scheme : String) (rest : List Char) : Except UrlError Url := do
  let sep := fun (c : Char) => c == '/' || c == '\\'
  let rest := rest.dropWhile sep
  let (authority, after) := breakAt (fun c => sep c || c == '?' || c == '#') rest
  let (ui, hostPort) := splitUserinfo authority
  let (hostText, portText) := splitHostPort hostPort false []
  let host ← parseHost (String.ofList hostText)
  let port ← parsePort scheme (String.ofList (portText.getD []))
  let (pathPart, tail) := breakAt (fun c => c == '?' || c == '#') after
  let (query, fragment) := parseTail true tail
  pure { scheme, userinfo := (ui.map userinfoText).getD "", host := some host, port,
         path := parsePath sep pathPart, query, fragment }

/-- Reads what follows `scheme:` in a URL of another scheme. -/
def parseOther (scheme : String) (rest : List Char) : Except UrlError Url := do
  let sep := fun (c : Char) => c == '/'
  match rest with
  | '/' :: '/' :: more =>
    let (authority, after) := breakAt (fun c => c == '/' || c == '?' || c == '#') more
    let (ui, hostPort) := splitUserinfo authority
    let (hostText, portText) := splitHostPort hostPort false []
    let host ← parseOpaqueHost (String.ofList hostText)
    let port ← parsePort scheme (String.ofList (portText.getD []))
    let (pathPart, tail) := breakAt (fun c => c == '?' || c == '#') after
    let (query, fragment) := parseTail false tail
    pure { scheme, userinfo := (ui.map userinfoText).getD "", host := some host, port,
           path := if pathPart.isEmpty then "" else parsePath sep pathPart, query, fragment }
  | _ =>
    let (pathPart, tail) := breakAt (fun c => c == '?' || c == '#') rest
    let (query, fragment) := parseTail false tail
    let path := match pathPart with
      | '/' :: _ => parsePath sep pathPart
      | _ => encodeWith controlSet (String.ofList pathPart)
    pure { scheme, path, query, fragment }

/-- Whether a character is trimmed from the ends of a URL: a control character or a space. -/
def trimmedChar (c : Char) : Bool := c.toNat ≤ 32

/-- Reads an absolute URL. -/
def Url.parse (input : String) : Except UrlError Url :=
  let cs := ((input.toList.dropWhile trimmedChar).reverse.dropWhile trimmedChar).reverse
  let cs := cs.filter fun c => c != '\t' && c != '\n' && c != '\r'
  match parseScheme cs with
  | none => .error .relativeWithoutBase
  | some (scheme, rest) =>
    if isSpecial scheme then parseSpecial scheme rest else parseOther scheme rest

/-! ### Query pairs -/

/-- Encodes text for a form: letters, digits and `*-._` stay, a space becomes `+`, and every
other byte is percent-encoded. -/
def formEncode (s : String) : String :=
  s.toUTF8.foldl (fun acc b =>
    let c := Char.ofNat b.toNat
    if b < 128 && (c.isAlphanum || "*-._".contains c) then acc.push c
    else if b == 32 then acc.push '+'
    else acc ++ percentByte b) ""

/-- Appends query pairs, form-encoded, to a URL's query; an empty query is then dropped. -/
def Url.appendPairs (u : Url) (pairs : List (String × String)) : Url :=
  let added := String.intercalate "&" (pairs.map fun (k, v) => formEncode k ++ "=" ++ formEncode v)
  let query := match u.query with
    | some q => if q.isEmpty then added else if added.isEmpty then q else q ++ "&" ++ added
    | none => added
  { u with query := if query.isEmpty then none else some query }

end Courier.Net
