import Mathlib.Data.List.Sort
import RedshiftProvider.Go.Errors

/-!
The Go library functions that build and read the connection string of the `postgres` driver:
`url.QueryEscape`, `sort.Strings`, the parser of `net/url`, `net.SplitHostPort` and `ParseURL`
of `lib/pq`, which turns a `postgres://` URL into connection options.

A Go string is a sequence of bytes, and these functions work on the bytes, so here they are
lists of `UInt8`; `goBytes` gives the bytes of a string literal of the source.
-/

/-- The bytes of a Go string: its UTF-8 encoding. -/
def goBytes (s : String) : List UInt8 :=
  s.data.flatMap String.utf8EncodeChar

/-- The byte of an ASCII character. -/
def byte (c : Char) : UInt8 :=
  UInt8.ofNat c.toNat

namespace bytes

/-- `strings.Cut(s, sep)` for a one-byte `sep`: the bytes before the first `sep`, and the bytes
after it when there is one. -/
def cut (sep : UInt8) : List UInt8 → List UInt8 × Option (List UInt8)
  | [] => ([], none)
  | c :: rest => if c = sep then ([], some rest) else Prod.map (c :: ·) id (cut sep rest)

/-- The bytes before and after the last `sep`, as `strings.LastIndex` splits them. -/
def cutLast (sep : UInt8) (s : List UInt8) : Option (List UInt8 × List UInt8) :=
  match cut sep s.reverse with
  | (_, none) => none
  | (after, some before) => some (before.reverse, after.reverse)

/-- The bytes before the first occurrence of `pat`, and the bytes from it on. -/
def findSub (pat : List UInt8) : List UInt8 → Option (List UInt8 × List UInt8)
  | [] => none
  | c :: rest =>
    if pat.isPrefixOf (c :: rest) then some ([], c :: rest)
    else (findSub pat rest).map (Prod.map (c :: ·) id)

/-- The pieces between the occurrences of `sep`. -/
def splitOn (sep : UInt8) : List UInt8 → List (List UInt8)
  | [] => [[]]
  | c :: rest =>
    if c = sep then [] :: splitOn sep rest
    else match splitOn sep rest with
      | p :: ps => (c :: p) :: ps
      | [] => [[c]]

/-- Byte-wise order of strings, the order of Go's `<` on strings. -/
def le : List UInt8 → List UInt8 → Bool
  | [], _ => true
  | _ :: _, [] => false
  | a :: as, b :: bs => a < b || (a = b && le as bs)

def isDigit (c : UInt8) : Bool :=
  decide (byte '0' ≤ c ∧ c ≤ byte '9')

def isLetter (c : UInt8) : Bool :=
  decide (byte 'a' ≤ c ∧ c ≤ byte 'z') || decide (byte 'A' ≤ c ∧ c ≤ byte 'Z')

/-- Whether the byte is one of the ASCII characters `cs`. -/
def isOneOf (c : UInt8) (cs : List Char) : Bool :=
  cs.any (byte · = c)

/-- `strings.ToLower` on ASCII bytes. -/
def toLower (s : List UInt8) : List UInt8 :=
  s.map fun c => if decide (byte 'A' ≤ c ∧ c ≤ byte 'Z') then c + 32 else c

end bytes

namespace sort

def strings (l : List (List UInt8)) : List (List UInt8) :=
  l.insertionSort fun a b => bytes.le a b

end sort

namespace url

open bytes

/-- The parts of a URL that escaping and unescaping tell apart. -/
inductive Encoding where
  | path
  | pathSegment
  | host
  | zone
  | userPassword
  | queryComponent
  | fragment
  deriving DecidableEq, Repr

/-- What `url.Parse` and `ParseURL` report when they fail. -/
inductive Error where
  | invalidControlCharacter
  | missingProtocolScheme
  | colonInFirstPathSegment
  /-- An `EscapeError`, with the bytes of the bad escape. -/
  | escape (s : List UInt8)
  /-- An `InvalidHostError`, with the byte that may not stand in a host. -/
  | invalidHost (s : List UInt8)
  | missingBracketInHost
  | invalidPort (colonPort : List UInt8)
  | invalidUserinfo
  /-- The error of `ParseURL` for a scheme other than `postgres` and `postgresql`. -/
  | invalidConnectionProtocol (scheme : List UInt8)
  deriving DecidableEq, Repr

/-- `shouldEscape`: whether the byte must be written as `%XX` in that part of a URL. -/
def shouldEscape (c : UInt8) (mode : Encoding) : Bool :=
  if isLetter c || isDigit c then false
  else if (mode = .host ∨ mode = .zone) ∧
      isOneOf c ['!', '$', '&', '\'', '(', ')', '*', '+', ',', ';', '=', ':', '[', ']', '<', '>', '"']
  then false
  else if isOneOf c ['-', '_', '.', '~'] then false
  else if isOneOf c ['$', '&', '+', ',', '/', ':', ';', '=', '?', '@'] then
    match mode with
    | .path => c = byte '?'
    | .pathSegment => isOneOf c ['/', ';', ',', '?']
    | .userPassword => isOneOf c ['@', '/', '?', ':']
    | .queryComponent => true
    | .fragment => false
    | .host | .zone => true
  else if mode = .fragment ∧ isOneOf c ['!', '(', ')', '*'] then false
  else true

def ishex (c : UInt8) : Bool :=
  isDigit c || decide (byte 'a' ≤ c ∧ c ≤ byte 'f') || decide (byte 'A' ≤ c ∧ c ≤ byte 'F')

def unhex (c : UInt8) : UInt8 :=
  if isDigit c then c - byte '0'
  else if decide (byte 'a' ≤ c ∧ c ≤ byte 'f') then c - byte 'a' + 10
  else if decide (byte 'A' ≤ c ∧ c ≤ byte 'F') then c - byte 'A' + 10
  else 0

/-- `unescape`: decodes `%XX`, and `+` to a blank in a query component. -/
def unescape (mode : Encoding) : List UInt8 → Except Error (List UInt8)
  | [] => .ok []
  | c :: rest =>
    if c = byte '%' then
      match rest with
      | h :: l :: rest' =>
        if !(ishex h && ishex l) then .error (.escape [c, h, l])
        else if mode = .host ∧ unhex h < 8 ∧ [c, h, l] ≠ goBytes "%25" then .error (.escape [c, h, l])
        else if mode = .zone ∧ [c, h, l] ≠ goBytes "%25" ∧ unhex h * 16 + unhex l ≠ byte ' ' ∧
          shouldEscape (unhex h * 16 + unhex l) .host then .error (.escape [c, h, l])
        else (unescape mode rest').map ((unhex h * 16 + unhex l) :: ·)
      | _ => .error (.escape (c :: rest))
    else if c = byte '+' then
      (unescape mode rest).map ((if mode = .queryComponent then byte ' ' else byte '+') :: ·)
    else if (mode = .host ∨ mode = .zone) ∧ c < 0x80 ∧ shouldEscape c mode then
      .error (.invalidHost [c])
    else
      (unescape mode rest).map (c :: ·)

def upperhex (n : UInt8) : UInt8 :=
  (goBytes "0123456789ABCDEF").getD n.toNat 0

/-- How `escape` writes one byte. -/
def escapeByte (mode : Encoding) (c : UInt8) : List UInt8 :=
  if c = byte ' ' ∧ mode = .queryComponent then [byte '+']
  else if shouldEscape c mode then [byte '%', upperhex (c / 16), upperhex (c % 16)]
  else [c]

def queryEscape (s : List UInt8) : List UInt8 :=
  s.flatMap (escapeByte .queryComponent)

/-- A `*url.Userinfo`. -/
structure Userinfo where
  username : List UInt8
  password : Option (List UInt8)
  deriving DecidableEq, Repr

/-- The fields of a `*url.URL` that `ParseURL` reads. -/
structure URL where
  scheme : List UInt8
  user : Option Userinfo
  host : List UInt8
  path : List UInt8
  rawQuery : List UInt8
  deriving DecidableEq, Repr

/-- `getScheme`, with `acc` the bytes before the current one. -/
def getScheme (rawURL : List UInt8) (acc : List UInt8) :
    List UInt8 → Except Error (List UInt8 × List UInt8)
  | [] => .ok ([], rawURL)
  | c :: rest =>
    if isLetter c then getScheme rawURL (acc ++ [c]) rest
    else if isDigit c || isOneOf c ['+', '-', '.'] then
      if acc = [] then .ok ([], rawURL) else getScheme rawURL (acc ++ [c]) rest
    else if c = byte ':' then
      if acc = [] then .error .missingProtocolScheme else .ok (acc, rest)
    else .ok ([], rawURL)

def validOptionalPort : List UInt8 → Bool
  | [] => true
  | c :: digits => c = byte ':' && digits.all isDigit

def parseHost (host : List UInt8) : Except Error (List UInt8) :=
  if host.head? = some (byte '[') then
    match cutLast (byte ']') host with
    | none => .error .missingBracketInHost
    | some (literal, colonPort) =>
      if !validOptionalPort colonPort then .error (.invalidPort colonPort)
      else match findSub (goBytes "%25") literal with
        | some (host1, zone) => do
          let host1 ← unescape .host host1
          let host2 ← unescape .zone zone
          let host3 ← unescape .host (byte ']' :: colonPort)
          pure (host1 ++ host2 ++ host3)
        | none => unescape .host host
  else
    match cutLast (byte ':') host with
    | some (_, port) =>
      if !validOptionalPort (byte ':' :: port) then .error (.invalidPort (byte ':' :: port))
      else unescape .host host
    | none => unescape .host host

/-- `validUserinfo`, byte by byte: a byte of a non-ASCII rune is never allowed. -/
def validUserinfo (s : List UInt8) : Bool :=
  s.all fun c => isLetter c || isDigit c ||
    isOneOf c ['-', '.', '_', ':', '~', '!', '$', '&', '\'', '(', ')', '*', '+', ',', ';', '=',
      '%', '@']

def parseAuthority (authority : List UInt8) : Except Error (Option Userinfo × List UInt8) :=
  match cutLast (byte '@') authority with
  | none => do
    let host ← parseHost authority
    pure (none, host)
  | some (userinfo, hostPart) => do
    let host ← parseHost hostPart
    if !validUserinfo userinfo then throw .invalidUserinfo
    match cut (byte ':') userinfo with
    | (username, none) => do
      let username ← unescape .userPassword username
      pure (some ⟨username, none⟩, host)
    | (username, some password) => do
      let username ← unescape .userPassword username
      let password ← unescape .userPassword password
      pure (some ⟨username, some password⟩, host)

/-- `parse(rawURL, false)`: the URL before its fragment. -/
def parseNoFragment (rawURL : List UInt8) : Except Error URL := do
  if rawURL.any fun c => c < 0x20 || c = 0x7f then throw .invalidControlCharacter
  if rawURL = goBytes "*" then return ⟨[], none, [], goBytes "*", []⟩
  let (scheme, rest) ← getScheme rawURL [] rawURL
  let scheme := toLower scheme
  let (rest, rawQuery) :=
    if rest.getLast? = some (byte '?') ∧ rest.count (byte '?') = 1 then (rest.dropLast, [])
    else match cut (byte '?') rest with
      | (rest, some rawQuery) => (rest, rawQuery)
      | (rest, none) => (rest, [])
  if rest.head? ≠ some (byte '/') then
    if scheme ≠ [] then return ⟨scheme, none, [], [], rawQuery⟩
    if byte ':' ∈ (cut (byte '/') rest).1 then throw .colonInFirstPathSegment
  let (user, host, rest) ←
    if (scheme ≠ [] ∨ ¬(goBytes "///").isPrefixOf rest) ∧ (goBytes "//").isPrefixOf rest then
      let authority := rest.drop 2
      let (authority, rest) := match cut (byte '/') authority with
        | (authority, some path) => (authority, byte '/' :: path)
        | (authority, none) => (authority, [])
      let (user, host) ← parseAuthority authority
      pure (user, host, rest)
    else pure (none, [], rest)
  let path ← unescape .path rest
  return ⟨scheme, user, host, path, rawQuery⟩

/-- `url.Parse`: cuts off the fragment, parses the rest and checks the fragment's escapes. -/
def parse (rawURL : List UInt8) : Except Error URL := do
  let (u, frag) := cut (byte '#') rawURL
  let url ← parseNoFragment u
  match frag with
  | some frag => do
    let _ ← unescape .fragment frag
    pure url
  | none => pure url

/--
`url.ParseQuery`, as the pairs it collects in order: a piece between `&` with a `;` in it, an
empty piece and a piece with a bad escape are left out.
-/
def parseQuery (query : List UInt8) : List (List UInt8 × List UInt8) :=
  (splitOn (byte '&') query).filterMap fun piece =>
    if byte ';' ∈ piece ∨ piece = [] then none
    else
      let (key, value) := match cut (byte '=') piece with
        | (key, some value) => (key, value)
        | (key, none) => (key, [])
      match unescape .queryComponent key, unescape .queryComponent value with
      | .ok key, .ok value => some (key, value)
      | _, _ => none

/-- `Values.Get`: the first value of the key. -/
def Values.get (values : List (List UInt8 × List UInt8)) (key : List UInt8) : List UInt8 :=
  ((values.find? (·.1 = key)).map (·.2)).getD []

end url

namespace net

/-- `net.SplitHostPort`, `none` for its errors. -/
def splitHostPort (hostport : List UInt8) : Option (List UInt8 × List UInt8) := do
  let (before, port) ← bytes.cutLast (byte ':') hostport
  let (host, j, k) ← if hostport.head? = some (byte '[') then
      match bytes.cut (byte ']') hostport with
      | (_, none) => none
      | (inside, some after) =>
        if after.head? = some (byte ':') ∧ after.length = port.length + 1 then
          some (inside.drop 1, 1, inside.length + 1)
        else none
    else if byte ':' ∈ before then none
    else some (before, 0, 0)
  if byte '[' ∈ hostport.drop j ∨ byte ']' ∈ hostport.drop k then none
  pure (host, port)

end net

namespace pq

/-- `accrue`: adds the option when its value is not empty. -/
def accrue (k v : List UInt8) (kvs : List (List UInt8 × List UInt8)) :
    List (List UInt8 × List UInt8) :=
  if v = [] then kvs else kvs ++ [(k, v)]

/--
`ParseURL`, as the options it collects, each key with its value. It then sorts and joins them
into the text `parseOpts` reads back into the same keys and values.
-/
def parseURL (rawURL : List UInt8) : Except url.Error (List (List UInt8 × List UInt8)) := do
  let u ← url.parse rawURL
  if u.scheme ≠ goBytes "postgres" ∧ u.scheme ≠ goBytes "postgresql" then
    throw (.invalidConnectionProtocol u.scheme)
  let kvs := match u.user with
    | some user => accrue (goBytes "password") (user.password.getD [])
        (accrue (goBytes "user") user.username [])
    | none => []
  let kvs := match net.splitHostPort u.host with
    | some (host, port) => accrue (goBytes "port") port (accrue (goBytes "host") host kvs)
    | none => accrue (goBytes "host") u.host kvs
  let kvs := if u.path = [] then kvs else accrue (goBytes "dbname") (u.path.drop 1) kvs
  let q := url.parseQuery u.rawQuery
  pure ((q.map (·.1)).eraseDups.foldl (fun kvs k => accrue k (url.Values.get q k) kvs) kvs)

end pq
