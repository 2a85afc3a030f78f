import WhipWhep.Error
import WhipWhep.Url.Trail

/-!
Reading URLs, absolute or relative to another one. What is read is put in its normal form: the
scheme and the host in lowercase, no port where it is the usual one, no point segments in the path,
and every character encoded that its place asks for.
-/

namespace WhipWhep.Url

/-- Blanks and controls around the text and line breaks and tabs within it do not count. -/
def strip (text : List Char) : List Char :=
  let outer (c : Char) : Bool := c.toNat ≤ 0x20
  let breaks := ['\t', '\n', '\r']
  (Text.dropEndWhile outer (text.dropWhile outer)).filter fun c => !breaks.contains c

/-- The scheme, in lowercase, and what follows its colon. -/
def splitScheme? (text : List Char) : Option (List Char × List Char) :=
  let inScheme (c : Char) : Bool := isAsciiLetter c || Text.isDigit c || ['+', '-', '.'].contains c
  match text.head?, text.dropWhile inScheme with
  | some first, ':' :: rest =>
    if isAsciiLetter first then some ((text.takeWhile inScheme).map Char.toLower, rest) else none
  | _, _ => none

def isSlash (c : Char) : Bool := c == '/' || c == '\\'

/-- The characters that end an authority. -/
def endsAuthority (special : Bool) (c : Char) : Bool :=
  ['/', '?', '#'].contains c || (special && c == '\\')

/-- User name and password in their encoded form. An empty password loses its colon. -/
def encodeUserinfo (text : List Char) : List Char :=
  let (user, password) := (Text.splitFirst ':' text).getD (text, [])
  let password := percentEncode userinfoSet password
  percentEncode userinfoSet user ++ if password.isEmpty then [] else ':' :: password

/-- Splits the authority off at its last at-sign. The rest goes on to the end of the text. -/
def splitUserinfo (special : Bool) (text : List Char) :
    Except UrlError (Option (List Char) × List Char) :=
  let extent := text.takeWhile fun c => !endsAuthority special c
  let reversed := extent.reverse
  let tail := (reversed.takeWhile (· != '@')).reverse
  match (reversed.dropWhile (· != '@')).reverse with
  | [] => .ok (none, text)
  | upToSign =>
    let rest := tail ++ text.drop extent.length
    let user := upToSign.dropLast
    if user.isEmpty && (rest.head?.any (endsAuthority special)) then .error .emptyHost
    else .ok (some user, rest)

/-- The extent of the host. A colon within square brackets does not end it. -/
def hostExtent (special : Bool) : (inside : Bool) → List Char → Nat
  | _, [] => 0
  | inside, c :: rest =>
    if (c == ':' && !inside) || endsAuthority special c then 0
    else
      let within := if c == '[' then true else if c == ']' then false else inside
      1 + hostExtent special within rest

/-- The port after a colon, unless it is the usual one, and what follows it. -/
def readPort (usual : Option Nat) (text : List Char) : Except UrlError (Option Nat × List Char) :=
  let digits := text.takeWhile Text.isDigit
  let rest := text.drop digits.length
  let value := Text.valueOfDigits digits
  if 65535 < value || !rest.head?.all ['/', '\\', '?', '#'].contains then .error .invalidPort
  else .ok (if digits.isEmpty || some value = usual then none else some value, rest)

/-- The host and the port, and what follows them. -/
def readHostPort (scheme : List Char) (text : List Char) :
    Except UrlError (Host × Option Nat × List Char) := do
  let special := (schemeKind scheme).isSpecial
  let extent := hostExtent special false text
  let name := text.take extent
  let rest := text.drop extent
  let host ←
    if special then if name.isEmpty then .error .emptyHost else Host.read name
    else Host.readBare name
  match rest with
  | ':' :: rest =>
    if host = .name [] then .error .emptyHost
    else
      let (port, rest) ← readPort (defaultPorts.lookup scheme) rest
      return (host, port, rest)
  | _ => return (host, none, rest)

/-- What stands before the query and the fragment. -/
def pathExtent (text : List Char) : List Char :=
  text.takeWhile fun c => c != '?' && c != '#'

/-- The query and the fragment, from their marks on. -/
def readTail (special : Bool) (text : List Char) : Option (List Char) × Option (List Char) :=
  let (front, fragment) := match Text.splitFirst '#' text with
    | none => (text, none)
    | some (front, fragment) => (front, some (percentEncode fragmentSet fragment))
  let reserved := if special then specialQuerySet else querySet
  (if front.head? = some '?' then some (percentEncode reserved (front.drop 1)) else none, fragment)

def dropSlash (text : List Char) : List Char :=
  if text.head?.any isSlash then text.drop 1 else text

/-- Completes a URL from its path on, which goes on from a trail. -/
def withTrail (scheme : List Char) (authority : Option Authority) (trail : Trail)
    (text : List Char) : Url :=
  let kind := schemeKind scheme
  let extent := pathExtent text
  let (query, fragment) := readTail kind.isSpecial (text.drop extent.length)
  ⟨scheme, authority, (trail.read kind extent).path kind, query, fragment⟩

/-- Completes a URL from its path on, whose first slash need not be said. Without a special scheme
the path may be empty. -/
def withPath (scheme : List Char) (authority : Option Authority) (text : List Char) : Url :=
  if (schemeKind scheme).isSpecial then withTrail scheme authority .root (dropSlash text)
  else if (pathExtent text).isEmpty then
    let (query, fragment) := readTail false text
    ⟨scheme, authority, .segments [], query, fragment⟩
  else
    withTrail scheme authority .root (if text.head? = some '/' then text.drop 1 else text)

/-- What follows the two slashes before an authority. -/
def readAuthority (scheme : List Char) (text : List Char) : Except UrlError Url := do
  let (user, rest) ← splitUserinfo (schemeKind scheme).isSpecial text
  let userinfo := encodeUserinfo (user.getD [])
  let (host, port, rest) ← readHostPort scheme rest
  if host = .name [] ∧ !userinfo.isEmpty then .error .emptyHost
  else return withPath scheme (some ⟨userinfo, host, port⟩) rest

/-- A text without a scheme, relative to a URL whose path has segments. -/
def readRelative (base : Url) (text : List Char) : Except UrlError Url :=
  let special := (schemeKind base.scheme).isSpecial
  match text with
  | [] => .ok { base with fragment := none }
  | '?' :: _ =>
    let (query, fragment) := readTail special text
    .ok { base with query := query, fragment := fragment }
  | '#' :: _ => .ok { base with fragment := (readTail special text).2 }
  | c :: rest =>
    if isSlash c then
      let slashes := (text.takeWhile isSlash).length
      if 2 ≤ slashes then
        match Text.after? "//".toList text with
        | some rest => readAuthority base.scheme rest
        | none => readAuthority base.scheme (text.drop slashes)
      else .ok (withTrail base.scheme base.authority .root rest)
    else
      let folder := base.path.folder (schemeKind base.scheme)
      .ok (withTrail base.scheme base.authority folder text)

/-- The host of a file, where a missing one stands for the machine itself. -/
def readFileHost (text : List Char) : Except UrlError Host :=
  if text.isEmpty then .ok (.name [])
  else
    (Host.read text).map fun host =>
      if host = .name "localhost".toList then .name [] else host

def fileScheme : List Char := "file".toList

/-- The file with no host and a path from a trail on. -/
def localFile (trail : Trail) (text : List Char) : Url :=
  withTrail fileScheme (some ⟨[], .name [], none⟩) trail text

/-- What follows the two slashes of a file. A drive may stand where the host does, and a drive that
the path starts with takes the host away. -/
def readHostedFile (text : List Char) : Except UrlError Url :=
  let name := text.takeWhile fun c => !endsAuthority true c
  let rest := text.drop name.length
  if isDrive name then .ok (localFile .root text)
  else
    (readFileHost name).map fun host =>
      if host = .name [] then localFile .root rest
      else
        let rest := dropSlash rest
        let found := (Trail.root.read .file (pathExtent rest)).segments
        if found.head?.any isWrittenDrive then localFile .root rest
        else withTrail fileScheme (some ⟨[], host, none⟩) .root rest

/-- What follows the one slash of a file. Host or drive are those of the base, unless the text has a
drive of its own. -/
def readRootedFile (base : Option Url) (text : List Char) : Url :=
  match base with
  | none => localFile .root text
  | some base =>
    if startsWithDrive text then localFile .root text
    else
      match base.path with
      | .segments (drive :: _) =>
        if isWrittenDrive drive then localFile ⟨[drive], []⟩ text
        else withTrail fileScheme base.authority .root text
      | _ => withTrail fileScheme base.authority .root text

/-- What follows the colon of a file. -/
def readFile (base : Option Url) (text : List Char) : Except UrlError Url :=
  if (text.take 2).length = 2 ∧ (text.take 2).all isSlash then readHostedFile (text.drop 2)
  else if text.head?.any isSlash then .ok (readRootedFile base (text.drop 1))
  else
    match base with
    | some base =>
      if startsWithDrive text then .ok (localFile .root text) else readRelative base text
    | none => .ok (localFile .root text)

/-- A text after its scheme. Within one special scheme it may still be relative. -/
def readAbsolute (base : Option Url) (scheme : List Char) (text : List Char) :
    Except UrlError Url :=
  let sameScheme := base.filter fun base => base.scheme = scheme
  match schemeKind scheme with
  | .file => readFile sameScheme text
  | .special =>
    let slashes := (text.takeWhile isSlash).length
    match sameScheme with
    | some base =>
      if slashes < 2 then readRelative base text
      else readAuthority scheme (text.drop slashes)
    | none => readAuthority scheme (text.drop slashes)
  | .other =>
    match Text.after? "//".toList text with
    | some rest => readAuthority scheme rest
    | none =>
      if text.head? = some '/' then .ok (withPath scheme none text)
      else
        let extent := pathExtent text
        let (query, fragment) := readTail false (text.drop extent.length)
        .ok ⟨scheme, none, .bare (percentEncode isControl extent), query, fragment⟩

def read (base : Option Url) (text : List Char) : Except UrlError Url :=
  let text := strip text
  match splitScheme? text, base with
  | some (scheme, rest), _ => readAbsolute base scheme rest
  | none, none => .error .relativeWithoutBase
  | none, some base =>
    match base.path, text with
    | .bare _, '#' :: _ => .ok { base with fragment := (readTail false text).2 }
    | .bare _, _ => .error .relativeWithBareBase
    | .segments _, _ =>
      if schemeKind base.scheme = .file then readFile (some base) text else readRelative base text

def parse (text : String) : Except UrlError Url := read none text.toList

/-- The URL that a text names when it is found at another URL. -/
def join (base : Url) (text : String) : Except UrlError Url := read (some base) text.toList

end WhipWhep.Url
