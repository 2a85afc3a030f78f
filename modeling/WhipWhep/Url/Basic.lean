import WhipWhep.Url.Host

/-!
URLs. A URL has a scheme, may have an authority, has a path, and may have a query and a fragment.
The path is a list of segments, or a bare text to which nothing can be relative.
-/

namespace WhipWhep

namespace Url

structure Authority where
  /-- User name and password, encoded. -/
  userinfo : List Char
  host : Host
  port : Option Nat
  deriving DecidableEq

inductive Path where
  | segments (list : List (List Char))
  | bare (text : List Char)
  deriving DecidableEq

end Url

structure Url where
  scheme : List Char
  authority : Option Url.Authority
  path : Url.Path
  query : Option (List Char)
  fragment : Option (List Char)
  deriving DecidableEq

namespace Url

/-- How a scheme shapes its URLs. -/
inductive SchemeKind where
  | file
  | special
  | other
  deriving DecidableEq

def SchemeKind.isSpecial : SchemeKind → Bool
  | other => false
  | _ => true

/-- The ports that need not be said. -/
def defaultPorts : List (List Char × Nat) :=
  [("http".toList, 80), ("https".toList, 443), ("ws".toList, 80), ("wss".toList, 443),
    ("ftp".toList, 21)]

def schemeKind (scheme : List Char) : SchemeKind :=
  if scheme = "file".toList then .file
  else if (defaultPorts.lookup scheme).isSome then .special
  else .other

def Authority.text (authority : Authority) : List Char :=
  let user := if authority.userinfo.isEmpty then [] else authority.userinfo ++ ['@']
  let port := match authority.port with
    | none => []
    | some port => ':' :: Text.writeDecimal port
  '/' :: '/' :: user ++ authority.host.text ++ port

/-- Without an authority, a path that starts with an empty segment is told from one by a point. -/
def pathText (url : Url) : List Char :=
  match url.path with
  | .bare text => text
  | .segments list =>
    let plain := list.flatMap fun part => '/' :: part
    if url.authority.isNone && 1 < list.length && list.head? = some [] then "/.".toList ++ plain
    else plain

def chars (url : Url) : List Char :=
  url.scheme ++ ':' ::
    (url.authority.map Authority.text).getD [] ++ url.pathText ++
    (url.query.map ('?' :: ·)).getD [] ++ (url.fragment.map ('#' :: ·)).getD []

def text (url : Url) : String := String.ofList url.chars

end Url
end WhipWhep
