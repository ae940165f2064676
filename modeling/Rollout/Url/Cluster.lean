import Rollout.Failure
import Rollout.Text.Lowercase
import Rollout.Url.Address

/-!
# Rollout.Url.Cluster

The URL of a cluster's API, and the URLs of its other services: the host of the API begins with
`api`, and the other hosts have another word in that place.

* `Url.Parts.ofText?` — the scheme and the authority of a URL;
* `Url.Parts.host` — the host within the authority, without user info and port;
* `Url.sibling` — the URL of another service, with a path of its own.
-/

namespace Rollout.Url

/-- The scheme of a URL, in lower case, and its authority: what stands between `//` and the path. -/
structure Parts where
  scheme : List Char
  authority : List Char
  deriving DecidableEq, Repr

/-- Characters outside ASCII that contain one of `/`, `?`, `#`, `@` and `:` when they are written in
their compatible form.  An authority with one of them could be read in two ways. -/
def deceptive : List Char := ['\u2047', '\u2048', '\u2049', '\u2100', '\u2101', '\u2105', '\u2106',
  '\u2a74', '\ufe13', '\ufe16', '\ufe55', '\ufe56', '\ufe5f', '\ufe6b', '\uff03', '\uff0f', '\uff1a',
  '\uff1f', '\uff20']

/-- Control characters and the blank. -/
def isControlOrBlank (c : Char) : Bool := c ≤ ' '

/-- A character that may stand in a scheme. -/
def isSchemeChar (c : Char) : Bool := c.isAlphanum || c = '+' || c = '-' || c = '.'

/-- A scheme and the rest after its colon; an empty scheme if there is none. -/
def splitScheme (cs : List Char) : List Char × List Char :=
  let scheme := cs.takeWhile (· ≠ ':')
  match cs.drop scheme.length with
  | [] => ([], cs)
  | _ :: rest =>
    if scheme.head?.any Char.isAlpha ∧ scheme.all isSchemeChar then
      (scheme.map Char.toLower, rest)
    else ([], cs)

/-- The host and the port of an authority, after the last `@`. -/
def siteOf (authority : List Char) : List Char := (authority.reverse.takeWhile (· ≠ '@')).reverse

/-- Whether the brackets of an authority are right: none at all, or an address between them, with
nothing before it and at most a port behind it.  Brackets of a user demand an address of the host. -/
def bracketsFit (authority : List Char) : Bool :=
  match authority.contains '[', authority.contains ']' with
  | false, false => true
  | true, true =>
    match siteOf authority with
    | '[' :: site =>
      let behind := (site.dropWhile (· ≠ ']')).drop 1
      isAddress (site.takeWhile (· ≠ ']')) && (behind = [] || behind.head? = some ':')
    | site => '[' ∉ site && isAddress (site.takeWhile (· ≠ ':'))
  | _, _ => false

namespace Parts

/-- The parts of a URL, of which control characters in front and line breaks anywhere are no part;
none if the authority is not well-formed. -/
def ofText? (url : List Char) : Option Parts :=
  let cs := (url.dropWhile isControlOrBlank).filter fun c => c ≠ '\t' ∧ c ≠ '\n' ∧ c ≠ '\r'
  let (scheme, rest) := splitScheme cs
  match rest with
  | '/' :: '/' :: rest =>
    let authority := rest.takeWhile fun c => c ≠ '/' ∧ c ≠ '?' ∧ c ≠ '#'
    if bracketsFit authority ∧ authority.all (· ∉ deceptive) then some ⟨scheme, authority⟩
    else none
  | _ => some ⟨scheme, []⟩

/-- The host of an authority, as written. -/
def writtenHost (p : Parts) : List Char :=
  match siteOf p.authority with
  | '[' :: site => site.takeWhile (· ≠ ']')
  | site => site.takeWhile (· ≠ ':')

/-- The host, in lower case up to a zone. -/
def host (p : Parts) : List Char :=
  Text.lower (p.writtenHost.takeWhile (· ≠ '%')) ++ p.writtenHost.dropWhile (· ≠ '%')

end Parts

/-- A path with a slash in front, unless it is empty. -/
def slashed (path : List Char) : List Char :=
  if path = [] ∨ path.head? = some '/' then path else '/' :: path

/-- Schemes whose URLs have an authority, even an empty one. -/
def hostedSchemes : List String := ["ftp", "http", "gopher", "nntp", "telnet", "imap", "wais",
  "file", "mms", "https", "shttp", "snews", "prospero", "rtsp", "rtspu", "rsync", "svn",
  "svn+ssh", "sftp", "nfs", "git", "git+ssh", "ws", "wss"]

/-- The text of a URL with the given scheme, authority and path.  Two slashes at the start of a path
take the place of those before an empty authority. -/
def join (scheme authority path : List Char) : List Char :=
  let hosted := authority ≠ [] ∨
    (String.ofList scheme ∈ hostedSchemes ∧ path.take 2 ≠ ['/', '/'])
  let rest := if hosted then '/' :: '/' :: authority ++ slashed path else path
  if scheme = [] then rest else scheme ++ ':' :: rest

/-- What the host of a cluster's API begins with. -/
def apiWord : List Char := "api".toList

/-- The URL with `word` in the place of the `api` that the host begins with, and with the given
path. -/
def sibling (api word path : String) : Outcome String :=
  match Parts.ofText? api.toList with
  | none => .error (.misconfigured (.urlInvalid api))
  | some p =>
    if p.host.take apiWord.length = apiWord then
      .ok (String.ofList (join p.scheme (word.toList ++ p.host.drop apiWord.length)
        (slashed path.toList)))
    else .error (.misconfigured (.notApi (if p.host = [] then api else String.ofList p.host)))

end Rollout.Url
