import Rollout.Domain.Name
import Rollout.Failure
import Rollout.Number.Numeral
import Rollout.Text.Base64
import Rollout.Text.Codes
import Rollout.Text.Lowercase
import Rollout.Url.Address
import Rollout.Url.Percent

/-!
# Rollout.Url.Target

The address that a request is sent to.

* `Target.ofText` — from the text of a URL: the scheme and the host in lower case, the usual port
  left out, steps up and in place resolved, and every character encoded that may not stand in a URL;
* `Target.withParams`, `Target.paramsFit` — with query parameters, which replace a query of the URL,
  and whether they can be written;
* `Target.params` — the parameters of its query;
* `Target.text` — the URL as it is sent;
* `Target.decodedPath`, `Target.site` — the decoded path, and the scheme, host and port before it;
* `Target.credentials` — what the user of a URL authorizes a request with.
-/

namespace Rollout.Url

/-- Where a request goes.  A target without a scheme or a host has neither of them. -/
structure Target where
  scheme : List Char
  user : List Char
  host : List Char
  port : Option Int
  path : List Char
  query : Option (List Char)
  fragment : Option (List Char)
  deriving DecidableEq, Repr

/-- The longest text of a URL. -/
def maxLength : Nat := 65536

/-! ## parts of a URL -/

/-- The rest of a text after its first part up to `c`, if `c` occurs. -/
def after? (c : Char) (cs : List Char) : Option (List Char) :=
  match cs.dropWhile (· ≠ c) with
  | [] => none
  | _ :: rest => some rest

/-- The part of a text before its last `c` and the part after it, without that `c`; all of it is the
latter if there is none. -/
def splitLast (c : Char) (cs : List Char) : List Char × List Char :=
  let after := (cs.reverse.takeWhile (· ≠ c)).reverse
  (cs.take (cs.length - after.length - 1), after)

/-- A scheme, which may be empty, and the rest after its colon; all is rest if there is no such
colon. -/
def schemeAndRest (cs : List Char) : List Char × List Char :=
  let word := cs.takeWhile fun c => c.isAlphanum ∨ c = '+' ∨ c = '-' ∨ c = '.'
  match cs.drop word.length with
  | ':' :: rest => if word = [] ∨ word.head?.any Char.isAlpha then (word, rest) else ([], cs)
  | _ => ([], cs)

/-- The path without the segments `.`, and without those that a `..` takes back. -/
def resolveSteps (path : List Char) : List Char :=
  let steps (done : List (List Char)) (segment : List Char) : List (List Char) :=
    if segment = ['.'] then done
    else if segment = ['.', '.'] then (if done = [[]] then done else done.dropLast)
    else done ++ [segment]
  ['/'].intercalate ((path.splitOn '/').foldl steps [])

/-- The port that a scheme has where none is given. -/
def usualPort (scheme : List Char) : Option Int :=
  [("ftp", 21), ("http", 80), ("https", 443), ("ws", 80), ("wss", 443)].lookup
    (String.ofList scheme)

/-- The port that a text names: none if it is empty or the usual one. -/
def port? (scheme digits : List Char) : Outcome (Option Int) :=
  if digits = [] then .ok none
  else
    match wholeNumber? digits with
    | some n => .ok (if usualPort scheme = some n then none else some n)
    | none => .error .badAddress

/-- The host of an authority, in brackets if it has them, and the rest behind it. -/
def hostAndRest (cs : List Char) : List Char × List Char :=
  if cs.head? = some '[' ∧ ']' ∈ cs then
    let (before, after) := splitLast ']' cs
    (before ++ [']'], after)
  else (cs.takeWhile (· ≠ ':'), cs.dropWhile (· ≠ ':'))

/-- Whether a host is four runs of digits with a character between them each.  The character may be a
digit, too: a run of `n` digits hides up to `(n - 1) / 2` of them. -/
def looksDotted (host : List Char) : Bool :=
  let runs := host.splitOnP fun c => !c.isDigit
  runs.all (· ≠ []) && runs.length ≤ 4 &&
    4 ≤ runs.length + runs.foldl (fun n run => n + (run.length - 1) / 2) 0

/-- The host that a text names: an address, or a name in lower case and in ASCII. -/
def host? (written : List Char) : Outcome (List Char) :=
  if looksDotted written then (if isDotted written then .ok written else .error .badAddress)
  else if written.head? = some '[' ∧ written.getLast? = some ']' then
    let address := (written.drop 1).dropLast
    if isSixth (address.takeWhile (· ≠ '%')) ∧ zoneFits (address.dropWhile (· ≠ '%')) then
      .ok address
    else .error .badAddress
  else if written.all fun c => c.toNat < 0x80 then
    .ok (encode isHostChar (written.map Char.toLower))
  else
    match Domain.asciiName? (Text.lower written) with
    | some name => .ok name
    | none => .error .badAddress

/-- Whether a path may follow a scheme and an authority. -/
def pathFits (hasScheme hasAuthority : Bool) (path : List Char) : Bool :=
  if hasAuthority then path = [] || path.head? = some '/'
  else hasScheme || (path.take 2 ≠ ['/', '/'] && path.head? ≠ some ':')

/-- A part of a URL, encoded.  A surrogate cannot be. -/
def encoded (allowed : Char → Bool) (part : List Char) : Outcome (List Char) :=
  if (Text.codesOf part).any Text.isSurrogate then .error .badHeader
  else .ok (encode allowed part)

namespace Target

/-- The target of a URL that has no scheme or no host, whose path is one from the root. -/
def fromRoot (t : Target) : Target :=
  if t.scheme ≠ [] ∧ t.host ≠ [] then t
  else ⟨[], [], [], none, '/' :: t.path.dropWhile (· = '/'), t.query, none⟩

/-- The target of a URL. -/
def ofText (url : String) : Outcome Target := do
  let cs := url.toList
  if maxLength < cs.length ∨ cs.any fun c => c < ' ' ∨ c = '\x7f' then .error .badAddress
  let (scheme, rest) := schemeAndRest cs
  let (authority, rest) := match rest with
    | '/' :: '/' :: r => (r.takeWhile (· ∉ ['/', '?', '#']), r.dropWhile (· ∉ ['/', '?', '#']))
    | r => ([], r)
  let (user, site) := splitLast '@' authority
  let (written, behind) := hostAndRest site
  let shownUser ← encoded isUserChar user
  let host ← host? written
  let port ← port? scheme (if behind.head? = some ':' then behind.drop 1 else behind)
  let path := rest.takeWhile fun c => c ≠ '?' ∧ c ≠ '#'
  let hasAuthority := user ≠ [] ∨ host ≠ [] ∨ port.isSome
  if !pathFits (scheme ≠ []) hasAuthority path then .error .badAddress
  return fromRoot {
    scheme := scheme.map Char.toLower
    user := shownUser
    host := host
    port := port
    path := ← encoded isPathChar
      (if scheme ≠ [] ∨ hasAuthority then resolveSteps path else path)
    query := ← (after? '?' (rest.takeWhile (· ≠ '#'))).mapM (encoded isQueryChar)
    fragment := ← (after? '#' rest).mapM (encoded isFragmentChar) }

/-- The query that parameters make up. -/
def queryOf (params : List (String × String)) : List Char :=
  ['&'].intercalate (params.map fun (name, value) => encodeParam name ++ '=' :: encodeParam value)

/-- The parameters that make up a query. -/
def paramsOf (query : List Char) : List (String × String) :=
  ((query.splitOn '&').filter (· ≠ [])).map fun part =>
    (decodeParam (part.takeWhile (· ≠ '=')), decodeParam ((after? '=' part).getD []))

/-- The parameters of a target. -/
def params (t : Target) : List (String × String) := paramsOf (t.query.getD [])

/-- The target with the given parameters and no others. -/
def withParams (t : Target) (params : List (String × String)) : Target :=
  { t with query := if params = [] then none else some (queryOf params) }

/-- Whether parameters can be written in a query: a surrogate cannot be. -/
def paramsFit (params : List (String × String)) : Bool :=
  params.all fun (name, value) => !Text.hasHalves name && !Text.hasHalves value

/-! ## what a target is written as -/

/-- The host, in brackets if it holds colons, and the port. -/
def hostAndPort (t : Target) : List Char :=
  (if ':' ∈ t.host then '[' :: t.host ++ [']'] else t.host) ++
    (t.port.map fun n => ':' :: (toString n).toList).getD []

/-- The scheme and its colon. -/
def schemeColon (t : Target) : List Char := if t.scheme = [] then [] else t.scheme ++ [':']

/-- The scheme, host and port. -/
def site (t : Target) : List Char :=
  t.schemeColon ++ (if t.hostAndPort = [] then [] else '/' :: '/' :: t.hostAndPort)

/-- The URL as it is sent. -/
def text (t : Target) : String :=
  let authority := (if t.user = [] then [] else t.user ++ ['@']) ++ t.hostAndPort
  String.ofList (t.schemeColon ++ (if authority = [] then [] else '/' :: '/' :: authority) ++
    t.path ++ (t.query.map ('?' :: ·)).getD [] ++ (t.fragment.map ('#' :: ·)).getD [])

/-- The decoded path; the root if it is empty. -/
def decodedPath (t : Target) : String :=
  if t.path = [] then "/" else String.ofList (decode t.path)

/-- The name and password of the user, as a request is authorized by them; none if they are
empty. -/
def credentials (t : Target) : Option String :=
  let name := decode (t.user.takeWhile (· ≠ ':'))
  let password := decode ((after? ':' t.user).getD [])
  if name = [] ∧ password = [] then none
  else some ("Basic " ++ String.ofList (Text.base64 (bytesOf (name ++ ':' :: password))))

end Target

end Rollout.Url
