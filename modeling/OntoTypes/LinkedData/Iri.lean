import OntoTypes.Error
import OntoTypes.LinkedData.Authority
import OntoTypes.Text.Path

/-!
# Relative references

How a relative reference in a document becomes an IRI: it is resolved against the base by the rules
of URI references, and the path of the result is brought into its shortest form. With an empty base
the reference itself is only shortened. References that have a scheme are left as they are. A base
that is a name and not a place is different: what follows its first slash is its path, and the name
before that slash stays. A reference whose authority is not written as one is an error.

Main definitions:

* `IriParts`, with `IriParts.ofChars` and `IriParts.toChars` — a reference taken apart;
* `joinReference` — a reference resolved against a base;
* `resolveReference` — the IRI that a reference stands for.
-/

namespace OntoTypes.LinkedData

/-- The parts of a reference; a part that is missing is empty. -/
structure IriParts where
  scheme    : List Char
  authority : List Char
  path      : List Char
  query     : List Char
  fragment  : List Char

def isSchemeChar (c : Char) : Bool := c.isAlphanum || c = '+' || c = '-' || c = '.'

/-- The scheme of a reference and what follows its colon; schemes are written in lowercase. -/
def splitScheme (cs : List Char) : List Char × List Char :=
  match Text.cutAt ':' cs with
  | (first :: others, some rest) =>
    if first.isAlpha && others.all isSchemeChar then ((first :: others).map Char.toLower, rest)
    else ([], cs)
  | _ => ([], cs)

/-- Blanks and control characters in front of a reference are not part of it, and neither are tabs
and line ends anywhere. -/
def withoutControls (cs : List Char) : List Char :=
  (cs.dropWhile fun c => c.toNat ≤ 32).filter fun c => c ≠ '\t' && c ≠ '\r' && c ≠ '\n'

namespace IriParts

/-- A reference taken apart. -/
def ofChars (cs : List Char) : Except Error IriParts :=
  let (scheme, rest) := splitScheme (withoutControls cs)
  let (authority, rest) :=
    match rest with
    | '/' :: '/' :: rest =>
      let isEnd (c : Char) : Bool := c = '/' || c = '?' || c = '#'
      (rest.takeWhile (!isEnd ·), rest.dropWhile (!isEnd ·))
    | rest => ([], rest)
  let (rest, fragment) := Text.cutAt '#' rest
  let (path, query) := Text.cutAt '?' rest
  if isAuthority authority then
    .ok ⟨scheme, authority, path, query.getD [], fragment.getD []⟩
  else .error (.malformedAuthority (String.ofList cs))

/-- Schemes whose references have an authority. -/
def hierarchicalSchemes : List String :=
  ["ftp", "http", "gopher", "nntp", "telnet", "imap", "wais", "file", "mms", "https", "shttp",
    "snews", "prospero", "rtsp", "rtspu", "rsync", "svn", "svn+ssh", "sftp", "nfs", "git",
    "git+ssh", "ws", "wss"]

/-- Schemes whose references may be relative; a missing scheme is one of them. -/
def relativeSchemes : List String :=
  ["", "ftp", "http", "gopher", "nntp", "imap", "wais", "file", "https", "shttp", "mms", "prospero",
    "rtsp", "rtspu", "sftp", "svn", "svn+ssh", "ws", "wss"]

/-- The text of a reference. Schemes whose references have an authority are followed by one even if
it is empty, and so is everything else whose path would be taken for an authority. -/
def toChars (parts : IriParts) : List Char :=
  let isPlaced := !parts.authority.isEmpty ||
    hierarchicalSchemes.contains (String.ofList parts.scheme) ||
    "//".toList.isPrefixOf parts.path
  let path :=
    if isPlaced && !parts.path.isEmpty && parts.path.head? ≠ some '/' then '/' :: parts.path
    else parts.path
  (if parts.scheme.isEmpty then [] else parts.scheme ++ [':']) ++
    (if isPlaced then '/' :: '/' :: parts.authority else []) ++ path ++
    (if parts.query.isEmpty then [] else '?' :: parts.query) ++
    (if parts.fragment.isEmpty then [] else '#' :: parts.fragment)

end IriParts

/-- A path resolved against the path of a base. -/
def resolvePath (base path : List Char) : List Char :=
  let parts :=
    match path with
    | '/' :: _ => Text.segments path
    | _ =>
      let directory := Text.segments base
      let directory := if directory.getLast? = some [] then directory else directory.dropLast
      let all := directory ++ Text.segments path
      all.take 1 ++ (all.drop 1).dropLast.filter (!·.isEmpty) ++ (all.drop 1).getLast?.toList
  let last := parts.getLast?.getD []
  let kept := Text.applyDots parts ++ if last = ['.'] || last = ['.', '.'] then [[]] else []
  match Text.joinWith '/' kept with
  | [] => ['/']
  | resolved => resolved

/-- Schemes whose paths may end in parameters. -/
def parametricSchemes : List String :=
  ["", "ftp", "hdl", "prospero", "http", "imap", "https", "shttp", "rtsp", "rtspu", "sip",
    "sips", "mms", "sftp", "tel"]

/-- A path and its parameters, which follow the first semicolon of the last segment. -/
def splitParameters (scheme path : List Char) : List Char × List Char :=
  if parametricSchemes.contains (String.ofList scheme) then
    let last := Text.afterLast '/' path
    match Text.cutAt ';' last with
    | (name, some parameters) => (path.take (path.length - last.length) ++ name, parameters)
    | (_, none) => (path, [])
  else (path, [])

/-- A path with its parameters behind it. -/
def withParameters (path parameters : List Char) : List Char :=
  if parameters.isEmpty then path else path ++ ';' :: parameters

/-- A reference resolved against a base. -/
def joinReference (base reference : List Char) : Except Error (List Char) :=
  if base.isEmpty then .ok reference
  else if reference.isEmpty then .ok base
  else do
    let root ← IriParts.ofChars base
    let parts ← IriParts.ofChars reference
    let scheme := if parts.scheme.isEmpty then root.scheme else parts.scheme
    let (rootPath, rootParameters) := splitParameters root.scheme root.path
    let (path, parameters) := splitParameters scheme parts.path
    if scheme ≠ root.scheme || !IriParts.relativeSchemes.contains (String.ofList scheme) then
      return reference
    else if !parts.authority.isEmpty then
      return (IriParts.mk scheme parts.authority (withParameters path parameters) parts.query
        parts.fragment).toChars
    else if path.isEmpty && parameters.isEmpty then
      let query := if parts.query.isEmpty then root.query else parts.query
      return (IriParts.mk scheme root.authority (withParameters rootPath rootParameters) query
        parts.fragment).toChars
    else
      return (IriParts.mk scheme root.authority
        (withParameters (resolvePath rootPath path) parameters) parts.query parts.fragment).toChars

/-- Whether a text occurs in another one. -/
def occursIn (part : List Char) : List Char → Bool
  | [] => part.isEmpty
  | c :: rest => part.isPrefixOf (c :: rest) || occursIn part rest

/-- Schemes of names that say nothing about a place. -/
def nameSchemes : List String := ["urn", "urn-x"]

/-- A reference resolved against a base that is a name. -/
def resolveInName (root parts : IriParts) : Except Error (List Char) := do
  let (name, path) := Text.cutAt '/' root.path
  let joined ← joinReference ('/' :: path.getD []) parts.path
  return root.scheme ++ ':' :: name ++ joined ++
    (if parts.fragment.isEmpty then [] else '#' :: parts.fragment)

/-- A reference with its path brought into its shortest form. A slash at its end stays. -/
def shortenReference (reference : List Char) : Except Error (List Char) := do
  let parts ← IriParts.ofChars reference
  let path := Text.shortenPath parts.path
  -- shortening drops a slash at the end, which makes another path
  let lostSlash := parts.path.getLast? = some '/' && path.getLast? ≠ some '/'
  return { parts with path := if lostSlash then path ++ ['/'] else path }.toChars

/-- The IRI that a reference stands for. -/
def resolveReference (base reference : String) : Except Error String :=
  let cs := reference.toList
  -- anything with a scheme and slashes is taken as it is
  if occursIn "://".toList cs then .ok reference
  else do
    let root ← IriParts.ofChars base.toList
    let parts ← IriParts.ofChars cs
    if !parts.scheme.isEmpty then return reference
    else
      let resolved ←
        if nameSchemes.contains (String.ofList root.scheme) then resolveInName root parts
        else do shortenReference (← joinReference base.toList cs)
      -- an empty fragment is dropped on the way and put back here
      let lostMark := cs.getLast? = some '#' && resolved.getLast? ≠ some '#'
      return String.ofList (if lostMark then resolved ++ ['#'] else resolved)

end OntoTypes.LinkedData
