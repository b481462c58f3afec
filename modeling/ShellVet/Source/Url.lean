import ShellVet.Source.Address

/-!
# Web addresses

The parts of a web address that decide where a request goes. Blanks and controls in front do not
count, and tabs and line ends anywhere. An address with wrong brackets, or with a character that
some programs read as a separator, has no parts.
-/

namespace ShellVet.Source

/-- The parts of a web address. -/
structure Url where
  scheme : List Char
  /-- Host with user and port. -/
  authority : List Char
  path : List Char
  deriving DecidableEq, Repr

/-- Whether the character may stand in a scheme. -/
def isSchemeChar (c : Char) : Bool := c.isAlphanum || c == '+' || c == '-' || c == '.'

/-- The scheme in lower case, if there is one, and the text after it. -/
def splitScheme (text : List Char) : List Char × List Char :=
  let scheme := text.takeWhile (· != ':')
  match text.dropWhile (· != ':'), scheme with
  | _ :: rest, first :: _ =>
    if first.isAlpha && scheme.all isSchemeChar then (scheme.map Char.toLower, rest) else ([], text)
  | _, _ => ([], text)

/-- The authority behind two slashes, and the text after it. -/
def splitAuthority : List Char → List Char × List Char
  | '/' :: '/' :: rest =>
    let isEnd (c : Char) := c == '/' || c == '?' || c == '#'
    (rest.takeWhile fun c => !isEnd c, rest.dropWhile fun c => !isEnd c)
  | text => ([], text)

/-- Whether the brackets of an authority come in a pair around an address. -/
def fitsBrackets (authority : List Char) : Bool :=
  let opens := authority.contains '['
  let closes := authority.contains ']'
  if opens && closes then
    isBracketed (((authority.dropWhile (· != '[')).drop 1).takeWhile (· != ']'))
  else !opens && !closes

/-- Code points of characters whose plain form holds a separator. -/
def disguisedCodes : List Nat :=
  [0x2047, 0x2048, 0x2049, 0x2100, 0x2101, 0x2105, 0x2106, 0x2a74, 0xfe13, 0xfe16, 0xfe55, 0xfe56,
   0xfe5f, 0xfe6b, 0xff03, 0xff0f, 0xff1a, 0xff1f, 0xff20]

/-- Whether no character of an authority is a separator in disguise. -/
def hasNoDisguise (authority : List Char) : Bool :=
  authority.all fun c => !disguisedCodes.contains c.toNat

/-- The text of an address without what does not count. -/
def cleaned (text : List Char) : List Char :=
  (text.dropWhile fun c => c.toNat ≤ 32).filter fun c => c != '\t' && c != '\r' && c != '\n'

/-- Schemes whose paths have parameters behind a semicolon. -/
def parameterSchemes : List String :=
  ["", "ftp", "hdl", "prospero", "http", "imap", "https", "shttp", "rtsp", "rtsps", "rtspu", "sip",
   "sips", "mms", "sftp", "tel"]

/-- The path without the parameters of its last part. -/
def withoutParameters (path : List Char) : List Char :=
  let last := (path.reverse.takeWhile (· != '/')).reverse
  let folders := path.take (path.length - last.length)
  folders ++ last.takeWhile (· != ';')

/-- The parts of an address. -/
def Url.ofText? (text : List Char) : Option Url :=
  let (scheme, rest) := splitScheme (cleaned text)
  let (authority, rest) := splitAuthority rest
  if fitsBrackets authority && hasNoDisguise authority then
    let path := rest.takeWhile fun c => c != '#' && c != '?'
    let path :=
      if parameterSchemes.contains (String.ofList scheme) then withoutParameters path else path
    some ⟨scheme, authority, path⟩
  else none

/-- Whether the scheme is one of the web. -/
def Url.isWeb (url : Url) : Bool :=
  url.scheme == "http".toList || url.scheme == "https".toList

/-- Whether an address may be fetched: it is one of the web, and names a host. -/
def isSafe (text : String) : Bool :=
  match Url.ofText? text.toList with
  | some url => url.isWeb && !url.authority.isEmpty
  | none => false

end ShellVet.Source
