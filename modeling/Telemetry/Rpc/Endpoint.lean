/-!
# Addresses of call servers

The address of a server is a URI with a scheme and an authority; without a
scheme it gets one.  Only its form is checked here.
-/

namespace Telemetry
namespace Rpc

/-- The mark between a scheme and an authority. -/
def schemeMark : List Char := "://".toList

/-- Whether a text holds the mark of a scheme. -/
def hasSchemeMark : List Char -> Bool
  | [] => false
  | letter :: rest => schemeMark.isPrefixOf (letter :: rest) || hasSchemeMark rest

/-- The URI of an address. -/
def uriOf (address : String) : String :=
  if hasSchemeMark address.toList then address else "http://" ++ address

/-- The most bytes of a URI. -/
def uriLimit : Nat := 65534

/-- The most letters of a scheme. -/
def schemeLimit : Nat := 64

/-- Whether a letter may occur in a scheme. -/
def isSchemeLetter (letter : Char) : Bool :=
  letter.isAlphanum || letter == '+' || letter == '-' || letter == '.'

/-- What follows the scheme of a URI. -/
def afterScheme? (uri : List Char) : Option (List Char) :=
  let scheme := uri.takeWhile isSchemeLetter
  let rest := uri.dropWhile isSchemeLetter
  if schemeMark.isPrefixOf rest ∧ scheme.length ≤ schemeLimit ∧ 3 < uri.length then
    some (rest.drop 3)
  else none

/-- Whether a letter may occur in an authority, apart from those with a meaning of their own. -/
def isPlainLetter (letter : Char) : Bool :=
  letter.isAlphanum || letter ∈ "!$&\x27()*+,-.;=_~".toList

/-- Whether a letter ends an authority. -/
def endsAuthority (letter : Char) : Bool :=
  letter == '/' || letter == '?' || letter == '#'

/-- What has been seen of an authority. -/
structure AuthorityScan where
  /-- The colons of the host and port so far. -/
  colons : Nat := 0
  /-- Whether a bracket was opened. -/
  isOpened : Bool := false
  /-- Whether a bracket was closed. -/
  isClosed : Bool := false
  /-- Whether the host and port so far have a percent sign. -/
  hasPercent : Bool := false
  /-- Whether the last letter ended the part for the user. -/
  endsUser : Bool := false

namespace AuthorityScan

/-- The most colons of a host and port. -/
def colonLimit : Nat := 8

/-- Takes the next letter of an authority, if it may stand there. -/
def step? (scan : AuthorityScan) (letter : Char) : Option AuthorityScan :=
  let next := { scan with endsUser := false }
  match letter with
  | ':' => if scan.colons < colonLimit then some { next with colons := scan.colons + 1 } else none
  | '[' => if scan.hasPercent || scan.isOpened then none else some { next with isOpened := true }
  | ']' =>
      if !scan.isOpened || scan.isClosed then none
      else some { next with isClosed := true, colons := 0, hasPercent := false }
  | '@' => some { next with colons := 0, hasPercent := false, endsUser := true }
  | '%' => some { next with hasPercent := true }
  | _ => if isPlainLetter letter then some next else none

/-- Whether the authority may end here. -/
def isComplete (scan : AuthorityScan) : Bool :=
  scan.isOpened == scan.isClosed && scan.colons ≤ 1 && !scan.endsUser && !scan.hasPercent

end AuthorityScan

/-- Whether a text is an authority. -/
def isAuthority (text : List Char) : Bool :=
  (text.foldlM AuthorityScan.step? {}).any AuthorityScan.isComplete

/-- Whether a letter may occur in a path. -/
def isPathLetter (letter : Char) : Bool :=
  '!' ≤ letter && letter ∉ "<>\x60#?".toList

/-- Whether a letter may occur in a query. -/
def isQueryLetter (letter : Char) : Bool :=
  '!' ≤ letter && letter ∉ "<>\"#".toList

/-- Whether a text is a path, followed by a query and a fragment or not. -/
def isPathAndQuery (text : List Char) : Bool :=
  match text.dropWhile isPathLetter with
  | '?' :: query =>
      match query.dropWhile isQueryLetter with
      | [] => true
      | letter :: _ => letter == '#'
  | [] => true
  | letter :: _ => letter == '#'

/-- Whether an address has the form of a server's. -/
def isEndpoint (address : String) : Bool :=
  let uri := uriOf address
  let letters := uri.toList
  if uriLimit < uri.utf8ByteSize then false
  else if letters.head? = some '/' then isPathAndQuery letters
  else
    match afterScheme? letters with
    | none => false
    | some rest =>
        let authority := rest.takeWhile fun letter => !endsAuthority letter
        authority ≠ [] && isAuthority authority
          && isPathAndQuery (rest.dropWhile fun letter => !endsAuthority letter)

end Rpc
end Telemetry
