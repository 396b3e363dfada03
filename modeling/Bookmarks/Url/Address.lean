import Bookmarks.Text.Basic
/-!
Textual IP addresses, as a URL's bracketed host may hold them.

A version 6 address may end in a version 4 address, and in a non-empty scope after `%`.
-/
namespace Bookmarks.Url

/-- Whether a text is one octet of a version 4 address. -/
def isOctet (t : Text) : Bool :=
  !t.isEmpty && t.all Text.isDigit && t.length ≤ 3 && (t == [0x30] || t.head? != some 0x30) &&
    t.foldl (fun n d => n * 10 + (d - 0x30)) 0 ≤ 255

/-- Whether a text is a version 4 address. -/
def isIPv4 (t : Text) : Bool :=
  !t.contains 0x2F &&
    match Text.splitOn t 0x2E with
    | [a, b, c, d] => isOctet a && isOctet b && isOctet c && isOctet d
    | _ => false

/-- Whether a text is one group of a version 6 address. -/
def isHextet (t : Text) : Bool := !t.isEmpty && t.all Text.isHexDigit && t.length ≤ 4

/-- Whether the groups of a version 6 address, its last two groups already taken from a
version 4 tail when it had one, form an address. -/
def hextetsForm (parts : List Text) : Bool :=
  if parts.length > 9 then false
  else
    let inner := (parts.drop 1).dropLast
    let empties := (inner.zipIdx.filter fun (p, _) => p.isEmpty).map fun (_, k) => k + 1
    match empties with
    | [] =>
      parts.length == 8 && parts.all isHextet
    | [skip] =>
      let hi := skip
      let lo := parts.length - skip - 1
      let hiOk := if (parts.head?.getD []).isEmpty then hi == 1 else true
      let loOk := if (parts.getLast?.getD []).isEmpty then lo == 1 else true
      let hiCount := if (parts.head?.getD []).isEmpty then 0 else hi
      let loCount := if (parts.getLast?.getD []).isEmpty then 0 else lo
      hiOk && loOk && hiCount + loCount < 8 &&
        (parts.take hiCount).all isHextet && (parts.drop (parts.length - loCount)).all isHextet
    | _ => false

/-- Whether a text is a version 6 address without a scope. -/
def isIPv6Plain (t : Text) : Bool :=
  if t.isEmpty then false
  else
    let parts := Text.splitOn t 0x3A
    if parts.length < 3 then false
    else
      match parts.getLast? with
      | some last =>
        if last.contains 0x2E then
          isIPv4 last && hextetsForm (parts.dropLast ++ [[0x30], [0x30]])
        else hextetsForm parts
      | none => false

/-- Whether a text is a version 6 address, possibly with a scope. -/
def isIPv6 (t : Text) : Bool :=
  !t.contains 0x2F &&
    match Text.splitFirst? t 0x25 with
    | none => isIPv6Plain t
    | some (address, scope) => !scope.isEmpty && !scope.contains 0x25 && isIPv6Plain address

end Bookmarks.Url
