import Backlog.Http.Url
/-!
# Numeric hosts in brackets

An address that was answered is looked at once more, as a text: what stands
where a host would, between two slashes behind the scheme and the next one,
may have square brackets only around a numeric address. `checkBrackets` says
so. An address without a host, whose path starts with two slashes, can fail
it.
-/

namespace Backlog

namespace Http

namespace Literal

/-- Whether the characters are an address of a version to come: `v`, a
hexadecimal version, a point and something. -/
def isFutureAddress (cs : List Char) : Bool :=
  let version := (cs.drop 1).takeWhile fun c => (Text.hexValue? c).isSome
  match (cs.drop 1).dropWhile fun c => (Text.hexValue? c).isSome with
  | '.' :: _ :: _ => !version.isEmpty
  | _ => false

/-- Checks what stands in brackets. -/
def checkAddress (cs : List Char) : Except Refusal Unit :=
  if cs.head? = some 'v' then
    if isFutureAddress cs then .ok () else .error .futureAddress
  else if Host.isAddress4 cs then .error .bracketedAddress4
  else if Host.isAddress6 cs then .ok ()
  else .error (.notNumeric (String.ofList cs))

/-- Checks that brackets come as a pair around a numeric address, with nothing
before them but the userinfo and nothing behind them but a port. -/
def checkBrackets (authority : List Char) : Except Refusal Unit :=
  if !authority.contains '[' && !authority.contains ']' then .ok ()
  else if !(authority.contains '[' && authority.contains ']') then .error .looseBracket
  else
    let place := (authority.reverse.takeWhile (· ≠ '@')).reverse
    match Text.cutAtChar '[' place with
    | (before, some bracketed) =>
      let (address, behind) := Text.cutAtChar ']' bracketed
      let port := behind.getD []
      if before ≠ [] ∨ port.head?.any (· ≠ ':') then .error .looseBracket
      else checkAddress address
    | (place, none) => checkAddress (Text.cutAtChar ':' place).1

end Literal

/-- What stands where a host would when the address is read as a text. -/
def Url.apparentAuthority (url : Url) : List Char :=
  if url.scheme = [] then [] else (Url.cutAuthority (url.display.drop (url.scheme.length + 1))).1

end Http

end Backlog
