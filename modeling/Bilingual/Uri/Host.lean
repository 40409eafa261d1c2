import Bilingual.Domain.Name
import Bilingual.Uri.Address
import Bilingual.Uri.Percent
import Bilingual.Text.Utf8

/-!
Hosts, in the text that a URI is written with. The hosts of special schemes are
domain names or addresses; those of other schemes are taken as they stand.
-/

namespace Bilingual.Uri.Host

/-- The text between brackets, if the host begins with one. -/
def bracketed? (cs : List Char) : Option (Except Error String) :=
  match cs with
  | '[' :: rest =>
      if rest.getLast? = some ']' then
        some ((Ipv6.parse (String.ofList rest.dropLast)).map fun gs => "[" ++ Ipv6.text gs ++ "]")
      else some (.error .badIpv6)
  | _ => none

/-- A domain name or an address, for a special scheme. -/
def domain (cs : List Char) : Except Error String :=
  match bracketed? cs with
  | some result => result
  | none =>
      match (String.fromUTF8? (Percent.decode cs).toByteArray).bind Domain.Name.ofText? with
      | none => .error .badDomain
      | some name =>
          if name.isEmpty then .error .emptyHost
          else if Ipv4.isNumeric name then (Ipv4.parse name).map Ipv4.text
          else .ok name

/-- A host of some other scheme. -/
def plain (cs : List Char) : Except Error String :=
  match bracketed? cs with
  | some result => result
  | none =>
      if cs.any ("\x00\t\n\r #/:<>?@[\\]^|".toList.contains ·) then .error .badHostCharacter
      else .ok (String.ofList (Percent.encode Percent.isControl cs))

end Bilingual.Uri.Host
