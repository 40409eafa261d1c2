import Bilingual.Text.Digits
import Bilingual.Uri.Error

/-!
Numeric hosts: IPv4 addresses, whose parts may be decimal, octal or hexadecimal,
and IPv6 addresses, whose longest run of zero groups is left out when written.
-/

namespace Bilingual.Uri

namespace Ipv4

/-- A part of an address. `0x` marks a hexadecimal and `0` an octal number. -/
def part? (s : String) : Option Nat :=
  match s.toList with
  | [] => none
  | '0' :: 'x' :: cs | '0' :: 'X' :: cs => Text.number? 16 cs
  | '0' :: c :: cs => Text.number? 8 (c :: cs)
  | cs => Text.number? 10 cs

/-- Dot-separated parts, without the empty one behind a final dot. -/
def parts (host : String) : List String :=
  let ps := host.splitOn "."
  if ps.length > 1 && ps.getLast? = some "" then ps.dropLast else ps

/-- Whether a host has to be read as an address: its last part is a number. -/
def isNumeric (host : String) : Bool :=
  match (parts host).getLast? with
  | none | some "" => false
  | some s => s.toList.all Char.isDigit || (part? s).isSome

/-- Every part but the last is a byte, and the last fills the bytes that remain. -/
def parse (host : String) : Except Error (List Nat) :=
  match (parts host).mapM part? with
  | none => .error .badIpv4
  | some ns =>
      let lead := ns.dropLast
      match ns.getLast? with
      | none => .error .badIpv4
      | some last =>
          let room := 4 - lead.length
          if lead.length ≤ 3 ∧ lead.all (· < 256) ∧ last < Nat.pow 256 room then
            .ok (lead ++ (List.range room).map fun i => last / Nat.pow 256 (room - 1 - i) % 256)
          else .error .badIpv4

def text (bytes : List Nat) : String :=
  ".".intercalate (bytes.map toString)

end Ipv4

namespace Ipv6

def hexText (n : Nat) : String :=
  String.ofList (Nat.toDigits 16 n)

def group? (s : String) : Option Nat :=
  if s.isEmpty || 4 < s.length then none else Text.number? 16 s.toList

/-- Four decimal bytes without leading zeros, as two groups. -/
def dotted? (s : String) : Option (List Nat) := do
  let bytes ← (s.splitOn ".").mapM fun p =>
    if p.isEmpty || (p.length > 1 && p.startsWith "0") then none
    else do
      let n ← Text.number? 10 p.toList
      if n < 256 then some n else none
  match bytes with
  | [a, b, c, d] => some [256 * a + b, 256 * c + d]
  | _ => none

/-- Groups between colons. Only the last one of an address may be dotted. -/
def groups? (dottedLast : Bool) (s : String) : Option (List Nat) :=
  if s.isEmpty then some [] else go (s.splitOn ":")
where
  go : List String → Option (List Nat)
    | [] => some []
    | [last] =>
        if dottedLast && last.contains '.' then dotted? last else (group? last).map ([·])
    | g :: gs => do return (← group? g) :: (← go gs)

def parse (s : String) : Except Error (List Nat) :=
  let groups := match s.splitOn "::" with
    | [all] => do
        let gs ← groups? true all
        if gs.length = 8 then some gs else none
    | [left, right] => do
        let ls ← groups? false left
        let rs ← groups? true right
        if ls.length + rs.length < 8 then
          some (ls ++ List.replicate (8 - ls.length - rs.length) 0 ++ rs)
        else none
    | _ => none
  match groups with
  | some gs => .ok gs
  | none => .error .badIpv6

/-- Length of the run of zero groups at the head. -/
def zeroRun (gs : List Nat) : Nat := (gs.takeWhile (· = 0)).length

/-- Start and length of the first longest run of zero groups. -/
def longestRun (gs : List Nat) : Nat × Nat :=
  (List.range gs.length).foldl
    (fun best i =>
      let n := zeroRun (gs.drop i)
      if best.2 < n then (i, n) else best) (0, 0)

def text (gs : List Nat) : String :=
  let (start, length) := longestRun gs
  let write := fun (gs : List Nat) => ":".intercalate (gs.map hexText)
  if length < 2 then write gs
  else write (gs.take start) ++ "::" ++ write (gs.drop (start + length))

end Ipv6

end Bilingual.Uri
