import ContractOps.Encoding.Hex
import ContractOps.Numeral.Digits
import ContractOps.Text.CodePoint
import ContractOps.Text.Split

/-!
# Numeric addresses of hosts

A host may be known by a number: four decimal octets between points (IPv4), or eight groups of
hexadecimal digits between colons (IPv6), where two colons stand for the groups of zeros that are
left out and the last two groups may be written as four octets.
-/

namespace ContractOps.Ip

/-- A decimal octet: at most three digits, no zero in front, at most 255. -/
def isOctet (cs : WideText) : Bool :=
  let ds := cs.plain
  !cs.isEmpty && cs.all (·.is Digits.isDigit) && ds.length ≤ 3 &&
    (ds == ['0'] || ds.head? != some '0') && Digits.ofChars ds ≤ 255

/-- An address of four octets. -/
def isFour (cs : WideText) : Bool :=
  let octets := Text.split (.char '.') cs
  octets.length == 4 && octets.all isOctet

/-- A group of one to four hexadecimal digits. -/
def isGroup (cs : WideText) : Bool :=
  !cs.isEmpty && cs.length ≤ 4 && cs.all (·.is fun c => (Hex.value? c).isSome)

/-- The groups of an address whose last part may be an address of four octets, which takes the place
of two groups. -/
def groups? (parts : List WideText) : Option (List WideText) :=
  match parts.getLast? with
  | some last =>
    if last.contains (.char '.') then
      if isFour last then some (parts.dropLast ++ [("0" : WideText), "0"]) else none
    else some parts
  | none => none

/-- Whether groups make up an address: eight of them, or fewer with one gap, which is an empty group
between others, or an empty beginning or end next to one. -/
def fits (groups : List WideText) : Bool :=
  match groups with
  | [] => false
  | first :: rest =>
    let inner := rest.dropLast
    let last := (rest.getLast?).getD []
    let front := first :: inner.takeWhile (!·.isEmpty)
    match inner.dropWhile (!·.isEmpty) with
    | [] => groups.length == 8 && groups.all isGroup
    | _ :: behind =>
      let high := if first.isEmpty then front.drop 1 else front
      let back := behind ++ (if last.isEmpty then [] else [last])
      !behind.any List.isEmpty && (!first.isEmpty || high.isEmpty) &&
        (!last.isEmpty || behind.isEmpty) && high.length + back.length < 8 &&
        high.all isGroup && back.all isGroup

/-- An address of eight groups. -/
def isSixWithoutZone (cs : WideText) : Bool :=
  let parts := Text.split (.char ':') cs
  if parts.length < 3 then false
  else match groups? parts with
    | none => false
    | some groups => groups.length ≤ 9 && fits groups

/-- An address of eight groups, with a zone behind a percent sign or without one. -/
def isSix (cs : WideText) : Bool :=
  let number := cs.takeWhile (· != .char '%')
  let zoneFits := match cs.dropWhile (· != .char '%') with
    | [] => true
    | _ :: zone => !zone.isEmpty && !zone.contains (.char '%')
  !cs.contains (.char '/') && zoneFits && isSixWithoutZone number

end ContractOps.Ip
