import LicenseHeaders.Text.Separated

/-!
# Numeric hosts

The written forms of the numbers by which hosts are addressed: four decimal numbers with dots
between them, and eight hexadecimal groups with colons between them, where two adjacent colons
stand for a run of zero groups.
-/

set_option autoImplicit false
set_option relaxedAutoImplicit false

namespace LicenseHeaders.Address

open Text

/-- A decimal number below 256 without a leading zero. -/
def isOctet (text : List Char) : Bool :=
  let value := text.foldl (fun value c ↦ 10 * value + (c.toNat - 48)) 0
  !text.isEmpty && text.all Char.isDigit && text.length ≤ 3 && value ≤ 255 &&
    (text.length == 1 || text.head? != some '0')

/-- Four decimal numbers with dots between them. -/
def isIPv4 (text : List Char) : Bool :=
  let octets := pieces '.' text
  octets.length == 4 && octets.all isOctet

/-- A group of one to four hexadecimal digits. -/
def isGroup (text : List Char) : Bool :=
  !text.isEmpty && text.length ≤ 4 &&
    text.all fun c ↦ c.isDigit || ('a' ≤ c && c ≤ 'f') || ('A' ≤ c && c ≤ 'F')

/-- The parts between colons, with a number in dotted form at the end counted as the two groups
that it stands for. There are none if that number is malformed. -/
def groups? (text : List Char) : Option (List (List Char)) :=
  let parts := pieces ':' text
  let last := parts.getLastD []
  if parts.length < 3 then none
  else if last.contains '.' then
    if isIPv4 last then some (parts.dropLast ++ [['0'], ['0']]) else none
  else some parts

/-- The places of the empty parts, the first and the last part left aside. -/
def innerGaps (parts : List (List Char)) : List Nat :=
  (List.range parts.length).filter fun place ↦
    0 < place && place + 1 < parts.length && (parts[place]?.getD []).isEmpty

/-- Whether parts around a gap are groups. The outermost part may be empty only where the gap is
at that end, so `place` and `count` say how many parts stand before and behind the gap. -/
def isHalf (outermost : List Char) (parts : List (List Char)) : Bool :=
  if outermost.isEmpty then parts.length == 1 else parts.all isGroup

/-- Eight groups, or fewer with one gap that stands for at least one group. -/
def areGroups (parts : List (List Char)) : Bool :=
  match innerGaps parts with
  | [] => parts.length == 8 && parts.all isGroup
  | [gap] =>
    let before := parts.take gap
    let behind := parts.drop (gap + 1)
    let written := ((before ++ behind).filter (!·.isEmpty)).length
    isHalf (before.headD []) before && isHalf (behind.getLastD []) behind && written ≤ 7
  | _ => false

/-- A zone behind a percent sign is a single one and not empty. -/
def hasSoundZone (text : List Char) : Bool :=
  if text.contains '%' then
    let zone := (cutFirst '%' text).2
    !zone.isEmpty && !zone.contains '%'
  else true

/-- Hexadecimal groups with colons between them, and a zone behind them if there is one. -/
def isIPv6 (text : List Char) : Bool :=
  !text.contains '/' && hasSoundZone text &&
    match groups? (cutFirst '%' text).1 with
    | some parts => parts.length ≤ 9 && areGroups parts
    | none => false

end LicenseHeaders.Address
