import Tableside.Text.Digits
import Tableside.Text.Split

/-!
Addresses that a server can listen on: four decimal numbers between points, or up to eight groups of
hexadecimal digits between colons, where two colons in a row stand for groups of zeros.
-/

namespace Tableside.Host

/-- A number of at most 255 without leading zeros. -/
def isByte (cs : List Char) : Bool :=
  cs.length ≤ 3 && (cs.length ≤ 1 || cs.head? != some '0') &&
    match Text.nat? cs with
    | some n => n ≤ 255
    | none => false

/-- Four numbers between points. -/
def isIPv4 (cs : List Char) : Bool :=
  let parts := Text.splitAll '.' cs
  parts.length == 4 && parts.all isByte

/-- One to four hexadecimal digits. -/
def isGroup (cs : List Char) : Bool :=
  !cs.isEmpty && cs.length ≤ 4 && cs.all fun c => (Text.hexValue? c).isSome

/-- The number of groups that pieces between colons make up; the last may be an address of four
numbers, which counts as two. None when a piece is no group. -/
def groups? : List (List Char) → Option Nat
  | [] => some 0
  | [last] => if isGroup last then some 1 else if isIPv4 last then some 2 else none
  | piece :: rest => if isGroup piece then (groups? rest).map (· + 1) else none

/-- The number of groups in a text; an empty one has none. -/
def groupsOf? (cs : List Char) : Option Nat :=
  if cs.isEmpty then some 0 else groups? (Text.splitAll ':' cs)

/-- The number of groups in a text that are all hexadecimal. -/
def plainGroupsOf? (cs : List Char) : Option Nat :=
  if cs.isEmpty then some 0
  else
    let pieces := Text.splitAll ':' cs
    if pieces.all isGroup then some pieces.length else none

/-- The text before and after the first two colons in a row. -/
def splitGap : List Char → Option (List Char × List Char)
  | [] => none
  | ':' :: ':' :: rest => some ([], rest)
  | c :: rest => (splitGap rest).map fun (before, after) => (c :: before, after)

/-- Eight groups between colons, or at most seven around a gap. -/
def isIPv6 (cs : List Char) : Bool :=
  match splitGap cs with
  | none => groupsOf? cs == some 8
  | some (before, after) =>
    match plainGroupsOf? before, groupsOf? after with
    | some m, some n => m + n ≤ 7
    | _, _ => false

/-- Whether a text is an address. -/
def isAddress (s : String) : Bool :=
  isIPv4 s.toList || isIPv6 s.toList

end Tableside.Host
