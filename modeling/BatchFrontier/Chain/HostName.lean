import BatchFrontier.Fault
import BatchFrontier.Pieces
import BatchFrontier.Text.AsciiForm
import BatchFrontier.Text.CharClass

/-!
# Names of hosts

The name of a host is a row of labels with points between them. A label must not be empty or too
long, where a label with other characters than those of ASCII counts by its form in ASCII. Such a
label is prepared first: characters that say nothing are left out, wide letters become plain ones,
and some characters are not allowed at all.
-/

namespace BatchFrontier.Chain.HostName

/-- The length that labels stay below. -/
def limit : Nat := 64

/-- Whether all codes are those of ASCII characters. -/
def isAscii (cs : List Code) : Bool := cs.all fun c => decide (c.toNat < 128)

/-- Whether a label in ASCII is empty or too long. -/
def isBadLength (cs : List Code) : Bool := cs.isEmpty || decide (limit ≤ cs.length)

/-- The characters that say nothing in a label. -/
def silent : Text.CharClass :=
  ⟨[(0xAD, 0xAD), (0x34F, 0x34F), (0x1806, 0x1806), (0x180B, 0x180D), (0x200B, 0x200D),
    (0x2060, 0x2060), (0xFE00, 0xFE0F), (0xFEFF, 0xFEFF)]⟩

/-- The characters that are not allowed in a label, besides those whose number ends like that of no
character: blanks, controls, marks of direction, and characters without a meaning of their own. -/
def forbidden : Text.CharClass :=
  ⟨[(0x80, 0x9F), (0x6DD, 0x6DD), (0x70F, 0x70F), (0x1680, 0x1680), (0x180E, 0x180E),
    (0x200E, 0x200F), (0x2028, 0x202E), (0x2061, 0x2063), (0x206A, 0x206F), (0x2FF0, 0x2FFB),
    (0xE000, 0xF8FF), (0xFDD0, 0xFDEF), (0xFFF9, 0xFFFF), (0x1D173, 0x1D17A), (0xE0001, 0xE0001),
    (0xE0020, 0xE007F), (0xF0000, 0x10FFFF)]⟩

/-- Whether a code is not allowed in a label; no half of a character is. -/
def isForbidden (c : Code) : Bool :=
  forbidden.holds c.toChar || decide (0xFFFE ≤ c.toNat % 0x10000)

/-- How far the wide form of an ASCII character is from the character. -/
def wideDistance : Nat := 0xFEE0

/-- The plain letter for a wide one. -/
def narrowed (c : Code) : Code :=
  if 0xFF01 ≤ c.toNat ∧ c.toNat ≤ 0xFF5E then .ofNat (c.toNat - wideDistance) else c

/-- A label, prepared. -/
def prepared (label : List Code) : List Code :=
  (label.filter fun c => !c.satisfies silent.holds).map narrowed

/-- What a form in ASCII begins with. -/
def formMark : List Code := "xn--".toList.map .char

/-- Checks a label. -/
def checkLabel (label : List Code) : Except HostFault Unit :=
  if isAscii label then if isBadLength label then .error .badLength else .ok ()
  else
    let label := prepared label
    match label.find? isForbidden with
    | some c => .error (.forbidden c)
    | none =>
      if isAscii label then if isBadLength label then .error .badLength else .ok ()
      else if formMark.isPrefixOf label then .error .marked
      else if limit ≤ formMark.length + Text.AsciiForm.size (label.map Code.toNat) then
        .error .badLength
      else .ok ()

/-- A code, where the points of other scripts are the same as a point. -/
def withPoint (c : Code) : Code :=
  if [0x3002, 0xFF0E, 0xFF61].contains c.toNat then .char '.' else c

/-- Checks the name of a host. Its last label may be empty. -/
def check (name : List Code) : Except HostFault Unit :=
  let labels := Pieces.split (.char '.') (name.map withPoint)
  let last := labels.getLastD []
  if isAscii name then
    if labels.dropLast.any isBadLength then .error .badLength
    else if limit ≤ last.length then .error .longLast
    else .ok ()
  else (if last.isEmpty then labels.dropLast else labels).forM checkLabel

end BatchFrontier.Chain.HostName
