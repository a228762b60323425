/-!
# Codes and texts

A text is a sequence of codes. Most codes are those of characters. Unicode sets the others apart to
stand for half a character each, and a text may hold such a half alone. Readers of numbers, digits
and words know no halves: to them the replacement character stands in the place of each.
-/

namespace BatchFrontier

/-- A code of a text. -/
inductive Code where
  | char (c : Char)
  /-- Half a character, by its number among the halves. -/
  | half (n : Fin 0x800)
  deriving DecidableEq, Repr

namespace Code

/-- The number of the first half as a code. -/
def firstHalf : Nat := 0xD800

/-- How many halves there are. -/
def halfCount : Nat := 0x800

/-- The number of a code. -/
def toNat : Code → Nat
  | .char c => c.toNat
  | .half n => firstHalf + n.val

/-- The code of a number. A number that is too large has the code of zero. -/
def ofNat (n : Nat) : Code :=
  if h : n - firstHalf < halfCount ∧ firstHalf ≤ n then .half ⟨n - firstHalf, h.1⟩
  else .char (Char.ofNat n)

/-- The character of a code, or the replacement character for a half. -/
def toChar : Code → Char
  | .char c => c
  | .half _ => '\uFFFD'

/-- Whether a code is that of a character with a property; no half has one. -/
def satisfies (p : Char → Bool) : Code → Bool
  | .char c => p c
  | .half _ => false

/-- A code, where an upper-case letter of ASCII becomes a lower-case letter. -/
def lowered : Code → Code
  | .char c => .char c.toLower
  | .half n => .half n

/-- Whether a code is that of half a character. -/
def isHalf : Code → Bool
  | .char _ => false
  | .half _ => true

/-- A character has its own number as a code. -/
theorem toNat_ofNat_of_isValidChar {n : Nat} (h : n.isValidChar) : (Char.ofNat n).toNat = n := by
  rw [Char.ofNat, dif_pos h]
  rfl

/-- The code of a number has that number. -/
theorem toNat_ofNat {n : Nat} (h : n < 0x110000) : (ofNat n).toNat = n := by
  unfold ofNat
  split
  · next hn => simp only [toNat]; omega
  · next hn =>
    have hvalid : n.isValidChar := by
      simp only [firstHalf, halfCount] at hn
      rcases Nat.lt_or_ge n 0xD800 with hlow | hhigh
      · exact Or.inl hlow
      · exact Or.inr ⟨by omega, h⟩
    exact toNat_ofNat_of_isValidChar hvalid

end Code

/-- A text. -/
structure Text where
  codes : List Code
  deriving DecidableEq, Repr, Inhabited

namespace Text

/-- The text of some characters. -/
def ofChars (cs : List Char) : Text := ⟨cs.map .char⟩

/-- The text of a string. -/
def ofString (s : String) : Text := ofChars s.toList

/-- The text of one code. -/
def ofCode (c : Code) : Text := ⟨[c]⟩

instance : Coe String Text := ⟨ofString⟩

instance : Append Text := ⟨fun s t => ⟨s.codes ++ t.codes⟩⟩

/-- The characters of a text, with the replacement character in the place of each half. -/
def chars (t : Text) : List Char := t.codes.map Code.toChar

/-- The characters of a text without halves. -/
def chars? (t : Text) : Option (List Char) :=
  t.codes.mapM fun
    | .char c => some c
    | .half _ => none

/-- The string of a text without halves. -/
def toString? (t : Text) : Option String := t.chars?.map String.ofList

/-- The number of codes. -/
def length (t : Text) : Nat := t.codes.length

/-- Whether a text is empty. -/
def isEmpty (t : Text) : Bool := t.codes.isEmpty

/-- The first codes of a text. -/
def take (t : Text) (n : Nat) : Text := ⟨t.codes.take n⟩

/-- A text without its first codes. -/
def drop (t : Text) (n : Nat) : Text := ⟨t.codes.drop n⟩

/-- Whether a text begins with another. -/
def beginsWith (t start : Text) : Bool := start.codes.isPrefixOf t.codes

/-- A text with lower-case letters for the upper-case letters of ASCII. -/
def lowered (t : Text) : Text := ⟨t.codes.map Code.lowered⟩

/-- Some texts after one another. -/
def join (ts : List Text) : Text := ⟨ts.flatMap codes⟩

/-- Some texts with another between any two of them. -/
def intercalate (between : Text) (ts : List Text) : Text :=
  ⟨between.codes.intercalate (ts.map codes)⟩

@[simp] theorem codes_append (s t : Text) : (s ++ t).codes = s.codes ++ t.codes := rfl

@[simp] theorem length_append (s t : Text) : (s ++ t).length = s.length + t.length :=
  List.length_append

@[simp] theorem length_chars (t : Text) : t.chars.length = t.length := by simp [chars, length]

/-- Characters are found again in their text. -/
@[simp] theorem chars_ofChars (cs : List Char) : (ofChars cs).chars = cs := by
  simp [chars, ofChars, Function.comp_def, Code.toChar]

/-- A text without halves is the text of its characters. -/
theorem ofChars_chars {t : Text} (h : '\uFFFD' ∉ t.chars) : ofChars t.chars = t := by
  have hwhole : ∀ c ∈ t.codes, Code.char c.toChar = c := by
    intro c hc
    cases c with
    | char c => rfl
    | half n => exact absurd (List.mem_map_of_mem hc) h
  obtain ⟨codes⟩ := t
  simp only [ofChars, chars, List.map_map, Function.comp_def, mk.injEq]
  exact (List.map_congr_left hwhole).trans (List.map_id' codes)

end Text

end BatchFrontier
