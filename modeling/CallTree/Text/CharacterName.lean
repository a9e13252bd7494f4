/-
# CallTree.Text.CharacterName — characters by their Unicode names.

Most names stand in tables (`CallTree.Text.NameRun`). Names that are a label and a number, the
names of braille patterns, of unified ideographs and of Hangul syllables follow rules instead. The
case of letters does not matter, except in the names of unified ideographs and Hangul syllables,
whose labels and numbers are taken as they are.
-/
import CallTree.Text.Alphanumeric
import CallTree.Text.CharacterName.Alias
import CallTree.Text.CharacterName.Alphabets
import CallTree.Text.CharacterName.Ancient
import CallTree.Text.CharacterName.EastAsian
import CallTree.Text.CharacterName.Pictures
import CallTree.Text.CharacterName.Scripts
import CallTree.Text.CharacterName.Signs

namespace CallTree.Text

/-- What follows a label at the start of a text, if the label is there. -/
def afterLabel? (label : String) (text : List Char) : Option (List Char) :=
  if label.toList.isPrefixOf text then some (text.drop label.length) else none

/-! ## Names with a number -/

/-- How the characters of a row are numbered: by their codes in hexadecimal, or from `start` on in
decimal with at least `width` digits. -/
inductive Numbering where
  | code
  | decimal (start width : Nat)

/-- The number of the `place`th character of a row that begins at `first`. -/
def Numbering.digits (numbering : Numbering) (first place : Nat) : List Char :=
  match numbering with
  | .code => (Nat.toDigits 16 (first + place)).map Char.toUpper
  | .decimal start width =>
    let ds := Nat.toDigits 10 (start + place)
    List.replicate (width - ds.length) '0' ++ ds

/-- A row of characters whose names are a label and a number. -/
structure NumberedRun where
  label : String
  first : Nat
  last : Nat
  numbering : Numbering

/-- The rows of characters with numbered names. -/
def numberedNames : List NumberedRun := [
  ⟨"CJK COMPATIBILITY IDEOGRAPH-", 0xf900, 0xfa6d, .code⟩,
  ⟨"CJK COMPATIBILITY IDEOGRAPH-", 0xfa70, 0xfad9, .code⟩,
  ⟨"CJK COMPATIBILITY IDEOGRAPH-", 0x2f800, 0x2fa1d, .code⟩,
  ⟨"KHITAN SMALL SCRIPT CHARACTER-", 0x18b00, 0x18cd5, .code⟩,
  ⟨"NUSHU CHARACTER-", 0x1b170, 0x1b2fb, .code⟩,
  ⟨"TANGUT COMPONENT-", 0x18800, 0x18aff, .decimal 1 3⟩,
  ⟨"VARIATION SELECTOR-", 0xfe00, 0xfe0f, .decimal 1 1⟩,
  ⟨"VARIATION SELECTOR-", 0xe0100, 0xe01ef, .decimal 17 1⟩,
  ⟨"VS", 0xfe00, 0xfe0f, .decimal 1 1⟩,
  ⟨"VS", 0xe0100, 0xe01ef, .decimal 17 1⟩]

/-- The character of a row with this name. -/
def NumberedRun.find? (r : NumberedRun) (name : List Char) : Option Nat := do
  let number ← afterLabel? r.label name
  let place ← (List.range (r.last + 1 - r.first)).find? fun place =>
    r.numbering.digits r.first place = number
  return r.first + place

/-- The bits of raised dots that are listed in order; a dot from one to eight has the bit of its
number. -/
def brailleBits? : List Char → Option Nat
  | [] => some 0
  | dot :: rest =>
    if '1' ≤ dot && dot ≤ '8' && rest.all (dot < ·) then
      (brailleBits? rest).map (Nat.pow 2 (dot.toNat - '1'.toNat) + ·)
    else none

/-- The braille pattern with this name; the one without dots has a name of its own. -/
def braillePattern? (name : List Char) : Option Nat := do
  let dots ← afterLabel? "BRAILLE PATTERN DOTS-" name
  if dots.isEmpty then none else (brailleBits? dots).map (0x2800 + ·)

/-! ## Unified ideographs -/

/-- The unified ideographs. -/
def unifiedIdeographs : List (Nat × Nat) := [
  (0x3400, 0x4dbf), (0x4e00, 0x9fff), (0x20000, 0x2a6df), (0x2a700, 0x2b738), (0x2b740, 0x2b81d),
  (0x2b820, 0x2cea1), (0x2ceb0, 0x2ebe0), (0x30000, 0x3134a)]

/-- The unified ideograph whose code these four or five hexadecimal digits write. -/
def unifiedIdeograph? (digits : List Char) : Option Nat :=
  let isDigit (c : Char) : Bool := c.isDigit || ('A' ≤ c && c ≤ 'F')
  let value (c : Char) : Nat := if c.isDigit then c.toNat - '0'.toNat else c.toNat - 'A'.toNat + 10
  if (digits.length = 4 || digits.length = 5) && digits.all isDigit then
    let code := digits.foldl (fun n c => n * 16 + value c) 0
    if inRanges unifiedIdeographs code then some code else none
  else none

/-! ## Hangul syllables -/

/-- The consonants that begin a syllable; one of them is silent. -/
def leadingConsonants : List String :=
  ["G", "GG", "N", "D", "DD", "R", "M", "B", "BB", "S", "SS", "", "J", "JJ", "C", "K", "T", "P",
    "H"]

/-- The vowels of syllables. -/
def syllableVowels : List String :=
  ["A", "AE", "YA", "YAE", "EO", "E", "YEO", "YE", "O", "WA", "WAE", "OE", "YO", "U", "WEO", "WE",
    "WI", "YU", "EU", "YI", "I"]

/-- The consonants that end a syllable, the absent one first. -/
def trailingConsonants : List String :=
  ["", "G", "GG", "GS", "N", "NJ", "NH", "D", "L", "LG", "LM", "LB", "LS", "LT", "LP", "LH", "M",
    "B", "BS", "S", "SS", "NG", "J", "C", "K", "T", "P", "H"]

/-- The syllable that is spelled so: consonants, vowels and consonants are told apart by their
letters. -/
def hangulSyllable? (spelling : List Char) : Option Nat := do
  let isVowel (c : Char) : Bool := "AEIOUWY".toList.contains c
  let (lead, rest) := spelling.span (!isVowel ·)
  let (vowel, trail) := rest.span isVowel
  let l ← leadingConsonants.idxOf? (String.ofList lead)
  let v ← syllableVowels.idxOf? (String.ofList vowel)
  let t ← trailingConsonants.idxOf? (String.ofList trail)
  return 0xac00 + (l * syllableVowels.length + v) * trailingConsonants.length + t

/-! ## All names -/

/-- The runs of all tables. -/
def nameTables : List (List NameRun) :=
  [alphabetNames, scriptNames, signNames, eastAsianNames, ancientNames, pictureNames]

/-- The character that a table or a rule without regard to case gives a name in capitals. -/
def characterInCapitals? (name : List Char) : Option Nat :=
  let parts := words name
  characterAliases.lookup (String.ofList name)
    <|> numberedNames.findSome? (·.find? name)
    <|> braillePattern? name
    <|> nameTables.findSome? fun table => table.findSome? (·.find? parts)

/-- **The character with a name.** -/
def characterNamed? (name : String) : Option Nat :=
  let cs := name.toList
  match afterLabel? "CJK UNIFIED IDEOGRAPH-" cs, afterLabel? "HANGUL SYLLABLE " cs with
  | some digits, _ => unifiedIdeograph? digits
  | none, some spelling => hangulSyllable? spelling
  | none, none => characterInCapitals? (cs.map Char.toUpper)

end CallTree.Text
