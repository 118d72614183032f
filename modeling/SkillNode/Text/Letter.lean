import SkillNode.Text.Basic
import SkillNode.Text.Letter.Ranges
import SkillNode.Text.Letter.CaseRuns

/-!
# Letters, digits and case

Which characters count as letters or digits of some script, and how a text
changes case. Case mappings may lengthen a text, and a capital sigma becomes a
final sigma at the end of a word.

The ASCII characters are settled without the tables, which start to matter
beyond them; the small lemmas say so.
-/

namespace SkillNode
namespace Text

/-- Whether some range holds the code point. -/
def inRanges (ranges : List (Nat × Nat)) (code : Nat) : Bool :=
  ranges.any fun range => range.1 ≤ code && code ≤ range.2

/-- Whether some run with steps holds the code point. -/
def inRuns (runs : List (Nat × Nat × Nat)) (code : Nat) : Bool :=
  runs.any fun (first, last, step) =>
    first ≤ code && code ≤ last && (code - first) % step = 0

/-- A letter or a number of some script. -/
def isAlphanumeric (c : Char) : Bool :=
  if c.toNat < 128 then c.isAlphanum else inRanges alphanumericRanges c.toNat

/-- A letter, a number or an underscore: what a name is made of. -/
def isWordCharacter (c : Char) : Bool := c = '_' || isAlphanumeric c

/-- A digit of some script, superscript and circled digits included. -/
def isDigit (c : Char) : Bool :=
  if c.toNat < 128 then c.isDigit else inRanges digitRanges c.toNat

/-- A capital letter of some script. -/
def isCapital (c : Char) : Bool :=
  if c.toNat < 128 then c.isUpper else inRuns capitalRuns c.toNat

/-- The number that a decimal digit of some script stands for. -/
def decimalValue? (c : Char) : Option Nat :=
  (decimalRanges.find? fun range => range.1 ≤ c.toNat && c.toNat ≤ range.2).map
    fun range => (c.toNat - range.1) % 10

/-- A letter of an ASCII identifier after its first: letter, digit, underscore. -/
def isAsciiWord (c : Char) : Bool := c.isAlphanum || c = '_'

/-- The first letter of an ASCII identifier: letter or underscore. -/
def isAsciiWordStart (c : Char) : Bool := c.isAlpha || c = '_'

/-- A text of the form of an identifier of C: not empty, of ASCII letters, digits
and underscores, and not starting with a digit. -/
def isCIdentifier : Text → Bool
  | [] => false
  | c :: rest => isAsciiWordStart c && rest.all isAsciiWord

/-- A letter, number or underscore that an identifier may hold. -/
def isIdentifierPart (c : Char) : Bool :=
  if c.toNat < 128 then isAsciiWord c
  else isAlphanumeric c && !inRanges nonIdentifierRanges c.toNat

/-- A letter or underscore that an identifier may start with. -/
def isIdentifierStart (c : Char) : Bool :=
  if c.toNat < 128 then isAsciiWordStart c
  else isIdentifierPart c && (decimalValue? c).isNone && !inRanges innerIdentifierRanges c.toNat

/-- A text of the form of an identifier, of letters and numbers of any script and
underscores. -/
def isIdentifier : Text → Bool
  | [] => false
  | c :: rest => isIdentifierStart c && rest.all isIdentifierPart

/-! ## Case mappings -/

/-- The image of a code point under runs of mappings that advance together. -/
def mapRuns? (runs : List (Nat × Nat × Nat × Nat)) (code : Nat) : Option Nat :=
  (runs.find? fun (first, last, step, _) =>
    first ≤ code && code ≤ last && (code - first) % step = 0).map
      fun (first, _, _, image) => image + (code - first)

/-- The image of a character under a case mapping given by its expansions and
its runs; a character in neither stands for itself. -/
def mapCase
    (expansions : List (Nat × List Nat))
    (runs : List (Nat × Nat × Nat × Nat))
    (c : Char) : Text :=
  match expansions.find? (·.1 = c.toNat) with
  | some (_, image) => image.map Char.ofNat
  | none =>
      match mapRuns? runs c.toNat with
      | some image => [Char.ofNat image]
      | none => [c]

/-- The capital form of a character, possibly of several letters. -/
def upperOf (c : Char) : Text :=
  if c.toNat < 128 then [c.toUpper] else mapCase upperExpansions upperRuns c

/-- The small form of a character outside of words that end in sigma. -/
def lowerOf (c : Char) : Text :=
  if c.toNat < 128 then [c.toLower] else mapCase lowerExpansions lowerRuns c

/-- Write a text in capitals. -/
def upper (text : Text) : Text := text.flatMap upperOf

/-- A character that takes part in case. -/
def isCased (c : Char) : Bool := inRanges casedRanges c.toNat

/-- A character that a final sigma looks past. -/
def isCaseIgnorable (c : Char) : Bool := inRanges caseIgnorableRanges c.toNat

/-- Whether the first character that is not looked past is a cased letter. -/
def startsCased (text : Text) : Bool :=
  ((text.dropWhile isCaseIgnorable).head?.map isCased).getD false

/-- Write a text in small letters, given whether a cased letter comes before. A
capital sigma is final after a cased letter and not before one. -/
def lowerAfter (casedBefore : Bool) : Text → Text
  | [] => []
  | c :: rest =>
      let small :=
        if c = 'Σ' then
          (if casedBefore && !startsCased rest then ['ς'] else ['σ'])
        else
          lowerOf c
      small ++ lowerAfter (if isCaseIgnorable c then casedBefore else isCased c) rest

/-- Write a text in small letters. -/
def lower (text : Text) : Text := lowerAfter false text

/-- Write the first character as a capital and keep the rest. -/
def capitalize : Text → Text
  | [] => []
  | c :: rest => upperOf c ++ rest

/-! ## ASCII is settled without tables -/

theorem isAlphanumeric_of_ascii {c : Char} (ascii : c.toNat < 128) :
    isAlphanumeric c = c.isAlphanum := by
  simp [isAlphanumeric, ascii]

theorem upperOf_of_ascii {c : Char} (ascii : c.toNat < 128) :
    upperOf c = [c.toUpper] := by
  simp [upperOf, ascii]

theorem lowerOf_of_ascii {c : Char} (ascii : c.toNat < 128) :
    lowerOf c = [c.toLower] := by
  simp [lowerOf, ascii]

/-- An identifier is made of ASCII letters, digits and underscores. -/
theorem isAsciiWord_of_isCIdentifier {name : Text} (isName : isCIdentifier name = true) :
    ∀ c ∈ name, isAsciiWord c = true := by
  cases name with
  | nil => simp
  | cons first rest =>
      rw [isCIdentifier, Bool.and_eq_true, List.all_eq_true] at isName
      obtain ⟨isStart, areWords⟩ := isName
      rw [List.forall_mem_cons]
      refine ⟨?_, areWords⟩
      rw [isAsciiWordStart, Bool.or_eq_true] at isStart
      rw [isAsciiWord, Char.isAlphanum, Bool.or_eq_true, Bool.or_eq_true]
      exact isStart.imp_left .inl

@[simp] theorem upper_append (left right : Text) :
    upper (left ++ right) = upper left ++ upper right := by
  simp [upper]

end Text
end SkillNode
