import Mathlib.Data.List.DropRight
import Mathlib.Logic.Equiv.List

/-
  This file defines what is asked about texts as sequences of characters, and
  numbers them.

  Key definitions include:
    * `Text.isBlank`
    * `Text.bounded`
-/

namespace Text

/- White space, as Unicode has it. -/
def isSpace (c : Char) : Bool :=
  let n := c.toNat
  (0x9 ≤ n && n ≤ 0xD) || n = 0x20 || n = 0x85 || n = 0xA0 || n = 0x1680 ||
    (0x2000 ≤ n && n ≤ 0x200A) || n = 0x2028 || n = 0x2029 || n = 0x202F || n = 0x205F || n = 0x3000

def isBlank (text : String) : Bool := text.toList.all isSpace

/- The words of a text, as `split_whitespace` gives them. -/
def words (value : List Char) : List (List Char) := (value.splitOnP isSpace).filter (· ≠ [])

def trim (value : List Char) : List Char := (value.dropWhile isSpace).rdropWhile isSpace

/- The first characters of a text. -/
def bounded (text : String) (max : Nat) : String := String.ofList (text.toList.take max)

/- Whether `part` stands somewhere in the text. -/
def contains (part text : String) : Bool := text.toList.tails.any (part.toList.isPrefixOf ·)

def startsWith (part text : String) : Bool := part.toList.isPrefixOf text.toList

section

variable {α : Type} [Repr α] (value : α)

def constructorName : String := ((reprStr value).splitOn ".").getLastD ""

/- The name of a constructor, as the debug format prints it. -/
def debugName : String := (constructorName value).capitalize

/- The name of a constructor with an underscore before each of its words. -/
def snakeName : String := String.ofList ((constructorName value).toList.flatMap (fun letter =>
    if letter.isUpper then ['_', letter.toLower] else [letter]))

end

end Text

instance Char.encodable : Encodable Char := Encodable.ofLeftInverse Char.toNat Char.ofNat
    Char.ofNat_toNat

instance String.encodable : Encodable String := Encodable.ofLeftInverse String.toList String.ofList
    (fun _ => String.ofList_toList)
