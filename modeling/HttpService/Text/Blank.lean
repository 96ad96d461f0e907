/-!
Contract: white space as a property of characters, and the cuts made at it.

Owns:
- the 25 characters with the property White_Space;
- trimming on either side;
- the words between runs of white space.

Does not own: the octets that a header may hold.
-/

namespace HttpService.Text

/-- The characters that have the property White_Space. -/
def isBlank (c : Char) : Bool :=
  let code := c.toNat
  (9 ≤ code && code ≤ 13) || code == 0x20 || code == 0x85 || code == 0xA0 ||
    code == 0x1680 || (0x2000 ≤ code && code ≤ 0x200A) || code == 0x2028 ||
    code == 0x2029 || code == 0x202F || code == 0x205F || code == 0x3000

/-- Drops the last items for which `drop` holds. -/
def trimEndWhile {α : Type} (drop : α → Bool) (items : List α) : List α :=
  (items.reverse.dropWhile drop).reverse

/-- Drops the first and the last items for which `drop` holds. -/
def trimWhile {α : Type} (drop : α → Bool) (items : List α) : List α :=
  trimEndWhile drop (items.dropWhile drop)

/-- A text without the white space around it. -/
def trim (chars : List Char) : List Char :=
  trimWhile isBlank chars

/-- The words of a text, split at runs of white space. -/
def blankSeparated (chars : List Char) : List (List Char) :=
  (chars.splitOnP isBlank).filter (· ≠ [])

end HttpService.Text
