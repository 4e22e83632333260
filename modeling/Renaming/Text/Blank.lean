/-!
# Blank characters and trimming

A character is blank when it has the Unicode property `White_Space`. Zero width characters and the
separators U+001C to U+001F are not blank.
-/

namespace Renaming.Text

def isBlank (c : Char) : Bool :=
  let n := c.toNat
  (0x09 ≤ n && n ≤ 0x0D) || n == 0x20 || n == 0x85 || n == 0xA0 || n == 0x1680 ||
    (0x2000 ≤ n && n ≤ 0x200A) || n == 0x2028 || n == 0x2029 || n == 0x202F || n == 0x205F ||
    n == 0x3000

/-! ## Trimming -/

def trimStart (cs : List Char) : List Char := cs.dropWhile isBlank

def trimEnd (cs : List Char) : List Char := (cs.reverse.dropWhile isBlank).reverse

/-- Without the blanks at both ends. -/
def trimBoth (cs : List Char) : List Char := trimEnd (trimStart cs)

def trim (text : String) : String := String.ofList (trimBoth text.toList)

@[simp] theorem toList_trim (text : String) : (trim text).toList = trimBoth text.toList := by
  simp [trim]

@[simp] theorem trimBoth_nil : trimBoth [] = [] := rfl

end Renaming.Text
