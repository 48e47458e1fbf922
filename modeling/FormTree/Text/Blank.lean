set_option autoImplicit false

/-!
# Blanks

The characters that leave a gap between words in any script, those of the Unicode property
White_Space, and texts without such characters around them.

## Main definitions

* `FormTree.Text.isBlank` — the blanks.
* `FormTree.Text.trim` — a text without the blanks around it.
-/

namespace FormTree.Text

/-- The character is a blank. -/
def isBlank (c : Char) : Bool :=
  let n := c.toNat
  (9 ≤ n && n ≤ 13) || n = 0x20 || n = 0x85 || n = 0xa0 || n = 0x1680 ||
    (0x2000 ≤ n && n ≤ 0x200a) || n = 0x2028 || n = 0x2029 || n = 0x202f || n = 0x205f ||
    n = 0x3000

/-- The text without the blanks around it. -/
def trim (text : List Char) : List Char :=
  ((text.dropWhile isBlank).reverse.dropWhile isBlank).reverse

end FormTree.Text
