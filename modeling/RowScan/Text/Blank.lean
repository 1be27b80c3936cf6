/-!
White space in the sense of the Unicode property White_Space, and texts without it at their ends.
-/

namespace RowScan.Blank

def isBlank (char : Char) : Bool :=
  let code := char.toNat
  (0x9 ≤ code && code ≤ 0xd) || code == 0x20 || code == 0x85 || code == 0xa0 || code == 0x1680 ||
    (0x2000 ≤ code && code ≤ 0x200a) || code == 0x2028 || code == 0x2029 || code == 0x202f ||
    code == 0x205f || code == 0x3000

def trimList (text : List Char) : List Char :=
  ((text.dropWhile isBlank).reverse.dropWhile isBlank).reverse

def trim (text : String) : String := String.ofList (trimList text.toList)

end RowScan.Blank
