/-!
# White space

The characters with the Unicode property `White_Space`, and the trimming
of a text by them.
-/

namespace TreeBridge

namespace Text

/-- The code points with the property `White_Space`. -/
def isBlank (c : Char) : Bool :=
  let n := c.toNat
  (9 ≤ n && n ≤ 13) || n == 0x20 || n == 0x85 || n == 0xa0 || n == 0x1680 ||
    (0x2000 ≤ n && n ≤ 0x200a) || n == 0x2028 || n == 0x2029 || n == 0x202f ||
    n == 0x205f || n == 0x3000

/-- A text without its leading white space. -/
def trimStart (cs : List Char) : List Char :=
  cs.dropWhile isBlank

/-- A text without its trailing white space. -/
def trimEnd (cs : List Char) : List Char :=
  (cs.reverse.dropWhile isBlank).reverse

/-- A text without the white space at its two ends. -/
def trim (cs : List Char) : List Char :=
  trimEnd (trimStart cs)

/-- Whether `part` occurs in `cs` as a contiguous stretch. -/
def hasInfix (part : List Char) : List Char → Bool
  | [] => part.isEmpty
  | c :: cs => part.isPrefixOf (c :: cs) || hasInfix part cs

/-- `cs` without the occurrences of `part` in it, read from the left;
`skip` characters of an occurrence are still to be dropped. -/
def erase (part : List Char) : Nat → List Char → List Char
  | _, [] => []
  | skip + 1, _ :: rest => erase part skip rest
  | 0, c :: rest =>
    if !part.isEmpty && part.isPrefixOf (c :: rest) then erase part (part.length - 1) rest
    else c :: erase part 0 rest

end Text

end TreeBridge
