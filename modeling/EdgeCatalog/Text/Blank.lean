import EdgeCatalog.Text.Ranges

/-! White space in the sense of the Unicode property `White_Space`. -/
namespace EdgeCatalog.Text

def blankRanges : Ranges :=
  [(0x9, 0xd), (0x20, 0x20), (0x85, 0x85), (0xa0, 0xa0), (0x1680, 0x1680), (0x2000, 0x200a),
  (0x2028, 0x2029), (0x202f, 0x202f), (0x205f, 0x205f), (0x3000, 0x3000)]

def isBlank (c : Char) : Bool :=
  blankRanges.contains c.toNat

/-- Drops white space from the front. -/
def skipBlanks (cs : List Char) : List Char :=
  cs.dropWhile isBlank

/-- Drops white space from both ends. -/
def stripBlanks (cs : List Char) : List Char :=
  (skipBlanks (skipBlanks cs).reverse).reverse

/-- Does the text hold nothing but white space? -/
def allBlank (s : String) : Bool :=
  s.toList.all isBlank

end EdgeCatalog.Text
