import EdgeCatalog.Text.CaseTable

/-! Lower case as the Unicode standard defines it, without locale: letter by letter, except that a
capital I with a dot becomes two characters and a capital sigma looks at its neighbours. -/
namespace EdgeCatalog.Text

/-- The small form of a letter that has one of its own. -/
def smallForm (c : Char) : Char :=
  if c.toNat < 0x80 then c.toLower
  else match smallOffsets.find? fun (lo, hi, step, _) =>
      lo ≤ c.toNat && c.toNat ≤ hi && (c.toNat - lo) % step = 0 with
    | some (_, _, _, offset) => Char.ofNat (c.toNat + offset).toNat
    | none => c

/-- Is the first character that is not looked through a letter with case? -/
def meetsCased (cs : List Char) : Bool :=
  match cs.dropWhile (caseIgnorableRanges.contains ·.toNat) with
  | [] => false
  | c :: _ => casedRanges.contains c.toNat

/-- Lower case of `rest`, where `before` holds the characters in front of it, last one first. -/
def lowercaseFrom (before : List Char) : List Char → List Char
  | [] => []
  | c :: rest =>
    (if c = Char.ofNat 0x3a3 then
      [if meetsCased before && !meetsCased rest then Char.ofNat 0x3c2 else Char.ofNat 0x3c3]
    else if c = Char.ofNat 0x130 then ['i', Char.ofNat 0x307]
    else [smallForm c]) ++ lowercaseFrom (c :: before) rest

def lowercase (s : String) : String :=
  String.ofList (lowercaseFrom [] s.toList)

end EdgeCatalog.Text
