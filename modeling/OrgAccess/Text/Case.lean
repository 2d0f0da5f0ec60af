import OrgAccess.Text.CaseTable

/-!
# Lower and upper case of a text

Case mapping of whole texts with the full Unicode tables. One character depends on its neighbours:
a capital sigma that ends a word becomes the final form of the small letter. So the lower case of a
text is not that of its parts set side by side, and `lowerFrom` carries the characters passed.
-/

namespace OrgAccess.Text

/-- The images of a character under a case mapping. -/
def mapChar (map : CaseMap) (c : Char) : List Char :=
  (map.apply c.toNat).map Char.ofNat

/-- Whether a character is a letter that has a case. -/
def isCased (c : Char) : Bool :=
  inRanges casedRanges c.toNat

/-- Whether a character is looked through when the end of a word is sought. -/
def isCaseIgnorable (c : Char) : Bool :=
  inRanges caseIgnorableRanges c.toNat

/-- Whether the first character that counts is a letter that has a case. -/
def startsCased (cs : List Char) : Bool :=
  ((cs.dropWhile isCaseIgnorable).head?.map isCased).getD false

/-- Whether a letter between `before` (nearest first) and `after` ends a word. -/
def endsWord (before after : List Char) : Bool :=
  startsCased before && !startsCased after

/-- The lower case of one character between its neighbours. -/
def lowerAt (before : List Char) (c : Char) (after : List Char) : List Char :=
  if c = 'Σ' then
    [if endsWord before after then 'ς' else 'σ']
  else
    mapChar lowerMap c

/-- The lower case of the characters that follow `before` (nearest first). -/
def lowerFrom (before : List Char) : List Char → List Char
  | [] => []
  | c :: after => lowerAt before c after ++ lowerFrom (c :: before) after

/-- The lower case of a list of characters. -/
def lowerChars (cs : List Char) : List Char :=
  lowerFrom [] cs

/-- The upper case of a list of characters. -/
def upperChars (cs : List Char) : List Char :=
  cs.flatMap (mapChar upperMap)

/-- The lower case of a text. -/
def lowercase (text : String) : String :=
  String.ofList (lowerChars text.toList)

/-- The upper case of a text. -/
def uppercase (text : String) : String :=
  String.ofList (upperChars text.toList)

end OrgAccess.Text
