import SqlBuilder.Text.CharClass

/-!
Text without the blanks around it, the joining of clause pieces by single spaces, and the few
searches in text that the library needs. Every function is defined on the characters of the text,
so that its laws are laws of lists.
-/

namespace SqlBuilder.Text

/-- The characters from the first one that is no blank. -/
def stripLeftChars (cs : List Char) : List Char := cs.dropWhile isBlank

/-- The characters from the first to the last one that is no blank. -/
def stripChars (cs : List Char) : List Char :=
  (stripLeftChars (stripLeftChars cs).reverse).reverse

/-- The characters from the first to the last one that is no white space. -/
def trimChars (cs : List Char) : List Char :=
  ((cs.dropWhile isSpace).reverse.dropWhile isSpace).reverse

/-- The text without the blanks in front of it. -/
def stripLeft (s : String) : String := String.ofList (stripLeftChars s.toList)

/-- The text without the blanks around it. -/
def strip (s : String) : String := String.ofList (stripChars s.toList)

/-- The clauses in front and one more piece, with one space in between. -/
def appendPiece (sql piece : String) : String := strip sql ++ " " ++ strip piece

/-- The pieces one after the other, with single spaces between those that hold something. -/
def concatenate (pieces : List String) : String := strip (pieces.foldl appendPiece "")

/-- The texts one after the other with the glue in between. -/
def joined (glue : String) : List String → String
  | [] => ""
  | [s] => s
  | s :: rest => s ++ glue ++ joined glue rest

/-- Every occurrence of the character is written as the given text. -/
def replaceChar (c : Char) (image : String) (s : String) : String :=
  String.ofList (s.toList.flatMap fun x => if x = c then image.toList else [x])

/-- The second list begins where the first one ends, if the first one leads it. -/
def dropLead? : List Char → List Char → Option (List Char)
  | [], rest => some rest
  | _ :: _, [] => none
  | p :: lead, c :: rest => if p = c then dropLead? lead rest else none

/-- The text begins with the given one. -/
def startsWith (s lead : String) : Bool := (dropLead? lead.toList s.toList).isSome

def containsChars (needle : List Char) : List Char → Bool
  | [] => needle.isEmpty
  | c :: rest => (dropLead? needle (c :: rest)).isSome || containsChars needle rest

/-- The needle stands somewhere in the text. -/
def contains (s needle : String) : Bool := containsChars needle.toList s.toList

/-- The text in front of the first occurrence of the character and the text behind it, which is
absent when the character does not occur. -/
def splitFirstChars (mark : Char) : List Char → List Char × Option (List Char)
  | [] => ([], none)
  | c :: rest =>
    if c = mark then ([], some rest)
    else
      let (front, back) := splitFirstChars mark rest
      (c :: front, back)

/-- The parts of the text between the occurrences of the character. -/
def splitChars (mark : Char) : List Char → List (List Char)
  | [] => [[]]
  | c :: rest =>
    if c = mark then [] :: splitChars mark rest
    else match splitChars mark rest with
      | [] => [[c]]
      | part :: parts => (c :: part) :: parts

def split (mark : Char) (s : String) : List String :=
  (splitChars mark s.toList).map String.ofList

end SqlBuilder.Text
