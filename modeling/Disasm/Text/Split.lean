import Disasm.Text.Blank

/-!
# Words and lines

Text is cut three ways: at every separator, into words (the runs between blanks), and into lines that
keep their line end.  The cuts are defined on lists of characters; the forms on `String` read the same.
-/

namespace Disasm.Text

/-! ## cutting at separators -/

/-- the pieces between separators, `cur` being the piece under way, last character first -/
def piecesFrom (sep : Char → Bool) : List Char → List Char → List (List Char)
  | [], cur => [cur.reverse]
  | c :: cs, cur =>
    if sep c then cur.reverse :: piecesFrom sep cs [] else piecesFrom sep cs (c :: cur)

/-- one piece more than there are separators -/
def pieces (sep : Char → Bool) (cs : List Char) : List (List Char) := piecesFrom sep cs []

/-- the non-empty pieces between blanks -/
def wordsOf (cs : List Char) : List (List Char) :=
  (pieces isBlank cs).filter fun w => !w.isEmpty

def splitOn (sep : Char) (s : String) : List String :=
  (pieces (· == sep) s.toList).map String.ofList

def words (s : String) : List String := (wordsOf s.toList).map String.ofList

/-! ## trimming -/

def trimStart (cs : List Char) : List Char := cs.dropWhile isBlank

def trimEnd (cs : List Char) : List Char := (cs.reverse.dropWhile isBlank).reverse

def strip (s : String) : String := String.ofList (trimEnd (trimStart s.toList))

def stripEnd (s : String) : String := String.ofList (trimEnd s.toList)

/-- the part of `s` in front of the first `sep`, all of it when there is none -/
def upTo (sep : Char) (s : String) : String := String.ofList (s.toList.takeWhile (· != sep))

/-- the annotation on a line: the part in front of the first semicolon -/
def uncomment (line : String) : String := upTo ';' line

/-! ## lines -/

/-- lines with their line ends; a last line without one is kept, an empty one is not -/
def linesFrom : List Char → List Char → List (List Char)
  | [], cur => if cur.isEmpty then [] else [cur.reverse]
  | c :: cs, cur =>
    if c == '\n' then (c :: cur).reverse :: linesFrom cs [] else linesFrom cs (c :: cur)

def lines (s : String) : List String := (linesFrom s.toList []).map String.ofList

/-- `\r\n` and a lone `\r` both end a line -/
def unifyLineEnds : List Char → List Char
  | [] => []
  | '\r' :: '\n' :: cs => '\n' :: unifyLineEnds cs
  | '\r' :: cs => '\n' :: unifyLineEnds cs
  | c :: cs => c :: unifyLineEnds cs

/-- the text in a file: valid UTF-8 with its line ends unified, `none` for other bytes -/
def ofBytes? (bytes : ByteArray) : Option String :=
  (String.fromUTF8? bytes).map fun s =>
    if s.toList.contains '\r' then String.ofList (unifyLineEnds s.toList) else s

/-! ## searching -/

/-- the part of the second text from the first place at which the first one stands -/
def fromFirst (part : List Char) : List Char → List Char
  | [] => []
  | c :: cs => if part.isPrefixOf (c :: cs) then c :: cs else fromFirst part cs

/-- `n` copies of one text -/
def copies (n : Nat) (s : String) : String := String.join (List.replicate n s)

/-- blanks on the right up to `n` characters -/
def padEnd (n : Nat) (s : String) : String := s ++ copies (n - s.length) " "

end Disasm.Text
