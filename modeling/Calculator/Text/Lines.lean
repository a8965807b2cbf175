namespace Calculator

/-- The characters of the Unicode property `White_Space`. -/
def isSpace (c : Char) : Bool :=
  let n := c.toNat
  0x9 ≤ n && n ≤ 0xD || n == 0x20 || n == 0x85 || n == 0xA0 || n == 0x1680 ||
    0x2000 ≤ n && n ≤ 0x200A || n == 0x2028 || n == 0x2029 || n == 0x202F || n == 0x205F ||
    n == 0x3000

def trimSpace (cs : List Char) : List Char :=
  ((cs.dropWhile isSpace).reverse.dropWhile isSpace).reverse

def trimmed (s : String) : String :=
  .ofList (trimSpace s.toList)

/-- The lines that hold more than white space, trimmed. -/
def nonBlank (lines : List String) : List String :=
  (lines.map trimmed).filter (· ≠ "")

/-- The segments of a sequence, each with the separator that ends it; what follows the last
separator is a segment unless empty. -/
def segments {α : Type} [DecidableEq α] (sep : α) : List α → List (List α)
  | [] => []
  | x :: xs =>
    if x = sep then [x] :: segments sep xs
    else match segments sep xs with
      | [] => [[x]]
      | s :: ss => (x :: s) :: ss

/-- A line without the line feed at its end and one carriage return right before that. -/
def withoutEnding (cs : List Char) : List Char :=
  if cs.getLast? = some '\n' then
    if cs.dropLast.getLast? = some '\r' then cs.dropLast.dropLast else cs.dropLast
  else cs

def splitLines (cs : List Char) : List (List Char) :=
  (segments '\n' cs).map withoutEnding

def linesOfText (s : String) : List String :=
  (splitLines s.toList).map String.ofList

/-- The lines of a byte stream, each decoded by itself, up to the first that is not UTF-8. -/
def linesOfStream (bytes : ByteArray) : List String :=
  let decoded := (segments 0x0A bytes.data.toList).map fun s => String.fromUTF8? ⟨s.toArray⟩
  ((decoded.takeWhile Option.isSome).filterMap id).map fun s => .ofList (withoutEnding s.toList)

end Calculator
