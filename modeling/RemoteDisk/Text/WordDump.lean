import RemoteDisk.Text.Hex

/-!
# Word dumps

Memory is shown four words to a line. A line starts with the byte offset of
its first word and a colon, and each word follows after a blank with its
prefix and eight digits. Lines are separated by single newlines, with none
at the end, so no words give the empty text.

The text is built as a list of characters, which is what a reader of dumps
takes apart again.
-/

namespace RemoteDisk.WordDump

/-- Words on one line. -/
def wordsPerLine : Nat := 4

/-- Bytes that one line covers. -/
def bytesPerLine : Nat := 4 * wordsPerLine

/-- **The rows of a dump**: four items each, the last row holding what is
left. -/
def rows {α : Type} : List α → List (List α)
  | [] => []
  | a :: b :: c :: d :: rest => [a, b, c, d] :: rows rest
  | short => [short]

/-- One word of a line, after its blank. -/
def wordText (w : UInt32) : List Char := ' ' :: '0' :: 'x' :: Hex.fixed 8 w.toNat

/-- The line numbered `k`, which shows the bytes from `16 * k` on. -/
def line (k : Nat) (row : List UInt32) : List Char :=
  Hex.padded 4 (bytesPerLine * k) ++ ':' :: row.flatMap wordText

/-- The lines of a dump, in order. -/
def lines (words : List UInt32) : List (List Char) :=
  (rows words).mapIdx line

/-- The dump as characters. -/
def chars (words : List UInt32) : List Char :=
  ['\n'].intercalate (lines words)

/-- The dump as text. -/
def render (words : List UInt32) : String := String.ofList (chars words)

end RemoteDisk.WordDump
