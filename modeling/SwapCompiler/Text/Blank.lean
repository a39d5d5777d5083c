/-!
# White space

The characters that may surround a number written as text: Unicode's white space. Around a
name in a header, the four information separators of ASCII count as blanks too.
-/

namespace SwapCompiler.Text

/-- Whether the character is white space. -/
def isBlank (c : Char) : Bool :=
  c = ' ' || ('\t' ≤ c && c ≤ '\r') || c = '\x85' || c = '\xa0' || c = '\u1680' ||
  ('\u2000' ≤ c && c ≤ '\u200a') || c = '\u2028' || c = '\u2029' || c = '\u202f' ||
  c = '\u205f' || c = '\u3000'

/-- Whether the character is white space or an information separator. -/
def isBlankOrSeparator (c : Char) : Bool :=
  isBlank c || ('\x1c' ≤ c && c ≤ '\x1f')

/-- The text without blanks at either end. -/
def strip (isBlank : Char → Bool) (text : List Char) : List Char :=
  ((text.dropWhile isBlank).reverse.dropWhile isBlank).reverse

/-- The text without white space at either end. -/
def trim (text : List Char) : List Char :=
  strip isBlank text

end SwapCompiler.Text
