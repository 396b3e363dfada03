import Bookmarks.Text.Printable
/-!
The literal spelling of a text, as error messages and the display of lists show it: the text
between quotes, with escapes for the quote, the backslash and every code point that is not
printable.

The quote is the apostrophe, unless the text holds one and no double quote.
-/
namespace Bookmarks.Text

/-- The spelling of one code point inside a literal quoted by `quote`. -/
def literalPoint (quote c : Nat) : Text :=
  if c = quote || c = 0x5C then [0x5C, c]
  else if c = 0x09 then [0x5C, 0x74]
  else if c = 0x0A then [0x5C, 0x6E]
  else if c = 0x0D then [0x5C, 0x72]
  else if c < 0x20 || c = 0x7F then [0x5C, 0x78] ++ hexPadded 2 c
  else if c < 0x7F then [c]
  else if isPrintable c then [c]
  else if c ≤ 0xFF then [0x5C, 0x78] ++ hexPadded 2 c
  else if c ≤ 0xFFFF then [0x5C, 0x75] ++ hexPadded 4 c
  else [0x5C, 0x55] ++ hexPadded 8 c

/-- The quote a literal of `t` uses. -/
def literalQuote (t : Text) : Nat :=
  if t.contains 0x27 && !t.contains 0x22 then 0x22 else 0x27

/-- The literal spelling of a text, quotes included. -/
def literal (t : Text) : Text :=
  let quote := literalQuote t
  quote :: t.flatMap (literalPoint quote) ++ [quote]

end Bookmarks.Text
