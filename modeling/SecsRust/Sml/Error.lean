import SecsRust.Secs2.Codec.Encode

/-!
# SML text and its errors

`sml/error.rs` and `sml/message.rs`: positions, the errors of the parser and of the
formatter, and the message value that both share.

A text is the list of its characters.  An offset of the source counts bytes; everything
before the position of an error is seven-bit, so there it counts characters as well.
`Sml/ByteScanner.lean` has the offsets as the source keeps them.
-/

namespace SecsRust
namespace Sml

open Secs2

/-- A `str`, by its characters. -/
abbrev Text : Type := List Char

/-- `SourcePos`: the bytes before a place, and its line and column, which are counted from one. -/
structure SourcePos where
  offset : ℕ
  line : ℕ
  column : ℕ
  deriving DecidableEq

/-- `ParseError`: an error of the scanner or of the parser, with the position of what it is
about.  An unterminated string is reported at its opening quote, a missing token at the end of
the text. -/
inductive ParseError where
  | invalidCharacter (pos : SourcePos) (found : Char)
  | unterminatedString (pos : SourcePos)
  | invalidAsciiFragment (pos : SourcePos) (byte : UInt8)
  | invalidHexLiteral (pos : SourcePos) (text : Text)
  | numberTooLarge (pos : SourcePos) (text : Text)
  | invalidMessageHeader (pos : SourcePos) (text : Text)
  | streamOutOfRange (pos : SourcePos) (value : ℕ)
  | functionOutOfRange (pos : SourcePos) (value : ℕ)
  | unknownType (pos : SourcePos) (name : Text)
  | unsupportedType (pos : SourcePos) (name : Text)
  | invalidBoolean (pos : SourcePos) (found : Text)
  | invalidCount (pos : SourcePos)
  | countMismatch (pos : SourcePos) (declared actual : ℕ)
  | integerOverflow (pos : SourcePos) (literal : Text) (target : String)
  | nonFiniteFloat (pos : SourcePos) (text : Text) (target : String)
  | invalidAsciiByte (pos : SourcePos) (byte : UInt8)
  | unexpectedToken (pos : SourcePos) (expected : String) (found : Text)
  | missingTerminator (pos : SourcePos)
  | trailingInput (pos : SourcePos) (preview : Text)
  | depthExceeded (pos : SourcePos) (depth maxDepth : ℕ)
  | totalItemsExceeded (pos : SourcePos) (maxTotalItems : ℕ)
  | itemBytesExceeded (pos : SourcePos) (requiredBytes maxItemBytes : ℕ)
  | listItemsExceeded (pos : SourcePos) (maxListItems : ℕ)
  deriving DecidableEq

/-- `FormatError`: what SML cannot say, and what the encoder cannot write. -/
inductive FormatError where
  | unsupportedType (name : String)
  | nonFiniteFloat (kind : String)
  | depthExceeded (depth maxDepth : ℕ)
  | notEncodable (source : EncodeError)
  deriving DecidableEq

/-- `SmlMessage`: what a text says of a message, its header and its body.  Unlike a Primary it
has a wait bit, and a stream and a function of any kind. -/
structure SmlMessage where
  stream : Secs2.Stream
  function : Secs2.Function
  waitBit : Bool
  body : Option SecsItem

end Sml
end SecsRust
