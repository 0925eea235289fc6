import ClusterPool.Text.Quoted
import ClusterPool.Text.Shortest

/-! What can be wrong with a document: it ends too early, its form is broken, or its form is
fine and its content does not fit. Each mistake has one message and one of these three
categories. -/
namespace ClusterPool.Document

/-- The broad kind of a mistake. -/
inductive Category
  | early
  | form
  | content
  deriving DecidableEq, Inhabited

/-- What stood in the document. A fractional number is kept by its 64 bits. -/
inductive Found
  | null
  | flag (value : Bool)
  | whole (value : Int)
  | fraction (bits : UInt64)
  | text (value : String)
  | list
  | object
  deriving DecidableEq, Inhabited

/-- What should have stood there. -/
inductive Wanted
  | text
  | object
  | list
  | bytes
  | null
  | unsigned (width : Nat)
  | signed (width : Nat)
  | record (title : String)
  deriving DecidableEq, Inhabited

/-- What is wrong with a document. -/
inductive Mistake
  | endsInValue
  | endsInText
  | endsInList
  | endsInObject
  | valueExpected
  | wordExpected
  | badNumber
  | numberTooLarge
  | badEscape
  | loneSurrogate
  | cutSurrogate
  | controlCharacter
  | listSeparatorExpected
  | objectSeparatorExpected
  | colonExpected
  | trailingComma
  | keyExpected
  | trailingCharacters
  | wrongType (found : Found) (wanted : Wanted)
  | outOfRange (found : Int) (wanted : Wanted)
  | wrongLength (found : Nat) (title : String)
  | unknownField (name : String) (known : List String)
  | unknownVariant (name : String) (known : List String)
  | duplicateField (name : String)
  | missingField (name : String)
  | durationTooLong
  deriving DecidableEq, Inhabited

def Found.describe : Found → String
  | .null => "null"
  | .flag value => "boolean `" ++ toString value ++ "`"
  | .whole value => "integer `" ++ toString value ++ "`"
  | .fraction bits => "floating point `" ++ Text.Shortest.ofBits bits ++ "`"
  | .text value => "string " ++ Text.quote value
  | .list => "sequence"
  | .object => "map"

def Wanted.describe : Wanted → String
  | .text => "a string"
  | .object => "a map"
  | .list => "a sequence"
  | .bytes => "byte array"
  | .null => "unit"
  | .unsigned width => "u" ++ toString width
  | .signed width => "i" ++ toString width
  | .record title => title

/-- Names between backquotes: two joined by "or", more after "one of". -/
def alternatives (names : List String) : String :=
  match names.map fun name => "`" ++ name ++ "`" with
  | [first, second] => first ++ " or " ++ second
  | quoted => "one of " ++ ", ".intercalate quoted

namespace Mistake

def category : Mistake → Category
  | endsInValue | endsInText | endsInList | endsInObject => .early
  | wrongType .. | outOfRange .. | wrongLength .. | unknownField .. | unknownVariant ..
  | duplicateField .. | missingField .. | durationTooLong => .content
  | _ => .form

def message : Mistake → String
  | endsInValue => "EOF while parsing a value"
  | endsInText => "EOF while parsing a string"
  | endsInList => "EOF while parsing a list"
  | endsInObject => "EOF while parsing an object"
  | valueExpected => "expected value"
  | wordExpected => "expected ident"
  | badNumber => "invalid number"
  | numberTooLarge => "number out of range"
  | badEscape => "invalid escape"
  | loneSurrogate => "lone leading surrogate in hex escape"
  | cutSurrogate => "unexpected end of hex escape"
  | controlCharacter => "control character (\\u0000-\\u001F) found while parsing a string"
  | listSeparatorExpected => "expected `,` or `]`"
  | objectSeparatorExpected => "expected `,` or `\x7d`"
  | colonExpected => "expected `:`"
  | trailingComma => "trailing comma"
  | keyExpected => "key must be a string"
  | trailingCharacters => "trailing characters"
  | wrongType found wanted => "invalid type: " ++ found.describe ++ ", expected " ++ wanted.describe
  | outOfRange found wanted =>
    "invalid value: " ++ (Found.whole found).describe ++ ", expected " ++ wanted.describe
  | wrongLength found title => "invalid length " ++ toString found ++ ", expected " ++ title
  | unknownField name known => "unknown field `" ++ name ++ "`, expected " ++ alternatives known
  | unknownVariant name known =>
    "unknown variant `" ++ name ++ "`, expected " ++ alternatives known
  | duplicateField name => "duplicate field `" ++ name ++ "`"
  | missingField name => "missing field `" ++ name ++ "`"
  | durationTooLong => "overflow deserializing Duration"

end Mistake
end ClusterPool.Document
