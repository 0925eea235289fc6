import ClusterPool.Document.Reader

/-! Passing over a value whose content does not matter, however deep it is. Only its form is
checked, with the open lists and objects on a stack. -/
namespace ClusterPool.Document

/-- A list or an object that is still open. -/
inductive Frame
  | list
  | object
  deriving DecidableEq

namespace Frame

def closing : Frame → Char
  | list => ']'
  | object => '}'

def early : Frame → Mistake
  | list => .endsInList
  | object => .endsInObject

def separatorExpected : Frame → Mistake
  | list => .listSeparatorExpected
  | object => .objectSeparatorExpected

/-- What comes before a value inside the frame: nothing in a list, a key and a colon in an
object. -/
def enter (frame : Frame) (text : List Char) : Except Mistake (List Char) :=
  match frame with
  | list => .ok text
  | object =>
    match dropGaps text with
    | [] => .error .endsInObject
    | '"' :: rest => do
      let (_, rest) ← scanText .skipped .plain [] rest
      match dropGaps rest with
      | [] => .error .endsInObject
      | ':' :: rest => return rest
      | _ => .error .colonExpected
    | _ => .error .keyExpected

end Frame

/-- A value that is no list and no object, from its first character on. -/
def skipScalar (text : List Char) : Except Mistake (List Char) :=
  match text with
  | 'n' :: rest => readWord ['u', 'l', 'l'] rest
  | 't' :: rest => readWord ['r', 'u', 'e'] rest
  | 'f' :: rest => readWord ['a', 'l', 's', 'e'] rest
  | '"' :: rest => (scanText .skipped .plain [] rest).map (·.2)
  | '-' :: rest => skipNumeral rest
  | rest => if startsWithDigit rest then skipNumeral rest else .error .valueExpected

/-- Where a skip stands: before a value, or behind what a comma may follow or not. -/
inductive SkipPoint
  | value
  | behind (comma : Bool)

/-- Skips to the end of the outermost value. The innermost open frame comes first. -/
def skipFrom : Nat → SkipPoint → List Frame → List Char → Except Mistake (List Char)
  | 0, _, _, _ => .error .endsInValue
  | turns + 1, .value, frames, text =>
    match dropGaps text with
    | [] => .error .endsInValue
    | '[' :: rest => skipFrom turns (.behind false) (.list :: frames) rest
    | '{' :: rest => skipFrom turns (.behind false) (.object :: frames) rest
    | rest => do skipFrom turns (.behind true) frames (← skipScalar rest)
  | _ + 1, .behind _, [], text => .ok text
  | turns + 1, .behind comma, frame :: outer, text =>
    match dropGaps text with
    | [] => .error frame.early
    | c :: rest =>
      if c = frame.closing then skipFrom turns (.behind true) outer rest
      else if comma then
        if c = ',' then do skipFrom turns .value (frame :: outer) (← frame.enter rest)
        else .error frame.separatorExpected
      else do skipFrom turns .value (frame :: outer) (← frame.enter (c :: rest))

/-- Passes over one value of at most so many characters. Each of them takes two turns at most. -/
def Reader.skip (characters : Nat) : Reader Unit := fun text => do
  return ((), ← skipFrom (2 * characters + 2) .value [] text)

end ClusterPool.Document
