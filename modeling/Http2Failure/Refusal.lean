import Http2Failure.Text.Template
import Http2Failure.Text.Written

/-!
# Refusals

Why an operation did not produce a value. Each cause keeps the data of its message, and belongs
to one category; values in messages appear in their written form.
-/

namespace Http2Failure

inductive Refusal where
  | unbound (name : String)
  | reasonNotInteger
  | reasonOutOfRange (code : Int)
  | streamIdNotInteger
  | streamIdOutOfRange (value : Int)
  | noSuccessor (shown : String)
  | debugDataNotBytes
  /-- No member of an enumeration has the key. -/
  | noMember (key : String)
  /-- No member of an enumeration has the value. -/
  | noMemberWith (value enumeration : String)
  | unsupportedKind (type : String)
  | notConvertible (type : String)
  | unreachable (value : String)
  | kindIsFixed
  /-- The name of the field is given in its quoted form. -/
  | frozenField (shown : String)
  | frozenDeletion (shown : String)
  | fixedMember (name : String)
  | fixedMemberDeletion (name : String)
  | noAttribute (type name : String)
  | noClassAttribute (type name : String)
  | charactersWrittenUnset
  | notAnIndex (type : String)
  | indexTooLarge (type : String)
  | noteNotText (type : String)
  | notesNotList
  | causeNotException
  | raisedFromNonException
  | raisedNonException
  | contextNotException
  | notATruthValue
  | notATraceback
  | notDeletable (name : String)
  | flagNotDeletable
  | notAClass (type : String)
  /-- Values of a class of errors and those of the other type differ in what they hold. -/
  | layoutDiffers (cls type : String)
  | classIsFixed
  | classNotDeletable
  | notADictionary (type : String)
  | dictionaryNotDeletable
  | notIterable (type : String)
  | notCallable (type : String)
  | attributeNameNotText (type : String)
  | unhashable (type : String)
  | writableViewUnhashable
  | unordered (relation left right : String)
  /-- A held value that is no whole number, where one is needed. -/
  | notWhole (type : String)
  | notHexadecimal (type : String)
  | notFormattable (type : String)
  | notAddable (type : String)
  | notJoinable (type : String)
  | notAppendable (type : String)
  | notDivisible (type : String)
  /-- A held text or byte string is a template, and does not take the number. -/
  | template (flaw : Text.Template.Flaw)
  | notAFault (type : String)
  | viewNotCopyable
  | notByteLike (type : String)
  | noItemAssignment (type : String)
  | indexNotWhole (sequence type : String)
  | indexTooWide (type : String)
  | viewKey
  | notAWholeInView
  /-- What was given out for the parts of an exception has no items. -/
  | partsNotIterable (type : String)
  | partsNotStorable
  /-- The null value has taken away all methods by which a value is copied. -/
  | notCopyable (deep : Bool) (cls : String)
  | argumentsNotIterable (callee type : String)
  | partsOfOtherLength
  | makerNotCallable
  | argumentsNotTuple
  | notAnIterator (place type : String)
  | setterNotCallable (type : String)
  | stateNotDictionary
  /-- What is read back is refused, not what was stored. -/
  | storedStateNotDictionary
  | storedSlotsNotDictionary
  | entryNotSequence (place : Nat)
  | entryOfOtherLength (place length : Nat)
  | notUnpackable (type : String)
  | tooFewToUnpack (given : Nat)
  | tooManyToUnpack
  /-- What stands for the value of a member is no text. -/
  | textIsNone (type : String)
  /-- A text was given out for the parts of an exception, and names no constant of the module. -/
  | nameNotStorable (shown name module : String)
  | readOnlyMemory
  | bufferIndex
  | viewIndex
  | listIndex
  | notAByte
  | notAByteInView
  /-- There is nothing in the sequence to be taken out. -/
  | nothingToTake (type : String)
  /-- A place to take an item from is outside the sequence. -/
  | nothingTaken
  | notInList
  | noPlaceInList (shown : String)
  | notInBuffer
  | placeTooLarge
  | countTooLarge (type : String)
  | negativeCount
  | notExtending (type : String)
  | notBufferable (type : String)
  | noEncoding
  /-- A buffer that a view looks at keeps its length. -/
  | viewed
  | releasedView
  | notSliceable (type : String)
  | outOfMemory
  | missingArguments (function : String) (names : List String)
  | extraArguments (function expected : String) (given : Nat)
  | exactlyOneArgument (function : String) (given : Nat)
  | otherArguments (expected given : Nat)
  | atMostOneArgument (function : String) (given : Nat)
  | notANumeral (text : String)
  | numeralTooLong (digits : Nat)
  /-- The value reaches itself without a break, or is nested too deep. -/
  | endless
  | endlessInspection
  | endlessPlainForm
  | endlessQuotedForm
  /-- A reference outside the store, or to an object of another sort than its holder needs. -/
  | dangling
deriving DecidableEq

namespace Refusal

inductive Category where
  | unbound
  | wrongType
  | wrongValue
  | missingAttribute
  | frozen
  | missingKey
  | overflow
  | unreachable
  | index
  | recursion
  | notStorable
  | notReadable
  | notCopyable
  | missingReference
  | memory
  | viewed
deriving DecidableEq

def templateCategory : Text.Template.Flaw → Category
  | .needsMapping | .tooFewArguments | .unusedArgument _ | .needsBytes => .wrongType
  | .incomplete | .widthTooBig | .precisionTooBig _ | .unsupported .. => .wrongValue
  | .precisionTooLarge | .notACharacter => .overflow
  | .tooWide => .memory

def category : Refusal → Category
  | .unbound _ => .unbound
  | .reasonNotInteger | .reasonOutOfRange _ | .streamIdNotInteger | .streamIdOutOfRange _
  | .debugDataNotBytes | .noMemberWith .. | .indexTooLarge _ | .writableViewUnhashable
  | .notAByte | .notAByteInView | .notANumeral _ | .numeralTooLong _ | .notHexadecimal _
  | .notInList | .noPlaceInList _ | .notInBuffer | .negativeCount | .releasedView
  | .entryOfOtherLength .. | .tooFewToUnpack _ | .tooManyToUnpack => .wrongValue
  | .noSuccessor _ | .placeTooLarge | .countTooLarge _ => .overflow
  | .noMember _ => .missingKey
  | .unreachable _ => .unreachable
  | .kindIsFixed | .noAttribute .. | .noClassAttribute .. | .charactersWrittenUnset
  | .fixedMember _ | .fixedMemberDeletion _ => .missingAttribute
  | .frozenField _ | .frozenDeletion _ => .frozen
  | .bufferIndex | .viewIndex | .listIndex | .indexTooWide _ | .nothingToTake _
  | .nothingTaken => .index
  | .viewed => .viewed
  | .outOfMemory => .memory
  | .endless | .endlessInspection | .endlessPlainForm | .endlessQuotedForm => .recursion
  | .partsNotStorable | .nameNotStorable .. | .partsOfOtherLength | .makerNotCallable
  | .argumentsNotTuple | .notAnIterator .. | .setterNotCallable _ => .notStorable
  | .storedStateNotDictionary | .storedSlotsNotDictionary => .notReadable
  | .notCopyable .. => .notCopyable
  | .dangling => .missingReference
  | .template flaw => templateCategory flaw
  | .unsupportedKind _ | .notConvertible _ | .notAnIndex _ | .noteNotText _ | .notesNotList
  | .causeNotException | .raisedFromNonException | .raisedNonException | .contextNotException
  | .notATruthValue | .notATraceback | .notDeletable _ | .flagNotDeletable | .notAClass _
  | .layoutDiffers .. | .classIsFixed | .classNotDeletable | .notADictionary _
  | .dictionaryNotDeletable | .notIterable _
  | .notCallable _ | .attributeNameNotText _ | .unhashable _ | .unordered .. | .notAFault _
  | .viewNotCopyable | .notByteLike _ | .noItemAssignment _ | .indexNotWhole .. | .viewKey
  | .notAWholeInView | .readOnlyMemory
  | .notWhole _ | .notFormattable _ | .notAddable _ | .notJoinable _ | .notAppendable _
  | .notDivisible _ | .partsNotIterable _ | .notExtending _ | .notBufferable _ | .noEncoding
  | .notSliceable _ | .argumentsNotIterable .. | .stateNotDictionary | .entryNotSequence _
  | .notUnpackable _ | .textIsNone _
  | .missingArguments .. | .extraArguments .. | .exactlyOneArgument .. | .otherArguments ..
  | .atMostOneArgument .. => .wrongType

@[simp] theorem category_kindIsFixed : kindIsFixed.category = .missingAttribute := rfl

@[simp] theorem category_unsupportedKind (type : String) :
    (unsupportedKind type).category = .wrongType := rfl

@[simp] theorem category_frozenField (shown : String) :
    (frozenField shown).category = .frozen := rfl

@[simp] theorem category_frozenDeletion (shown : String) :
    (frozenDeletion shown).category = .frozen := rfl

/-- A written value of an unreachable case is cut to its first hundred characters. -/
def abridged (value : String) : String :=
  if 100 < value.length then String.ofList (value.toList.take 100) ++ "..." else value

/-- Names in quotes, the last one joined by a conjunction. -/
def enumerated (names : List String) : String :=
  let names := names.map fun n => "'" ++ n ++ "'"
  match names with
  | [] => ""
  | [a] => a
  | [a, b] => a ++ " and " ++ b
  | _ => ", ".intercalate names.dropLast ++ ", and " ++ names.getLastD ""

def message : Refusal → String
  | .unbound name => name
  | .reasonNotInteger => "reason code must be int"
  | .reasonOutOfRange code => "reason code out of range: " ++ Text.integer code
  | .streamIdNotInteger => "stream id must be int"
  | .streamIdOutOfRange value => "stream id out of range: " ++ Text.integer value
  | .noSuccessor shown => "stream id " ++ shown ++ " has no successor"
  | .debugDataNotBytes => "debug_data must be bytes"
  | .noMember key => key
  | .noMemberWith value enumeration => value ++ " is not a valid " ++ enumeration
  | .unsupportedKind type => "unsupported error kind: " ++ type
  | .notConvertible type => "cannot convert " ++ type ++ " to Error"
  | .unreachable value => "Expected code to be unreachable, but got: " ++ abridged value
  | .kindIsFixed => "Error is immutable"
  | .frozenField shown => "cannot assign to field " ++ shown
  | .frozenDeletion shown => "cannot delete field " ++ shown
  | .fixedMember name => "<enum 'Enum'> cannot set attribute '" ++ name ++ "'"
  | .fixedMemberDeletion name => "<enum 'Enum'> cannot delete attribute '" ++ name ++ "'"
  | .noAttribute type name => "'" ++ type ++ "' object has no attribute '" ++ name ++ "'"
  | .noClassAttribute type name => "type object '" ++ type ++ "' has no attribute '" ++ name ++ "'"
  | .charactersWrittenUnset => "characters_written"
  | .notAnIndex type => "'" ++ type ++ "' object cannot be interpreted as an integer"
  | .indexTooLarge type => "cannot fit '" ++ type ++ "' into an index-sized integer"
  | .noteNotText type => "note must be a str, not '" ++ type ++ "'"
  | .notesNotList => "Cannot add note: __notes__ is not a list"
  | .causeNotException => "exception cause must be None or derive from BaseException"
  | .raisedFromNonException => "exception causes must derive from BaseException"
  | .raisedNonException => "exceptions must derive from BaseException"
  | .contextNotException => "exception context must be None or derive from BaseException"
  | .notATruthValue => "attribute value type must be bool"
  | .notATraceback => "__traceback__ must be a traceback or None"
  | .notDeletable name => name ++ " may not be deleted"
  | .flagNotDeletable => "can't delete numeric/char attribute"
  | .notAClass type => "__class__ must be set to a class, not '" ++ type ++ "' object"
  | .layoutDiffers cls type =>
    "__class__ assignment: '" ++ cls ++ "' object layout differs from '" ++ type ++ "'"
  | .classIsFixed =>
    "__class__ assignment only supported for mutable types or ModuleType subclasses"
  | .classNotDeletable => "can't delete __class__ attribute"
  | .notADictionary type => "__dict__ must be set to a dictionary, not a '" ++ type ++ "'"
  | .dictionaryNotDeletable => "cannot delete __dict__"
  | .notIterable type => "'" ++ type ++ "' object is not iterable"
  | .notCallable type => "'" ++ type ++ "' object is not callable"
  | .attributeNameNotText type => "attribute name must be string, not '" ++ type ++ "'"
  | .unhashable type => "unhashable type: '" ++ type ++ "'"
  | .writableViewUnhashable => "cannot hash writable memoryview object"
  | .unordered relation left right =>
    "'" ++ relation ++ "' not supported between instances of '" ++ left ++ "' and '" ++ right ++ "'"
  | .notWhole type => "__int__ returned non-int (type " ++ type ++ ")"
  | .notHexadecimal type => "Unknown format code 'x' for object of type '" ++ type ++ "'"
  | .notFormattable type => "unsupported format string passed to " ++ type ++ ".__format__"
  | .notAddable type => "unsupported operand type(s) for +: '" ++ type ++ "' and 'int'"
  | .notJoinable type => "can only concatenate " ++ type ++ " (not \"int\") to " ++ type
  | .notAppendable type => "can't concat int to " ++ type
  | .notDivisible type => "unsupported operand type(s) for %: '" ++ type ++ "' and 'int'"
  | .template flaw => flaw.message
  | .notAFault type =>
    "OSError.__new__(" ++ type ++ "): " ++ type ++ " is not a subtype of OSError"
  | .viewNotCopyable => "cannot pickle memoryview objects"
  | .notByteLike type => "memoryview: a bytes-like object is required, not '" ++ type ++ "'"
  | .noItemAssignment type => "'" ++ type ++ "' object does not support item assignment"
  | .indexNotWhole sequence type =>
    sequence ++ " indices must be integers or slices, not " ++ type
  | .indexTooWide type => "cannot fit '" ++ type ++ "' into an index-sized integer"
  | .viewKey => "memoryview: invalid slice key"
  | .notAWholeInView => "memoryview: invalid type for format 'B'"
  | .partsNotIterable type => "Value after * must be an iterable, not " ++ type
  | .partsNotStorable => "__reduce__ must return a string or tuple"
  | .nameNotStorable shown name module =>
    "Can't pickle " ++ shown ++ ": attribute lookup " ++ name ++ " on " ++ module ++ " failed"
  | .notCopyable deep cls =>
    "un(" ++ (if deep then "deep" else "shallow") ++ ")copyable object of type " ++ cls
  | .argumentsNotIterable callee type =>
    callee ++ " argument after * must be an iterable, not " ++ type
  | .partsOfOtherLength => "tuple returned by __reduce__ must contain 2 through 6 elements"
  | .makerNotCallable => "first item of the tuple returned by __reduce__ must be callable"
  | .argumentsNotTuple => "second item of the tuple returned by __reduce__ must be a tuple"
  | .notAnIterator place type =>
    place ++ " element of the tuple returned by __reduce__ must be an iterator, not " ++ type
  | .setterNotCallable type =>
    "sixth element of the tuple returned by __reduce__ must be a function, not " ++ type
  | .stateNotDictionary | .storedStateNotDictionary => "state is not a dictionary"
  | .storedSlotsNotDictionary => "slot state is not a dictionary"
  | .entryNotSequence place =>
    "cannot convert dictionary update sequence element #" ++ Text.decimal place ++ " to a sequence"
  | .entryOfOtherLength place length =>
    "dictionary update sequence element #" ++ Text.decimal place ++ " has length " ++
      Text.decimal length ++ "; 2 is required"
  | .notUnpackable type => "cannot unpack non-iterable " ++ type ++ " object"
  | .tooFewToUnpack given =>
    "not enough values to unpack (expected 2, got " ++ Text.decimal given ++ ")"
  | .tooManyToUnpack => "too many values to unpack (expected 2)"
  | .textIsNone type => "__str__ returned non-string (type " ++ type ++ ")"
  | .readOnlyMemory => "cannot modify read-only memory"
  | .bufferIndex => "bytearray index out of range"
  | .viewIndex => "index out of bounds on dimension 1"
  | .listIndex => "list assignment index out of range"
  | .notAByte => "byte must be in range(0, 256)"
  | .notAByteInView => "memoryview: invalid value for format 'B'"
  | .nothingToTake type => "pop from empty " ++ type
  | .nothingTaken => "pop index out of range"
  | .notInList => "list.remove(x): x not in list"
  | .noPlaceInList shown => shown ++ " is not in list"
  | .notInBuffer => "value not found in bytearray"
  | .placeTooLarge => "Python int too large to convert to C ssize_t"
  | .countTooLarge type => "cannot fit '" ++ type ++ "' into an index-sized integer"
  | .negativeCount => "negative count"
  | .notExtending type => "can't extend bytearray with " ++ type
  | .notBufferable type => "cannot convert '" ++ type ++ "' object to bytearray"
  | .noEncoding => "string argument without an encoding"
  | .viewed => "Existing exports of data: object cannot be re-sized"
  | .releasedView => "operation forbidden on released memoryview object"
  | .notSliceable type => "can't set bytearray slice from " ++ type
  | .outOfMemory => ""
  | .missingArguments function names =>
    function ++ "() missing " ++ Text.decimal names.length ++ " required positional argument" ++
      (if names.length = 1 then "" else "s") ++ ": " ++ enumerated names
  | .extraArguments function expected given =>
    function ++ "() takes " ++ expected ++ " but " ++ Text.decimal given ++
      (if given = 1 then " was given" else " were given")
  | .exactlyOneArgument function given =>
    function ++ "() takes exactly one argument (" ++ Text.decimal given ++ " given)"
  | .otherArguments expected given =>
    "expected " ++ Text.decimal expected ++ " argument" ++ (if expected = 1 then "" else "s") ++
      ", got " ++ Text.decimal given
  | .atMostOneArgument function given =>
    function ++ " expected at most 1 argument, got " ++ Text.decimal given
  | .notANumeral text => "invalid literal for int() with base 10: " ++ Text.quoted text
  | .numeralTooLong digits =>
    "Exceeds the limit (4300 digits) for integer string conversion: value has " ++
      Text.decimal digits ++ " digits; use sys.set_int_max_str_digits() to increase the limit"
  | .endless => "maximum recursion depth exceeded"
  | .endlessInspection => "maximum recursion depth exceeded in __instancecheck__"
  | .endlessPlainForm => "maximum recursion depth exceeded while getting the str of an object"
  | .endlessQuotedForm => "maximum recursion depth exceeded while getting the repr of an object"
  | .dangling => "dangling reference"

end Refusal

end Http2Failure
