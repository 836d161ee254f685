import ModalEdit.Error

/-!
What can go wrong in command lines and in expressions.
-/

set_option autoImplicit false

namespace ModalEdit

/-- The types of script values. -/
inductive ValueType where
  | number
  | string
  | funcref
  | list
  | dict
  | float
  | blob
deriving DecidableEq, Inhabited

/-- A failed command line or expression. -/
inductive ScriptError where
  | notAnEditorCommand (line : String)
  | ambiguousCommand (name : String)
  | trailingCharacters (text : String)
  | invalidRange
  | markNotSet
  | positiveCountRequired
  | numberExpected
  | digraphTwoChars (text : String)
  | invalidArgument
  | argumentRequired
  | functionNameRequired
  | illegalVariableName (name : String)
  | invalidExpression (text : String)
  | missingDoubleQuote (text : String)
  | missingSingleQuote (text : String)
  | missingParen
  | missingBracket
  | missingListEnd (text : String)
  | missingDictEnd (text : String)
  | missingDictColon (text : String)
  | oddBlobLiteral
  /-- A value of a type that no number can be read from. -/
  | usedAsNumber (type : ValueType)
  /-- A value of a type that has no text of its own. -/
  | usedAsString (type : ValueType)
  | floatModulo
  | compareListWithOther
  | listOperation
  | compareDictWithOther
  | dictOperation
  | funcrefOperation
  | blobOperation
  | wrongVariableType (operator : String)
  | listRequired
  | dictRequired
  | containerRequired (function : String)
  | numberOrFloatRequired
  | invalidLenType
  | listIndexOutOfRange (index : Int64)
  | keyNotPresent (key : String)
  | cannotIndex
  | blobIndexOutOfRange (index : Int64)
  | undefinedVariable (name : String)
  | noSuchVariable (name : String)
  | readOnlyVariable (name : String)
  | unknownFunction (name : String)
  | unknownFuncref (name : String)
  | tooManyArguments (function : String)
  | notEnoughArguments (function : String)
  | strideIsZero
  | startPastEnd
  | invalidPattern (pattern : String)
  | editor (error : EditorError)
deriving DecidableEq, Inhabited

namespace ScriptError

/-- The number of the error, when it has one. -/
def code? : ScriptError → Option String
  | notAnEditorCommand _ => some "E492"
  | ambiguousCommand _ => some "E464"
  | trailingCharacters _ => some "E488"
  | invalidRange => some "E16"
  | markNotSet => some "E20"
  | positiveCountRequired => some "E939"
  | numberExpected => some "E39"
  | digraphTwoChars _ => some "E1214"
  | invalidArgument => some "E474"
  | argumentRequired => some "E471"
  | functionNameRequired => some "E129"
  | illegalVariableName _ => some "E461"
  | invalidExpression _ => some "E15"
  | missingDoubleQuote _ => some "E114"
  | missingSingleQuote _ => some "E115"
  | missingParen => some "E110"
  | missingBracket => some "E111"
  | missingListEnd _ => some "E697"
  | missingDictEnd _ => some "E723"
  | missingDictColon _ => some "E720"
  | oddBlobLiteral => some "E973"
  | usedAsNumber .list => some "E745"
  | usedAsNumber .dict => some "E728"
  | usedAsNumber .funcref => some "E703"
  | usedAsNumber .blob => some "E974"
  | usedAsNumber _ => some "E805"
  | usedAsString .list => some "E730"
  | usedAsString .dict => some "E731"
  | usedAsString .funcref => some "E729"
  | usedAsString .blob => some "E976"
  | usedAsString _ => some "E806"
  | floatModulo => some "E804"
  | compareListWithOther => some "E691"
  | listOperation => some "E692"
  | compareDictWithOther => some "E735"
  | dictOperation => some "E736"
  | funcrefOperation => some "E694"
  | blobOperation => some "E978"
  | wrongVariableType _ => some "E734"
  | listRequired => some "E714"
  | dictRequired => some "E715"
  | containerRequired _ => some "E896"
  | numberOrFloatRequired => some "E808"
  | invalidLenType => some "E701"
  | listIndexOutOfRange _ => some "E684"
  | keyNotPresent _ => some "E716"
  | cannotIndex => some "E689"
  | blobIndexOutOfRange _ => some "E979"
  | undefinedVariable _ => some "E121"
  | noSuchVariable _ => some "E108"
  | readOnlyVariable _ => some "E46"
  | unknownFunction _ => some "E117"
  | unknownFuncref _ => some "E700"
  | tooManyArguments _ => some "E118"
  | notEnoughArguments _ => some "E119"
  | strideIsZero => some "E726"
  | startPastEnd => some "E727"
  | invalidPattern _ => some "E383"
  | editor error => error.code?

/-- What the error says after its number. -/
def detail : ScriptError → String
  | notAnEditorCommand line => s!"Not an editor command: {line}"
  | ambiguousCommand name => s!"Ambiguous use of user-defined command: {name}"
  | trailingCharacters text => s!"Trailing characters: {text}"
  | invalidRange => "Invalid range"
  | markNotSet => "Mark not set"
  | positiveCountRequired => "Positive count required"
  | numberExpected => "Number expected"
  | digraphTwoChars text => s!"Digraph must be just two characters: {text}"
  | invalidArgument => "Invalid argument"
  | argumentRequired => "Argument required"
  | functionNameRequired => "Function name required"
  | illegalVariableName name => s!"Illegal variable name: {name}"
  | invalidExpression text => s!"Invalid expression: \"{text}\""
  | missingDoubleQuote text => s!"Missing double quote: {text}"
  | missingSingleQuote text => s!"Missing single quote: {text}"
  | missingParen => "Missing ')'"
  | missingBracket => "Missing ']'"
  | missingListEnd text => s!"Missing end of List ']': {text}"
  | missingDictEnd text => s!"Missing end of Dictionary '\x7d': {text}"
  | missingDictColon text => s!"Missing colon in Dictionary: {text}"
  | oddBlobLiteral => "Blob literal should have an even number of hex characters"
  | usedAsNumber .list => "Using a List as a Number"
  | usedAsNumber .dict => "Using a Dictionary as a Number"
  | usedAsNumber .funcref => "Using a Funcref as a Number"
  | usedAsNumber .blob => "Using a Blob as a Number"
  | usedAsNumber _ => "Using a Float as a Number"
  | usedAsString .list => "Using List as a String"
  | usedAsString .dict => "Using a Dictionary as a String"
  | usedAsString .funcref => "Using a Funcref as a String"
  | usedAsString .blob => "Using a Blob as a String"
  | usedAsString _ => "Using a Float as a String"
  | floatModulo => "Cannot use '%' with Float"
  | compareListWithOther => "Can only compare List with List"
  | listOperation => "Invalid operation for List"
  | compareDictWithOther => "Can only compare Dictionary with Dictionary"
  | dictOperation => "Invalid operation for Dictionary"
  | funcrefOperation => "Invalid operation for Funcrefs"
  | blobOperation => "Invalid operation for Blob"
  | wrongVariableType operator => s!"Wrong variable type for {operator}="
  | listRequired => "List required"
  | dictRequired => "Dictionary required"
  | containerRequired function => s!"Argument of {function} must be a List, Dictionary or Blob"
  | numberOrFloatRequired => "Number or Float required"
  | invalidLenType => "Invalid type for len()"
  | listIndexOutOfRange index => s!"List index out of range: {index}"
  | keyNotPresent key => s!"Key not present in Dictionary: \"{key}\""
  | cannotIndex => "Can only index a List, Dictionary or Blob"
  | blobIndexOutOfRange index => s!"Blob index out of range: {index}"
  | undefinedVariable name => s!"Undefined variable: {name}"
  | noSuchVariable name => s!"No such variable: \"{name}\""
  | readOnlyVariable name => s!"Cannot change read-only variable \"{name}\""
  | unknownFunction name => s!"Unknown function: {name}"
  | unknownFuncref name => s!"Unknown function: {name}"
  | tooManyArguments function => s!"Too many arguments for function: {function}"
  | notEnoughArguments function => s!"Not enough arguments for function: {function}"
  | strideIsZero => "Stride is zero"
  | startPastEnd => "Start past end"
  | invalidPattern pattern => s!"Invalid search string: {pattern}"
  | editor error => error.detail

/-- The whole message, number first. -/
def message (error : ScriptError) : String :=
  match error.code? with
  | some code => s!"{code}: {error.detail}"
  | none => error.detail

end ScriptError

end ModalEdit
