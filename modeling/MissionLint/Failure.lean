import MissionLint.Data.Reader
import MissionLint.Numeral.Fault
import MissionLint.Text.Utf8

namespace MissionLint

/-!
# Failures

Everything that can go wrong, by its cause.  A settings problem and an input
problem carry a code; all other failures are passed on as they are.
-/

/-- Why a file cannot be read or written. -/
inductive FileFault where
  | missing (path : Text)
  | exists (path : Text)
  | notDirectory (path : Text)
  | isDirectory (path : Text)
  | other (code : Nat) (reason path : Text)
  deriving Repr, DecidableEq

namespace FileFault

/-- The number and the name of a fault of the file system. -/
def describe (code : Nat) (reason path : Text) : Text :=
  "[Errno " ++ Text.ofNat code ++ "] " ++ reason ++ ": " ++ Text.quoted path

/-- The wording of a file fault. -/
def message : FileFault → Text
  | .missing path => describe 2 "No such file or directory" path
  | .exists path => describe 17 "File exists" path
  | .notDirectory path => describe 20 "Not a directory" path
  | .isDirectory path => describe 21 "Is a directory" path
  | .other code reason path => describe code reason path

end FileFault

/-- A value does not have the kind that its use needs.  Kinds are given by
name. -/
inductive KindFault where
  | notIterable (kind : Text)
  | notSearchable (kind : Text)
  | notAKey (kind : Text)
  | notOrdered (kind : Text)
  | notText (kind : Text)
  | notAPair (length : Nat)
  | noAttribute (kind name : Text)
  deriving Repr, DecidableEq

namespace KindFault

/-- The wording of a kind fault. -/
def message : KindFault → Text
  | .notIterable kind => "'" ++ kind ++ "' object is not iterable"
  | .notSearchable kind => "argument of type '" ++ kind ++ "' is not iterable"
  | .notAKey kind => "unhashable type: '" ++ kind ++ "'"
  | .notOrdered kind => "'<' not supported between instances of '" ++ kind ++ "' and 'int'"
  | .notText kind => "sequence item 0: expected str instance, " ++ kind ++ " found"
  | .notAPair length =>
      "dictionary update sequence element #0 has length " ++ Text.ofNat length
        ++ "; 2 is required"
  | .noAttribute kind name => "'" ++ kind ++ "' object has no attribute '" ++ name ++ "'"

end KindFault

/-- Why a field of the settings cannot be converted. -/
inductive FieldFault where
  | kind (fault : KindFault)
  | numeral (fault : NumeralFault)
  deriving Repr, DecidableEq

namespace FieldFault

/-- The wording of what is wrong with a field. -/
def message : FieldFault → Text
  | .kind fault => fault.message
  | .numeral fault => fault.message

end FieldFault

/-- A rule that settings break. -/
inductive Violation where
  | negative (field : Text)
  | boundCount
  | boundOrder
  deriving Repr, DecidableEq

namespace Violation

/-- The wording of a broken rule. -/
def message : Violation → Text
  | .negative field => field ++ " must be non-negative"
  | .boundCount => "load_thresholds needs exactly three values"
  | .boundOrder => "load_thresholds must be ascending"

end Violation

/-- Why settings are refused. -/
inductive SettingsProblem where
  | unreadable (path : Text) (fault : FileFault)
  | malformed (path : Text) (fault : Data.Fault)
  | notARecord (path : Text)
  | unknownFields (names : List Text)
  | bounds (fault : FieldFault)
  | stateNames (fault : FieldFault)
  | wrongKind (fault : KindFault)
  | violations (violations : List Violation)
  deriving Repr, DecidableEq

namespace SettingsProblem

/-- The wording of a settings problem. -/
def message : SettingsProblem → Text
  | .unreadable path fault => "cannot read config " ++ path ++ ": " ++ fault.message
  | .malformed path fault => "config " ++ path ++ " is not valid JSON: " ++ fault.message
  | .notARecord path => "config " ++ path ++ " must contain a JSON object"
  | .unknownFields names => "unknown configuration key(s): " ++ Text.join ", " names
  | .bounds fault => "invalid load_thresholds: " ++ fault.message
  | .stateNames fault => "invalid state_names: " ++ fault.message
  | .wrongKind fault => "invalid configuration value: " ++ fault.message
  | .violations broken => Text.join "; " (broken.map Violation.message)

end SettingsProblem

/-- Why a script or a script section is refused. -/
inductive InputProblem where
  | unreadable (path : Text) (fault : FileFault)
  | notUtf8 (path : Text) (fault : Utf8.Fault)
  | malformed (path : Text) (fault : Data.Fault)
  | notARecord
  | variablesNotARecord
  | variableValue (key : Text) (shown : Text)
  | eventsNotAList
  | eventWithoutName (shown : Text)
  | commandWithoutName (event : Text)
  | parametersNotAList (command shown : Text)
  deriving Repr, DecidableEq

namespace InputProblem

/-- The wording of an input problem. -/
def message : InputProblem → Text
  | .unreadable path fault => "cannot read " ++ path ++ ": " ++ fault.message
  | .notUtf8 path fault => path ++ " is not UTF-8 text: " ++ fault.message
  | .malformed path fault => path ++ " is not valid JSON: " ++ fault.message
  | .notARecord => "script section must be a JSON object"
  | .variablesNotARecord => "'variables' must be an object"
  | .variableValue key shown => "variable '" ++ key ++ "' has unsupported value " ++ shown
  | .eventsNotAList => "'events' must be an array"
  | .eventWithoutName shown => "event entry needs a string 'name': " ++ shown
  | .commandWithoutName event => "command in event '" ++ event ++ "' needs a string 'command'"
  | .parametersNotAList command shown =>
      "parameters of '" ++ command ++ "' must be a list: " ++ shown

end InputProblem

/-- Everything that can go wrong.  A declared failure is one that a checker words
itself. -/
inductive Failure where
  | settings (problem : SettingsProblem)
  | input (problem : InputProblem)
  | numeral (fault : NumeralFault)
  | overflow (overflow : RealOverflow)
  | kind (fault : KindFault)
  | document (fault : Data.Fault)
  | encoding (fault : Utf8.Fault)
  | unencodable (lone : Utf8.LoneSurrogates)
  | file (fault : FileFault)
  | noHome
  | nullInPath
  | declared (kind message : Text)
  deriving Repr, DecidableEq

/-- The classes of failures that carry a code. -/
inductive FailureClass where
  | general
  | settings
  | input
  deriving Repr, DecidableEq

namespace FailureClass

/-- The code of a class. -/
def defaultCode : FailureClass → Text
  | .general => "MMS-0000"
  | .settings => "MMS-1001"
  | .input => "MMS-2001"

/-- The code of a failure: the one it is given, or that of its class when it is given
none. -/
def codeFor (kind : FailureClass) (given : Option Text) : Text :=
  match given with
  | none => kind.defaultCode
  | some [] => kind.defaultCode
  | some code => code

end FailureClass

namespace Failure

/-- The failure of a value that cannot be written. -/
def unwritable (limit : DigitLimit) : Failure :=
  .numeral (.tooLong limit)

/-- The class of a failure that carries a code. -/
def class? : Failure → Option FailureClass
  | .settings _ => some .settings
  | .input _ => some .input
  | _ => none

/-- The code of a failure, which is that of its class. -/
def code? (failure : Failure) : Option Text :=
  failure.class?.map fun kind => kind.codeFor none

/-- The wording of a failure, without its code. -/
def bareMessage : Failure → Text
  | .settings problem => problem.message
  | .input problem => problem.message
  | .numeral fault => fault.message
  | .overflow cause => cause.message
  | .kind fault => fault.message
  | .document fault => fault.message
  | .encoding fault => fault.message
  | .unencodable lone => lone.message
  | .file fault => fault.message
  | .noHome => "Could not determine home directory."
  | .nullInPath => "embedded null byte"
  | .declared _ message => message

/-- A message under a code. -/
def coded (code message : Text) : Text :=
  "[" ++ code ++ "] " ++ message

/-- The wording of a failure, after its code when it has one. -/
def message (failure : Failure) : Text :=
  match failure.code? with
  | some code => coded code failure.bareMessage
  | none => failure.bareMessage

end Failure

end MissionLint
