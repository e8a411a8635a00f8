import Stencil.CommandLine.DataText
import Stencil.CommandLine.Values
import Stencil.Yaml.Read

/-! A loader of data files: the documents of `Yaml` in the bytes of a file. -/

namespace Stencil.CommandLine

def changeableMessage : Yaml.Changeable → String
  | .list => "unhashable type: 'list'"
  | .mapping => "unhashable type: 'dict'"

/-- Codes are looked up below this bound; none of those from 0x110000 on has a character. -/
def codeBound : Nat := 0x80000000

/-- What is told of a file that holds no value. -/
def faultLoading : Yaml.Fault → Loading
  | .malformed => .malformed ""
  | .cut => .malformed ""
  | .numberTooLong digits => .unusable (Failure.numberTooLong digits).message
  | .unwritable => .unusable unwritableMessage
  | .noDigits base =>
    .unusable ("invalid literal for int() with base " ++ naturalText base ++ ": ''")
  | .noNumber text => .unusable ("could not convert string to float: " ++ Text.quoted text)
  | .calendar .beyondEnd => .breaks .overflow CalendarError.beyondEnd.message
  | .calendar error => .unusable error.message
  | .noCharacter code =>
    if code < codeBound then .unusable "chr() arg not in range(0x110000)"
    else .breaks .overflow "Python int too large to convert to C int"
  | .changeableKey part => .breaks .kind (changeableMessage part)

/-- The value that the bytes of a data file hold. What is wrong with the bytes shows only if the
document is read up to there. -/
def loadYaml (bytes : List UInt8) : Loading :=
  let data := DataText.ofBytes bytes
  match Yaml.load data.isWhole data.text, data.error with
  | .error .cut, some error => .unusable error.message
  | .error fault, _ => faultLoading fault
  | .ok value, _ => .value value

end Stencil.CommandLine
