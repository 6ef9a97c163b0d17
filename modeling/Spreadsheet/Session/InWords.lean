import Spreadsheet.Session.Basic
import Spreadsheet.Sheet.InWords

namespace Spreadsheet.Session

def editLineInWords (s : Session) (name : String) (edit : LineEdit) :
    ExceptT (Halt GridError) Option (Session × RecalcStats) := do
  let sheet ← ExceptT.mk (some (Attempt.ofExcept (s.sheet name)))
  let description ← edit.describeInWords
  let edited ← (sheet.editLineInWords edit).adapt Halt.fault
  let (sheet', stats) ← ExceptT.mk ((edited.recalcAllInWords false).map Attempt.ofOption)
  let step := sheet.recordMatrix description
  return ({ s.replace name sheet' with history := s.history.push step }, stats)

end Spreadsheet.Session
