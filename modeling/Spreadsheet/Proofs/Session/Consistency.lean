import Spreadsheet.Proofs.Session.Truthfulness
import Spreadsheet.Proofs.Sheet.Standing

namespace Spreadsheet

namespace Session

end Session

end Spreadsheet
