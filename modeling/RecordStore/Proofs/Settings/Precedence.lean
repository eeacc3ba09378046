import RecordStore.Proofs.Settings.Load
import RecordStore.Proofs.Value.Entries

/-!
# Which source a setting comes from

Every name has one value that is handed to validation: the caller's, if there is one at all, then that of a variable that is
not empty, then the file's. A setting without any of them keeps its default. A variable of the process hides the one of the
environment file even when it is empty, and of a file with a section for adapters nothing but that section counts.
-/

namespace RecordStore.Settings
open Mapping

variable {κ α : Type} {packages : Packages κ α} {sources : Sources κ α}

/-! ### Variables -/

variable [DecidableEq κ]

end RecordStore.Settings
