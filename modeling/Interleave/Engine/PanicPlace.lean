import Interleave.Text.Split

/-!
# Where a panic was raised

A panic is the scheduler's own if it was raised in a source file of the scheduler's runtime. Parts of the file's
path stand between slashes of either kind.
-/

namespace Interleave

open Text

/-- What the directory of the scheduler's sources starts with; a version may follow. -/
def schedulerDirectory : String := "loom"

/-- Whether a file stands right in the directory `src/rt` of the scheduler. -/
def raisedByScheduler (file : String) : Bool :=
  match (splitAll (fun c => c == '/' || c == '\\') file.toList).reverse with
  | _ :: runtime :: sources :: root :: _ =>
    runtime == "rt".toList && sources == "src".toList && schedulerDirectory.toList.isPrefixOf root
  | _ => false

end Interleave
