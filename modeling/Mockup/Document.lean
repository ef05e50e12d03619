import Mockup.Block

/-!
# Documents

What reading a sketch results in: its blocks, and the messages about lines that were refused.
-/

namespace Mockup

/-- A read document. The messages are absent when nothing was refused. -/
structure Document where
  blocks : List Block
  errors : Option (List Text)
  deriving DecidableEq

end Mockup
