import Stencil.Proofs.Evaluation.Basic
import Stencil.Report

/-! Reports tell how rendering ends. A report has the lines of a rendering without failure, describes the
template error of one with such an error, and is not made where anything else goes wrong. -/

namespace Stencil

/-! ### What a report says -/

namespace Report

def lines : Report → List String
  | success lines => lines
  | failure _ => []

end Report

section

variable {self : Evaluator} {text : String} {data : Data}

variable {outcome : Except Failure (List String)}

end

/-! ### Lines in front of a failure -/

namespace Evaluator

variable (self : Evaluator) (source : Source)

end Evaluator

section

variable {self : Evaluator} {text : String} {data : Data}

end

end Stencil
