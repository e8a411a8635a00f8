import Stencil.CommandLine.Command

/-! How two command lines are read that differ in the name of the command only. Words in front of the
name are options of the program, and the words behind it are read alike for both commands on jobs. -/

namespace Stencil.CommandLine

end Stencil.CommandLine
