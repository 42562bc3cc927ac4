import Bindery.Pass
import Bindery.Sizing.Pairs
import Bindery.Sizing.Parameters
import Bindery.Sizing.Returns

/-!
# Sizing buffers

All rules for buffers in the order in which they compete for the same companions: what is returned
comes before what is passed, and a configured keyword before an adjacent length.
-/

namespace Bindery.Sizing

def passes (settings : Settings) : List Pass :=
  [ resolveReturns settings,
    resolveFilledBuffers settings,
    Pass.ofTotal (resolveSetters settings),
    Pass.ofTotal (resolveOverrides settings),
    Pass.ofTotal (pairParameters settings),
    Pass.ofTotal (resolveResiduals settings) ]

def resolveBuffers (settings : Settings) : Pass :=
  Pass.run (passes settings)

end Bindery.Sizing
