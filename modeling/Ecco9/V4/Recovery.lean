import Ecco9.V4.Load

/-! # The recovery at the end of a dream cycle

`Rest` sleeps for the fatigue times 60 minutes, held between 5 minutes and 2 hours, and the
`dreamCycle` it launches multiplies the fatigue by one minus the recovery rate times the minutes
slept, floored at 0. -/

namespace Ecco9.V4

open AutonomousConsciousnessV4

/-! ## The rest duration and the recovery -/

namespace CognitiveLoadManager

end CognitiveLoadManager

/-! ## What a step does to the dream cycles -/

end Ecco9.V4
