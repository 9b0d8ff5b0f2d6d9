import QaRunner.Domain.MultiShardPlan
import QaRunner.Lib.LongestFirst

/-! The durations of the shards of one profile: what the planner accumulates, and how far the
longest can be from the best possible. -/
namespace QaRunner
open ListScheduling

variable {items : List ManifestItem} {n : ℕ} {allowed : ℤ}

namespace TimedGroups
open IdleGroups

end TimedGroups

end QaRunner
