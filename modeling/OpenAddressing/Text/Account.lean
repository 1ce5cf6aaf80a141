import OpenAddressing.Table.Statistics
import OpenAddressing.Text.Outline

/-!
# How a table describes itself

The outlines of settings, statistics and tables.
-/

namespace OpenAddressing

/-- The outline of a truth value. -/
def Outline.truth (value : Bool) : Outline :=
  .atom (if value then "true" else "false")

/-- The outline of a number. -/
def Outline.number (value : Nat) : Outline :=
  .atom (toString value)

/-- The outline of failure flags. -/
def Flags.outline (flags : Flags) : Outline :=
  .wrapped "ErrorFlags" (.atom flags.summary)

/-- The outline of settings. -/
def Settings.outline (settings : Settings) : Outline :=
  .record "TableConfig"
    (.field "debug" (.truth settings.debug)
      (.field "initial_capacity" (.number settings.initialCapacity)
        (.field "max_capacity" (.number settings.maxCapacity) .done)))

/-- The outline of statistics. -/
def Statistics.outline (statistics : Statistics) : Outline :=
  .record "Stats"
    (.field "probes" (.number statistics.probes.toNat)
      (.field "misses" (.number statistics.misses.toNat)
        (.field "entries" (.number statistics.entries)
          (.field "live_entries" (.number statistics.liveEntries)
            (.field "tombstones" (.number statistics.tombstones)
              (.field "capacity" (.number statistics.capacity)
                (.field "errors" statistics.flags.outline
                  (.field "version" (.number statistics.version) .done))))))))

namespace Table

variable {σ α : Type}

/-- The outline of a table: its settings and its statistics. -/
def outline : Action σ α Outline := do
  let settings ← Action.inspect Table.settings
  let statistics ← statistics
  pure (.record "HashTable"
    (.field "config" settings.outline
      (.field "stats" statistics.outline .andMore)))

end Table
end OpenAddressing
