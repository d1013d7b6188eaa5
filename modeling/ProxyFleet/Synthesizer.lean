import ProxyFleet.Cluster.Status
import ProxyFleet.Counters

/-!
# Synthesizers

A synthesizer runs one pass after another.  When a pass has come to its end, its statuses are
reported one by one, whatever comes of the reports before, and then the pass is counted.  The
counters, if there are any, are all that is left of a pass when the next one starts.

* `Synthesizer.synthesize` : one pass.
* `Synthesizer.run` : a row of passes.
-/

namespace ProxyFleet

/-- What a synthesizer is given for a pass. -/
structure PassInput where
  store : Store
  /-- Where the statuses are reported to. -/
  sink : StatusSink
  cancel : Cancellation
  proxyInstance : InstanceRecord
  records : Records

/-- The pass itself. -/
def PassInput.outcome (p : PassInput) : Outcome :=
  Pass.run p.store p.cancel p.proxyInstance p.records

/-- What came of a pass and of its reports. -/
structure Synthesized where
  outcome : Outcome
  reports : List Reported

/-- What a synthesizer keeps from pass to pass. -/
structure Synthesizer where
  counters : Option Counters

namespace Synthesizer

/-- A synthesizer that counts, and has run no pass yet. -/
def fresh : Synthesizer := ⟨some .zero⟩

/-- Runs a pass. -/
def synthesize (t : Synthesizer) (p : PassInput) : Synthesized × Synthesizer :=
  let o := p.outcome
  let reports := o.statuses.map p.sink
  (⟨o, reports⟩, ⟨t.counters.map (·.record o.result)⟩)

/-- Runs a row of passes. -/
def run (t : Synthesizer) : List PassInput → List Synthesized × Synthesizer
  | [] => ([], t)
  | p :: rest =>
    let (first, t) := t.synthesize p
    let (others, t) := run t rest
    (first :: others, t)

end Synthesizer

end ProxyFleet
