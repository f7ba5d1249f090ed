import CommandLink.Connection.Status

/-!
# Plans of connections

A plan gathers what a connection is to be built with. A transport is
needed; without an initializer the connection is set up by a handshake that
offers the plan's compressors.
-/

namespace CommandLink

/-- What a connection is to be built with. -/
structure ConnectionPlan (σ : Type) where
  server : Server
  transport : Option (Transport σ) := none
  packing : Packing := .plain
  compressors : List CompressorChoice := []
  listener : Option Listener := none
  initializer : Option Initializer := none
  applicationName : Option String := none

namespace ConnectionPlan

variable {σ : Type}

/-- Add compressors. -/
def offering (plan : ConnectionPlan σ) (choices : List CompressorChoice) :
    ConnectionPlan σ :=
  { plan with compressors := plan.compressors ++ choices }

/-- Add compressors by name, at their default levels. -/
def offeringNamed (plan : ConnectionPlan σ) (names : List String) :
    Except LinkError (ConnectionPlan σ) :=
  (names.mapM CompressorChoice.ofName).map plan.offering

/-- Build the connection. -/
def build (plan : ConnectionPlan σ) : Except LinkError (Connection σ) :=
  match plan.transport with
  | none => .error (.invalidState .factoryMissing)
  | some transport =>
    let compressors := CompressorSelection.ofChoices plan.compressors
    .ok
      { server := plan.server
        transport
        packing := plan.packing
        compressors
        initializer := plan.initializer.getD
          (.handshake ⟨plan.applicationName, compressors.names⟩)
        listener := plan.listener }

end ConnectionPlan

end CommandLink
