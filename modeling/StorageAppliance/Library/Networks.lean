import StorageAppliance.Library.Run

/-!
# Networks of machines

Machines that are told apart by name, and a wire with the messages on their way
between them.  An action of the network gives every machine some inputs and
leaves a new wire; a machine that gets no input stays as it is.

What a machine keeps under its inputs, the network keeps at that machine, if the
wire brings it no other inputs.
-/

namespace StorageAppliance.Library

universe u v w x y

/-- The machines, and what is on its way between them. -/
structure Network (Name : Type u) (Machine : Type v) (Wire : Type w) where
  machines : Name → Machine
  wire : Wire

variable
    {Name : Type u}
    {Machine : Type v}
    {Wire : Type w}
    {Input : Type x}
    {Action : Type y}

/-- Every machine takes its inputs, and the wire what is sent. -/
def Network.step (apply : Machine → Input → Machine)
    (inputs : Network Name Machine Wire → Action → Name → List Input)
    (transmit : Network Name Machine Wire → Action → Wire)
    (self : Network Name Machine Wire) (action : Action) :
    Network Name Machine Wire where
  machines := fun name =>
    run apply (self.machines name) (inputs self action name)
  wire := transmit self action

/-- What holds of each machine, and of the wire. -/
structure Network.Keeps (kept : Name → Machine → Prop)
    (wired : Wire → Prop) (network : Network Name Machine Wire) :
    Prop where
  machines : ∀ name, kept name (network.machines name)
  wire : wired network.wire

section Rules

variable
    {apply : Machine → Input → Machine}
    {inputs : Network Name Machine Wire → Action → Name → List Input}
    {transmit : Network Name Machine Wire → Action → Wire}
    {kept : Name → Machine → Prop}
    {wired : Wire → Prop}
    {guard : Name → Input → Prop}
    {allowed : Action → Prop}

/--
The network keeps what its machines keep under guarded inputs, if the allowed
actions give no other inputs and keep the wire.
-/
theorem Network.keeps_run
    (keeps :
      ∀ name machine input,
        kept name machine → guard name input →
          kept name (apply machine input))
    (guarded :
      ∀ network action,
        Network.Keeps kept wired network → allowed action →
          ∀ name, ∀ input ∈ inputs network action name,
            guard name input)
    (transmits :
      ∀ network action,
        Network.Keeps kept wired network → allowed action →
          wired (transmit network action))
    {network : Network Name Machine Wire}
    (start : Network.Keeps kept wired network)
    {actions : List Action}
    (allAllowed : ∀ action ∈ actions, allowed action) :
    Network.Keeps kept wired
      (run (Network.step apply inputs transmit) network actions) := by
  apply run_invariant_of_allowed _ start allAllowed
  intro current action holds permitted
  constructor
  · intro name
    apply
      run_invariant_of_allowed
        (fun machine input held given => keeps name machine input held given)
        (holds.machines name)
    exact guarded current action holds permitted name
  · exact transmits current action holds permitted

end Rules

end StorageAppliance.Library
