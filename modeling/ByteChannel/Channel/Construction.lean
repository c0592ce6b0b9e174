import ByteChannel.Channel.Basic

/-!
# Ways to ask for a channel

A channel is asked for by a capacity and the layout of its elements, or by a configuration. With the
request comes a copier, or the plain copy is meant. Whatever the way, a request comes to a
configuration, and the configuration alone decides whether there will be a channel.

## Main definitions

* `Construction` — a request
* `Issuer.construct`, `Issuer.constructAll` — serving requests
-/

namespace ByteChannel

/-- A request for a channel, copiers being of type `κ`. -/
inductive Construction (κ : Type) where
  /-- For so many elements of a layout. -/
  | new (capacity : Nat) (layout : Layout) (copier : κ)
  /-- For so many elements of a layout, which are copied plainly. -/
  | plain (capacity : Nat) (layout : Layout)
  /-- For a configuration. -/
  | configured (config : Config) (copier : κ)
  deriving DecidableEq, Repr

namespace Construction

variable {κ : Type}

/-- The configuration of the channel that is asked for. -/
def config : Construction κ → Config
  | new capacity layout _ | plain capacity layout => ⟨capacity, layout.size, layout.align⟩
  | configured config _ => config

/-- The copier that is asked for, where `plainCopier` copies plainly. -/
def copier (plainCopier : κ) : Construction κ → κ
  | new _ _ copier | configured _ copier => copier
  | plain _ _ => plainCopier

end Construction

namespace Issuer

variable {κ : Type}

/-- Serve a request. -/
def construct (issuer : Issuer) (request : Construction κ) :
    Outcome Config.Invalid Channel × Issuer :=
  issuer.create request.config

/-- Serve requests one after the other. -/
def constructAll (issuer : Issuer) : List (Construction κ) →
    List (Outcome Config.Invalid Channel) × Issuer
  | [] => ([], issuer)
  | request :: requests =>
    let (outcome, issuer) := issuer.construct request
    let (outcomes, issuer) := issuer.constructAll requests
    (outcome :: outcomes, issuer)

end Issuer

end ByteChannel
