import FlowProbe.Capture
import FlowProbe.Record

set_option autoImplicit false

namespace FlowProbe

structure WorkerId where
  index : Nat
  count : Nat
  deriving DecidableEq

def WorkerId.text (worker : WorkerId) : String :=
  toString worker.index ++ "/" ++ toString worker.count

/-- The records that one call emits, in order, and the classifier after it. A call that does not
return leaves none. -/
structure Emission (σ : Type) where
  records : List Record
  next : Option σ

structure Classifier (σ : Type) where
  process : WorkerId → σ → Captured → Emission σ
  flush : WorkerId → σ → Emission σ

namespace Classifier

def echo : Classifier Unit where
  process := fun worker _ captured =>
    if captured.bytes.head? = some 0xee then ⟨[], none⟩
    else ⟨[.ofText (worker.text ++ ":" ++ toString captured.length)], some ()⟩
  flush := fun _ _ => ⟨[], some ()⟩

end Classifier

end FlowProbe
