import FlowProbe.Frame
import FlowProbe.Proofs.Octets

set_option autoImplicit false

namespace FlowProbe.Wire

structure Block where
  size : UInt8
  body : Octets (8 * (size.toNat + 1) - 2)

structure Authentication where
  size : UInt8
  sized : 1 ≤ size.toNat
  body : Octets (4 * (size.toNat + 2) - 2)

structure WholeFragment where
  reserved : UInt8
  -- Two bits between the offset, which is zero, and the flag for more fragments, which is not set.
  spare : Fin 4
  identification : UInt32

def Block.octets (block : Block) (next : UInt8) : List UInt8 :=
  next :: block.size :: block.body.val

def Authentication.octets (header : Authentication) (next : UInt8) : List UInt8 :=
  next :: header.size :: header.body.val

def WholeFragment.octets (header : WholeFragment) (next : UInt8) : List UInt8 :=
  next :: header.reserved :: 0 :: UInt8.ofNat (2 * header.spare) ::
    Octets.bigEndian 4 header.identification.toNat

-- The header is taken for one of a split payload.
def WholeFragment.misread (header : WholeFragment) : Bool :=
  header.spare ≠ 0

theorem options?_octets (block : Block) (next : UInt8) (rest : List UInt8) :
    Datagram.options? (block.octets next ++ rest) = some (next, rest) := by
  have size := block.body.property
  simp only [Block.octets, List.cons_append, Datagram.options?, List.length_append]
  rw [if_pos (by omega), List.drop_left' (by omega)]

theorem authentication?_octets (header : Authentication) (next : UInt8) (rest : List UInt8) :
    Datagram.authentication? (header.octets next ++ rest) = some (next, rest) := by
  have size := header.body.property
  have sized := header.sized
  simp only [Authentication.octets, List.cons_append, Datagram.authentication?,
    List.length_append]
  rw [if_pos ⟨sized, by omega⟩, List.drop_left' (by omega)]

theorem splits_spare (spare : Fin 4) :
    Datagram.splits 0 (UInt8.ofNat (2 * spare)) = decide (spare ≠ 0) := by
  decide +revert

theorem fragment?_octets (header : WholeFragment) (next : UInt8) (rest : List UInt8) :
    Datagram.fragment? (header.octets next ++ rest) = some (header.misread, next, rest) := by
  simp only [WholeFragment.octets, Octets.bigEndian_four, List.cons_append, Datagram.fragment?,
    splits_spare]
  rfl

inductive Extension where
  | destination (block : Block)
  | routing (block : Block)
  | fragment (header : WholeFragment)
  | authentication (header : Authentication)

namespace Extension

def number : Extension → UInt8
  | .destination _ => 60
  | .routing _ => 43
  | .fragment _ => 44
  | .authentication _ => 51

def octets : Extension → UInt8 → List UInt8
  | .destination block => block.octets
  | .routing block => block.octets
  | .fragment header => header.octets
  | .authentication header => header.octets

def misread : Extension → Bool
  | .fragment header => header.misread
  | _ => false

def meet? (met : Datagram.Met) : Extension → Option Datagram.Met
  | .destination _ =>
    if met.routing then
      if met.finalOptions then none else some { met with finalOptions := true }
    else if met.options then none else some { met with options := true }
  | .routing _ => if met.routing then none else some { met with routing := true }
  | .fragment _ => if met.fragment then none else some { met with fragment := true }
  | .authentication _ =>
    if met.authentication then none else some { met with authentication := true }

def first (proto : UInt8) : List Extension → UInt8
  | [] => proto
  | header :: _ => header.number

def chain (proto : UInt8) (payload : List UInt8) : List Extension → List UInt8
  | [] => payload
  | header :: rest => header.octets (first proto rest) ++ chain proto payload rest

theorem length_chain_ge (proto : UInt8) (payload : List UInt8) (headers : List Extension) :
    payload.length ≤ (chain proto payload headers).length := by
  induction headers with
  | nil => exact Nat.le_refl _
  | cons header rest ih =>
    rw [chain, List.length_append]
    omega

def Readable : Datagram.Met → List Extension → Prop
  | _, [] => True
  | met, header :: rest => ∃ after, header.meet? met = some after ∧ Readable after rest

theorem extensionsFrom?_header {met after : Datagram.Met} {split : Bool} {header : Extension}
    (fresh : header.meet? met = some after) (budget : Nat) (next : UInt8) (rest : List UInt8) :
    Datagram.extensionsFrom? (budget + 1) met ⟨split, header.number, header.octets next ++ rest⟩ =
      Datagram.extensionsFrom? budget after ⟨split || header.misread, next, rest⟩ := by
  cases header with
  | destination block =>
    simp only [meet?] at fresh
    split at fresh
    next behind =>
      split at fresh
      next => exact nomatch fresh
      next once =>
        cases fresh
        simp [Datagram.extensionsFrom?, number, octets, misread, behind, once, options?_octets]
    next before =>
      split at fresh
      next => exact nomatch fresh
      next once =>
        cases fresh
        simp [Datagram.extensionsFrom?, number, octets, misread, before, once, options?_octets]
  | routing block =>
    simp only [meet?] at fresh
    split at fresh
    next => exact nomatch fresh
    next once =>
      cases fresh
      simp [Datagram.extensionsFrom?, number, octets, misread, once, options?_octets]
  | fragment header =>
    simp only [meet?] at fresh
    split at fresh
    next => exact nomatch fresh
    next once =>
      cases fresh
      simp [Datagram.extensionsFrom?, number, octets, misread, once, fragment?_octets]
  | authentication header =>
    simp only [meet?] at fresh
    split at fresh
    next => exact nomatch fresh
    next once =>
      cases fresh
      simp [Datagram.extensionsFrom?, number, octets, misread, once, authentication?_octets]

theorem extensionsFrom?_again {met : Datagram.Met} {split : Bool} {header : Extension}
    (again : header.meet? met = none) (budget : Nat) (bytes : List UInt8) :
    Datagram.extensionsFrom? (budget + 1) met ⟨split, header.number, bytes⟩ =
      some ⟨split, header.number, bytes⟩ := by
  cases header with
  | destination block =>
    simp only [meet?] at again
    split at again
    next behind =>
      split at again
      next twice => simp [Datagram.extensionsFrom?, number, behind, twice]
      next => exact nomatch again
    next before =>
      split at again
      next twice => simp [Datagram.extensionsFrom?, number, before, twice]
      next => exact nomatch again
  | routing | fragment | authentication =>
    simp only [meet?] at again
    split at again
    next twice => simp [Datagram.extensionsFrom?, number, twice]
    next => exact nomatch again

def numbers : List UInt8 := [0, 60, 43, 44, 51]

theorem number_mem (header : Extension) : header.number ∈ numbers := by
  cases header <;> simp [number, numbers]

theorem extensionsFrom?_end {proto : UInt8} (final : proto ∉ numbers) (budget : Nat)
    (met : Datagram.Met) (split : Bool) (payload : List UInt8) :
    Datagram.extensionsFrom? budget met ⟨split, proto, payload⟩ = some ⟨split, proto, payload⟩ := by
  cases budget with
  | zero => rfl
  | succ budget =>
    simp only [numbers, List.mem_cons, List.not_mem_nil, or_false, not_or] at final
    simp [Datagram.extensionsFrom?, final]

theorem extensionsFrom?_chain {proto : UInt8} (final : proto ∉ numbers) (payload : List UInt8)
    {headers : List Extension} {met : Datagram.Met} {budget : Nat} (split : Bool)
    (fits : headers.length ≤ budget) (readable : Readable met headers) :
    Datagram.extensionsFrom? budget met ⟨split, first proto headers, chain proto payload headers⟩ =
      some ⟨split || headers.any misread, proto, payload⟩ := by
  induction headers generalizing split met budget with
  | nil =>
    rw [List.any_nil, Bool.or_false]
    exact extensionsFrom?_end final budget met split payload
  | cons header rest ih =>
    obtain ⟨after, fresh, readable⟩ := readable
    cases budget with
    | zero => simp at fits
    | succ budget =>
      rw [chain, first, extensionsFrom?_header fresh, List.any_cons, ← Bool.or_assoc]
      exact ih _ (Nat.le_of_succ_le_succ fits) readable

end Extension

structure Extensions where
  hopByHop : Option Block
  destination : Option Block
  routing : Option Block
  fragment : Option WholeFragment
  authentication : Option Authentication
  finalDestination : Option Block
  behind_routing : finalDestination.isSome → routing.isSome

namespace Extensions

def headers (extensions : Extensions) : List Extension :=
  extensions.destination.toList.map .destination ++
    extensions.routing.toList.map .routing ++
    extensions.fragment.toList.map .fragment ++
    extensions.authentication.toList.map .authentication ++
    extensions.finalDestination.toList.map .destination

def first (extensions : Extensions) (proto : UInt8) : UInt8 :=
  match extensions.hopByHop with
  | some _ => 0
  | none => Extension.first proto extensions.headers

def misread (extensions : Extensions) : Bool :=
  extensions.fragment.any WholeFragment.misread

theorem any_misread (extensions : Extensions) :
    extensions.headers.any Extension.misread = extensions.misread := by
  have quiet (blocks : List Block) : blocks.any (Extension.misread ∘ .destination) = false ∧
      blocks.any (Extension.misread ∘ .routing) = false := by
    simp [Extension.misread]
  have sealed (headers : List Authentication) :
      headers.any (Extension.misread ∘ .authentication) = false := by
    simp [Extension.misread]
  rw [misread]
  simp only [headers, List.any_append, List.any_map, quiet, sealed, Bool.false_or, Bool.or_false]
  cases extensions.fragment <;> simp [Extension.misread]

def octets (extensions : Extensions) (proto : UInt8) (payload : List UInt8) : List UInt8 :=
  match extensions.hopByHop with
  | some block =>
    block.octets (Extension.first proto extensions.headers) ++
      Extension.chain proto payload extensions.headers
  | none => Extension.chain proto payload extensions.headers

theorem length_octets_ge (extensions : Extensions) (proto : UInt8) (payload : List UInt8) :
    payload.length ≤ (extensions.octets proto payload).length := by
  have behind := Extension.length_chain_ge proto payload extensions.headers
  unfold octets
  cases extensions.hopByHop with
  | none => exact behind
  | some block =>
    rw [List.length_append]
    omega

theorem length_headers_le (extensions : Extensions) : extensions.headers.length ≤ 6 := by
  have one {α : Type} (part : Option α) : part.toList.length ≤ 1 := by cases part <;> simp
  have destination := one extensions.destination
  have routing := one extensions.routing
  have fragment := one extensions.fragment
  have authentication := one extensions.authentication
  have final := one extensions.finalDestination
  simp only [headers, List.length_append, List.length_map]
  omega

theorem readable_headers (extensions : Extensions) : Extension.Readable {} extensions.headers := by
  obtain ⟨_, destination, routing, fragment, authentication, final, behind⟩ := extensions
  -- Destination options are met twice only if a routing header stands between them.
  cases routing with
  | some routing =>
    cases destination <;> cases fragment <;> cases authentication <;> cases final <;>
      simp [headers, Extension.Readable, Extension.meet?]
  | none =>
    cases final with
    | some final => simp at behind
    | none =>
      cases destination <;> cases fragment <;> cases authentication <;>
        simp [headers, Extension.Readable, Extension.meet?]

theorem first_ne_zero {proto : UInt8} (final : proto ∉ Extension.numbers)
    (headers : List Extension) : Extension.first proto headers ≠ 0 := by
  cases headers with
  | nil =>
    intro zero
    exact final (List.mem_cons.mpr (.inl zero))
  | cons header rest => cases header <;> simp [Extension.first, Extension.number]

theorem extensions?_octets (extensions : Extensions) {proto : UInt8}
    (final : proto ∉ Extension.numbers) (payload : List UInt8) :
    Datagram.extensions? (extensions.first proto) (extensions.octets proto payload) =
      some ⟨extensions.misread, proto, payload⟩ := by
  have read := Extension.extensionsFrom?_chain final payload false extensions.length_headers_le
    extensions.readable_headers
  rw [Bool.false_or, any_misread] at read
  unfold Datagram.extensions? first octets
  cases extensions.hopByHop with
  | none => exact (if_neg (first_ne_zero final _)).trans read
  | some block => simpa [options?_octets] using read

end Extensions

end FlowProbe.Wire
