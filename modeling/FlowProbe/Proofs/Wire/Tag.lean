import FlowProbe.Frame
import FlowProbe.Proofs.Octets

set_option autoImplicit false

namespace FlowProbe.Wire

inductive TagKind where
  | customer
  | service
  | doubled

def TagKind.number : TagKind → UInt16
  | .customer => 0x8100
  | .service => 0x88a8
  | .doubled => 0x9100

structure Tag where
  kind : TagKind
  control : UInt16

def Tag.octets (tag : Tag) : List UInt8 :=
  Octets.bigEndian 2 tag.kind.number.toNat ++ Octets.bigEndian 2 tag.control.toNat

theorem isTag_number (kind : TagKind) : Frame.isTag kind.number = true := by
  cases kind <;> rfl

theorem untag_tag (room : Nat) (tag : Tag) (rest : List UInt8) :
    Frame.untag (room + 1) (tag.octets ++ rest) = Frame.untag room rest := by
  simp [Tag.octets, Octets.bigEndian_two, Frame.untag, isTag_number]

theorem untag_plain (room : Nat) {kind : UInt16} (plain : Frame.isTag kind = false)
    (rest : List UInt8) :
    Frame.untag room (Octets.bigEndian 2 kind.toNat ++ rest) = some (kind, rest) := by
  rw [Octets.bigEndian_two, List.cons_append, List.cons_append, List.nil_append]
  unfold Frame.untag
  simp [plain]

theorem untag_tags {tags : List Tag} {room : Nat} (fits : tags.length ≤ room) {kind : UInt16}
    (plain : Frame.isTag kind = false) (rest : List UInt8) :
    Frame.untag room (tags.flatMap Tag.octets ++ (Octets.bigEndian 2 kind.toNat ++ rest)) =
      some (kind, rest) := by
  induction tags generalizing room with
  | nil => exact untag_plain room plain rest
  | cons tag tags ih =>
    cases room with
    | zero => simp at fits
    | succ room =>
      rw [List.flatMap_cons, List.append_assoc, untag_tag]
      exact ih (Nat.le_of_succ_le_succ fits)

def tagCount : List UInt8 → Nat
  | high :: low :: _ :: _ :: rest =>
    if Frame.isTag (Octets.word high low) then tagCount rest + 1 else 0
  | high :: low :: _ => if Frame.isTag (Octets.word high low) then 1 else 0
  | _ => 0

theorem tagCount_tags (tags : List Tag) (rest : List UInt8) :
    tagCount (tags.flatMap Tag.octets ++ rest) = tags.length + tagCount rest := by
  induction tags with
  | nil => simp
  | cons tag tags ih =>
    rw [List.flatMap_cons, List.append_assoc]
    simp [Tag.octets, Octets.bigEndian_two, tagCount, isTag_number, ih]
    omega

theorem untag_through {high low : UInt8} (tag : Frame.isTag (Octets.word high low) = true)
    (room : Nat) (first second : UInt8) (rest : List UInt8) :
    Frame.untag (room + 1) (high :: low :: first :: second :: rest) = Frame.untag room rest := by
  rw [Frame.untag]
  simp only [tag, if_true]

theorem untag_full {high low : UInt8} (tag : Frame.isTag (Octets.word high low) = true)
    (rest : List UInt8) : Frame.untag 0 (high :: low :: rest) = none := by
  rw [Frame.untag]
  simp only [tag, if_true]
  exact nofun

theorem untag_word {high low : UInt8} (plain : ¬Frame.isTag (Octets.word high low) = true)
    (room : Nat) (rest : List UInt8) :
    Frame.untag room (high :: low :: rest) = some (Octets.word high low, rest) := by
  unfold Frame.untag
  simp [plain]

theorem untag_broken {high low : UInt8} (tag : Frame.isTag (Octets.word high low) = true)
    (room : Nat) {rest : List UInt8}
    (short : ∀ first second behind, rest = first :: second :: behind → False) :
    Frame.untag room (high :: low :: rest) = none := by
  unfold Frame.untag
  simp only [tag, if_true]
  split
  next first second behind => exact absurd rfl (short first second behind)
  next => rfl

theorem untag_short (room : Nat) {bytes : List UInt8}
    (short : ∀ high low rest, bytes = high :: low :: rest → False) :
    Frame.untag room bytes = none := by
  unfold Frame.untag
  split
  next high low rest => exact absurd rfl (short high low rest)
  next => rfl

-- Reading a type number leaves what follows it alone, whatever that is.
theorem untag_cut {room : Nat} {bytes rest : List UInt8} {kind : UInt16}
    (read : Frame.untag room bytes = some (kind, rest)) :
    ∃ front, bytes = front ++ rest ∧ front.length = 2 + 4 * tagCount bytes ∧
      ∀ other, Frame.untag room (front ++ other) = some (kind, other) := by
  fun_induction tagCount bytes generalizing room with
  | case1 high low first second behind tag ih =>
    cases room with
    | zero => simp [untag_full tag] at read
    | succ room =>
      rw [untag_through tag] at read
      obtain ⟨front, rfl, length, reads⟩ := ih read
      refine ⟨high :: low :: first :: second :: front, rfl, ?_, ?_⟩
      next =>
        simp only [List.length_cons, length]
        omega
      next =>
        intro other
        exact (untag_through tag room first second _).trans (reads other)
  | case2 high low first second behind plain =>
    rw [untag_word plain] at read
    cases read
    exact ⟨[high, low], rfl, rfl, untag_word plain room⟩
  | case3 high low behind short tag =>
    simp [untag_broken tag room short] at read
  | case4 high low behind _ plain =>
    rw [untag_word plain] at read
    cases read
    exact ⟨[high, low], rfl, rfl, untag_word plain room⟩
  | case5 bytes _ short =>
    simp [untag_short room short] at read

theorem untag_succ {room : Nat} {bytes : List UInt8} (few : tagCount bytes ≤ room) :
    Frame.untag (room + 1) bytes = Frame.untag room bytes := by
  fun_induction tagCount bytes generalizing room with
  | case1 high low first second behind tag ih =>
    cases room with
    | zero => omega
    | succ room =>
      rw [untag_through tag, untag_through tag]
      exact ih (Nat.le_of_succ_le_succ few)
  | case2 high low first second behind plain => rw [untag_word plain, untag_word plain]
  | case3 high low behind short tag => rw [untag_broken tag _ short, untag_broken tag _ short]
  | case4 high low behind _ plain => rw [untag_word plain, untag_word plain]
  | case5 bytes _ short => rw [untag_short _ short, untag_short _ short]

theorem untag_crowded {room : Nat} {bytes : List UInt8} (many : room < tagCount bytes) :
    Frame.untag room bytes = none := by
  fun_induction tagCount bytes generalizing room with
  | case1 high low first second behind tag ih =>
    cases room with
    | zero => exact untag_full tag _
    | succ room =>
      rw [untag_through tag]
      exact ih (Nat.lt_of_succ_lt_succ many)
  | case2 => omega
  | case3 high low behind _ tag =>
    cases room with
    | zero => exact untag_full tag _
    | succ room => omega
  | case4 => omega
  | case5 => omega

end FlowProbe.Wire
